import P2PMessenger.Network
import P2PMessenger.Wire

/-!
What a relay node does to a message for someone else: nothing to itself, and to the
message no more than to send it on as it came. So a message is the same after any number
of hops.
-/
namespace P2PMessenger
open Octets Memory Layout Throwing

variable {L : Libraries}

/-- The reading of a message for someone else that comes through the checks. -/
theorem reading_of_checked {config : Config L} {env : Environment L} {buffer : Bytes} {signed_message : SignedMessage}
    {message : Message} {public_key : L.PublicKey} {verified : Bool}
    (frame : signed_message_from_buffer buffer env.beyond = .ok signed_message)
    (other : destinantion_public_key_from_buffer signed_message.message env.beyond_message ≠ config.public_key_string)
    (verdict : checked L signed_message
      (message_with_not_decrypted_payload_from_buffer signed_message.message env.beyond_message) =
        .ok (message, public_key, verified)) :
    reading config env buffer = if verified then .transit message else .dropped := by
  unfold reading
  simp only [frame, if_neg other, verdict]
  cases verified <;> rfl

/-- The relay's block leaves the node as it is and sends at most the datagram itself. -/
theorem relayed_confined (env : Environment L) (buffer : Bytes) (message : Message) (node : Node L) :
    ∃ sent, (⟨node, []⟩ : Step L).relayed env buffer message = ⟨node, sent⟩ ∧
      (sent = [] ∨ ∃ endpoint, sent = [.send_to .relay buffer endpoint]) := by
  unfold Step.relayed
  cases nextHop node.metadata_ip_resolver_ message with
  | none => exact ⟨[], rfl, .inl rfl⟩
  | some endpoint =>
    by_cases taken : buffer.length ≤ 65507 ∧ env.accepts (⟨node, []⟩ : Step L).effects.length = true
    · exact ⟨_, if_pos taken, .inr ⟨endpoint, rfl⟩⟩
    · exact ⟨[], if_neg taken, .inl rfl⟩

/-- What a handler passes on is the datagram that it got. -/
theorem octets_of_relayed {config : Config L} {env : Environment L} {buffer octets : Bytes}
    {remote_endpoint endpoint : Endpoint L} {node : Node L}
    (relayed : .send_to .relay octets endpoint ∈
      (after ((async_wait_handler config env (.whole buffer remote_endpoint)).run ⟨node, []⟩)).effects) :
    octets = buffer := by
  obtain ⟨added, follows, handling⟩ := async_wait_handler_handling config env buffer remote_endpoint ⟨node, []⟩
  have effects : _ = added := follows.effects
  rw [effects] at relayed
  cases handling with
  | delivered endpoint accepts =>
    rcases List.mem_append.mp relayed with member | wait
    · rcases List.mem_cons.mp member with punch | received
      · cases punch
      · rcases mem_receiveEffects received with same | same | same | same <;> cases same
    · simp at wait
  | relayed transits hop =>
    simp only [List.mem_cons, Effect.send_to.injEq, List.not_mem_nil, reduceCtorEq, or_false] at relayed
    exact relayed.2.1
  | quiet => simp at relayed
  | thrown => simp at relayed

/-- A datagram that relay nodes have passed on any number of times, each in a state of
    its own. -/
inductive PassedOn (L : Libraries) (first : Bytes) : Bytes → Prop where
  | sent : PassedOn L first first
  | hop {buffer octets : Bytes} {endpoint : Endpoint L} (before : PassedOn L first buffer) (config : Config L)
      (env : Environment L) (remote_endpoint : Endpoint L) (node : Node L)
      (relayed : .send_to .relay octets endpoint ∈
        (after ((async_wait_handler config env (.whole buffer remote_endpoint)).run ⟨node, []⟩)).effects) :
      PassedOn L first octets

theorem PassedOn.same {first last : Bytes} (chain : PassedOn L first last) : last = first := by
  induction chain with
  | sent => rfl
  | hop before config env remote_endpoint node relayed ih => exact (octets_of_relayed relayed).trans ih

/-- Acceptance does not depend on the environment. -/
theorem reading_accepted_iff (receiver : Config L) (one two : Environment L) (buffer : Bytes) (message : Message)
    (public_key : L.PublicKey) :
    reading receiver one buffer = .accepted message public_key ↔ reading receiver two buffer = .accepted message public_key := by
  rw [reading_eq_accepted, reading_eq_accepted]

/-- A node that gets a decodable message for someone else stays as it is, delivers
    nothing, and sends at most that datagram, only as a relay node and only when the
    signature verifies. After any number of hops the datagram is the one sent, so its
    receiver decodes, checks and handles it as if it had come directly. -/
theorem relaying_is_transparent (L : Libraries) :
    (∀ (config : Config L) (env : Environment L) (buffer : Bytes) (remote_endpoint : Endpoint L) (node : Node L)
      (signed_message : SignedMessage) (message : Message) (public_key : L.PublicKey) (verified : Bool),
      signed_message_from_buffer buffer env.beyond = .ok signed_message →
      destinantion_public_key_from_buffer signed_message.message env.beyond_message ≠ config.public_key_string →
      message_with_not_decrypted_payload_from_buffer signed_message.message env.beyond_message = .ok message →
      L.publicKey message.source_public_key = some public_key →
      check_signature L signed_message public_key = .ok verified →
      ∃ sent, (async_wait_handler config env (.whole buffer remote_endpoint)).run ⟨node, []⟩ =
          .ok () ⟨node, sent ++ [.async_wait]⟩ ∧
        (sent = [] ∨
          ∃ endpoint, sent = [.send_to .relay buffer endpoint] ∧ config.relay_ = true ∧ verified = true)) ∧
    ∀ first last, PassedOn L first last →
      last = first ∧
      (∀ beyond other, signed_message_from_buffer last beyond = signed_message_from_buffer first other) ∧
      (∀ (receiver : Config L) (one two : Environment L) (message : Message) (public_key : L.PublicKey),
        reading receiver one last = .accepted message public_key ↔
          reading receiver two first = .accepted message public_key) ∧
      ∀ (receiver : Config L) (env : Environment L) (remote_endpoint : Endpoint L) (node : Node L),
        (async_wait_handler receiver env (.whole last remote_endpoint)).run ⟨node, []⟩ =
          (async_wait_handler receiver env (.whole first remote_endpoint)).run ⟨node, []⟩ := by
  constructor
  · intro config env buffer remote_endpoint node signed_message message public_key verified frame other decoded parsed check
    have verdict := checked_eq_ok.mpr ⟨decoded, parsed, orThrow_eq_ok.mp check⟩
    have read := reading_of_checked frame other verdict
    rw [async_wait_handler_run, read]
    cases verified with
    | false => exact ⟨[], rfl, .inl rfl⟩
    | true =>
      by_cases relay : config.relay_ = true
      · obtain ⟨sent, step, confined⟩ := relayed_confined env buffer message node
        refine ⟨sent, ?_, ?_⟩
        · simp only [if_true, relay, step]
          rfl
        · rcases confined with none | ⟨endpoint, one⟩
          · exact .inl none
          · exact .inr ⟨endpoint, one, relay, rfl⟩
      · refine ⟨[], ?_, .inl rfl⟩
        simp only [if_true, if_neg relay]
        rfl
  · intro first last chain
    obtain rfl := chain.same
    refine ⟨rfl, signed_message_from_buffer_beyond last, ?_, fun _ _ _ _ => rfl⟩
    intro receiver one two message public_key
    exact reading_accepted_iff receiver one two last message public_key

/-- The sample relay node stays as it is when it passes the sample datagram on, and the
    receiver accepts the datagram after two hops. -/
theorem relaying_is_transparent_sample :
    (∃ sent, (async_wait_handler (Sample.setting.config .relay) Sample.environment
      (.whole Sample.datagram Sample.elsewhere)).run ⟨Node.initial _, []⟩ = .ok () ⟨Node.initial _, sent ++ [.async_wait]⟩) ∧
    ∃ last, PassedOn Sample.libraries Sample.datagram last ∧
      reading Sample.receiver Sample.environment last = .accepted Sample.message Sample.sender.public_key := by
  obtain ⟨confined, chain⟩ := relaying_is_transparent Sample.libraries
  constructor
  · have frame : signed_message_from_buffer Sample.datagram Sample.environment.beyond =
      .ok ⟨Sample.inner, 7 :: Sample.inner⟩ := by decide +kernel
    have decoded : message_with_not_decrypted_payload_from_buffer Sample.inner Sample.environment.beyond_message =
      .ok { Sample.message with payload := .zero } := by decide +kernel
    have check : check_signature Sample.libraries ⟨Sample.inner, 7 :: Sample.inner⟩ Sample.sender.public_key =
      .ok true := by decide +kernel
    obtain ⟨sent, run, -⟩ := confined (Sample.setting.config .relay) Sample.environment Sample.datagram Sample.elsewhere
      (Node.initial _) _ _ _ _ frame (by decide +kernel) decoded rfl check
    exact ⟨sent, run⟩
  · have hop : .send_to .relay Sample.datagram Sample.direct.endpoint ∈
        (after ((async_wait_handler (Sample.setting.config .relay) Sample.environment
          (.whole Sample.datagram Sample.elsewhere)).run ⟨Node.initial _, []⟩)).effects := by decide +kernel
    have twice := (PassedOn.sent.hop _ _ _ _ hop).hop _ _ _ _ hop
    refine ⟨Sample.datagram, twice, ?_⟩
    obtain ⟨-, -, accepts, -⟩ := chain _ _ twice
    exact (accepts Sample.receiver Sample.environment Sample.environment _ _).mpr (by decide +kernel)

end P2PMessenger
