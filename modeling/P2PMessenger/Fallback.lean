import P2PMessenger.Sample
import P2PMessenger.Sender

/-!
What a call of `send_message` does when the socket refuses a datagram. The copy for the
relay node and the sender's handler come after the direct copy in one block, so they fail
with it.
-/
namespace P2PMessenger
open Octets Throwing

variable {L : Libraries}

/-! ## The ways through a call -/

section
variable {config : Config L} {env : Environment L} {message : Message} {inner signature : Bytes}

/-- The datagram of a call, and the endpoints of its two copies. -/
theorem callEffects_eq (signed : L.sign config.private_key_ inner = some signature) {address : L.Address}
    (literal : L.make_address message.destination_ip = some address) :
    config.callEffects message inner =
      .sign inner :: .send_to .message (signed_message_to_buffer ⟨inner, signature⟩) ⟨address, message.destination_port⟩ ::
        config.relayEffects message (signed_message_to_buffer ⟨inner, signature⟩) := by
  unfold Config.callEffects
  simp only [signed, literal]

/-- Without an address or with a refusal, the call ends after its signature. -/
theorem performed_call_unsent (signed : L.sign config.private_key_ inner = some signature)
    (unsent : ¬ ((L.make_address message.destination_ip).isSome ∧
      (signed_message_to_buffer ⟨inner, signature⟩).length ≤ 65507 ∧ env.accepts 1 = true)) :
    performed env 0 (config.callEffects message inner) = [.sign inner] := by
  cases literal : L.make_address message.destination_ip with
  | none =>
    unfold Config.callEffects
    simp only [signed, literal]
    rfl
  | some address =>
    rw [literal] at unsent
    have refused := (refuses_send_to env 1 .message (signed_message_to_buffer ⟨inner, signature⟩)
      ⟨address, message.destination_port⟩).mpr fun taken => unsent ⟨rfl, taken⟩
    rw [callEffects_eq signed literal, performed_cons_of_quiet _ _ _ rfl, performed, if_pos refused]

theorem performed_call_sent (signed : L.sign config.private_key_ inner = some signature) {address : L.Address}
    (literal : L.make_address message.destination_ip = some address)
    (fits : (signed_message_to_buffer ⟨inner, signature⟩).length ≤ 65507) (taken : env.accepts 1 = true) :
    performed env 0 (config.callEffects message inner) =
      .sign inner :: .send_to .message (signed_message_to_buffer ⟨inner, signature⟩) ⟨address, message.destination_port⟩ ::
        performed env 2 (config.relayEffects message (signed_message_to_buffer ⟨inner, signature⟩)) := by
  have quiet : env.refuses 1 (.send_to .message (signed_message_to_buffer ⟨inner, signature⟩)
      ⟨address, message.destination_port⟩) = false := by simp [Environment.refuses, fits, taken]
  rw [callEffects_eq signed literal, performed_cons_of_quiet _ _ _ rfl, performed_cons_of_quiet _ _ _ quiet]

/-- Without a copy for the relay node, the handler is next. -/
theorem performed_relay_unneeded {buffer : Bytes}
    (same : ¬ (config.relay_node_ip_ ≠ [] ∧ message.destination_ip ≠ config.relay_node_ip_)) :
    performed env 2 (config.relayEffects message buffer) = sendEffects message := by
  unfold Config.relayEffects
  rw [if_neg same, performed_sendEffects]

theorem performed_relay_unsent {buffer : Bytes}
    (copy : config.relay_node_ip_ ≠ [] ∧ message.destination_ip ≠ config.relay_node_ip_)
    (unsent : ¬ ((L.make_address config.relay_node_ip_).isSome ∧ buffer.length ≤ 65507 ∧ env.accepts 2 = true)) :
    performed env 2 (config.relayEffects message buffer) = [] := by
  unfold Config.relayEffects
  rw [if_pos copy]
  cases literal : L.make_address config.relay_node_ip_ with
  | none => rfl
  | some relay_address =>
    rw [literal] at unsent
    have refused := (refuses_send_to env 2 .message buffer ⟨relay_address, config.relay_node_port_⟩).mpr
      fun taken => unsent ⟨rfl, taken⟩
    simp only [performed, refused, if_true]

theorem performed_relay_sent {buffer : Bytes}
    (copy : config.relay_node_ip_ ≠ [] ∧ message.destination_ip ≠ config.relay_node_ip_) {relay_address : L.Address}
    (literal : L.make_address config.relay_node_ip_ = some relay_address) (fits : buffer.length ≤ 65507)
    (taken : env.accepts 2 = true) :
    performed env 2 (config.relayEffects message buffer) =
      .send_to .message buffer ⟨relay_address, config.relay_node_port_⟩ :: sendEffects message := by
  have quiet : env.refuses 2 (.send_to .message buffer ⟨relay_address, config.relay_node_port_⟩) = false := by
    simp [Environment.refuses, fits, taken]
  unfold Config.relayEffects
  rw [if_pos copy]
  simp only [literal, performed_cons_of_quiet _ _ _ quiet, performed_sendEffects]

end

/-! ## What the socket is asked for -/

/-- The socket takes the datagram that comes after so many effects. -/
def Environment.yielding (env : Environment L) (before : Nat) : Environment L :=
  { env with accepts := fun k => k == before || env.accepts k }

/-- What a program does from a node on, and after it the datagram that the socket refused,
    which is what it does next when the socket takes that one. -/
def asked (program : Environment L → Program L Unit) (env : Environment L) (node : Node L) : List (Effect L) :=
  let done := (after ((program env).run ⟨node, []⟩)).effects
  (after ((program (env.yielding done.length)).run ⟨node, []⟩)).effects.take (done.length + 1)

/-- A relay node is configured, and the message is not for its endpoint. -/
def Config.RelayWanted (config : Config L) (message : Message) : Prop :=
  config.relay_node_ip_ ≠ [] ∧
    (message.destination_ip, message.destination_port) ≠ (config.relay_node_ip_, config.relay_node_port_)

instance (config : Config L) (message : Message) : Decidable (config.RelayWanted message) :=
  inferInstanceAs (Decidable (_ ∧ _))

/-- The relay node is a fallback for a call that sends a message in these octets, and the
    handler is invoked when, and only when, the socket has taken a datagram. -/
structure FallsBack (config : Config L) (call : Environment L → Program L Unit) (env : Environment L) (node : Node L)
    (message : Message) (buffer : Bytes) : Prop where
  offered : config.RelayWanted message → ∃ relay_address, L.make_address config.relay_node_ip_ = some relay_address ∧
    .send_to .message buffer ⟨relay_address, config.relay_node_port_⟩ ∈ asked call env node
  recorded : (∃ sent, .send_handler sent ∈ (after ((call env).run ⟨node, []⟩)).effects) ↔
    ∃ purpose octets endpoint, .send_to purpose octets endpoint ∈ (after ((call env).run ⟨node, []⟩)).effects

theorem effects_of_composed {config : Config L} {env : Environment L} {destination_address destination_login text inner : Bytes}
    {public_key : L.PublicKey} {message : Message}
    (built : composed config env destination_address destination_login public_key text = .ok (message, inner))
    (node : Node L) :
    (after ((send_message config env destination_address destination_login public_key text).run ⟨node, []⟩)).effects =
      performed env 0 (config.callEffects message inner) := by
  obtain ⟨t, added, run, follows, same⟩ :=
    send_message_performed config env destination_address destination_login public_key text ⟨node, []⟩
  simp only [built] at same
  rw [run, after_ok, follows.effects, same]
  rfl

theorem asked_of_composed {config : Config L} {env : Environment L} {destination_address destination_login text inner : Bytes}
    {public_key : L.PublicKey} {message : Message}
    (built : composed config env destination_address destination_login public_key text = .ok (message, inner))
    (node : Node L) :
    asked (fun env => send_message config env destination_address destination_login public_key text) env node =
      (performed (env.yielding (performed env 0 (config.callEffects message inner)).length) 0
        (config.callEffects message inner)).take ((performed env 0 (config.callEffects message inner)).length + 1) := by
  have again : ∀ before, composed config (env.yielding before) destination_address destination_login public_key text =
      .ok (message, inner) := fun _ => built
  unfold asked
  simp only [effects_of_composed built node, effects_of_composed (again _) node]

theorem send_handler_mem (message : Message) : .send_handler message ∈ (sendEffects message : List (Effect L)) :=
  List.mem_cons_self

/-- The first datagram of a call is the direct copy. -/
theorem first_copy {config : Config L} {message : Message} {inner signature octets : Bytes} {endpoint : Endpoint L}
    (signed : L.sign config.private_key_ inner = some signature)
    (member : .send_to .message octets endpoint ∈ (config.callEffects message inner).take 2) :
    ∃ address, L.make_address message.destination_ip = some address ∧ endpoint = ⟨address, message.destination_port⟩ := by
  cases literal : L.make_address message.destination_ip with
  | none =>
    unfold Config.callEffects at member
    simp [signed, literal] at member
  | some address =>
    rw [callEffects_eq signed literal] at member
    simp only [List.take_succ_cons, List.take_zero, List.mem_cons, reduceCtorEq, Effect.send_to.injEq,
      List.not_mem_nil, or_false, false_or] at member
    exact ⟨address, rfl, member.2.2⟩

/-- Without a copy for the relay node, the direct copy is the only one. -/
theorem only_copy {config : Config L} {message : Message} {inner signature octets : Bytes} {endpoint : Endpoint L}
    (signed : L.sign config.private_key_ inner = some signature)
    (same : ¬ (config.relay_node_ip_ ≠ [] ∧ message.destination_ip ≠ config.relay_node_ip_))
    (member : .send_to .message octets endpoint ∈ config.callEffects message inner) :
    ∃ address, L.make_address message.destination_ip = some address ∧ endpoint = ⟨address, message.destination_port⟩ := by
  cases literal : L.make_address message.destination_ip with
  | none =>
    unfold Config.callEffects at member
    simp [signed, literal] at member
  | some address =>
    rw [callEffects_eq signed literal, Config.relayEffects, if_neg same] at member
    rcases List.mem_cons.mp member with sign | member
    · cases sign
    rcases List.mem_cons.mp member with direct | handler
    · cases direct
      exact ⟨address, rfl, rfl⟩
    · rcases mem_sendEffects handler with other | other | ⟨id, other⟩ <;> cases other

/-- A call whose relay copy is offered and whose handler tells the truth sends both
    copies, if it wants the relay node at all. -/
theorem copies_taken {config : Config L} {env retry : Environment L} {message : Message} {inner signature : Bytes}
    {relay_address : L.Address} (literals : L.OneLiteral) (plain : colon ∉ message.destination_ip)
    (signed : L.sign config.private_key_ inner = some signature) (wanted : config.RelayWanted message)
    (relayLiteral : L.make_address config.relay_node_ip_ = some relay_address)
    (offered : .send_to .message (signed_message_to_buffer ⟨inner, signature⟩) ⟨relay_address, config.relay_node_port_⟩ ∈
      (performed retry 0 (config.callEffects message inner)).take
        ((performed env 0 (config.callEffects message inner)).length + 1))
    (recorded : (∃ sent, .send_handler sent ∈ performed env 0 (config.callEffects message inner)) ↔
      ∃ purpose octets endpoint, .send_to purpose octets endpoint ∈ performed env 0 (config.callEffects message inner)) :
    message.destination_ip ≠ config.relay_node_ip_ ∧ (L.make_address message.destination_ip).isSome ∧
      (L.make_address config.relay_node_ip_).isSome ∧ (signed_message_to_buffer ⟨inner, signature⟩).length ≤ 65507 ∧
      env.accepts 1 = true ∧ env.accepts 2 = true := by
  have whole := (cut_performed retry 0 (config.callEffects message inner)).first
  -- With one IP for both, the only copy goes to the destination's port.
  have copy : config.relay_node_ip_ ≠ [] ∧ message.destination_ip ≠ config.relay_node_ip_ := by
    by_contra same
    obtain ⟨address, -, endpoint⟩ := only_copy signed same (whole.subset (List.mem_of_mem_take offered))
    have ports := congrArg Endpoint.port endpoint
    have ips : message.destination_ip = config.relay_node_ip_ := by
      by_contra differ
      exact same ⟨wanted.1, differ⟩
    exact wanted.2 (Prod.ext ips ports.symm)
  by_cases direct : (L.make_address message.destination_ip).isSome ∧
      (signed_message_to_buffer ⟨inner, signature⟩).length ≤ 65507 ∧ env.accepts 1 = true
  · obtain ⟨known, fits, first⟩ := direct
    obtain ⟨address, literal⟩ := Option.isSome_iff_exists.mp known
    by_cases relay : (L.make_address config.relay_node_ip_).isSome ∧
        (signed_message_to_buffer ⟨inner, signature⟩).length ≤ 65507 ∧ env.accepts 2 = true
    · exact ⟨copy.2, known, relay.1, fits, first, relay.2.2⟩
    · -- The direct copy is sent, and the handler is not invoked.
      rw [performed_call_sent signed literal fits first, performed_relay_unsent copy relay] at recorded
      obtain ⟨sent, handled⟩ := recorded.mpr ⟨_, _, _, List.mem_cons_of_mem _ List.mem_cons_self⟩
      simp at handled
  · -- The direct copy is the only one offered.
    rw [performed_call_unsent signed direct] at offered
    obtain ⟨address, literal, endpoint⟩ := first_copy signed ((whole.take 2).subset offered)
    obtain rfl := congrArg Endpoint.address endpoint
    exact absurd (literals _ _ _ literal relayLiteral plain) copy.2

/-- When the relay node is not wanted or both copies are sent, the handler tells the
    truth. -/
theorem recorded_of_taken {config : Config L} {env : Environment L} {message : Message} {inner signature : Bytes}
    (signed : L.sign config.private_key_ inner = some signature)
    (taken : config.RelayWanted message → (L.make_address config.relay_node_ip_).isSome ∧ env.accepts 2 = true) :
    (∃ sent, .send_handler sent ∈ performed env 0 (config.callEffects message inner)) ↔
      ∃ purpose octets endpoint, .send_to purpose octets endpoint ∈ performed env 0 (config.callEffects message inner) := by
  by_cases direct : (L.make_address message.destination_ip).isSome ∧
      (signed_message_to_buffer ⟨inner, signature⟩).length ≤ 65507 ∧ env.accepts 1 = true
  · obtain ⟨known, fits, first⟩ := direct
    obtain ⟨address, literal⟩ := Option.isSome_iff_exists.mp known
    have handled : .send_handler message ∈
        performed env 2 (config.relayEffects message (signed_message_to_buffer ⟨inner, signature⟩)) := by
      by_cases copy : config.relay_node_ip_ ≠ [] ∧ message.destination_ip ≠ config.relay_node_ip_
      · obtain ⟨node, second⟩ := taken ⟨copy.1, fun same => copy.2 (congrArg Prod.fst same)⟩
        obtain ⟨relay_address, relayLiteral⟩ := Option.isSome_iff_exists.mp node
        rw [performed_relay_sent copy relayLiteral fits second]
        exact List.mem_cons_of_mem _ (send_handler_mem message)
      · rw [performed_relay_unneeded copy]
        exact send_handler_mem message
    rw [performed_call_sent signed literal fits first]
    refine iff_of_true ⟨message, ?_⟩ ⟨_, _, _, List.mem_cons_of_mem _ List.mem_cons_self⟩
    exact List.mem_cons_of_mem _ (List.mem_cons_of_mem _ handled)
  · rw [performed_call_unsent signed direct]
    simp

/-- When both copies are sent, the relay copy is offered. -/
theorem offered_of_taken {config : Config L} {env : Environment L} {message : Message} {inner signature : Bytes}
    {address relay_address : L.Address} (signed : L.sign config.private_key_ inner = some signature)
    (copy : config.relay_node_ip_ ≠ [] ∧ message.destination_ip ≠ config.relay_node_ip_)
    (literal : L.make_address message.destination_ip = some address)
    (relayLiteral : L.make_address config.relay_node_ip_ = some relay_address)
    (fits : (signed_message_to_buffer ⟨inner, signature⟩).length ≤ 65507) (first : env.accepts 1 = true)
    (second : env.accepts 2 = true) :
    .send_to .message (signed_message_to_buffer ⟨inner, signature⟩) ⟨relay_address, config.relay_node_port_⟩ ∈
      (performed (env.yielding (performed env 0 (config.callEffects message inner)).length) 0
        (config.callEffects message inner)).take ((performed env 0 (config.callEffects message inner)).length + 1) := by
  have taken : ∀ (before k : Nat), env.accepts k = true → (env.yielding before).accepts k = true := by
    intro before k answer
    simp [Environment.yielding, answer]
  rw [performed_call_sent signed literal fits (taken _ 1 first), performed_relay_sent copy relayLiteral fits (taken _ 2 second),
    performed_call_sent signed literal fits first, performed_relay_sent copy relayLiteral fits second]
  simp

/-- The relay node is a fallback for a call, and the handler tells the truth, exactly when
    the relay node is not wanted, or its IP is another than the destination's, both IPs are
    literals and the socket takes both copies. -/
theorem falls_back_iff {config : Config L} {env : Environment L} {destination_address destination_login text : Bytes}
    {inner signature : Bytes} {public_key : L.PublicKey} {message : Message} (literals : L.OneLiteral)
    (built : composed config env destination_address destination_login public_key text = .ok (message, inner))
    (signed : L.sign config.private_key_ inner = some signature) (node : Node L) :
    FallsBack config (fun env => send_message config env destination_address destination_login public_key text) env node
        message (signed_message_to_buffer ⟨inner, signature⟩) ↔
      (config.RelayWanted message →
        message.destination_ip ≠ config.relay_node_ip_ ∧ (L.make_address message.destination_ip).isSome ∧
        (L.make_address config.relay_node_ip_).isSome ∧ (signed_message_to_buffer ⟨inner, signature⟩).length ≤ 65507 ∧
        env.accepts 1 = true ∧ env.accepts 2 = true) := by
  have effects := effects_of_composed built node
  have asks := asked_of_composed built node
  constructor
  · intro falls wanted
    obtain ⟨relay_address, relayLiteral, offered⟩ := falls.offered wanted
    have recorded := falls.recorded
    rw [asks] at offered
    rw [effects] at recorded
    obtain ⟨ip, port, -, parsed, made, -, -⟩ := composed_eq_ok built
    have plain : colon ∉ message.destination_ip := by
      rw [made]
      exact colon_notMem_of_address parsed
    exact copies_taken literals plain signed wanted relayLiteral offered recorded
  · intro taken
    constructor
    · intro wanted
      obtain ⟨differ, known, node, fits, first, second⟩ := taken wanted
      obtain ⟨address, literal⟩ := Option.isSome_iff_exists.mp known
      obtain ⟨relay_address, relayLiteral⟩ := Option.isSome_iff_exists.mp node
      refine ⟨relay_address, relayLiteral, ?_⟩
      rw [asks]
      exact offered_of_taken signed ⟨wanted.1, differ⟩ literal relayLiteral fits first second
    · rw [effects]
      refine recorded_of_taken signed ?_
      intro wanted
      obtain ⟨-, -, node, -, -, second⟩ := taken wanted
      exact ⟨node, second⟩

/-! ## A sample call -/

/-- The sample sender with a relay node at 10.0.0.3:5001. -/
def relayedSender : Config Sample.libraries :=
  { Sample.sender with relay_node_ip_ := [49, 48, 46, 48, 46, 48, 46, 51], relay_node_port_ := 5001 }

/-- The call of that sender for the sample message. -/
def relayedCall (env : Environment Sample.libraries) : Program Sample.libraries Unit :=
  send_message relayedSender env Sample.destination_address Sample.message.destination_login Sample.receiver.public_key
    Sample.message.payload.text

/-- A socket that refuses one datagram, the one after so many effects. -/
def refusing (before : Nat) : Environment Sample.libraries :=
  { Sample.environment with accepts := fun k => !(k == before) }

theorem relayed_composed (before : Nat) :
    composed relayedSender (refusing before) Sample.destination_address Sample.message.destination_login
      Sample.receiver.public_key Sample.message.payload.text = .ok (Sample.message, Sample.inner) := by
  show composed relayedSender Sample.environment _ _ _ _ = _
  decide +kernel

theorem falls_back_iff_sample :
    FallsBack relayedSender relayedCall (refusing 3) (Node.initial _) Sample.message Sample.datagram := by
  have fits : Sample.datagram.length ≤ 65507 := by decide +kernel
  refine (falls_back_iff Sample.oneLiteral (relayed_composed 3) rfl (Node.initial _)).mpr ?_
  intro wanted
  exact ⟨by decide, by decide, by decide, fits, rfl, rfl⟩

/-- The effect is an invocation of the sender's handler. -/
def handles : Effect L → Bool
  | .send_handler _ => true
  | _ => false

/-- When the socket refuses the direct copy, the relay node is not tried; and when it
    refuses the relay copy, the message that was sent is not recorded. -/
theorem falls_back_fails :
    ¬ FallsBack relayedSender relayedCall (refusing 1) (Node.initial _) Sample.message Sample.datagram ∧
    ¬ FallsBack relayedSender relayedCall (refusing 2) (Node.initial _) Sample.message Sample.datagram := by
  constructor
  · intro falls
    obtain ⟨relay_address, literal, offered⟩ := falls.offered (by decide)
    have node : Sample.libraries.make_address relayedSender.relay_node_ip_ = some (10, 0, 0, 3) := by decide
    obtain rfl := Option.some.inj (node.symm.trans literal)
    have silent : .send_to .message Sample.datagram ⟨(10, 0, 0, 3), relayedSender.relay_node_port_⟩ ∉
        asked relayedCall (refusing 1) (Node.initial _) := by decide +kernel
    exact silent offered
  · intro falls
    have sent : .send_to .message Sample.datagram ⟨(127, 0, 0, 1), 4001⟩ ∈
        (after ((relayedCall (refusing 2)).run ⟨Node.initial _, []⟩)).effects := by decide +kernel
    have unhandled : (after ((relayedCall (refusing 2)).run ⟨Node.initial _, []⟩)).effects.any handles = false := by
      decide +kernel
    obtain ⟨message, handled⟩ := falls.recorded.mpr ⟨_, _, _, sent⟩
    rw [List.any_eq_false] at unhandled
    exact unhandled _ handled rfl

end P2PMessenger
