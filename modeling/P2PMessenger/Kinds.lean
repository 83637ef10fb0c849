import P2PMessenger.Bindings

/-!
Which block of the handler a datagram ends in. Signed messages and metadata have the
same layout and no tag; what keeps them apart is that the metadata encoder's vector is
one octet short, so that no datagram of the hole puncher is a whole signed message.
-/
namespace P2PMessenger
open Octets Memory Layout Throwing

variable {L : Libraries}

/-! ## Datagrams of the hole puncher -/

/-- Without its last octet, metadata is not a signed message. -/
theorem signed_message_from_buffer_metadata {login public_key : Bytes} (loginBound : login.length ≤ 65535)
    (keyBound : public_key.length ≤ 65535) (beyond : Contents) :
    signed_message_from_buffer (metadata_to_buffer login public_key) beyond = .error notEnough := by
  obtain ⟨last, missing, cut⟩ := metadata_to_buffer_cut loginBound keyBound
  have fits : Fits signedLayout [login, public_key] := metadata_fits loginBound keyBound
  rcases signed_message_from_buffer_cases (metadata_to_buffer login public_key) with ⟨found, starts, -⟩ | ⟨-, error⟩
  · exact absurd starts (not_starts_of_cut fits cut missing _)
  · exact error beyond

/-- A datagram that is no signed message is handled as metadata. -/
theorem async_wait_handler_unframed (config : Config L) (env : Environment L) {buffer : Bytes} {e : Exception}
    (frame : signed_message_from_buffer buffer env.beyond = .error e) (remote_endpoint : Endpoint L) (s : Step L) :
    (async_wait_handler config env (.whole buffer remote_endpoint)).run s =
      (do
        metadata_datagram env buffer remote_endpoint
        emit .async_wait : Program L Unit).run s := by
  have read : reading config env buffer = .metadata := (reading_eq_metadata _ _ _).mpr (.inl ⟨e, frame⟩)
  rw [async_wait_handler_run, read, EStateM.run_bind, metadata_datagram_run]
  cases L.publicKey (metadata_from_buffer buffer env.beyond).2 <;> rfl

/-- The effects of the metadata block and of the wait after it. -/
theorem metadata_datagram_effects (env : Environment L) (buffer : Bytes) (remote_endpoint : Endpoint L) (node : Node L) :
    (after ((do
      metadata_datagram env buffer remote_endpoint
      emit .async_wait : Program L Unit).run ⟨node, []⟩)).effects ⊆ [.async_wait] := by
  rw [EStateM.run_bind, metadata_datagram_run]
  cases L.publicKey (metadata_from_buffer buffer env.beyond).2 with
  | none => exact List.nil_subset _
  | some public_key => exact List.Subset.refl _

/-- A datagram of the hole puncher is no signed message, so the handler reads it as
    metadata, delivers nothing and sends nothing. Every signed message is read as one, so
    no datagram is of both kinds. -/
theorem hole_punch_is_no_signed_message {login public_key : Bytes} (loginBound : login.length ≤ 65535)
    (keyBound : public_key.length ≤ 65535) :
    (∀ beyond, signed_message_from_buffer (metadata_to_buffer login public_key) beyond = .error notEnough) ∧
    (∀ (L : Libraries) (config : Config L) (env : Environment L) (remote_endpoint : Endpoint L) (node : Node L),
      let handler := (async_wait_handler config env
        (.whole (metadata_to_buffer login public_key) remote_endpoint)).run ⟨node, []⟩
      handler = (do
        metadata_datagram env (metadata_to_buffer login public_key) remote_endpoint
        emit .async_wait : Program L Unit).run ⟨node, []⟩ ∧
      (∀ message, .receive_handler message ∉ (after handler).effects) ∧
      ∀ purpose octets endpoint, .send_to purpose octets endpoint ∉ (after handler).effects) ∧
    ∀ signed_message : SignedMessage, signed_message.message.length ≤ 65535 → signed_message.signature.length ≤ 65535 →
      (∀ beyond, signed_message_from_buffer (signed_message_to_buffer signed_message) beyond = .ok signed_message) ∧
      metadata_to_buffer login public_key ≠ signed_message_to_buffer signed_message := by
  have cut := signed_message_from_buffer_metadata loginBound keyBound
  refine ⟨cut, ?_, ?_⟩
  · intro L config env remote_endpoint node handler
    have run := async_wait_handler_unframed config env (cut env.beyond) remote_endpoint ⟨node, []⟩
    have effects := metadata_datagram_effects env (metadata_to_buffer login public_key) remote_endpoint node
    rw [← run] at effects
    refine ⟨run, ?_, ?_⟩
    · intro message member
      cases List.mem_singleton.mp (effects member)
    · intro purpose octets endpoint member
      cases List.mem_singleton.mp (effects member)
  · intro signed_message message signature
    have reads := signed_message_from_buffer_to_buffer message signature
    refine ⟨reads, ?_⟩
    intro same
    have both := reads fun _ => 0
    rw [← same, cut fun _ => 0] at both
    cases both

theorem hole_punch_is_no_signed_message_bob :
    signed_message_from_buffer (metadata_to_buffer [98, 111, 98] [7]) (fun _ => 0) = .error notEnough ∧
      metadata_to_buffer [98, 111, 98] [7] ≠ signed_message_to_buffer ⟨[98, 111, 98], [7]⟩ := by
  have login : ([98, 111, 98] : Bytes).length ≤ 65535 := by decide
  have public_key : ([7] : Bytes).length ≤ 65535 := by decide
  obtain ⟨cut, -, signed⟩ := hole_punch_is_no_signed_message login public_key
  exact ⟨cut _, (signed ⟨[98, 111, 98], [7]⟩ (by decide) (by decide)).2⟩

/-! ## Rejected messages -/

/-- A message to this node is rejected: it does not decode, its source key does not parse,
    or its signature cannot be checked or does not verify. -/
def Rejected (config : Config L) (env : Environment L) (signed_message : SignedMessage) : Prop :=
  let decoded := message_from_buffer L signed_message.message env.beyond_message config.private_key_
  (∃ e, decoded = .error e) ∨
  ∃ message, decoded = .ok message ∧
    (L.publicKey message.source_public_key = none ∨
      ∃ public_key, L.publicKey message.source_public_key = some public_key ∧
        ((∃ e, check_signature L signed_message public_key = .error e) ∨
          check_signature L signed_message public_key = .ok false))

/-- What is rejected does not come through the checks as verified. -/
theorem Rejected.not_verified {config : Config L} {env : Environment L} {signed_message : SignedMessage}
    (rejected : Rejected config env signed_message) (message : Message) (public_key : L.PublicKey) :
    checked L signed_message (message_from_buffer L signed_message.message env.beyond_message config.private_key_) ≠
      .ok (message, public_key, true) := by
  intro verdict
  obtain ⟨decoded, parsed, verified⟩ := checked_eq_ok.mp verdict
  have check : check_signature L signed_message public_key = .ok true := orThrow_eq_ok.mpr verified
  rcases rejected with ⟨e, throws⟩ | ⟨other, read, refused⟩
  · rw [decoded] at throws
    cases throws
  rw [decoded] at read
  cases read
  rcases refused with unknown | ⟨key, known, refused⟩
  · rw [parsed] at unknown
    cases unknown
  rw [parsed] at known
  cases known
  rcases refused with ⟨e, throws⟩ | unverified
  · rw [check] at throws
    cases throws
  · rw [check] at unverified
    cases unverified

theorem reading_dropped_of_rejected {config : Config L} {env : Environment L} {buffer : Bytes}
    {signed_message : SignedMessage} (frame : signed_message_from_buffer buffer env.beyond = .ok signed_message)
    (mine : destinantion_public_key_from_buffer signed_message.message env.beyond_message = config.public_key_string)
    (rejected : Rejected config env signed_message) : reading config env buffer = .dropped := by
  refine reading_dropped_of_mine frame mine ?_
  intro message public_key accepts
  have way := read_reading config env buffer
  rw [(reading_eq_accepted config env buffer message public_key).mpr accepts] at way
  cases way with
  | accepted found _ verdict =>
    rw [frame] at found
    cases found
    exact rejected.not_verified message public_key verdict

/-- A rejected message to this node is given up without a trace: the handler returns with
    the node as it was, and has done nothing but to listen again. -/
theorem rejected_message_leaves_no_trace {config : Config L} {env : Environment L} {buffer : Bytes}
    {signed_message : SignedMessage} (frame : signed_message_from_buffer buffer env.beyond = .ok signed_message)
    (mine : destinantion_public_key_from_buffer signed_message.message env.beyond_message = config.public_key_string)
    (rejected : Rejected config env signed_message) (remote_endpoint : Endpoint L) (node : Node L) :
    reading config env buffer = .dropped ∧
    (async_wait_handler config env (.whole buffer remote_endpoint)).run ⟨node, []⟩ = .ok () ⟨node, [.async_wait]⟩ := by
  have read := reading_dropped_of_rejected frame mine rejected
  refine ⟨read, ?_⟩
  rw [async_wait_handler_run, read]
  rfl

/-- The octets of the sample message, encrypted for its sender instead of its receiver. -/
def misencrypted : Bytes := (message_block Sample.message (7 :: Sample.document 1700000000 Sample.message.payload.text)).vector

theorem rejected_message_leaves_no_trace_misencrypted :
    (async_wait_handler Sample.receiver Sample.environment
      (.whole (signed_message_to_buffer ⟨misencrypted, 7 :: misencrypted⟩) Sample.elsewhere)).run ⟨Node.initial _, []⟩ =
        .ok () ⟨Node.initial _, [.async_wait]⟩ := by
  have frame : signed_message_from_buffer (signed_message_to_buffer ⟨misencrypted, 7 :: misencrypted⟩)
      Sample.environment.beyond = .ok ⟨misencrypted, 7 :: misencrypted⟩ := by decide +kernel
  have throws : message_from_buffer Sample.libraries misencrypted Sample.environment.beyond_message
      Sample.receiver.private_key_ = .error .crypto_exception := by decide +kernel
  exact (rejected_message_leaves_no_trace frame (by decide +kernel) (.inl ⟨_, throws⟩) Sample.elsewhere (Node.initial _)).2

end P2PMessenger
