import P2PMessenger.Narrowing
import P2PMessenger.Receiver

/-!
From the sender to the receiver: the datagram of a call, handed to the receiver that it
is for, is accepted as the message the call built. Whether it is delivered too is
decided by the start of the hole-punch loop, which stands before the receive handler.
-/
namespace P2PMessenger
open Octets Memory Layout Throwing

variable {L : Libraries}

/-- The messages that the receive handler was invoked with. -/
def receivedMessages (effects : List (Effect L)) : List Message :=
  effects.filterMap fun effect => match effect with
    | .receive_handler message => some message
    | _ => none

theorem receivedMessages_append (one two : List (Effect L)) :
    receivedMessages (one ++ two) = receivedMessages one ++ receivedMessages two := List.filterMap_append

theorem receivedMessages_receiveEffects (config : Config L) (message : Message) (source : L.PublicKey) :
    receivedMessages (config.receiveEffects message source) = [message] := by
  unfold Config.receiveEffects
  split <;> rfl

/-- The datagram that a call made for a receiver is accepted by that receiver, as the
    message of the call and under the sender's key. -/
theorem accepts_datagram {sender receiver : Config L} {env : Environment L}
    {destination_address destination_login text inner signature : Bytes} {message : Message}
    (keys : L.DecryptUndoesEncrypt receiver.public_key receiver.private_key_) (strings : L.PublicKeyOfToString)
    (verifies : L.SignatureVerifies sender.private_key_) (json : L.ParseUndoesSerialize ⟨1700000000, text⟩)
    (built : composed sender env destination_address destination_login receiver.public_key text = .ok (message, inner))
    (signed : L.sign sender.private_key_ inner = some signature)
    (source_ip : sender.my_ip_.length ≤ 255) (source_login : sender.my_login_.length ≤ 255)
    (destination_ip : message.destination_ip.length ≤ 255) (login : destination_login.length ≤ 255)
    (fits : (signed_message_to_buffer ⟨inner, signature⟩).length ≤ 65507) :
    Accepts receiver (signed_message_to_buffer ⟨inner, signature⟩) message sender.public_key := by
  rw [signed_message_to_buffer_length] at fits
  simp only at fits
  obtain ⟨payload_buffer, encrypted, starts⟩ := composed_starts built (by omega)
  obtain ⟨ip, port, -, -, rfl, -, -⟩ := composed_eq_ok built
  have kept := (Message.narrowed_eq_self_iff (sender.message ip port destination_login receiver.public_key text)).mpr
    ⟨source_ip, source_login, destination_ip, login⟩
  rw [kept] at starts
  refine ⟨⟨inner, signature⟩, payload_buffer, ?_, starts, rfl, openPayload_encrypt keys json encrypted, strings _,
    verifies _ _ signed⟩
  exact (signed_message_from_buffer_ok_iff _ (fun _ => 0) _).mp
    (signed_message_from_buffer_to_buffer (by simp only; omega) (by simp only; omega) _)

theorem punched_isSome_iff (config : Config L) (env : Environment L) (sent : Nat) (ip : Bytes) (port : UInt16) :
    (config.punched env sent ip port).isSome ↔
      (L.make_address ip).isSome ∧ config.buffer_.length ≤ 65507 ∧ env.accepts sent = true := by
  unfold Config.punched
  cases L.make_address ip with
  | none => simp
  | some address =>
    by_cases taken : config.buffer_.length ≤ 65507 ∧ env.accepts sent = true <;> simp [taken]

/-- An accepted message is delivered when its hole-punch loop starts, and else it only
    leaves its address behind. -/
theorem receivedMessages_accepted (config : Config L) (env : Environment L) (message : Message)
    (public_key : L.PublicKey) (remote_endpoint : Endpoint L) (s : Step L) :
    receivedMessages (s.accepted config env message public_key remote_endpoint).listening.effects =
      receivedMessages s.effects ++
        if (L.make_address message.source_ip).isSome ∧ config.buffer_.length ≤ 65507 ∧
          env.accepts s.effects.length = true then [message] else [] := by
  have started := punched_isSome_iff config env s.effects.length message.source_ip (sourcePort message remote_endpoint)
  simp only [Step.listening, accepted_effects, receivedMessages_append]
  cases loop : config.punched env s.effects.length message.source_ip (sourcePort message remote_endpoint) with
  | none =>
    rw [loop] at started
    rw [if_neg (fun starts => by simpa using started.mpr starts)]
    simp [receivedMessages]
  | some endpoint =>
    rw [loop] at started
    rw [if_pos (started.mp rfl), Option.elim_some, ← List.singleton_append, receivedMessages_append,
      receivedMessages_receiveEffects]
    simp [receivedMessages]

/-- The datagram of a call, handed to the receiver that it is for, is delivered once as
    the message of the call exactly when the sender's IP is a literal and the socket
    takes the first hole-punch datagram. -/
theorem delivery_iff {sender : Config L} (receiver : Config L) {env : Environment L}
    {destination_address destination_login text buffer : Bytes} {endpoint : Endpoint L} {caller : Node L} {t : Step L}
    (keys : L.DecryptUndoesEncrypt receiver.public_key receiver.private_key_) (strings : L.PublicKeyOfToString)
    (verifies : L.SignatureVerifies sender.private_key_) (json : L.ParseUndoesSerialize ⟨1700000000, text⟩)
    (literals : L.ShortLiterals) (source_ip : sender.my_ip_.length ≤ 255) (source_login : sender.my_login_.length ≤ 255)
    (login : destination_login.length ≤ 255)
    (call : (send_message sender env destination_address destination_login receiver.public_key text).run ⟨caller, []⟩ =
      .ok () t)
    (sent : .send_to .message buffer endpoint ∈ t.effects) :
    ∃ message inner,
      composed sender env destination_address destination_login receiver.public_key text = .ok (message, inner) ∧
      ∀ (env : Environment L) (remote_endpoint : Endpoint L) (node : Node L), ∃ u,
        (async_wait_handler receiver env (.whole buffer remote_endpoint)).run ⟨node, []⟩ = .ok () u ∧
        ((receivedMessages u.effects = [message] ∧
            (u.node.metadata_ip_resolver_ = node.metadata_ip_resolver_ ∨ message ∈ receivedMessages u.effects)) ↔
          (L.make_address sender.my_ip_).isSome ∧ receiver.buffer_.length ≤ 65507 ∧ env.accepts 0 = true) := by
  obtain ⟨message, inner, signature, address, built, signed, literal, rfl, fits⟩ := datagram_of_sent call sent
  rw [← signed_message_to_buffer_length ⟨inner, signature⟩] at fits
  obtain ⟨ip, port, payload_buffer, parsed, built', -, -⟩ := composed_eq_ok built
  have sourceIp : message.source_ip = sender.my_ip_ := by rw [built']; rfl
  have destination_ip : message.destination_ip.length ≤ 255 := by
    refine literals _ _ literal ?_
    rw [built']
    exact colon_notMem_of_address parsed
  have accepts := accepts_datagram keys strings verifies json built signed source_ip source_login destination_ip login
    fits
  refine ⟨message, inner, built, ?_⟩
  intro env remote_endpoint node
  have read := (reading_eq_accepted receiver env _ _ _).mpr accepts
  have handled := async_wait_handler_run receiver env (signed_message_to_buffer ⟨inner, signature⟩) remote_endpoint
    ⟨node, []⟩
  simp only [read] at handled
  refine ⟨_, handled, ?_⟩
  rw [receivedMessages_accepted, sourceIp]
  simp only [receivedMessages, List.filterMap_nil, List.nil_append, List.length_nil]
  split_ifs with delivered
  · simp [delivered]
  · simp [delivered]

theorem sample_composed :
    composed Sample.sender Sample.environment Sample.destination_address Sample.message.destination_login
      Sample.receiver.public_key Sample.message.payload.text = .ok (Sample.message, Sample.inner) := by decide +kernel

theorem sample_accepts : Accepts Sample.receiver Sample.datagram Sample.message Sample.sender.public_key := by
  have signed : Sample.libraries.sign Sample.sender.private_key_ Sample.inner = some (7 :: Sample.inner) := rfl
  have json := Sample.parseUndoesSerialize ⟨1700000000, Sample.message.payload.text⟩
  have fits : (signed_message_to_buffer ⟨Sample.inner, 7 :: Sample.inner⟩).length ≤ 65507 := by decide +kernel
  exact accepts_datagram (Sample.decryptUndoesEncrypt _) Sample.publicKeyOfToString (Sample.signatureVerifies _) json
    sample_composed signed (by decide) (by decide) (by decide) (by decide) fits

/-- The call that sends the sample message. -/
def sampleCall : EStateM.Result Exception (Step Sample.libraries) Unit :=
  (send_message Sample.sender Sample.environment Sample.destination_address Sample.message.destination_login
    Sample.receiver.public_key Sample.message.payload.text).run ⟨Node.initial _, []⟩

theorem delivery_iff_sample :
    ∃ u, (async_wait_handler Sample.receiver Sample.environment (.whole Sample.datagram Sample.elsewhere)).run
        ⟨Node.initial _, []⟩ = .ok () u ∧
      receivedMessages u.effects = [Sample.message] := by
  have call : sampleCall = .ok () (after sampleCall) := eq_ok_of_returns (by decide +kernel)
  have sent : .send_to .message Sample.datagram ⟨(127, 0, 0, 1), 4001⟩ ∈ (after sampleCall).effects := by decide +kernel
  obtain ⟨message, inner, built, delivered⟩ := delivery_iff Sample.receiver (Sample.decryptUndoesEncrypt _)
    Sample.publicKeyOfToString (Sample.signatureVerifies _) (Sample.parseUndoesSerialize _) Sample.shortLiterals
    (by decide) (by decide) (by decide) call sent
  obtain ⟨u, handled, iff⟩ := delivered Sample.environment Sample.elsewhere (Node.initial _)
  have same : message = Sample.message := congrArg Prod.fst (Except.ok.inj (built.symm.trans sample_composed))
  refine ⟨u, handled, ?_⟩
  rw [← same]
  exact (iff.mpr (by decide +kernel)).1

/-- The sender with the host name "localhost" for its IP. -/
def localSender : Config Sample.libraries := { Sample.sender with my_ip_ := [108, 111, 99, 97, 108, 104, 111, 115, 116] }

/-- From a host name the datagram arrives and is accepted, its address is stored, and
    nothing is delivered. -/
theorem delivery_fails_from_localhost :
    ∃ (buffer : Bytes) (endpoint : Endpoint Sample.libraries) (t u : Step Sample.libraries),
      (send_message localSender Sample.environment Sample.destination_address Sample.message.destination_login (9 : UInt8)
        Sample.message.payload.text).run ⟨Node.initial _, []⟩ = .ok () t ∧
      .send_to .message buffer endpoint ∈ t.effects ∧
      (async_wait_handler Sample.receiver Sample.environment (.whole buffer Sample.elsewhere)).run
        ⟨Node.initial _, []⟩ = .ok () u ∧
      receivedMessages u.effects = [] ∧
      (Node.initial Sample.libraries).metadata_ip_resolver_.resolve localSender.my_login_ (7 : UInt8) = none ∧
      u.node.metadata_ip_resolver_.resolve localSender.my_login_ (7 : UInt8) =
        some (MetadataIpResolver.addressOf localSender.my_ip_ 3001) := by
  let message : Message := { Sample.message with source_ip := localSender.my_ip_ }
  let inner := (message_block message (9 :: Sample.document 1700000000 message.payload.text)).vector
  let buffer := signed_message_to_buffer ⟨inner, 7 :: inner⟩
  refine ⟨buffer, ⟨(127, 0, 0, 1), 4001⟩, _, _, eq_ok_of_returns ?_, ?_, eq_ok_of_returns ?_, ?_, ?_, ?_⟩
  all_goals decide +kernel

end P2PMessenger
