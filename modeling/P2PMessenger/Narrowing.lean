import P2PMessenger.Sender
import P2PMessenger.Wire

/-!
What the size fields do to a message. The encoder casts each length to the width of its
field and writes as many octets as the cast length says. UDP's limit keeps the lengths of
two octets from being cast to something else, but not those of one octet.
-/
namespace P2PMessenger
open Octets Memory Layout Throwing

variable {L : Libraries}

/-- The octets that a length of one octet keeps. -/
def narrowed (octets : Bytes) : Bytes := octets.take (octets.length % 256)

/-- The message that the lengths of one octet leave. -/
def Message.narrowed (message : Message) : Message :=
  { message with
    source_ip := P2PMessenger.narrowed message.source_ip
    source_login := P2PMessenger.narrowed message.source_login
    destination_ip := P2PMessenger.narrowed message.destination_ip
    destination_login := P2PMessenger.narrowed message.destination_login }

theorem narrowed_eq_self_iff (octets : Bytes) : narrowed octets = octets ↔ octets.length ≤ 255 := by
  have short := Nat.mod_lt octets.length (show 0 < 256 by decide)
  constructor
  · intro same
    have lengths := congrArg List.length same
    rw [narrowed, List.length_take] at lengths
    omega
  · intro bound
    rw [narrowed, Nat.mod_eq_of_lt (by omega), List.take_length]

/-- No length of one octet loses anything of the message. -/
def Message.Short (message : Message) : Prop :=
  message.source_ip.length ≤ 255 ∧ message.source_login.length ≤ 255 ∧ message.destination_ip.length ≤ 255 ∧
    message.destination_login.length ≤ 255

theorem Message.narrowed_eq_self_iff (message : Message) : message.narrowed = message ↔ message.Short := by
  unfold Message.Short
  rw [← P2PMessenger.narrowed_eq_self_iff, ← P2PMessenger.narrowed_eq_self_iff, ← P2PMessenger.narrowed_eq_self_iff,
    ← P2PMessenger.narrowed_eq_self_iff]
  constructor
  · intro same
    exact ⟨congrArg Message.source_ip same, congrArg Message.source_login same, congrArg Message.destination_ip same,
      congrArg Message.destination_login same⟩
  · rintro ⟨source_ip, source_login, destination_ip, destination_login⟩
    rw [Message.narrowed, source_ip, source_login, destination_ip, destination_login]

/-- The octets of a call that fit into a size field of two octets start with the narrowed
    message. -/
theorem composed_starts {config : Config L} {env : Environment L} {destination_address destination_login text inner : Bytes}
    {public_key : L.PublicKey} {message : Message}
    (built : composed config env destination_address destination_login public_key text = .ok (message, inner))
    (fits : inner.length ≤ 65535) :
    ∃ payload_buffer, encrypt L env.seed (payload_to_buffer L message.payload) public_key = .ok payload_buffer ∧
      Starts messageLayout (message.narrowed.fields payload_buffer) inner := by
  obtain ⟨ip, port, payload_buffer, -, -, encrypted, octets⟩ := composed_eq_ok built
  refine ⟨payload_buffer, encrypted, ?_⟩
  have length := congrArg List.length octets
  rw [message_block_vector_length] at length
  have written := message_block_starts message payload_buffer
  rw [← octets] at written
  have source_key : (Field.counted 2).narrow message.source_public_key = message.source_public_key :=
    Field.narrow_of_fits (by simp only [Field.Fits]; omega)
  have destination_key : (Field.counted 2).narrow message.destination_public_key = message.destination_public_key :=
    Field.narrow_of_fits (by simp only [Field.Fits]; omega)
  have payload : (Field.counted 2).narrow payload_buffer = payload_buffer :=
    Field.narrow_of_fits (by simp only [Field.Fits]; omega)
  simp only [Message.fields, narrow, messageLayout, List.zipWith_cons_cons, List.zipWith_nil_left, source_key,
    destination_key, payload] at written
  exact written

/-- Opening the payload that was encrypted gives the narrowed message back. -/
theorem openPayload_narrowed {public_key : L.PublicKey} {private_key : L.PrivateKey}
    (keys : L.DecryptUndoesEncrypt public_key private_key) {seed : L.Seed} {message : Message}
    (json : L.ParseUndoesSerialize message.payload) {payload_buffer : Bytes}
    (encrypted : encrypt L seed (payload_to_buffer L message.payload) public_key = .ok payload_buffer) :
    openPayload L private_key message.narrowed.header payload_buffer = .ok message.narrowed := by
  have narrowedJson : L.ParseUndoesSerialize message.narrowed.payload := json
  exact openPayload_encrypt keys narrowedJson encrypted

/-- A datagram that a call sends carries the narrowed message, and so the message that
    the call built exactly when no length of one octet loses anything. -/
theorem sent_message_decodes_iff {config : Config L} {env : Environment L}
    {destination_address destination_login text buffer : Bytes} {public_key : L.PublicKey} {private_key : L.PrivateKey}
    {endpoint : Endpoint L} {caller : Node L} {t : Step L} (keys : L.DecryptUndoesEncrypt public_key private_key)
    (json : L.ParseUndoesSerialize ⟨1700000000, text⟩)
    (call : (send_message config env destination_address destination_login public_key text).run ⟨caller, []⟩ = .ok () t)
    (sent : .send_to .message buffer endpoint ∈ t.effects) :
    ∃ destination_ip destination_port message inner signature,
      get_ip_and_port_from_address destination_address = .ok (destination_ip, destination_port) ∧
      composed config env destination_address destination_login public_key text = .ok (message, inner) ∧
      ∀ beyond beyond_message, signed_message_from_buffer buffer beyond = .ok ⟨inner, signature⟩ ∧
        message_from_buffer L inner beyond_message private_key = .ok message.narrowed ∧
        (message_from_buffer L inner beyond_message private_key = .ok message ↔
          config.my_ip_.length ≤ 255 ∧ config.my_login_.length ≤ 255 ∧ destination_ip.length ≤ 255 ∧
            destination_login.length ≤ 255) := by
  obtain ⟨message, inner, signature, -, built, -, -, rfl, fits⟩ := datagram_of_sent call sent
  obtain ⟨payload_buffer, encrypted, starts⟩ := composed_starts built (by omega)
  obtain ⟨ip, port, -, address, made, -, -⟩ := composed_eq_ok built
  have payload : message.payload = ⟨1700000000, text⟩ := by rw [made]; rfl
  have short : message.Short ↔ config.my_ip_.length ≤ 255 ∧ config.my_login_.length ≤ 255 ∧ ip.length ≤ 255 ∧
      destination_login.length ≤ 255 := by rw [made]; rfl
  refine ⟨ip, port, message, inner, signature, address, built, ?_⟩
  intro beyond beyond_message
  have framed : signed_message_from_buffer (signed_message_to_buffer ⟨inner, signature⟩) beyond = .ok ⟨inner, signature⟩ :=
    signed_message_from_buffer_to_buffer (by simp only; omega) (by simp only; omega) beyond
  have decoded : message_from_buffer L inner beyond_message private_key = .ok message.narrowed := by
    rw [message_from_buffer_of_starts L starts]
    exact openPayload_narrowed keys (by rw [payload]; exact json) encrypted
  refine ⟨framed, decoded, ?_⟩
  rw [decoded, Except.ok.injEq, message.narrowed_eq_self_iff, short]

theorem sent_message_decodes_iff_sample :
    message_from_buffer Sample.libraries Sample.inner (fun _ => 0) Sample.receiver.private_key_ = .ok Sample.message := by
  let call := (send_message Sample.sender Sample.environment Sample.destination_address Sample.message.destination_login
    Sample.receiver.public_key Sample.message.payload.text).run ⟨Node.initial _, []⟩
  have returned : call = .ok () (after call) := eq_ok_of_returns (by decide +kernel)
  have sent : .send_to .message Sample.datagram ⟨(127, 0, 0, 1), 4001⟩ ∈ (after call).effects := by decide +kernel
  have sample : composed Sample.sender Sample.environment Sample.destination_address Sample.message.destination_login
    Sample.receiver.public_key Sample.message.payload.text = .ok (Sample.message, Sample.inner) := by decide +kernel
  have plain : get_ip_and_port_from_address Sample.destination_address = .ok (Sample.message.destination_ip, 4001) := by
    decide +kernel
  have keys : Sample.libraries.DecryptUndoesEncrypt Sample.receiver.public_key Sample.receiver.private_key_ :=
    Sample.decryptUndoesEncrypt _
  obtain ⟨ip, port, message, inner, signature, address, built, decodes⟩ :=
    sent_message_decodes_iff keys (Sample.parseUndoesSerialize _) returned sent
  obtain ⟨rfl, rfl⟩ := Prod.mk.inj (Except.ok.inj (sample.symm.trans built))
  obtain ⟨rfl, -⟩ := Prod.mk.inj (Except.ok.inj (plain.symm.trans address))
  exact (decodes (fun _ => 0) fun _ => 0).2.2.mpr (by decide)

/-- The sender with a login of 256 octets. -/
def longSender : Config Sample.libraries := { Sample.sender with my_login_ := List.replicate 256 97 }

/-- The call of that sender. -/
def longCall : EStateM.Result Exception (Step Sample.libraries) Unit :=
  (send_message longSender Sample.environment Sample.destination_address Sample.message.destination_login
    Sample.receiver.public_key Sample.message.payload.text).run ⟨Node.initial _, []⟩

/-- The effect is a datagram of a call. -/
def isMessage : Effect L → Bool
  | .send_to .message _ _ => true
  | _ => false

theorem isMessage_iff (effect : Effect L) :
    isMessage effect = true ↔ ∃ buffer endpoint, effect = .send_to .message buffer endpoint := by
  constructor
  · intro kind
    unfold isMessage at kind
    split at kind
    · exact ⟨_, _, rfl⟩
    · cases kind
  · rintro ⟨buffer, endpoint, rfl⟩
    rfl

/-- The message of a sender whose login has 256 octets is sent, signed and decoded, and has
    no source login any more. -/
theorem long_login_is_lost :
    ∃ (t : Step Sample.libraries) (message : Message) (inner buffer : Bytes) (endpoint : Endpoint Sample.libraries)
      (signature : Bytes),
      longCall = .ok () t ∧ .send_to .message buffer endpoint ∈ t.effects ∧
      composed longSender Sample.environment Sample.destination_address Sample.message.destination_login
        Sample.receiver.public_key Sample.message.payload.text = .ok (message, inner) ∧
      signed_message_from_buffer buffer (fun _ => 0) = .ok ⟨inner, signature⟩ ∧
      message_from_buffer Sample.libraries inner (fun _ => 0) Sample.receiver.private_key_ =
        .ok { message with source_login := [] } ∧
      message.source_login ≠ [] := by
  have returned : longCall = .ok () (after longCall) := eq_ok_of_returns (by decide +kernel)
  have sends : (after longCall).effects.any isMessage = true := by decide +kernel
  obtain ⟨effect, member, kind⟩ := List.any_eq_true.mp sends
  obtain ⟨buffer, endpoint, rfl⟩ := (isMessage_iff effect).mp kind
  obtain ⟨message, inner, signature, -, built, -, -, rfl, fits⟩ := datagram_of_sent returned member
  let sent : Message := { Sample.message with source_login := longSender.my_login_ }
  have sample : composed longSender Sample.environment Sample.destination_address Sample.message.destination_login
      Sample.receiver.public_key Sample.message.payload.text =
        .ok (sent, (message_block sent (9 :: Sample.document 1700000000 sent.payload.text)).vector) := by decide +kernel
  obtain ⟨rfl, rfl⟩ := Prod.mk.inj (Except.ok.inj (sample.symm.trans built))
  refine ⟨_, _, _, _, endpoint, signature, returned, member, built, ?_, by decide +kernel, by decide⟩
  exact signed_message_from_buffer_to_buffer (by simp only; omega) (by simp only; omega) _

end P2PMessenger
