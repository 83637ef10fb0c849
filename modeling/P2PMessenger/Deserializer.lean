import P2PMessenger.Serializer
import P2PMessenger.Throwing

/-!
The decoders of `message_deserializer.cpp`. They read lengths and fields through a
pointer and compare the accumulated size with the buffer only at the end; two of
them never compare. What lies behind the buffer is a parameter: a decoder that
runs past the end reads it.
-/
namespace P2PMessenger
open Octets Memory Layout Throwing

/-- The exception of the length checks. -/
def notEnough : Exception := .length_error "Not enough buffer size"

/-- `signed_message_from_buffer` on a buffer that the pointer starts in. -/
def read_signed_message (buffer : Bytes) : EStateM Exception Cursor SignedMessage := do
  let mut size := 2 + 2
  if buffer.length < size then
    throw notEnough
  let message ← readCounted 2
  size := size + message.length
  let signature ← readCounted 2
  size := size + signature.length
  if buffer.length < size then
    throw notEnough
  return ⟨message, signature⟩

/-- The part that `message_from_buffer` and `message_with_not_decrypted_payload_from_buffer`
    spell out alike, up to the last length check: the message without its payload,
    and the size of the payload. -/
def read_header (buffer : Bytes) : EStateM Exception Cursor (Message × Nat) := do
  let mut size := 8 + 1 + 2 + 1 + 2 + 1 + 2 + 1 + 2 + 2
  if buffer.length < size then
    throw notEnough
  let id ← readUint 8
  let source_ip ← readCounted 1
  size := size + source_ip.length
  let source_port ← readUint 2
  let source_login ← readCounted 1
  size := size + source_login.length
  let source_public_key ← readCounted 2
  size := size + source_public_key.length
  let destination_ip ← readCounted 1
  size := size + destination_ip.length
  let destination_port ← readUint 2
  let destination_login ← readCounted 1
  size := size + destination_login.length
  let destination_public_key ← readCounted 2
  size := size + destination_public_key.length
  let payload_buffer_size ← readUint 2
  size := size + payload_buffer_size
  if buffer.length < size then
    throw notEnough
  return ({
    id := UInt64.ofNat id
    source_ip := source_ip
    source_port := UInt16.ofNat source_port
    source_login := source_login
    source_public_key := source_public_key
    destination_ip := destination_ip
    destination_port := UInt16.ofNat destination_port
    destination_login := destination_login
    destination_public_key := destination_public_key
    payload := .zero }, payload_buffer_size)

def read_message (L : Libraries) (buffer : Bytes) (private_key : L.PrivateKey) :
    EStateM Exception Cursor Message := do
  let (message, payload_buffer_size) ← read_header buffer
  let payload_buffer ← read payload_buffer_size
  let payload_buffer ← MonadExcept.ofExcept (decrypt L payload_buffer private_key)
  let payload ← MonadExcept.ofExcept (payload_from_buffer L payload_buffer)
  return { message with payload := payload }

def read_message_with_not_decrypted_payload (buffer : Bytes) : EStateM Exception Cursor Message := do
  let (message, _) ← read_header buffer
  return message

def read_destinantion_public_key : EStateM Empty Cursor Bytes := do
  skip 8
  let source_ip_size ← readUint 1
  skip source_ip_size
  skip 2
  let source_login_size ← readUint 1
  skip source_login_size
  let source_public_key_size ← readUint 2
  skip source_public_key_size
  let destination_ip_size ← readUint 1
  skip destination_ip_size
  skip 2
  let destination_login_size ← readUint 1
  skip destination_login_size
  readCounted 2

def read_metadata : EStateM Empty Cursor (Bytes × Bytes) := do
  let login ← readCounted 2
  let public_key ← readCounted 2
  return (login, public_key)

/-! ## The decoders on a buffer and the memory behind it -/

def signed_message_from_buffer (buffer : Bytes) (beyond : Contents) : Except Exception SignedMessage :=
  outcome ((read_signed_message buffer).run (start buffer beyond))

def message_from_buffer (L : Libraries) (buffer : Bytes) (beyond : Contents) (private_key : L.PrivateKey) :
    Except Exception Message :=
  outcome ((read_message L buffer private_key).run (start buffer beyond))

def message_with_not_decrypted_payload_from_buffer (buffer : Bytes) (beyond : Contents) : Except Exception Message :=
  outcome ((read_message_with_not_decrypted_payload buffer).run (start buffer beyond))

/-- Neither this decoder nor `metadata_from_buffer` can throw. -/
def destinantion_public_key_from_buffer (buffer : Bytes) (beyond : Contents) : Bytes :=
  match read_destinantion_public_key.run (start buffer beyond) with
  | .ok key _ => key
  | .error e _ => e.elim

def metadata_from_buffer (buffer : Bytes) (beyond : Contents) : Bytes × Bytes :=
  match read_metadata.run (start buffer beyond) with
  | .ok metadata _ => metadata
  | .error e _ => e.elim

/-- The accesses that `signed_message_from_buffer` makes. -/
def signed_message_reads (buffer : Bytes) (beyond : Contents) : Accesses :=
  accesses ((read_signed_message buffer).run (start buffer beyond))

/-- The accesses that `message_from_buffer` makes. -/
def message_reads (L : Libraries) (buffer : Bytes) (beyond : Contents) (private_key : L.PrivateKey) : Accesses :=
  accesses ((read_message L buffer private_key).run (start buffer beyond))

/-- The accesses that `message_with_not_decrypted_payload_from_buffer` makes. -/
def message_with_not_decrypted_payload_reads (buffer : Bytes) (beyond : Contents) : Accesses :=
  accesses ((read_message_with_not_decrypted_payload buffer).run (start buffer beyond))

/-- The accesses that `destinantion_public_key_from_buffer` makes. -/
def destinantion_public_key_reads (buffer : Bytes) (beyond : Contents) : Accesses :=
  accesses (read_destinantion_public_key.run (start buffer beyond))

/-- The accesses that `metadata_from_buffer` makes. -/
def metadata_reads (buffer : Bytes) (beyond : Contents) : Accesses :=
  accesses (read_metadata.run (start buffer beyond))

/-- `MessageDeserializer::check_signature`. -/
def check_signature (L : Libraries) (signed_message : SignedMessage) (public_key : L.PublicKey) :
    Except Exception Bool :=
  orThrow .crypto_exception (L.checkSignature public_key signed_message.message signed_message.signature)

/-! ## What the decoders read -/

/-- The message that the values of the inner layout stand for. -/
def messageOf : List Bytes → Message
  | [id, source_ip, source_port, source_login, source_public_key, destination_ip, destination_port,
      destination_login, destination_public_key, _] =>
    { id := UInt64.ofNat (ofLE id)
      source_ip := source_ip
      source_port := UInt16.ofNat (ofLE source_port)
      source_login := source_login
      source_public_key := source_public_key
      destination_ip := destination_ip
      destination_port := UInt16.ofNat (ofLE destination_port)
      destination_login := destination_login
      destination_public_key := destination_public_key
      payload := .zero }
  | _ => ⟨0, [], 0, [], [], [], 0, [], [], .zero⟩

/-- The payload of the inner layout. -/
def payloadOf (values : List Bytes) : Bytes := (values[9]?).getD []

/-- The signed message that the values of its layout stand for. -/
def signedOf : List Bytes → SignedMessage
  | [message, signature] => ⟨message, signature⟩
  | _ => ⟨[], []⟩

theorem messageOf_fields (message : Message) (payload_buffer : Bytes) :
    messageOf (message.fields payload_buffer) = message.header := by
  have id : ofLE (toLE 8 message.id.toNat) = message.id.toNat := ofLE_toLE_of_lt message.id.toNat_lt
  have source : ofLE (toLE 2 message.source_port.toNat) = message.source_port.toNat :=
    ofLE_toLE_of_lt message.source_port.toNat_lt
  have destination : ofLE (toLE 2 message.destination_port.toNat) = message.destination_port.toNat :=
    ofLE_toLE_of_lt message.destination_port.toNat_lt
  simp [messageOf, Message.fields, Message.header, id, source, destination]

theorem payloadOf_fields (message : Message) (payload_buffer : Bytes) :
    payloadOf (message.fields payload_buffer) = payload_buffer := rfl

theorem fields_messageOf {values : List Bytes} (fits : Fits messageLayout values) :
    (messageOf values).fields (payloadOf values) = values := by
  simp only [Fits, messageLayout, List.forall₂_cons_left_iff, List.forall₂_nil_left_iff] at fits
  obtain ⟨id, _, idFits, ⟨ip, _, _, ⟨port, _, portFits, ⟨login, _, _, ⟨key, _, _, ⟨ip', _, _, ⟨port', _, portFits',
    ⟨login', _, _, ⟨key', _, _, ⟨payload, _, _, rfl, rfl⟩, rfl⟩, rfl⟩, rfl⟩, rfl⟩, rfl⟩, rfl⟩, rfl⟩, rfl⟩, rfl⟩ := fits
  simp only [Field.Fits] at idFits portFits portFits'
  have idBound : ofLE id < 2 ^ 64 := by simpa [idFits] using ofLE_lt id
  have portBound : ofLE port < 2 ^ 16 := by simpa [portFits] using ofLE_lt port
  have portBound' : ofLE port' < 2 ^ 16 := by simpa [portFits'] using ofLE_lt port'
  simp only [messageOf, Message.fields, payloadOf, UInt64.toNat_ofNat_of_lt' idBound,
    UInt16.toNat_ofNat_of_lt' portBound, UInt16.toNat_ofNat_of_lt' portBound', toLE_ofLE_of_length idFits,
    toLE_ofLE_of_length portFits, toLE_ofLE_of_length portFits']
  rfl

theorem fields_signedOf {values : List Bytes} (fits : Fits signedLayout values) :
    (signedOf values).fields = values := by
  simp only [Fits, signedLayout, List.forall₂_cons_left_iff, List.forall₂_nil_left_iff] at fits
  obtain ⟨message, _, _, ⟨signature, _, _, rfl, rfl⟩, rfl⟩ := fits
  rfl

/-- Where the last length check sees the pointer past the end, the first check
    changes nothing: the layout has at least the octets that it asks for. -/
theorem ite_checks {α : Type} {size least last : Nat} (bound : least ≤ last) (one two three : α) :
    (if size < least then one else if size < last then two else three) =
      if size < last then (if size < least then one else two) else three := by
  split_ifs <;> first | rfl | omega

theorem read_header_run (buffer : Bytes) (beyond : Contents) :
    ∃ stop next : Cursor, (read_header buffer).run (start buffer beyond) =
        (if buffer.length < (scan messageLayout (view buffer beyond) 0).2 then .error notEnough stop
        else .ok (messageOf (scan messageLayout (view buffer beyond) 0).1,
          (payloadOf (scan messageLayout (view buffer beyond) 0).1).length) next) ∧
      slice next.memory next.ptr (payloadOf (scan messageLayout (view buffer beyond) 0).1).length =
        payloadOf (scan messageLayout (view buffer beyond) 0).1 := by
  unfold read_header
  simp only [run_ite, EStateM.run_bind, run_readUint, run_readCounted, run_throw, EStateM.run_pure]
  -- The two checks together compare the buffer with the end of the layout.
  have claimed := scan_end messageLayout (view buffer beyond) 0
  have payload := Field.scan_counted_length 2 (view buffer beyond) (scan (messageLayout.take 9) (view buffer beyond) 0).2
  simp only [messageLayout, List.take_succ_cons, List.take_zero, scan, encode, Field.encode, List.length_append,
    toLE_length, Field.scan_fixed_length, List.length_nil] at claimed payload
  simp only [messageLayout, scan, payloadOf, messageOf, List.getElem?_cons_succ, List.getElem?_cons_zero,
    Option.getD_some, payload]
  rw [ite_checks (by omega)]
  set next := past (messageLayout.take 9 ++ [.fixed 2]) (start buffer beyond)
  refine ⟨if buffer.length < 22 then start buffer beyond else next, next, ?_, rfl⟩
  rw [apply_ite (EStateM.Result.error notEnough)]
  refine if_congr ?_ rfl rfl
  simp only [Field.past, start]
  omega

theorem signed_message_from_buffer_eq (buffer : Bytes) (beyond : Contents) :
    signed_message_from_buffer buffer beyond =
      if buffer.length < (scan signedLayout (view buffer beyond) 0).2 then .error notEnough
      else .ok (signedOf (scan signedLayout (view buffer beyond) 0).1) := by
  have claimed := scan_end signedLayout (view buffer beyond) 0
  simp only [signedLayout, scan, encode, Field.encode, List.length_append, toLE_length, List.length_nil] at claimed
  unfold signed_message_from_buffer read_signed_message
  simp only [run_ite, EStateM.run_bind, run_readCounted, run_throw, EStateM.run_pure]
  simp only [signedLayout, scan, signedOf, Field.past, start]
  by_cases first : buffer.length < 2 + 2
  · rw [if_pos first, if_pos (by omega)]
    rfl
  · rw [if_neg first]
    refine (apply_ite outcome _ _ _).trans (if_congr ?_ rfl rfl)
    omega

theorem message_with_not_decrypted_payload_from_buffer_eq (buffer : Bytes) (beyond : Contents) :
    message_with_not_decrypted_payload_from_buffer buffer beyond =
      if buffer.length < (scan messageLayout (view buffer beyond) 0).2 then .error notEnough
      else .ok (messageOf (scan messageLayout (view buffer beyond) 0).1) := by
  obtain ⟨stop, next, header, -⟩ := read_header_run buffer beyond
  unfold message_with_not_decrypted_payload_from_buffer read_message_with_not_decrypted_payload
  rw [EStateM.run_bind, header]
  by_cases short : buffer.length < (scan messageLayout (view buffer beyond) 0).2
  · rw [if_pos short, if_pos short]
    rfl
  · rw [if_neg short, if_neg short]
    rfl

/-- What `message_from_buffer` does with a header and a payload that were read. -/
def openPayload (L : Libraries) (private_key : L.PrivateKey) (message : Message) (payload_buffer : Bytes) :
    Except Exception Message := do
  let payload_buffer ← decrypt L payload_buffer private_key
  let payload ← payload_from_buffer L payload_buffer
  return { message with payload := payload }

theorem message_from_buffer_eq (L : Libraries) (buffer : Bytes) (beyond : Contents) (private_key : L.PrivateKey) :
    message_from_buffer L buffer beyond private_key =
      if buffer.length < (scan messageLayout (view buffer beyond) 0).2 then .error notEnough
      else openPayload L private_key (messageOf (scan messageLayout (view buffer beyond) 0).1)
        (payloadOf (scan messageLayout (view buffer beyond) 0).1) := by
  obtain ⟨stop, next, header, payload⟩ := read_header_run buffer beyond
  unfold message_from_buffer read_message openPayload
  rw [EStateM.run_bind, header]
  by_cases short : buffer.length < (scan messageLayout (view buffer beyond) 0).2
  · rw [if_pos short, if_pos short]
    rfl
  · rw [if_neg short, if_neg short]
    simp only [EStateM.run_bind, run_read, payload, run_ofExcept]
    cases opened : decrypt L (payloadOf (scan messageLayout (view buffer beyond) 0).1) private_key with
    | error e => rfl
    | ok text =>
      simp only [bind, Except.bind]
      cases payload_from_buffer L text <;> rfl

/-- Without a length check, the destination key is read wherever the counts point. -/
theorem destinantion_public_key_from_buffer_eq (buffer : Bytes) (beyond : Contents) :
    destinantion_public_key_from_buffer buffer beyond =
      (messageOf (scan messageLayout (view buffer beyond) 0).1).destination_public_key := rfl

/-! ## The decoders against the layouts -/

/-- `signed_message_from_buffer` returns the signed message that starts the buffer,
    whatever lies behind the buffer, and throws when none does. -/
theorem signed_message_from_buffer_cases (buffer : Bytes) :
    (∃ signed_message : SignedMessage, Starts signedLayout signed_message.fields buffer ∧
      ∀ beyond, signed_message_from_buffer buffer beyond = .ok signed_message) ∨
    ((∀ values, ¬ Starts signedLayout values buffer) ∧
      ∀ beyond, signed_message_from_buffer buffer beyond = .error notEnough) := by
  rcases scan_cases signedLayout buffer with ⟨values, starts, read⟩ | ⟨none, outside⟩
  · refine .inl ⟨signedOf values, ?_, fun beyond => ?_⟩
    · rw [fields_signedOf starts.1]
      exact starts
    · rw [signed_message_from_buffer_eq, if_neg (Nat.not_lt.mpr (read beyond).1), (read beyond).2]
  · refine .inr ⟨none, fun beyond => ?_⟩
    rw [signed_message_from_buffer_eq, if_pos (outside beyond)]

/-- The two message decoders read the same header, whatever lies behind the buffer. -/
theorem message_from_buffer_cases (buffer : Bytes) :
    (∃ (message : Message) (payload_buffer : Bytes), message.payload = .zero ∧
      Starts messageLayout (message.fields payload_buffer) buffer ∧
      ∀ beyond, message_with_not_decrypted_payload_from_buffer buffer beyond = .ok message ∧
        destinantion_public_key_from_buffer buffer beyond = message.destination_public_key ∧
        ∀ (L : Libraries) (private_key : L.PrivateKey),
          message_from_buffer L buffer beyond private_key = openPayload L private_key message payload_buffer) ∨
    ((∀ values, ¬ Starts messageLayout values buffer) ∧
      ∀ beyond, message_with_not_decrypted_payload_from_buffer buffer beyond = .error notEnough ∧
        ∀ (L : Libraries) (private_key : L.PrivateKey),
          message_from_buffer L buffer beyond private_key = .error notEnough) := by
  rcases scan_cases messageLayout buffer with ⟨values, starts, read⟩ | ⟨none, outside⟩
  · refine .inl ⟨messageOf values, payloadOf values, ?_, ?_, fun beyond => ⟨?_, ?_, fun L private_key => ?_⟩⟩
    · unfold messageOf
      split <;> rfl
    · rw [fields_messageOf starts.1]
      exact starts
    · rw [message_with_not_decrypted_payload_from_buffer_eq, if_neg (Nat.not_lt.mpr (read beyond).1),
        (read beyond).2]
    · rw [destinantion_public_key_from_buffer_eq, (read beyond).2]
    · rw [message_from_buffer_eq, if_neg (Nat.not_lt.mpr (read beyond).1), (read beyond).2]
  · refine .inr ⟨none, fun beyond => ⟨?_, fun L private_key => ?_⟩⟩
    · rw [message_with_not_decrypted_payload_from_buffer_eq, if_pos (outside beyond)]
    · rw [message_from_buffer_eq, if_pos (outside beyond)]

/-- A signed message at the start of a buffer is the one that is read. -/
theorem signed_message_from_buffer_of_starts {buffer : Bytes} {signed_message : SignedMessage}
    (starts : Starts signedLayout signed_message.fields buffer) (beyond : Contents) :
    signed_message_from_buffer buffer beyond = .ok signed_message := by
  obtain ⟨inside, read⟩ := (scan_iff _ _ _ beyond).mp starts
  rw [signed_message_from_buffer_eq, if_neg (by omega), read]
  rfl

theorem message_with_not_decrypted_payload_from_buffer_of_starts {buffer payload_buffer : Bytes} {message : Message}
    (starts : Starts messageLayout (message.fields payload_buffer) buffer) (beyond : Contents) :
    message_with_not_decrypted_payload_from_buffer buffer beyond = .ok message.header := by
  obtain ⟨inside, read⟩ := (scan_iff _ _ _ beyond).mp starts
  rw [message_with_not_decrypted_payload_from_buffer_eq, if_neg (by omega), read, messageOf_fields]

theorem destinantion_public_key_from_buffer_of_starts {buffer payload_buffer : Bytes} {message : Message}
    (starts : Starts messageLayout (message.fields payload_buffer) buffer) (beyond : Contents) :
    destinantion_public_key_from_buffer buffer beyond = message.destination_public_key := by
  obtain ⟨inside, read⟩ := (scan_iff _ _ _ beyond).mp starts
  rw [destinantion_public_key_from_buffer_eq, read, messageOf_fields]
  rfl

theorem message_from_buffer_of_starts (L : Libraries) {buffer payload_buffer : Bytes} {message : Message}
    (starts : Starts messageLayout (message.fields payload_buffer) buffer) (beyond : Contents)
    (private_key : L.PrivateKey) :
    message_from_buffer L buffer beyond private_key = openPayload L private_key message.header payload_buffer := by
  obtain ⟨inside, read⟩ := (scan_iff _ _ _ beyond).mp starts
  rw [message_from_buffer_eq, if_neg (by omega), read, messageOf_fields, payloadOf_fields]

theorem signed_message_from_buffer_ok_iff (buffer : Bytes) (beyond : Contents) (signed_message : SignedMessage) :
    signed_message_from_buffer buffer beyond = .ok signed_message ↔
      Starts signedLayout signed_message.fields buffer := by
  constructor
  · intro read
    rcases signed_message_from_buffer_cases buffer with ⟨there, starts, ok⟩ | ⟨-, error⟩
    · rw [ok beyond] at read
      cases read
      exact starts
    · rw [error beyond] at read
      cases read
  · intro starts
    exact signed_message_from_buffer_of_starts starts beyond

theorem message_with_not_decrypted_payload_from_buffer_ok_iff (buffer : Bytes) (beyond : Contents) (message : Message) :
    message_with_not_decrypted_payload_from_buffer buffer beyond = .ok message ↔
      message.payload = .zero ∧ ∃ payload_buffer, Starts messageLayout (message.fields payload_buffer) buffer := by
  constructor
  · intro read
    rcases message_from_buffer_cases buffer with ⟨there, payload_buffer, zero, starts, ok⟩ | ⟨-, error⟩
    · rw [(ok beyond).1] at read
      cases read
      exact ⟨zero, payload_buffer, starts⟩
    · rw [(error beyond).1] at read
      cases read
  · rintro ⟨zero, payload_buffer, starts⟩
    rw [message_with_not_decrypted_payload_from_buffer_of_starts starts, Message.header, ← zero]

/-- Opening a payload changes nothing but the payload. -/
theorem openPayload_header {L : Libraries} {private_key : L.PrivateKey} {message opened : Message}
    {payload_buffer : Bytes} (ok : openPayload L private_key message payload_buffer = .ok opened) :
    opened.header = message.header := by
  unfold openPayload at ok
  obtain ⟨text, -, ok⟩ := bind_eq_ok ok
  obtain ⟨payload, -, ok⟩ := bind_eq_ok ok
  rw [← Except.ok.inj ok]
  rfl

/-- `message_from_buffer` returns the message that starts the buffer, when its payload
    opens. -/
theorem message_from_buffer_ok_iff (L : Libraries) (buffer : Bytes) (beyond : Contents) (private_key : L.PrivateKey)
    (message : Message) :
    message_from_buffer L buffer beyond private_key = .ok message ↔
      ∃ payload_buffer, Starts messageLayout (message.fields payload_buffer) buffer ∧
        openPayload L private_key message.header payload_buffer = .ok message := by
  constructor
  · intro read
    rcases message_from_buffer_cases buffer with ⟨there, payload_buffer, zero, starts, ok⟩ | ⟨-, error⟩
    · rw [(ok beyond).2.2 L private_key] at read
      have same := openPayload_header read
      have bare : there.header = there := by rw [Message.header, ← zero]
      rw [bare] at same
      refine ⟨payload_buffer, ?_, ?_⟩
      · rw [← same] at starts
        exact starts
      · rw [same]
        exact read
    · rw [(error beyond).2] at read
      cases read
  · rintro ⟨payload_buffer, starts, opens⟩
    rw [message_from_buffer_of_starts L starts, opens]

/-- Metadata is read wherever its counts point, and what is read is what is there. -/
theorem metadata_from_buffer_eq (buffer : Bytes) (beyond : Contents) :
    [(metadata_from_buffer buffer beyond).1, (metadata_from_buffer buffer beyond).2] =
      (scan metadataLayout (view buffer beyond) 0).1 := rfl

theorem metadata_from_buffer_of_starts {buffer login public_key : Bytes}
    (starts : Starts metadataLayout [login, public_key] buffer) (beyond : Contents) :
    metadata_from_buffer buffer beyond = (login, public_key) := by
  have read := ((scan_iff _ _ _ beyond).mp starts).2
  rw [← metadata_from_buffer_eq] at read
  simp only [List.cons.injEq, and_true] at read
  exact Prod.ext read.1 read.2

/-- Opening the payload that was encrypted gives the message back. -/
theorem openPayload_encrypt {L : Libraries} {public_key : L.PublicKey} {private_key : L.PrivateKey}
    (keys : L.DecryptUndoesEncrypt public_key private_key) {seed : L.Seed} {message : Message}
    (json : L.ParseUndoesSerialize message.payload) {payload_buffer : Bytes}
    (encrypted : encrypt L seed (payload_to_buffer L message.payload) public_key = .ok payload_buffer) :
    openPayload L private_key message.header payload_buffer = .ok message := by
  have there := orThrow_eq_ok.mp encrypted
  unfold openPayload decrypt
  rw [keys _ _ _ there]
  simp only [orThrow_some, bind, Except.bind, payload_round_trip json]
  rfl

/-- What opening a payload throws is not what the length checks throw. -/
theorem openPayload_ne_notEnough (L : Libraries) (private_key : L.PrivateKey) (message : Message)
    (payload_buffer : Bytes) : openPayload L private_key message payload_buffer ≠ .error notEnough := by
  intro throws
  unfold openPayload at throws
  rcases bind_eq_error throws with decrypt | ⟨text, -, throws⟩
  · cases orThrow_eq_error decrypt
  rcases bind_eq_error throws with parse | ⟨payload, -, throws⟩
  · cases payload_from_buffer_error parse
  · cases throws

end P2PMessenger
