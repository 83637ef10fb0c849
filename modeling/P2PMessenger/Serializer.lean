import P2PMessenger.Layout
import P2PMessenger.Message

/-!
The encoders of `message_serializer.cpp`. Each allocates a vector of a computed size
and writes the fields through a pointer that nothing checks against it; a length is
cast to the width of its size field, while the computed size uses the full length.
-/
namespace P2PMessenger
open Octets Memory Layout

/-- The layout of the inner message: id, source IP, port, login and key, destination
    IP, port, login and key, payload. -/
def messageLayout : List Field :=
  [.fixed 8, .counted 1, .fixed 2, .counted 1, .counted 2, .counted 1, .fixed 2, .counted 1, .counted 2, .counted 2]

/-- The layout of a signed message: the inner message and its signature. -/
def signedLayout : List Field := [.counted 2, .counted 2]

/-- The layout of hole-punch metadata as the encoder writes it: login and key. -/
def metadataLayout : List Field := [.counted 2, .counted 2]

/-- The values of the inner message's layout. -/
def Message.fields (message : Message) (payload_buffer : Bytes) : List Bytes :=
  [toLE 8 message.id.toNat, message.source_ip, toLE 2 message.source_port.toNat, message.source_login,
    message.source_public_key, message.destination_ip, toLE 2 message.destination_port.toNat,
    message.destination_login, message.destination_public_key, payload_buffer]

def SignedMessage.fields (signed_message : SignedMessage) : List Bytes :=
  [signed_message.message, signed_message.signature]

/-- No length of the message is narrowed by its size field. -/
structure Message.Bounded (message : Message) (payload_buffer : Bytes) : Prop where
  source_ip : message.source_ip.length ≤ 255
  source_login : message.source_login.length ≤ 255
  source_public_key : message.source_public_key.length ≤ 65535
  destination_ip : message.destination_ip.length ≤ 255
  destination_login : message.destination_login.length ≤ 255
  destination_public_key : message.destination_public_key.length ≤ 65535
  payload_buffer : payload_buffer.length ≤ 65535

/-- The block that `message_to_buffer` fills, for the payload as it goes on the wire. -/
def message_block (message : Message) (payload_buffer : Bytes) : Block :=
  let size := 8
    + (1 + message.source_ip.length)
    + 2
    + (1 + message.source_login.length)
    + (2 + message.source_public_key.length)
    + (1 + message.destination_ip.length)
    + 2
    + (1 + message.destination_login.length)
    + (2 + message.destination_public_key.length)
    + (2 + payload_buffer.length)
  filled size do
    write (toLE 8 message.id.toNat)
    writeCounted 1 message.source_ip
    write (toLE 2 message.source_port.toNat)
    writeCounted 1 message.source_login
    writeCounted 2 message.source_public_key
    writeCounted 1 message.destination_ip
    write (toLE 2 message.destination_port.toNat)
    writeCounted 1 message.destination_login
    writeCounted 2 message.destination_public_key
    writeCounted 2 payload_buffer

/-- The payload as it goes on the wire: encrypted when a key is given. -/
def payload_on_wire (L : Libraries) (seed : L.Seed) (payload : Payload) (public_key : Option L.PublicKey) :
    Except Exception Bytes :=
  match public_key with
  | some key => encrypt L seed (payload_to_buffer L payload) key
  | none => .ok (payload_to_buffer L payload)

def message_to_buffer (L : Libraries) (seed : L.Seed) (message : Message) (public_key : Option L.PublicKey) :
    Except Exception Bytes := do
  let payload_buffer ← payload_on_wire L seed message.payload public_key
  return (message_block message payload_buffer).vector

def sign (L : Libraries) (buffer : Bytes) (private_key : L.PrivateKey) : Except Exception Bytes :=
  orThrow .crypto_exception (L.sign private_key buffer)

def signed_message_block (signed_message : SignedMessage) : Block :=
  let size := (2 + signed_message.message.length) + (2 + signed_message.signature.length)
  filled size do
    writeCounted 2 signed_message.message
    writeCounted 2 signed_message.signature

def signed_message_to_buffer (signed_message : SignedMessage) : Bytes := (signed_message_block signed_message).vector

/-- The size counts one octet for the length of the login, and two are written. -/
def metadata_block (login public_key : Bytes) : Block :=
  let size := (1 + login.length) + (2 + public_key.length)
  filled size do
    writeCounted 2 login
    writeCounted 2 public_key

def metadata_to_buffer (login public_key : Bytes) : Bytes := (metadata_block login public_key).vector

theorem Message.fits_iff (message : Message) (payload_buffer : Bytes) :
    Fits messageLayout (message.fields payload_buffer) ↔ message.Bounded payload_buffer := by
  have fields : Fits messageLayout (message.fields payload_buffer) ↔
      message.source_ip.length < 256 ^ 1 ∧ message.source_login.length < 256 ^ 1 ∧
        message.source_public_key.length < 256 ^ 2 ∧ message.destination_ip.length < 256 ^ 1 ∧
        message.destination_login.length < 256 ^ 1 ∧ message.destination_public_key.length < 256 ^ 2 ∧
        payload_buffer.length < 256 ^ 2 := by
    simp only [Fits, messageLayout, Message.fields, List.forall₂_cons, List.forall₂_nil_left_iff, Field.Fits,
      toLE_length, true_and, and_true]
  rw [fields]
  constructor
  · rintro ⟨ip, login, key, ip', login', key', payload⟩
    exact ⟨by omega, by omega, by omega, by omega, by omega, by omega, by omega⟩
  · rintro ⟨ip, login, key, ip', login', key', payload⟩
    exact ⟨by omega, by omega, by omega, by omega, by omega, by omega, by omega⟩

theorem SignedMessage.fits_iff (signed_message : SignedMessage) :
    Fits signedLayout signed_message.fields ↔
      signed_message.message.length ≤ 65535 ∧ signed_message.signature.length ≤ 65535 := by
  simp [Fits, signedLayout, SignedMessage.fields, Field.Fits]
  omega

/-! ## What the encoders write -/

theorem message_block_written (message : Message) (payload_buffer : Bytes) :
    Written (message_block message payload_buffer)
      (encode messageLayout (narrow messageLayout (message.fields payload_buffer))) :=
  (writes_fields messageLayout (message.fields payload_buffer)).filled _

theorem signed_message_block_written (signed_message : SignedMessage) :
    Written (signed_message_block signed_message) (encode signedLayout (narrow signedLayout signed_message.fields)) :=
  (writes_fields signedLayout signed_message.fields).filled _

theorem metadata_block_written (login public_key : Bytes) :
    Written (metadata_block login public_key) (encode metadataLayout (narrow metadataLayout [login, public_key])) :=
  (writes_fields metadataLayout [login, public_key]).filled _

theorem encode_message_length (message : Message) (payload_buffer : Bytes) :
    (encode messageLayout (message.fields payload_buffer)).length =
      22 + message.source_ip.length + message.source_login.length + message.source_public_key.length +
        message.destination_ip.length + message.destination_login.length + message.destination_public_key.length +
        payload_buffer.length := by
  simp only [encode, messageLayout, Message.fields, Field.encode, List.length_append, List.length_nil, toLE_length]
  omega

theorem encode_signed_message_length (signed_message : SignedMessage) :
    (encode signedLayout signed_message.fields).length =
      4 + signed_message.message.length + signed_message.signature.length := by
  simp [encode, signedLayout, SignedMessage.fields, Field.encode]
  omega

/-- The allocated size counts every length in full. -/
theorem message_block_size (message : Message) (payload_buffer : Bytes) :
    (message_block message payload_buffer).size = (encode messageLayout (message.fields payload_buffer)).length := by
  have allocated := (writes_fields messageLayout (message.fields payload_buffer)).filled_size
    (8 + (1 + message.source_ip.length) + 2 + (1 + message.source_login.length)
      + (2 + message.source_public_key.length) + (1 + message.destination_ip.length) + 2
      + (1 + message.destination_login.length) + (2 + message.destination_public_key.length)
      + (2 + payload_buffer.length))
  refine allocated.trans ?_
  rw [encode_message_length]
  omega

theorem signed_message_block_size (signed_message : SignedMessage) :
    (signed_message_block signed_message).size = (encode signedLayout signed_message.fields).length := by
  refine ((writes_fields signedLayout signed_message.fields).filled_size
    ((2 + signed_message.message.length) + (2 + signed_message.signature.length))).trans ?_
  rw [encode_signed_message_length]
  omega

theorem message_block_vector_length (message : Message) (payload_buffer : Bytes) :
    (message_block message payload_buffer).vector.length =
      22 + message.source_ip.length + message.source_login.length + message.source_public_key.length +
        message.destination_ip.length + message.destination_login.length + message.destination_public_key.length +
        payload_buffer.length := by
  rw [Block.vector, slice_length, message_block_size, encode_message_length]

theorem signed_message_to_buffer_length (signed_message : SignedMessage) :
    (signed_message_to_buffer signed_message).length =
      4 + signed_message.message.length + signed_message.signature.length := by
  rw [signed_message_to_buffer, Block.vector, slice_length, signed_message_block_size, encode_signed_message_length]

/-- The allocated size is one octet short of the layout. -/
theorem metadata_block_size (login public_key : Bytes) :
    (metadata_block login public_key).size + 1 = (encode metadataLayout [login, public_key]).length := by
  have allocated := (writes_fields metadataLayout [login, public_key]).filled_size
    ((1 + login.length) + (2 + public_key.length))
  rw [show (metadata_block login public_key).size = (1 + login.length) + (2 + public_key.length) from allocated]
  simp [encode, metadataLayout, Field.encode]
  omega

/-- When no length is narrowed, the buffer is the layout of the message. -/
theorem message_block_vector {message : Message} {payload_buffer : Bytes} (bounded : message.Bounded payload_buffer) :
    (message_block message payload_buffer).vector = encode messageLayout (message.fields payload_buffer) := by
  have written := message_block_written message payload_buffer
  rw [narrow_of_fits ((message.fits_iff _).mpr bounded)] at written
  exact written.vector_eq (message_block_size message payload_buffer).symm

theorem fits_narrow (message : Message) (payload_buffer : Bytes) :
    Fits messageLayout (narrow messageLayout (message.fields payload_buffer)) := by
  have number : ∀ width n, (Field.fixed width).Fits ((Field.fixed width).narrow (toLE width n)) := toLE_length
  exact .cons (number _ _) (.cons (Field.fits_narrow _ _) (.cons (number _ _) (.cons (Field.fits_narrow _ _)
    (.cons (Field.fits_narrow _ _) (.cons (Field.fits_narrow _ _) (.cons (number _ _) (.cons (Field.fits_narrow _ _)
    (.cons (Field.fits_narrow _ _) (.cons (Field.fits_narrow _ _) .nil)))))))))

/-- Whatever the lengths are, the buffer starts with the layout of the cast values. -/
theorem message_block_starts (message : Message) (payload_buffer : Bytes) :
    Starts messageLayout (narrow messageLayout (message.fields payload_buffer))
      (message_block message payload_buffer).vector := by
  refine ⟨fits_narrow message payload_buffer, (message_block_written message payload_buffer).vector_begins ?_⟩
  rw [message_block_size]
  exact encode_narrow_length_le messageLayout _

theorem signed_message_to_buffer_eq {signed_message : SignedMessage} (message : signed_message.message.length ≤ 65535)
    (signature : signed_message.signature.length ≤ 65535) :
    signed_message_to_buffer signed_message = encode signedLayout signed_message.fields := by
  have written := signed_message_block_written signed_message
  rw [narrow_of_fits (signed_message.fits_iff.mpr ⟨message, signature⟩)] at written
  exact written.vector_eq (signed_message_block_size signed_message).symm

/-! ## Every write lands in its vector -/

/-- A block that was filled inside its vector: it was written to the end exactly when
    `whole`, and what is not written is zero. -/
structure FilledInside (block : Block) (whole : Prop) : Prop where
  inside : Inside block.size block.writes
  full : block.written = block.size ↔ whole
  rest : ∀ i, block.written ≤ i → i < block.size → block.vector[i]? = some 0

theorem filledInside_of_fields {block : Block} {layout : List Field} {values : List Bytes} {whole : Prop}
    (written : Written block (encode layout (narrow layout values))) (counted : block.written = block.ptr)
    (size : block.size = (encode layout values).length) (shape : layout.length = values.length)
    (fits : narrow layout values = values ↔ whole) : FilledInside block whole where
  inside := by
    rw [written.inside, size]
    exact encode_narrow_length_le layout values
  full := by
    rw [counted, written.ptr, size, ← fits]
    constructor
    · exact encode_narrow_length_eq shape
    · intro same
      rw [same]
  rest := by
    intro i past bound
    rw [counted, written.ptr] at past
    rw [Block.vector, slice_getElem?, if_pos bound, Nat.zero_add, written.memory, List.getElem?_eq_none past]
    rfl

theorem Message.narrow_fields_iff (message : Message) (payload_buffer : Bytes) :
    narrow messageLayout (message.fields payload_buffer) = message.fields payload_buffer ↔ message.Bounded payload_buffer := by
  constructor
  · intro same
    rw [← message.fits_iff, ← same]
    exact fits_narrow message payload_buffer
  · intro bounded
    exact narrow_of_fits ((message.fits_iff _).mpr bounded)

theorem SignedMessage.narrow_fields_iff (signed_message : SignedMessage) :
    narrow signedLayout signed_message.fields = signed_message.fields ↔
      signed_message.message.length ≤ 65535 ∧ signed_message.signature.length ≤ 65535 := by
  rw [← signed_message.fits_iff]
  constructor
  · intro same
    rw [← same]
    exact .cons (Field.fits_narrow _ _) (.cons (Field.fits_narrow _ _) .nil)
  · exact narrow_of_fits

/-- Whatever the lengths are, the encoders of messages write inside the vectors that they
    allocate; they fill them exactly when no length is narrowed, and leave zeros else. -/
theorem encoders_write_inside :
    (∀ (L : Libraries) (seed : L.Seed) (message : Message) (public_key : Option L.PublicKey),
      message_to_buffer L seed message public_key =
        (payload_on_wire L seed message.payload public_key).map fun payload_buffer =>
          (message_block message payload_buffer).vector) ∧
    (∀ (message : Message) (payload_buffer : Bytes),
      FilledInside (message_block message payload_buffer) (message.Bounded payload_buffer)) ∧
    (∀ signed_message : SignedMessage, signed_message_to_buffer signed_message = (signed_message_block signed_message).vector) ∧
    ∀ signed_message : SignedMessage,
      FilledInside (signed_message_block signed_message)
        (signed_message.message.length ≤ 65535 ∧ signed_message.signature.length ≤ 65535) := by
  refine ⟨?_, ?_, fun _ => rfl, ?_⟩
  · intro L seed message public_key
    unfold message_to_buffer
    cases payload_on_wire L seed message.payload public_key <;> rfl
  · intro message payload_buffer
    exact filledInside_of_fields (message_block_written message payload_buffer)
      ((counts_fields messageLayout (message.fields payload_buffer)).filled _)
      (message_block_size message payload_buffer) rfl (message.narrow_fields_iff payload_buffer)
  · intro signed_message
    exact filledInside_of_fields (signed_message_block_written signed_message)
      ((counts_fields signedLayout signed_message.fields).filled _)
      (signed_message_block_size signed_message) rfl signed_message.narrow_fields_iff

end P2PMessenger
