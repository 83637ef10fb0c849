import P2PMessenger.Deserializer
import P2PMessenger.Sample

/-!
The wire format as a whole: the encoders against the decoders, and the decoders
against arbitrary octets and arbitrary memory behind them.
-/
namespace P2PMessenger
open Octets Memory Layout

/-! ## Round trip -/

theorem message_to_buffer_starts {L : Libraries} {seed : L.Seed} {message : Message} {public_key : L.PublicKey}
    {payload_buffer : Bytes} (bounded : message.Bounded payload_buffer)
    (encrypted : encrypt L seed (payload_to_buffer L message.payload) public_key = .ok payload_buffer)
    (rest : Bytes) :
    ∃ buffer, message_to_buffer L seed message (some public_key) = .ok buffer ∧
      Starts messageLayout (message.fields payload_buffer) (buffer ++ rest) := by
  refine ⟨(message_block message payload_buffer).vector, ?_, (message.fits_iff _).mpr bounded, rest, ?_⟩
  · simp only [message_to_buffer, payload_on_wire, encrypted]
    rfl
  · rw [message_block_vector bounded]

theorem signed_message_to_buffer_starts {signed_message : SignedMessage}
    (message : signed_message.message.length ≤ 65535) (signature : signed_message.signature.length ≤ 65535)
    (rest : Bytes) : Starts signedLayout signed_message.fields (signed_message_to_buffer signed_message ++ rest) := by
  rw [signed_message_to_buffer_eq message signature]
  exact starts_append (signed_message.fits_iff.mpr ⟨message, signature⟩) rest

/-- A signed message is read back from its own datagram. -/
theorem signed_message_from_buffer_to_buffer {signed_message : SignedMessage}
    (message : signed_message.message.length ≤ 65535) (signature : signed_message.signature.length ≤ 65535)
    (beyond : Contents) :
    signed_message_from_buffer (signed_message_to_buffer signed_message) beyond = .ok signed_message := by
  have starts := signed_message_to_buffer_starts message signature []
  rw [List.append_nil] at starts
  exact signed_message_from_buffer_of_starts starts beyond

/-- Every decoder reads back what the encoder wrote, whatever follows it in the
    buffer and behind the buffer. -/
theorem wire_round_trip {L : Libraries} {public_key : L.PublicKey} {private_key : L.PrivateKey}
    (keys : L.DecryptUndoesEncrypt public_key private_key) :
    (∀ (seed : L.Seed) (message : Message) (payload_buffer rest : Bytes) (beyond : Contents),
      L.ParseUndoesSerialize message.payload →
      L.encrypt seed public_key (payload_to_buffer L message.payload) = some payload_buffer →
      message.Bounded payload_buffer →
      ∃ buffer, message_to_buffer L seed message (some public_key) = .ok buffer ∧
        message_from_buffer L (buffer ++ rest) beyond private_key = .ok message ∧
        message_with_not_decrypted_payload_from_buffer (buffer ++ rest) beyond = .ok { message with payload := .zero } ∧
        destinantion_public_key_from_buffer (buffer ++ rest) beyond = message.destination_public_key) ∧
    ∀ (signed_message : SignedMessage) (rest : Bytes) (beyond : Contents),
      signed_message.message.length ≤ 65535 → signed_message.signature.length ≤ 65535 →
      signed_message_from_buffer (signed_message_to_buffer signed_message ++ rest) beyond = .ok signed_message := by
  constructor
  · intro seed message payload_buffer rest beyond json encrypted bounded
    have wire : encrypt L seed (payload_to_buffer L message.payload) public_key = .ok payload_buffer :=
      orThrow_eq_ok.mpr encrypted
    obtain ⟨buffer, written, starts⟩ := message_to_buffer_starts bounded wire rest
    refine ⟨buffer, written, ?_, ?_, ?_⟩
    · rw [message_from_buffer_of_starts L starts]
      exact openPayload_encrypt keys json wire
    · exact message_with_not_decrypted_payload_from_buffer_of_starts starts beyond
    · exact destinantion_public_key_from_buffer_of_starts starts beyond
  · intro signed_message rest beyond message signature
    exact signed_message_from_buffer_of_starts (signed_message_to_buffer_starts message signature rest) beyond

theorem wire_round_trip_sample :
    (∃ buffer, message_to_buffer Sample.libraries () Sample.message (some 9) = .ok buffer ∧
      message_from_buffer Sample.libraries (buffer ++ [1, 2]) (fun _ => 3) 9 = .ok Sample.message) ∧
    signed_message_from_buffer (signed_message_to_buffer ⟨[5], [6]⟩ ++ [7]) (fun _ => 8) = .ok ⟨[5], [6]⟩ := by
  have round := wire_round_trip (Sample.decryptUndoesEncrypt 9)
  constructor
  · obtain ⟨buffer, written, read, -⟩ := round.1 () Sample.message _ [1, 2] (fun _ => 3)
      (Sample.parseUndoesSerialize _) rfl
      ⟨by decide, by decide, by decide, by decide, by decide, by decide, by decide⟩
    exact ⟨buffer, written, read⟩
  · exact round.2 ⟨[5], [6]⟩ [7] (fun _ => 8) (by decide) (by decide)

/-! ## The grammar that the decoders accept -/

/-- A signed message as octets. -/
def signedOctets (signed_message : SignedMessage) : Bytes :=
  toLE 2 signed_message.message.length ++ signed_message.message ++
    toLE 2 signed_message.signature.length ++ signed_message.signature

/-- A message and its encrypted payload as octets. -/
def messageOctets (message : Message) (payload_buffer : Bytes) : Bytes :=
  toLE 8 message.id.toNat ++
    toLE 1 message.source_ip.length ++ message.source_ip ++
    toLE 2 message.source_port.toNat ++
    toLE 1 message.source_login.length ++ message.source_login ++
    toLE 2 message.source_public_key.length ++ message.source_public_key ++
    toLE 1 message.destination_ip.length ++ message.destination_ip ++
    toLE 2 message.destination_port.toNat ++
    toLE 1 message.destination_login.length ++ message.destination_login ++
    toLE 2 message.destination_public_key.length ++ message.destination_public_key ++
    toLE 2 payload_buffer.length ++ payload_buffer

theorem encode_signedLayout (signed_message : SignedMessage) :
    encode signedLayout signed_message.fields = signedOctets signed_message := by
  simp [encode, signedLayout, SignedMessage.fields, Field.encode, signedOctets, List.append_assoc]

theorem encode_messageLayout (message : Message) (payload_buffer : Bytes) :
    encode messageLayout (message.fields payload_buffer) = messageOctets message payload_buffer := by
  simp [encode, messageLayout, Message.fields, Field.encode, messageOctets, List.append_assoc]

theorem signed_starts_iff (signed_message : SignedMessage) (buffer : Bytes) :
    Starts signedLayout signed_message.fields buffer ↔
      signed_message.message.length ≤ 65535 ∧ signed_message.signature.length ≤ 65535 ∧
        ∃ rest, buffer = signedOctets signed_message ++ rest := by
  rw [Starts, SignedMessage.fits_iff, encode_signedLayout, and_assoc]

theorem message_starts_iff (message : Message) (payload_buffer buffer : Bytes) :
    Starts messageLayout (message.fields payload_buffer) buffer ↔
      message.Bounded payload_buffer ∧ ∃ rest, buffer = messageOctets message payload_buffer ++ rest := by
  rw [Starts, Message.fits_iff, encode_messageLayout]

theorem signed_message_from_buffer_error {buffer : Bytes} {beyond : Contents} {e : Exception}
    (throws : signed_message_from_buffer buffer beyond = .error e) : e = notEnough := by
  rcases signed_message_from_buffer_cases buffer with ⟨there, -, ok⟩ | ⟨-, error⟩
  · rw [ok beyond] at throws
    cases throws
  · rw [error beyond] at throws
    exact (Except.error.inj throws).symm

theorem message_with_not_decrypted_payload_from_buffer_error {buffer : Bytes} {beyond : Contents} {e : Exception}
    (throws : message_with_not_decrypted_payload_from_buffer buffer beyond = .error e) : e = notEnough := by
  rcases message_from_buffer_cases buffer with ⟨there, payload_buffer, -, -, ok⟩ | ⟨-, error⟩
  · rw [(ok beyond).1] at throws
    cases throws
  · rw [(error beyond).1] at throws
    exact (Except.error.inj throws).symm

/-- Both decoders of a message miss octets in the same buffers. -/
theorem message_from_buffer_error_iff (L : Libraries) (buffer : Bytes) (beyond : Contents) (private_key : L.PrivateKey) :
    message_from_buffer L buffer beyond private_key = .error notEnough ↔
      message_with_not_decrypted_payload_from_buffer buffer beyond = .error notEnough := by
  rcases message_from_buffer_cases buffer with ⟨there, payload_buffer, -, -, ok⟩ | ⟨-, error⟩
  · obtain ⟨header, -, opened⟩ := ok beyond
    rw [header, opened L private_key]
    exact ⟨fun throws => absurd throws (openPayload_ne_notEnough _ _ _ _), fun throws => by cases throws⟩
  · simp only [(error beyond).1, (error beyond).2 L private_key]

/-- What is decoded with its payload has the same header without it. -/
theorem message_from_buffer_header {L : Libraries} {buffer : Bytes} {beyond : Contents} {private_key : L.PrivateKey}
    {message : Message} (read : message_from_buffer L buffer beyond private_key = .ok message) :
    message_with_not_decrypted_payload_from_buffer buffer beyond = .ok { message with payload := .zero } ∧
      destinantion_public_key_from_buffer buffer beyond = message.destination_public_key := by
  rcases message_from_buffer_cases buffer with ⟨there, payload_buffer, zero, -, ok⟩ | ⟨-, error⟩
  · obtain ⟨header, key, opened⟩ := ok beyond
    rw [opened L private_key] at read
    have same := openPayload_header read
    simp only [Message.header] at same
    rw [header, key]
    constructor
    · rw [same, ← zero]
    · exact (congrArg Message.destination_public_key same).symm
  · rw [(error beyond).2 L private_key] at read
    cases read

theorem signed_message_from_buffer_beyond (buffer : Bytes) (beyond other : Contents) :
    signed_message_from_buffer buffer beyond = signed_message_from_buffer buffer other := by
  rcases signed_message_from_buffer_cases buffer with ⟨there, -, ok⟩ | ⟨-, error⟩
  · rw [ok, ok]
  · rw [error, error]

theorem message_with_not_decrypted_payload_from_buffer_beyond (buffer : Bytes) (beyond other : Contents) :
    message_with_not_decrypted_payload_from_buffer buffer beyond =
      message_with_not_decrypted_payload_from_buffer buffer other := by
  rcases message_from_buffer_cases buffer with ⟨there, payload_buffer, -, -, ok⟩ | ⟨-, error⟩
  · rw [(ok beyond).1, (ok other).1]
  · rw [(error beyond).1, (error other).1]

theorem message_from_buffer_beyond (L : Libraries) (buffer : Bytes) (private_key : L.PrivateKey) (beyond other : Contents) :
    message_from_buffer L buffer beyond private_key = message_from_buffer L buffer other private_key := by
  rcases message_from_buffer_cases buffer with ⟨there, payload_buffer, -, -, ok⟩ | ⟨-, error⟩
  · rw [(ok beyond).2.2, (ok other).2.2]
  · rw [(error beyond).2, (error other).2]

/-- The three decoders that compare lengths accept exactly the octets of their format,
    throw on all others, and never let the memory behind the buffer decide. -/
theorem decoders_accept_their_grammar (buffer : Bytes) :
    (∀ (beyond : Contents) (signed_message : SignedMessage),
      (signed_message_from_buffer buffer beyond = .ok signed_message ↔
        signed_message.message.length ≤ 65535 ∧ signed_message.signature.length ≤ 65535 ∧
          ∃ rest, buffer = signedOctets signed_message ++ rest) ∧
      (signed_message_from_buffer buffer beyond = .ok signed_message →
        ∃ rest, buffer = signed_message_to_buffer signed_message ++ rest)) ∧
    (∀ (beyond : Contents) (e : Exception), signed_message_from_buffer buffer beyond = .error e → e = notEnough) ∧
    (∀ (beyond : Contents) (message : Message),
      message_with_not_decrypted_payload_from_buffer buffer beyond = .ok message ↔
        message.payload = .zero ∧ ∃ payload_buffer, message.Bounded payload_buffer ∧
          ∃ rest, buffer = messageOctets message payload_buffer ++ rest) ∧
    (∀ (beyond : Contents) (e : Exception),
      message_with_not_decrypted_payload_from_buffer buffer beyond = .error e → e = notEnough) ∧
    (∀ (L : Libraries) (private_key : L.PrivateKey) (beyond : Contents),
      (message_from_buffer L buffer beyond private_key = .error notEnough ↔
        message_with_not_decrypted_payload_from_buffer buffer beyond = .error notEnough) ∧
      ∀ message, message_from_buffer L buffer beyond private_key = .ok message →
        message_with_not_decrypted_payload_from_buffer buffer beyond = .ok { message with payload := .zero } ∧
        destinantion_public_key_from_buffer buffer beyond = message.destination_public_key) ∧
    (∀ (beyond : Contents) (message : Message),
      message_with_not_decrypted_payload_from_buffer buffer beyond = .ok message →
        destinantion_public_key_from_buffer buffer beyond = message.destination_public_key) ∧
    ∀ beyond other : Contents,
      signed_message_from_buffer buffer beyond = signed_message_from_buffer buffer other ∧
      message_with_not_decrypted_payload_from_buffer buffer beyond =
        message_with_not_decrypted_payload_from_buffer buffer other ∧
      ∀ (L : Libraries) (private_key : L.PrivateKey),
        message_from_buffer L buffer beyond private_key = message_from_buffer L buffer other private_key := by
  refine ⟨?_, fun _ _ => signed_message_from_buffer_error, ?_, fun _ _ =>
    message_with_not_decrypted_payload_from_buffer_error, ?_, ?_, ?_⟩
  · intro beyond signed_message
    constructor
    · rw [signed_message_from_buffer_ok_iff, signed_starts_iff]
    · intro read
      have starts := (signed_message_from_buffer_ok_iff _ _ _).mp read
      obtain ⟨message, signature⟩ := signed_message.fits_iff.mp starts.1
      obtain ⟨rest, octets⟩ := starts.2
      exact ⟨rest, by rw [signed_message_to_buffer_eq message signature, octets]⟩
  · intro beyond message
    simp only [message_with_not_decrypted_payload_from_buffer_ok_iff, message_starts_iff]
  · intro L private_key beyond
    exact ⟨message_from_buffer_error_iff L buffer beyond private_key, fun _ => message_from_buffer_header⟩
  · intro beyond message read
    obtain ⟨-, payload_buffer, starts⟩ := (message_with_not_decrypted_payload_from_buffer_ok_iff _ _ _).mp read
    exact destinantion_public_key_from_buffer_of_starts starts beyond
  · intro beyond other
    exact ⟨signed_message_from_buffer_beyond buffer beyond other,
      message_with_not_decrypted_payload_from_buffer_beyond buffer beyond other,
      fun L private_key => message_from_buffer_beyond L buffer private_key beyond other⟩

/-! ## Hole-punch metadata -/

/-- The round trip of metadata through a vector, with every access inside it. -/
structure MetadataRoundTrip (login public_key : Bytes) : Prop where
  writes : Inside (metadata_block login public_key).size (metadata_block login public_key).writes
  reads : ∀ beyond, Inside (metadata_to_buffer login public_key).length
    (metadata_reads (metadata_to_buffer login public_key) beyond)
  returns : ∀ beyond, metadata_from_buffer (metadata_to_buffer login public_key) beyond = (login, public_key)

theorem metadata_fits {login public_key : Bytes} (loginBound : login.length ≤ 65535)
    (keyBound : public_key.length ≤ 65535) : Fits metadataLayout [login, public_key] := by
  simp [Fits, metadataLayout, Field.Fits]
  omega

/-- The vector is the octets of the layout without the last. -/
theorem metadata_to_buffer_cut {login public_key : Bytes} (loginBound : login.length ≤ 65535)
    (keyBound : public_key.length ≤ 65535) :
    ∃ last, last ≠ [] ∧ metadata_to_buffer login public_key ++ last = encode metadataLayout [login, public_key] := by
  have written := metadata_block_written login public_key
  have size := metadata_block_size login public_key
  rw [narrow_of_fits (metadata_fits loginBound keyBound)] at written
  refine ⟨(encode metadataLayout [login, public_key]).drop (metadata_block login public_key).size, ?_, ?_⟩
  · intro none
    have short := congrArg List.length none
    simp only [List.length_drop, List.length_nil] at short
    omega
  · rw [metadata_to_buffer, written.vector_eq_take (by omega), List.take_append_drop]

theorem metadata_reads_eq (buffer : Bytes) (beyond : Contents) :
    metadata_reads buffer beyond = (past metadataLayout (start buffer beyond)).reads := rfl

/-- The vector has one octet less than the format needs, so the encoder writes past it
    and the decoder reads past it, whatever the login and the key are. -/
theorem metadata_never_round_trips {login public_key : Bytes} (loginBound : login.length ≤ 65535)
    (keyBound : public_key.length ≤ 65535) :
    ¬ MetadataRoundTrip login public_key ∧
    ¬ Inside (metadata_block login public_key).size (metadata_block login public_key).writes ∧
    ∀ beyond, ¬ Inside (metadata_to_buffer login public_key).length
      (metadata_reads (metadata_to_buffer login public_key) beyond) := by
  have fits := metadata_fits loginBound keyBound
  have writes : ¬ Inside (metadata_block login public_key).size (metadata_block login public_key).writes := by
    intro inside
    have written := metadata_block_written login public_key
    have size := metadata_block_size login public_key
    rw [narrow_of_fits fits] at written
    have enough := (written.inside _).mp inside
    omega
  refine ⟨fun round => writes round.writes, writes, ?_⟩
  intro beyond inside
  obtain ⟨last, missing, cut⟩ := metadata_to_buffer_cut loginBound keyBound
  have wide : ∀ field ∈ metadataLayout, 0 < field.width := by decide
  rw [metadata_reads_eq] at inside
  have ends := past_ptr_le wide (Nat.zero_le _) inside
  rw [past_ptr] at ends
  exact not_starts_of_cut fits cut missing _ ((scan_iff _ _ _ beyond).mpr ⟨ends, rfl⟩)

theorem metadata_never_round_trips_bob :
    ¬ Inside (metadata_block [98, 111, 98] [7]).size (metadata_block [98, 111, 98] [7]).writes :=
  (metadata_never_round_trips (by decide) (by decide)).2.1

/-- A login "bob" and a key of one octet: the encoder writes past its vector. -/
theorem metadata_round_trip_bob : ¬ MetadataRoundTrip [98, 111, 98] [7] := by
  intro round
  have inside := round.writes
  revert inside
  decide

end P2PMessenger
