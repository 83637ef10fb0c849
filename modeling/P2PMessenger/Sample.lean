import P2PMessenger.Node

/-!
Sample libraries that satisfy every assumption the development names, so none of its
results is about nothing. Keys are octets and nothing is secret; addresses are the
IPv4 literals; the JSON of a payload is the text that Boost.JSON writes for a text
without escapes.
-/
namespace P2PMessenger.Sample
open Octets P2PMessenger

/-- The octets `{"time":`. -/
def opening : Bytes := [123, 34, 116, 105, 109, 101, 34, 58]
/-- The octets `,"text":"`. -/
def middle : Bytes := [44, 34, 116, 101, 120, 116, 34, 58, 34]
/-- The octets `"}`. -/
def closing : Bytes := [34, 125]

/-- The JSON of a payload. -/
def document (time : Nat) (text : Bytes) : Bytes := opening ++ to_string time ++ middle ++ text ++ closing

def serialize : Value → Bytes
  | .object [(_, .integer time), (_, .string text)] => document time.toNat text
  | _ => [110, 117, 108, 108]

/-- Reads the JSON of a payload and nothing else. -/
def parse (json : Bytes) : Option Value :=
  let digits := (json.drop opening.length).takeWhile isdigit
  let rest := json.drop (opening.length + digits.length + middle.length)
  let text := rest.take (rest.length - closing.length)
  if document (digitsValue digits) text = json then
    some (.object [(timeName, .integer (digitsValue digits)), (textName, .string text)])
  else none

/-- The number of one part of an IPv4 literal. -/
def parsePart (part : Bytes) : Option UInt8 :=
  if digitsValue part < 256 ∧ to_string (digitsValue part) = part then some (UInt8.ofNat (digitsValue part)) else none

def make_address (text : Bytes) : Option (UInt8 × UInt8 × UInt8 × UInt8) :=
  match text.splitOn 46 with
  | [one, two, three, four] => do
    return (← parsePart one, ← parsePart two, ← parsePart three, ← parsePart four)
  | _ => none

def addressText (address : UInt8 × UInt8 × UInt8 × UInt8) : Bytes :=
  [46].intercalate [to_string address.1.toNat, to_string address.2.1.toNat, to_string address.2.2.1.toNat,
    to_string address.2.2.2.toNat]

/-- A ciphertext names its key in front of the text, and a signature names its key in
    front of what it signs. -/
@[reducible] def libraries : Libraries where
  PublicKey := UInt8
  PrivateKey := UInt8
  InfoHash := UInt8
  Seed := Unit
  getSharedPublicKey := id
  toString key := [key]
  publicKey
    | [key] => some key
    | _ => none
  getId := id
  encrypt _ key text := some (key :: text)
  decrypt key
    | name :: text => if name = key then some text else none
    | [] => none
  sign key octets := some (key :: octets)
  checkSignature key octets signature := some (signature == key :: octets)
  serialize := serialize
  parse := parse
  Address := UInt8 × UInt8 × UInt8 × UInt8
  make_address := make_address
  to_string := addressText

theorem decryptUndoesEncrypt (key : UInt8) : libraries.DecryptUndoesEncrypt key key := by
  intro seed x y encrypted
  obtain rfl := Option.some.inj encrypted
  exact if_pos rfl

theorem publicKeyOfToString : libraries.PublicKeyOfToString := fun _ => rfl

theorem signatureVerifies (key : UInt8) : libraries.SignatureVerifies key := by
  intro octets signature signed
  obtain rfl := Option.some.inj signed
  exact congrArg some (beq_self_eq_true _)

theorem distinctIds : libraries.DistinctIds := fun _ _ same => same

theorem parse_document (time : Nat) (text : Bytes) :
    parse (document time text) = some (.object [(timeName, .integer time), (textName, .string text)]) := by
  have digits : ((document time text).drop opening.length).takeWhile isdigit = to_string time := by
    rw [document, List.append_assoc, List.append_assoc, List.append_assoc, List.drop_left' rfl,
      List.takeWhile_append_of_pos (to_string_digits _)]
    exact List.append_right_eq_self.mpr rfl
  have rest : (document time text).drop (opening.length + (to_string time).length + middle.length) =
      text ++ closing := by
    rw [document, List.append_assoc, List.drop_left' (by simp [Nat.add_assoc])]
  have body : (text ++ closing).take ((text ++ closing).length - closing.length) = text :=
    List.take_left' (by simp)
  unfold parse
  simp only [digits, rest, body, digitsValue_to_string, if_true]

theorem payload_to_buffer_eq (payload : Payload) :
    payload_to_buffer libraries payload = document payload.time.toNat payload.text := by
  show document ((payload.time.toNat : Int)).toNat payload.text = _
  rw [Int.toNat_natCast]

theorem parseUndoesSerialize (payload : Payload) : libraries.ParseUndoesSerialize payload := by
  have parses : libraries.parse = parse := rfl
  unfold Libraries.ParseUndoesSerialize
  rw [payload_to_buffer_eq, parses, parse_document, payloadObject]

theorem part_length {part : Bytes} {octet : UInt8} (parsed : parsePart part = some octet) : part.length ≤ 3 := by
  unfold parsePart at parsed
  split_ifs at parsed with small
  rw [← small.2]
  unfold to_string
  split
  · exact (by decide : 1 ≤ 3)
  · rw [List.length_map, List.length_reverse]
    exact (Nat.digits_length_le_iff (by decide) _).mpr (by omega)

theorem shortLiterals : libraries.ShortLiterals := by
  intro text a parsed _
  have literal : make_address text = some a := parsed
  unfold make_address at literal
  split at literal
  case h_1 one two three four parts =>
    obtain ⟨_, first, literal⟩ := Option.bind_eq_some_iff.mp literal
    obtain ⟨_, second, literal⟩ := Option.bind_eq_some_iff.mp literal
    obtain ⟨_, third, literal⟩ := Option.bind_eq_some_iff.mp literal
    obtain ⟨_, fourth, -⟩ := Option.bind_eq_some_iff.mp literal
    have whole : [46].intercalate (text.splitOn 46) = text := List.intercalate_splitOn 46
    have lengths := congrArg List.length whole
    rw [parts] at lengths
    simp only [List.intercalate, List.intersperse, List.flatten_cons, List.flatten_nil, List.length_append,
      List.length_cons, List.length_nil] at lengths
    have := part_length first
    have := part_length second
    have := part_length third
    have := part_length fourth
    omega
  case h_2 => cases literal

theorem part_text {part : Bytes} {octet : UInt8} (parsed : parsePart part = some octet) : to_string octet.toNat = part := by
  unfold parsePart at parsed
  split_ifs at parsed with small
  obtain rfl := Option.some.inj parsed
  rw [UInt8.toNat_ofNat', Nat.mod_eq_of_lt small.1, small.2]

/-- The text of an address is its only literal. -/
theorem addressText_of_make_address {text : Bytes} {address : UInt8 × UInt8 × UInt8 × UInt8}
    (literal : make_address text = some address) : addressText address = text := by
  unfold make_address at literal
  split at literal
  case h_1 one two three four parts =>
    obtain ⟨_, first, literal⟩ := Option.bind_eq_some_iff.mp literal
    obtain ⟨_, second, literal⟩ := Option.bind_eq_some_iff.mp literal
    obtain ⟨_, third, literal⟩ := Option.bind_eq_some_iff.mp literal
    obtain ⟨_, fourth, literal⟩ := Option.bind_eq_some_iff.mp literal
    obtain rfl := Option.some.inj literal
    rw [addressText, part_text first, part_text second, part_text third, part_text fourth, ← parts]
    exact List.intercalate_splitOn 46
  case h_2 => cases literal

theorem oneLiteral : libraries.OneLiteral := by
  intro one two address first second _
  rw [← addressText_of_make_address first, addressText_of_make_address second]

/-- The message of the tests, from key 7 to key 9. -/
def message : Message where
  id := 1
  source_ip := [49, 50, 55, 46, 48, 46, 48, 46, 49]
  source_port := 3001
  source_login := [117, 115, 101, 114, 49]
  source_public_key := [7]
  destination_ip := [49, 50, 55, 46, 48, 46, 48, 46, 49]
  destination_port := 4001
  destination_login := [117, 115, 101, 114, 50]
  destination_public_key := [9]
  payload := ⟨1700000000, [104, 101, 108, 108, 111]⟩

/-- The sender of the message. -/
def sender : Config libraries where
  my_login_ := message.source_login
  my_ip_ := message.source_ip
  my_port_ := message.source_port
  relay_node_ip_ := []
  relay_node_port_ := 0
  relay_ := false
  private_key_ := 7

/-- The receiver of the message. -/
def receiver : Config libraries where
  my_login_ := message.destination_login
  my_ip_ := message.destination_ip
  my_port_ := message.destination_port
  relay_node_ip_ := []
  relay_node_port_ := 0
  relay_ := false
  private_key_ := 9

/-- The address of the receiver. -/
def destination_address : Bytes := MetadataIpResolver.addressOf message.destination_ip message.destination_port

/-- The octets of the message. -/
def inner : Bytes := (message_block message (9 :: document 1700000000 message.payload.text)).vector

/-- The datagram that carries the message. -/
def datagram : Bytes := signed_message_to_buffer ⟨inner, 7 :: inner⟩

/-- A socket that takes everything, and zeros behind every vector. -/
def environment : Environment libraries := ⟨(), fun _ => true, fun _ => 0, fun _ => 0⟩

/-- An endpoint with another IP than the message names. -/
def elsewhere : Endpoint libraries := ⟨(10, 0, 0, 1), 9000⟩

end P2PMessenger.Sample
