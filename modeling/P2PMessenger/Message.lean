import P2PMessenger.Libraries

/-!
Messages, signed messages and the JSON payload (`message.h`, `signed_message.h`,
`payload.h`, `payload_serializer.cpp`, `payload_deserializer.cpp`).
-/
namespace P2PMessenger
open Octets

structure Payload where
  time : UInt64
  text : Bytes
  deriving DecidableEq, Repr

structure Message where
  id : UInt64
  source_ip : Bytes
  source_port : UInt16
  source_login : Bytes
  source_public_key : Bytes
  destination_ip : Bytes
  destination_port : UInt16
  destination_login : Bytes
  destination_public_key : Bytes
  payload : Payload
  deriving DecidableEq, Repr

structure SignedMessage where
  message : Bytes
  signature : Bytes
  deriving DecidableEq, Repr

/-- The payload of a value-initialised message. -/
def Payload.zero : Payload := ⟨0, []⟩

/-- The message with its payload left at the zero value. -/
def Message.header (message : Message) : Message := { message with payload := .zero }

/-- The member name "time". -/
def timeName : Bytes := [116, 105, 109, 101]
/-- The member name "text". -/
def textName : Bytes := [116, 101, 120, 116]

/-- The JSON object that stands for a payload. -/
def payloadObject (payload : Payload) : Value :=
  .object [(timeName, .integer payload.time.toNat), (textName, .string payload.text)]

namespace Value

def as_object : Value → Except Exception (List (Bytes × Value))
  | .object members => .ok members
  | _ => .error .system_error

/-- `object::at`. -/
def member (members : List (Bytes × Value)) (name : Bytes) : Except Exception Value :=
  orThrow .system_error (members.lookup name)

/-- `to_number<uint64_t>`: only a number that the type holds exactly. -/
def to_number : Value → Except Exception UInt64
  | .integer n | .double (some n) => if 0 ≤ n ∧ n.toNat < UInt64.size then .ok (UInt64.ofNat n.toNat) else .error .system_error
  | _ => .error .system_error

/-- `value_to<std::string>`. -/
def to_text : Value → Except Exception Bytes
  | .string s => .ok s
  | _ => .error .system_error

theorem as_object_error {value : Value} {e : Exception} (throws : value.as_object = .error e) : e = .system_error := by
  cases value <;> simp_all [as_object]

theorem to_text_error {value : Value} {e : Exception} (throws : value.to_text = .error e) : e = .system_error := by
  cases value <;> simp_all [to_text]

theorem to_number_error {value : Value} {e : Exception} (throws : value.to_number = .error e) : e = .system_error := by
  unfold to_number at throws
  split at throws
  all_goals first
    | (split_ifs at throws; exact (Except.error.inj throws).symm)
    | exact (Except.error.inj throws).symm

theorem to_number_time (time : UInt64) : (Value.integer time.toNat).to_number = .ok time := by
  rw [to_number, if_pos ⟨Int.natCast_nonneg _, time.toNat_lt_size⟩, Int.toNat_natCast, UInt64.ofNat_toNat]

end Value

variable (L : Libraries)

def payload_to_buffer (payload : Payload) : Bytes := L.serialize (payloadObject payload)

def payload_from_buffer (buffer : Bytes) : Except Exception Payload := do
  let json_payload ← (← orThrow .system_error (L.parse buffer)).as_object
  let time ← (← Value.member json_payload timeName).to_number
  let text ← (← Value.member json_payload textName).to_text
  return ⟨time, text⟩

/-- `PayloadSerializer::encrypt`. -/
def encrypt (seed : L.Seed) (buffer : Bytes) (public_key : L.PublicKey) : Except Exception Bytes :=
  orThrow .crypto_exception (L.encrypt seed public_key buffer)

/-- `PayloadDeserializer::decrypt`. -/
def decrypt (buffer : Bytes) (private_key : L.PrivateKey) : Except Exception Bytes :=
  orThrow .crypto_exception (L.decrypt private_key buffer)

/-- Parsing the serialization of a payload gives the payload back. -/
def Libraries.ParseUndoesSerialize (payload : Payload) : Prop :=
  L.parse (payload_to_buffer L payload) = some (payloadObject payload)

/-- Parsing the serialization of a payload gives the payload back or throws. -/
def Libraries.ParseUndoesSerializeOrThrows : Prop :=
  ∀ payload, L.ParseUndoesSerialize payload ∨ L.parse (payload_to_buffer L payload) = none

variable {L}

theorem payload_from_buffer_of_parse {buffer : Bytes} {payload : Payload}
    (parsed : L.parse buffer = some (payloadObject payload)) : payload_from_buffer L buffer = .ok payload := by
  have different : (textName == timeName) = false := by decide
  simp [payload_from_buffer, parsed, payloadObject, Value.as_object, Value.member, List.lookup_cons, different,
    Value.to_number_time, Value.to_text, bind, Except.bind, pure, Except.pure]

theorem payload_round_trip {payload : Payload} (json : L.ParseUndoesSerialize payload) :
    payload_from_buffer L (payload_to_buffer L payload) = .ok payload :=
  payload_from_buffer_of_parse json

theorem payload_from_buffer_error {buffer : Bytes} {e : Exception} (throws : payload_from_buffer L buffer = .error e) :
    e = .system_error := by
  unfold payload_from_buffer at throws
  rcases bind_eq_error throws with parse | ⟨value, -, throws⟩
  · exact orThrow_eq_error parse
  rcases bind_eq_error throws with object | ⟨members, -, throws⟩
  · exact Value.as_object_error object
  rcases bind_eq_error throws with time | ⟨time, -, throws⟩
  · exact orThrow_eq_error time
  rcases bind_eq_error throws with number | ⟨number, -, throws⟩
  · exact Value.to_number_error number
  rcases bind_eq_error throws with text | ⟨text, -, throws⟩
  · exact orThrow_eq_error text
  rcases bind_eq_error throws with string | ⟨string, -, throws⟩
  · exact Value.to_text_error string
  · cases throws

/-- A payload that parses back is the payload serialized. -/
theorem payload_round_trip_or_throws (json : L.ParseUndoesSerializeOrThrows) {payload parsed : Payload}
    (ok : payload_from_buffer L (payload_to_buffer L payload) = .ok parsed) : parsed = payload := by
  rcases json payload with back | throws
  · rw [payload_round_trip back] at ok
    exact (Except.ok.inj ok).symm
  · simp [payload_from_buffer, throws, bind, Except.bind] at ok

end P2PMessenger
