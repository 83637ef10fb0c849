import P2PMessenger.Octets

/-!
What the program calls but does not contain: the keys of OpenDHT, Boost.JSON and the
addresses of Boost.Asio. They are the parameter of the model, and what the program
relies on is stated as named properties of that parameter. A library function that
throws returns `none`; the exception it throws derives from `std::exception`.
-/
namespace P2PMessenger
open Octets

/-- The exceptions the program throws itself or lets through from a library. -/
inductive Exception where
  | length_error (what : String)
  | invalid_argument (what : String)
  | out_of_range (what : String)
  | logic_error (what : String)
  /-- `dht::crypto::CryptoException` and what derives from it. -/
  | crypto_exception
  /-- `boost::system::system_error` of JSON, addresses and sockets. -/
  | system_error
  deriving DecidableEq, Repr

/-- How a handler or a slot can end other than by returning. The process ends with it. -/
inductive Fault where
  | thrown (e : Exception)
  /-- An access through a null pointer. -/
  | null_pointer
  /-- `first()` of an empty list. -/
  | first_of_empty
  /-- The use of a member after its destruction. -/
  | destroyed
  deriving DecidableEq, Repr

/-- The result of a library call, or the exception it throws. -/
def orThrow {α : Type} (e : Exception) : Option α → Except Exception α
  | some a => .ok a
  | none => .error e

@[simp] theorem orThrow_some {α : Type} (e : Exception) (a : α) : orThrow e (some a) = .ok a := rfl
@[simp] theorem orThrow_none {α : Type} (e : Exception) : orThrow e (none : Option α) = .error e := rfl

theorem orThrow_eq_ok {α : Type} {e : Exception} {result : Option α} {a : α} :
    orThrow e result = .ok a ↔ result = some a := by
  cases result <;> simp [orThrow]

theorem orThrow_eq_error {α : Type} {e thrown : Exception} {result : Option α} (throws : orThrow e result = .error thrown) :
    thrown = e := by
  cases result with
  | none => exact (Except.error.inj throws).symm
  | some a => cases throws

/-- A sequence that throws does so in its first part or in its second. -/
theorem bind_eq_error {α β : Type} {one : Except Exception α} {two : α → Except Exception β} {e : Exception}
    (throws : (one >>= two) = .error e) : one = .error e ∨ ∃ a, one = .ok a ∧ two a = .error e := by
  cases one with
  | error thrown => exact .inl (congrArg Except.error (Except.error.inj throws))
  | ok a => exact .inr ⟨a, rfl, throws⟩

theorem bind_eq_ok {α β : Type} {one : Except Exception α} {two : α → Except Exception β} {b : β}
    (ok : (one >>= two) = .ok b) : ∃ a, one = .ok a ∧ two a = .ok b := by
  cases one with
  | error thrown => cases ok
  | ok a => exact ⟨a, rfl, ok⟩

/-- A JSON value. A number with a fraction is kept as the integer it equals, if any. -/
inductive Value where
  | null
  | boolean (b : Bool)
  | integer (n : Int)
  | double (exact : Option Int)
  | string (s : Bytes)
  | array (items : List Value)
  | object (members : List (Bytes × Value))

structure Libraries where
  PublicKey : Type
  PrivateKey : Type
  /-- The 160-bit identifier of a key. -/
  InfoHash : Type
  /-- The randomness of one encryption. -/
  Seed : Type
  [decPublicKey : DecidableEq PublicKey]
  [decInfoHash : DecidableEq InfoHash]
  getSharedPublicKey : PrivateKey → PublicKey
  toString : PublicKey → Bytes
  /-- The constructor `PublicKey(const std::string&)`. -/
  publicKey : Bytes → Option PublicKey
  getId : PublicKey → InfoHash
  encrypt : Seed → PublicKey → Bytes → Option Bytes
  decrypt : PrivateKey → Bytes → Option Bytes
  sign : PrivateKey → Bytes → Option Bytes
  checkSignature : PublicKey → Bytes → Bytes → Option Bool
  serialize : Value → Bytes
  parse : Bytes → Option Value
  /-- `net::ip::address`. -/
  Address : Type
  [decAddress : DecidableEq Address]
  make_address : Bytes → Option Address
  to_string : Address → Bytes

attribute [instance] Libraries.decPublicKey Libraries.decInfoHash Libraries.decAddress

/-- `udp::endpoint`. -/
structure Endpoint (L : Libraries) where
  address : L.Address
  port : UInt16
  deriving DecidableEq

variable (L : Libraries)

/-- Decrypting with the private key of a pair undoes encrypting with its public key. -/
def Libraries.DecryptUndoesEncrypt (pk : L.PublicKey) (sk : L.PrivateKey) : Prop :=
  ∀ seed x y, L.encrypt seed pk x = some y → L.decrypt sk y = some x

/-- A key is what its string parses to. -/
def Libraries.PublicKeyOfToString : Prop := ∀ k, L.publicKey (L.toString k) = some k

/-- A signature made with a private key verifies under its public key. -/
def Libraries.SignatureVerifies (sk : L.PrivateKey) : Prop :=
  ∀ b s, L.sign sk b = some s → L.checkSignature (L.getSharedPublicKey sk) b s = some true

/-- Distinct keys have distinct ids. -/
def Libraries.DistinctIds : Prop := Function.Injective L.getId

/-- An IP literal without ':' is that of an IPv4 address, which is short. -/
def Libraries.ShortLiterals : Prop := ∀ text a, L.make_address text = some a → 58 ∉ text → text.length ≤ 255

/-- An IPv4 address has one literal. -/
def Libraries.OneLiteral : Prop :=
  ∀ one two a, L.make_address one = some a → L.make_address two = some a → 58 ∉ one → one = two

variable {L}

theorem toString_injective (keys : L.PublicKeyOfToString) : Function.Injective L.toString := by
  intro one two same
  have parsed := keys one
  rw [same, keys two] at parsed
  exact (Option.some.inj parsed).symm

end P2PMessenger
