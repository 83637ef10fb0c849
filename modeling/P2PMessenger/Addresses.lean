import P2PMessenger.Libraries
import Mathlib.Data.List.TakeWhile
import Mathlib.Data.Nat.Digits.Lemmas

/-!
Address strings such as "127.0.0.1:8000". The resolvers store an IP and a port in
one string, and the sender and the relay take it apart again.
-/
namespace P2PMessenger
open Octets

/-- The octet ':'. -/
def colon : UInt8 := 58

/-- `std::to_string` of a number that is not negative. -/
def to_string (n : Nat) : Bytes :=
  if n = 0 then [48] else (Nat.digits 10 n).reverse.map (fun d => UInt8.ofNat (48 + d))

def isspace (c : UInt8) : Bool := c == 32 || (9 ≤ c && c ≤ 13)

def isdigit (c : UInt8) : Bool := 48 ≤ c && c ≤ 57

/-- The number that decimal digits spell. -/
def digitsValue (digits : Bytes) : Nat := Nat.ofDigits 10 (digits.reverse.map (fun c => c.toNat - 48))

/-- `std::stoi`: white space and a sign may come first, and what follows the digits
    is ignored. -/
def stoi (str : Bytes) : Except Exception Int :=
  let text := str.dropWhile isspace
  let negative := text.head? == some 45
  let digits := (if negative || text.head? == some 43 then text.tail else text).takeWhile isdigit
  let value : Int := if negative then -digitsValue digits else digitsValue digits
  if digits = [] then .error (.invalid_argument "stoi")
  else if value < -2 ^ 31 ∨ 2 ^ 31 ≤ value then .error (.out_of_range "stoi")
  else .ok value

/-- The port is the integer read, cast to sixteen bits. -/
def get_ip_and_port_from_address (address : Bytes) : Except Exception (Bytes × UInt16) :=
  match address.findIdx? (· == colon) with
  | none => .error (.invalid_argument "Invalid address")
  | some pos => do
    let ip := address.take pos
    let port ← stoi (address.drop (pos + 1))
    return (ip, UInt16.ofInt port)

theorem isdigit_digit {d : Nat} (digit : d < 10) : isdigit (UInt8.ofNat (48 + d)) = true := by
  interval_cases d <;> rfl

theorem toNat_digit {d : Nat} (digit : d < 10) : (UInt8.ofNat (48 + d)).toNat - 48 = d := by
  rw [UInt8.toNat_ofNat']
  omega

theorem to_string_digits (n : Nat) : ∀ c ∈ to_string n, isdigit c = true := by
  intro c member
  unfold to_string at member
  split at member
  · rw [List.mem_singleton] at member
    subst member
    rfl
  · obtain ⟨d, digit, rfl⟩ := List.mem_map.mp member
    exact isdigit_digit (Nat.digits_lt_base (by decide) (List.mem_reverse.mp digit))

theorem to_string_ne_nil (n : Nat) : to_string n ≠ [] := by
  unfold to_string
  split
  · exact List.cons_ne_nil _ _
  · simpa [Nat.digits_eq_nil_iff_eq_zero]

/-- The digits printed spell the number. -/
theorem digitsValue_to_string (n : Nat) : digitsValue (to_string n) = n := by
  unfold digitsValue to_string
  split
  case isTrue zero => simp [zero]
  case isFalse =>
    have values : (Nat.digits 10 n).map ((fun c => c.toNat - 48) ∘ fun d => UInt8.ofNat (48 + d)) =
        (Nat.digits 10 n).map id := by
      refine List.map_congr_left fun d member => ?_
      exact toNat_digit (Nat.digits_lt_base (by decide) member)
    rw [← List.map_reverse, List.reverse_reverse, List.map_map, values, List.map_id, Nat.ofDigits_digits]

theorem isspace_of_isdigit {c : UInt8} (digit : isdigit c = true) : isspace c = false := by
  simp only [isdigit, isspace, Bool.and_eq_true, decide_eq_true_eq, UInt8.le_iff_toNat_le] at digit ⊢
  have least : 48 ≤ c.toNat := digit.1
  have blank : c ≠ 32 := by
    rintro rfl
    exact absurd least (by decide)
  have high : ¬ c.toNat ≤ (13 : UInt8).toNat := fun small => absurd (le_trans least small) (by decide)
  rw [Bool.or_eq_false_iff, beq_eq_false_iff_ne, Bool.and_eq_false_iff, decide_eq_false_iff_not (p := c.toNat ≤ _)]
  exact ⟨blank, .inr high⟩

/-- `std::stoi` reads decimal digits whole. -/
theorem stoi_digits {digits : Bytes} (some_digit : digits ≠ []) (plain : ∀ c ∈ digits, isdigit c = true)
    (small : digitsValue digits < 2 ^ 31) : stoi digits = .ok (digitsValue digits) := by
  obtain ⟨c, rest, cons⟩ := List.exists_cons_of_ne_nil some_digit
  have head : isdigit c = true := plain c (by rw [cons]; exact List.mem_cons_self)
  have text : digits.dropWhile isspace = digits := by
    rw [cons, List.dropWhile_cons_of_neg (by simp [isspace_of_isdigit head])]
  have minus : (digits.head? == some 45) = false := by
    rw [cons, List.head?_cons, Option.some_beq_some, beq_eq_false_iff_ne]
    rintro rfl
    exact absurd head (by decide)
  have plus : (digits.head? == some 43) = false := by
    rw [cons, List.head?_cons, Option.some_beq_some, beq_eq_false_iff_ne]
    rintro rfl
    exact absurd head (by decide)
  have all : digits.takeWhile isdigit = digits := List.takeWhile_eq_self_iff.mpr plain
  unfold stoi
  simp only [text, minus, plus, Bool.or_self, Bool.false_eq_true, if_false, all, some_digit]
  rw [if_neg (by omega)]

/-- What `std::to_string` prints, `std::stoi` reads. -/
theorem stoi_to_string {n : Nat} (small : n < 2 ^ 31) : stoi (to_string n) = .ok n := by
  have value := digitsValue_to_string n
  rw [stoi_digits (to_string_ne_nil n) (to_string_digits n) (by rwa [value]), value]

theorem to_string_injective : Function.Injective to_string := by
  intro m n same
  rw [← digitsValue_to_string m, same, digitsValue_to_string]

theorem ofInt_toNat (port : UInt16) : UInt16.ofInt port.toNat = port := by
  apply UInt16.toNat_inj.mp
  have small := port.toNat_lt
  simp [UInt16.ofInt]
  omega

/-! ## The address grammar -/

/-- The text after the first ':' of an address. -/
def portText (address : Bytes) : Option Bytes := (address.findIdx? (· == colon)).map fun pos => address.drop (pos + 1)

/-- The parser cuts an address at its first ':'. -/
theorem get_ip_and_port_from_address_split {ip : Bytes} (plain : colon ∉ ip) (text : Bytes) :
    get_ip_and_port_from_address (ip ++ [colon] ++ text) = (stoi text).map fun port => (ip, UInt16.ofInt port) := by
  have rest : (ip ++ [colon] ++ text).drop (ip.length + 1) = text := List.drop_left' (by simp)
  unfold get_ip_and_port_from_address
  simp only [findIdx?_of_split plain, rest]
  rw [List.append_assoc, List.take_left' rfl]
  cases stoi text <;> rfl

/-- The IP read from an address has no ':' in it. -/
theorem colon_notMem_of_address {address ip : Bytes} {port : UInt16}
    (read : get_ip_and_port_from_address address = .ok (ip, port)) : colon ∉ ip := by
  cases found : address.findIdx? (· == colon) with
  | none =>
    unfold get_ip_and_port_from_address at read
    simp [found] at read
  | some pos =>
    obtain ⟨plain, split⟩ := split_of_findIdx? found
    rw [split, get_ip_and_port_from_address_split plain] at read
    cases number : stoi (address.drop (pos + 1)) with
    | error e =>
      rw [number] at read
      cases read
    | ok n =>
      rw [number] at read
      cases read
      exact plain

/-- An address put together from an IP without ':' and a port is taken apart again. -/
theorem get_ip_and_port_from_address_eq {ip : Bytes} (plain : colon ∉ ip) (port : UInt16) :
    get_ip_and_port_from_address (ip ++ [colon] ++ to_string port.toNat) = .ok (ip, port) := by
  have small := port.toNat_lt
  rw [get_ip_and_port_from_address_split plain, stoi_to_string (by omega)]
  exact congrArg (fun p => Except.ok (ip, p)) (ofInt_toNat port)

/-- The decimal digits of a port as `std::to_string` prints them. -/
def Printed (text : Bytes) (port : UInt16) : Prop := text = to_string port.toNat

/-- Decimal digits that spell a port, zeros in front allowed. -/
def Numeral (text : Bytes) (port : UInt16) : Prop :=
  text ≠ [] ∧ (∀ c ∈ text, isdigit c = true) ∧ digitsValue text = port.toNat

theorem Printed.numeral {text : Bytes} {port : UInt16} (printed : Printed text port) : Numeral text port := by
  obtain rfl := printed
  exact ⟨to_string_ne_nil _, to_string_digits _, digitsValue_to_string _⟩

/-- The parser reads the address by the grammar, an IP, ':' and a port: what it returns
    is what the address says, it throws on every address outside the grammar, and it reads
    every address in the grammar whose IP has no ':'. -/
structure ReadsByGrammar (Port : Bytes → UInt16 → Prop) (address : Bytes) : Prop where
  returned : ∀ ip port, get_ip_and_port_from_address address = .ok (ip, port) →
    ∃ text, Port text port ∧ address = ip ++ [colon] ++ text
  throws : (∀ ip port text, Port text port → address ≠ ip ++ [colon] ++ text) →
    ∃ e, get_ip_and_port_from_address address = .error e
  reads : ∀ ip port text, colon ∉ ip → Port text port → address = ip ++ [colon] ++ text →
    get_ip_and_port_from_address address = .ok (ip, port)

/-- If an integer can be read from the text after the first ':', it is a port and nothing else. -/
def PortOrNothing (Port : Bytes → UInt16 → Prop) (address : Bytes) : Prop :=
  ∀ text ∈ portText address, ∀ n, stoi text = .ok n → ∃ port, Port text port

theorem stoi_numeral {text : Bytes} {port : UInt16} (numeral : Numeral text port) : stoi text = .ok port.toNat := by
  obtain ⟨some_digit, plain, value⟩ := numeral
  have small := port.toNat_lt
  rw [stoi_digits some_digit plain (by omega), value]

theorem readsByGrammar_iff {Port : Bytes → UInt16 → Prop} (numerals : ∀ text port, Port text port → Numeral text port)
    (address : Bytes) : ReadsByGrammar Port address ↔ PortOrNothing Port address := by
  have read : ∀ ip port text, colon ∉ ip → Port text port → address = ip ++ [colon] ++ text →
      get_ip_and_port_from_address address = .ok (ip, port) := by
    intro ip port text plain spelled same
    rw [same, get_ip_and_port_from_address_split plain, stoi_numeral (numerals text port spelled)]
    exact congrArg (fun p => Except.ok (ip, p)) (ofInt_toNat port)
  constructor
  · intro grammar text after n number
    obtain ⟨pos, found, rfl⟩ := Option.map_eq_some_iff.mp after
    obtain ⟨plain, split⟩ := split_of_findIdx? found
    have cut := get_ip_and_port_from_address_split plain (address.drop (pos + 1))
    rw [← split, number] at cut
    obtain ⟨text, spelled, same⟩ := grammar.returned _ _ cut
    obtain rfl := List.append_cancel_left (split.symm.trans same)
    exact ⟨_, spelled⟩
  · intro nothing
    cases found : address.findIdx? (· == colon) with
    | none =>
      have thrown : get_ip_and_port_from_address address = .error (.invalid_argument "Invalid address") := by
        unfold get_ip_and_port_from_address
        simp only [found]
      refine ⟨fun ip port returned => ?_, fun _ => ⟨_, thrown⟩, read⟩
      rw [thrown] at returned
      cases returned
    | some pos =>
      obtain ⟨plain, split⟩ := split_of_findIdx? found
      have cut := get_ip_and_port_from_address_split plain (address.drop (pos + 1))
      rw [← split] at cut
      cases number : stoi (address.drop (pos + 1)) with
      | error e =>
        rw [number] at cut
        refine ⟨fun ip port returned => ?_, fun _ => ⟨e, cut⟩, read⟩
        rw [cut] at returned
        cases returned
      | ok n =>
        obtain ⟨port, spelled⟩ := nothing _ (by rw [portText, found]; rfl) n number
        have whole := read _ port _ plain spelled split
        refine ⟨fun ip other returned => ?_, fun outside => absurd split (outside _ port _ spelled), read⟩
        rw [whole] at returned
        cases returned
        exact ⟨_, spelled, split⟩

/-- The parser reads exactly the addresses by the grammar after whose first ':' there is a
    port and nothing else, or no integer at all: with the digits as they are printed, and
    also with zeros in front allowed. -/
theorem address_grammar_iff (address : Bytes) :
    (ReadsByGrammar Printed address ↔ PortOrNothing Printed address) ∧
      (ReadsByGrammar Numeral address ↔ PortOrNothing Numeral address) :=
  ⟨readsByGrammar_iff (fun _ _ => Printed.numeral) address, readsByGrammar_iff (fun _ _ => id) address⟩

/-- An address whose port text is read as a number that it does not spell. -/
theorem not_readsByGrammar {Port : Bytes → UInt16 → Prop} (numerals : ∀ text port, Port text port → Numeral text port)
    {ip text : Bytes} (plain : colon ∉ ip) {n : Int} (number : stoi text = .ok n) (other : ∀ port, ¬ Numeral text port) :
    ¬ ReadsByGrammar Port (ip ++ [colon] ++ text) := by
  rw [readsByGrammar_iff numerals]
  intro nothing
  have after : portText (ip ++ [colon] ++ text) = some text := by
    rw [portText, findIdx?_of_split plain, Option.map_some, List.drop_left' (by simp)]
  obtain ⟨port, spelled⟩ := nothing text after n number
  exact other port (numerals text port spelled)

/-- The address is read as this IP and port, and does not say so. -/
def Misread (ip text : Bytes) (port : UInt16) : Prop :=
  get_ip_and_port_from_address (ip ++ [colon] ++ text) = .ok (ip, port) ∧
    ¬ ReadsByGrammar Printed (ip ++ [colon] ++ text) ∧ ¬ ReadsByGrammar Numeral (ip ++ [colon] ++ text)

theorem misread {ip text : Bytes} (plain : colon ∉ ip) {n : Int} (number : stoi text = .ok n)
    (other : ∀ port, ¬ Numeral text port) : Misread ip text (UInt16.ofInt n) := by
  refine ⟨?_, not_readsByGrammar (fun _ _ => Printed.numeral) plain number other,
    not_readsByGrammar (fun _ _ => id) plain number other⟩
  rw [get_ip_and_port_from_address_split plain, number]
  rfl

/-- After "10.0.0.1:" the text "70000" is read as port 4464, " 80", "+80" and "80x" as port 80,
    and "-1" as port 65535. -/
theorem address_grammar_fails :
    Misread [49, 48, 46, 48, 46, 48, 46, 49] [55, 48, 48, 48, 48] 4464 ∧
      Misread [49, 48, 46, 48, 46, 48, 46, 49] [32, 56, 48] 80 ∧
      Misread [49, 48, 46, 48, 46, 48, 46, 49] [43, 56, 48] 80 ∧
      Misread [49, 48, 46, 48, 46, 48, 46, 49] [56, 48, 120] 80 ∧
      Misread [49, 48, 46, 48, 46, 48, 46, 49] [45, 49] 65535 := by
  have large : ∀ port, ¬ Numeral [55, 48, 48, 48, 48] port := by
    rintro port ⟨-, -, value⟩
    have small := port.toNat_lt
    have spelled : digitsValue [55, 48, 48, 48, 48] = 70000 := by decide
    omega
  have strange : ∀ text : Bytes, (∃ c ∈ text, isdigit c = false) → ∀ port, ¬ Numeral text port := by
    rintro text ⟨c, member, other⟩ port ⟨-, plain, -⟩
    rw [plain c member] at other
    cases other
  refine ⟨?_, ?_, ?_, ?_, ?_⟩
  · exact misread (n := 70000) (by decide) (by decide) large
  · exact misread (n := 80) (by decide) (by decide) (strange _ (by decide))
  · exact misread (n := 80) (by decide) (by decide) (strange _ (by decide))
  · exact misread (n := 80) (by decide) (by decide) (strange _ (by decide))
  · rw [show (65535 : UInt16) = UInt16.ofInt (-1) by decide]
    exact misread (by decide) (by decide) (strange _ (by decide))

end P2PMessenger
