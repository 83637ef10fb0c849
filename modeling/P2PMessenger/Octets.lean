import Mathlib.Tactic
import Mathlib.Data.Nat.Digits.Defs

/-!
Octet strings and the little-endian numbers written in them. A number is written
in a fixed width, so writing narrows it modulo a power of 256 and reading gives
back the narrowed number.
-/
namespace Octets

/-- A string of octets, such as the contents of a byte vector. -/
abbrev Bytes := List UInt8

/-- The low `width` octets of a number, least significant first. -/
def toLE : Nat → Nat → Bytes
  | 0, _ => []
  | width + 1, n => UInt8.ofNat n :: toLE width (n / 256)

/-- The number that octets spell, least significant first. -/
def ofLE (bs : Bytes) : Nat := Nat.ofDigits 256 (bs.map UInt8.toNat)

@[simp] theorem toLE_length (width n : Nat) : (toLE width n).length = width := by
  induction width generalizing n with
  | zero => rfl
  | succ width ih => simp [toLE, ih]

@[simp] theorem ofLE_nil : ofLE [] = 0 := rfl

theorem ofLE_cons (b : UInt8) (bs : Bytes) : ofLE (b :: bs) = b.toNat + 256 * ofLE bs := by
  simp [ofLE, Nat.ofDigits_cons]

/-- Reading back a number written in `width` octets gives it modulo `256 ^ width`. -/
theorem ofLE_toLE (width n : Nat) : ofLE (toLE width n) = n % 256 ^ width := by
  induction width generalizing n with
  | zero => simp [toLE, Nat.mod_one]
  | succ width ih =>
    have low : (UInt8.ofNat n).toNat = n % 256 := by simp
    rw [toLE, ofLE_cons, low, ih, Nat.pow_succ, Nat.mul_comm (256 ^ width) 256, Nat.mod_mul]

theorem ofLE_toLE_of_lt {width n : Nat} (small : n < 256 ^ width) : ofLE (toLE width n) = n := by
  rw [ofLE_toLE, Nat.mod_eq_of_lt small]

theorem ofLE_lt (bs : Bytes) : ofLE bs < 256 ^ bs.length := by
  have digits : ∀ d ∈ bs.map UInt8.toNat, d < 256 := by
    intro d member
    obtain ⟨b, _, rfl⟩ := List.mem_map.mp member
    exact b.toNat_lt
  simpa [ofLE] using Nat.ofDigits_lt_base_pow_length (by decide) digits

/-- Every octet string is the writing of the number it spells. -/
theorem toLE_ofLE (bs : Bytes) : toLE bs.length (ofLE bs) = bs := by
  induction bs with
  | nil => rfl
  | cons b bs ih =>
    have byte := b.toNat_lt
    have high : ofLE (b :: bs) / 256 = ofLE bs := by rw [ofLE_cons]; omega
    have low : UInt8.ofNat (ofLE (b :: bs)) = b := by
      apply UInt8.toNat_inj.mp
      rw [ofLE_cons, UInt8.toNat_ofNat']
      omega
    rw [List.length_cons, toLE, high, low, ih]

theorem toLE_ofLE_of_length {bs : Bytes} {width : Nat} (length : bs.length = width) :
    toLE width (ofLE bs) = bs := by
  subst length
  exact toLE_ofLE bs

/-! ## Splitting at an octet -/

theorem findIdx?_beq_eq_none_iff (bs : Bytes) (b : UInt8) : bs.findIdx? (· == b) = none ↔ b ∉ bs := by
  rw [List.findIdx?_eq_none_iff]
  constructor
  · intro none member
    simpa using none b member
  · intro absent c member
    rw [beq_eq_false_iff_ne]
    rintro rfl
    exact absent member

/-- The octet does not stand before its first place, and the rest of the string is after it. -/
theorem split_of_findIdx? {bs : Bytes} {b : UInt8} {pos : Nat} (found : bs.findIdx? (· == b) = some pos) :
    b ∉ bs.take pos ∧ bs = bs.take pos ++ [b] ++ bs.drop (pos + 1) := by
  obtain ⟨inside, here, before⟩ := List.findIdx?_eq_some_iff_getElem.mp found
  constructor
  · intro member
    obtain ⟨i, bound, same⟩ := List.mem_iff_getElem.mp member
    have early : i < pos := by
      rw [List.length_take] at bound
      omega
    have differs := before i early
    rw [List.getElem_take] at same
    simp [same] at differs
  · rw [← beq_iff_eq.mp here, List.take_append_getElem, List.take_append_drop]

theorem findIdx?_of_split {one : Bytes} {b : UInt8} (absent : b ∉ one) (two : Bytes) :
    (one ++ [b] ++ two).findIdx? (· == b) = some one.length := by
  rw [List.append_assoc, List.findIdx?_append, (findIdx?_beq_eq_none_iff _ _).mpr absent]
  simp [List.findIdx?_cons]

end Octets
