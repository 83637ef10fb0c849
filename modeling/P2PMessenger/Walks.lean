import Mathlib.Tactic

/-!
Walks along a partial function, which ends where the function leads nowhere. A walk that
comes back to a place goes on forever; one that does not comes to every place at most
once.
-/
namespace Walks

variable {ν : Type}

def walk (next : ν → Option ν) (first : Option ν) : Nat → Option ν
  | 0 => first
  | i + 1 => (walk next first i).bind next

/-- No place is walked to twice. -/
def NoReturn (next : ν → Option ν) (first : Option ν) : Prop :=
  ∀ i j n, walk next first i = some n → walk next first j = some n → i = j

variable {next : ν → Option ν} {first : Option ν}

theorem walk_succ_eq_some {i : Nat} {n : ν} :
    walk next first (i + 1) = some n ↔ ∃ m, walk next first i = some m ∧ next m = some n := Option.bind_eq_some_iff

/-- Equal places lead on equally. -/
theorem walk_add_eq {i j : Nat} (same : walk next first i = walk next first j) (k : Nat) :
    walk next first (i + k) = walk next first (j + k) := by
  induction k with
  | zero => exact same
  | succ k ih =>
    show (walk next first (i + k)).bind next = (walk next first (j + k)).bind next
    rw [ih]

/-- A walk comes to a place only through places. -/
theorem exists_walk_of_le {i j : Nat} {n : ν} (walked : walk next first j = some n) (before : i ≤ j) :
    ∃ m, walk next first i = some m := by
  induction before generalizing n with
  | refl => exact ⟨n, walked⟩
  | step _ ih =>
    obtain ⟨m, earlier, -⟩ := walk_succ_eq_some.mp walked
    exact ih earlier

theorem exists_return (returns : ¬ NoReturn next first) :
    ∃ i j n, walk next first i = some n ∧ walk next first j = some n ∧ i < j := by
  unfold NoReturn at returns
  push Not at returns
  obtain ⟨i, j, n, one, two, different⟩ := returns
  rcases Nat.lt_or_gt_of_ne different with less | more
  · exact ⟨i, j, n, one, two, less⟩
  · exact ⟨j, i, n, two, one, more⟩

/-- A walk that comes back goes on forever. -/
theorem walk_goes_on (returns : ¬ NoReturn next first) (k : Nat) : ∃ n, walk next first k = some n := by
  obtain ⟨i, j, n, one, two, less⟩ := exists_return returns
  induction k using Nat.strong_induction_on with
  | h k ih =>
    by_cases early : k ≤ j
    · exact exists_walk_of_le two early
    · -- The walk is where it was one round before.
      obtain ⟨m, before⟩ := ih (k - (j - i)) (by omega)
      have round := walk_add_eq (one.trans two.symm) (k - j)
      rw [show j + (k - j) = k by omega, show i + (k - j) = k - (j - i) by omega] at round
      exact ⟨m, round.symm.trans before⟩

variable [DecidableEq ν]

/-- How often a place was walked to in so many steps. -/
def visits (next : ν → Option ν) (first : Option ν) (n : ν) (i : Nat) : Nat :=
  (List.range i).countP fun j => walk next first j = some n

theorem visits_succ (n : ν) (i : Nat) :
    visits next first n (i + 1) = visits next first n i + if walk next first i = some n then 1 else 0 := by
  unfold visits
  rw [List.range_succ, List.countP_append, List.countP_singleton]
  simp only [decide_eq_true_eq]

theorem visits_succ_of_walk {i : Nat} {n : ν} (here : walk next first i = some n) (m : ν) :
    visits next first m (i + 1) = visits next first m i + if n = m then 1 else 0 := by
  rw [visits_succ, here]
  simp only [Option.some.injEq]

theorem NoReturn.visits_le_one (noReturn : NoReturn next first) (n : ν) (i : Nat) : visits next first n i ≤ 1 := by
  induction i with
  | zero => exact Nat.zero_le 1
  | succ i ih =>
    rw [visits_succ]
    by_cases here : walk next first i = some n
    · have never : visits next first n i = 0 := by
        apply List.countP_eq_zero.mpr
        intro j earlier there
        have same := noReturn j i n (of_decide_eq_true there) here
        exact absurd (List.mem_range.mp earlier) (by omega)
      rw [never, if_pos here]
    · rw [if_neg here]
      exact ih

/-- Two visits are what a return is. -/
theorem two_le_visits {i j : Nat} {n : ν} (one : walk next first i = some n) (two : walk next first j = some n)
    (less : i < j) : 2 ≤ visits next first n (j + 1) := by
  have rises : ∀ k l, k ≤ l → visits next first n k ≤ visits next first n l := by
    intro k l more
    exact ((List.range_sublist.mpr more)).countP_le
  have upTo := rises (i + 1) j less
  rw [visits_succ, if_pos one] at upTo
  rw [visits_succ, if_pos two]
  omega

end Walks
