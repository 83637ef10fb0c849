import Mathlib.Tactic

/-!
Machines that answer an input with some outputs, or cannot take it. One machine may be an
abstraction of another, which sees less of it, and two may have the same outputs.
-/
namespace Refinement

variable {σ τ α β ω υ : Type}

/-- The state and the outputs after an input, when it can be taken. -/
abbrev Machine (σ α ω : Type) := σ → α → Option (σ × List ω)

/-- The state after some inputs, and everything that was put out. -/
def Machine.run (m : Machine σ α ω) : σ → List α → Option (σ × List ω)
  | s, [] => some (s, [])
  | s, a :: inputs =>
    (m s a).bind fun first => (m.run first.1 inputs).map fun rest => (rest.1, first.2 ++ rest.2)

variable {m : Machine σ α ω} {n : Machine τ β υ}

theorem run_cons_eq_some {s t : σ} {a : α} {inputs : List α} {out : List ω} :
    m.run s (a :: inputs) = some (t, out) ↔
      ∃ u first rest, m s a = some (u, first) ∧ m.run u inputs = some (t, rest) ∧ out = first ++ rest := by
  rw [Machine.run, Option.bind_eq_some_iff]
  constructor
  · rintro ⟨⟨u, first⟩, taken, later⟩
    obtain ⟨⟨t', rest⟩, ran, same⟩ := Option.map_eq_some_iff.mp later
    cases same
    exact ⟨u, first, rest, taken, ran, rfl⟩
  · rintro ⟨u, first, rest, taken, ran, rfl⟩
    refine ⟨(u, first), taken, ?_⟩
    rw [ran]
    rfl

theorem Machine.run_append {s t u : σ} {one two : List α} {first second : List ω}
    (ran : m.run s one = some (t, first)) (went_on : m.run t two = some (u, second)) :
    m.run s (one ++ two) = some (u, first ++ second) := by
  induction one generalizing s first with
  | nil =>
    cases ran
    exact went_on
  | cons a one ih =>
    obtain ⟨v, head, rest, taken, later, rfl⟩ := run_cons_eq_some.mp ran
    exact run_cons_eq_some.mpr ⟨v, head, rest ++ second, taken, ih later, by rw [List.append_assoc]⟩

theorem Machine.run_snoc {s t u : σ} {inputs : List α} {a : α} {first second : List ω}
    (ran : m.run s inputs = some (t, first)) (taken : m t a = some (u, second)) :
    m.run s (inputs ++ [a]) = some (u, first ++ second) :=
  Machine.run_append ran (run_cons_eq_some.mpr ⟨u, second, [], taken, rfl, (List.append_nil _).symm⟩)

/-- One machine is an abstraction of another: states are forgotten in part, inputs are
    translated, and of the outputs it has what can be seen. -/
def Abstracts (n : Machine τ β υ) (m : Machine σ α ω) (abs : σ → τ) (input : α → β) (view : ω → Option υ) : Prop :=
  ∀ s a, n (abs s) (input a) = (m s a).map fun x => (abs x.1, x.2.filterMap view)

variable {abs : σ → τ} {input : α → β} {view : ω → Option υ}

theorem Abstracts.run (abstracts : Abstracts n m abs input view) (s : σ) (inputs : List α) :
    n.run (abs s) (inputs.map input) = (m.run s inputs).map fun x => (abs x.1, x.2.filterMap view) := by
  induction inputs generalizing s with
  | nil => rfl
  | cons a inputs ih =>
    rw [List.map_cons, Machine.run, Machine.run, abstracts]
    cases m s a with
    | none => rfl
    | some first =>
      simp only [Option.map_some, Option.bind_some, ih, Option.map_map]
      refine congrArg (Option.map · _) (funext fun rest => ?_)
      simp only [Function.comp_apply, List.filterMap_append]

/-- Two runs from states with one abstraction, with inputs that are translated alike, look
    alike. -/
theorem Abstracts.same_view (abstracts : Abstracts n m abs input view) {s t : σ} {one two : List α}
    (start : abs s = abs t) (alike : one.map input = two.map input) :
    ((m.run s one).map fun x => x.2.filterMap view) = (m.run t two).map fun x => x.2.filterMap view := by
  have first := abstracts.run s one
  rw [start, alike, abstracts.run t two] at first
  have seen := congrArg (Option.map Prod.snd) first
  simp only [Option.map_map] at seen
  exact seen.symm

/-- Two machines with the same outputs: from related states they take the same inputs,
    with the same outputs, to related states. -/
def Bisimilar (m : Machine σ α ω) (n : Machine τ α ω) (rel : σ → τ → Prop) : Prop :=
  ∀ s t a, rel s t → Option.Rel (fun x y => x.2 = y.2 ∧ rel x.1 y.1) (m s a) (n t a)

theorem Bisimilar.run {n : Machine τ α ω} {rel : σ → τ → Prop} (bisimilar : Bisimilar m n rel) {s : σ} {t : τ} (related : rel s t)
    (inputs : List α) : Option.Rel (fun x y => x.2 = y.2 ∧ rel x.1 y.1) (m.run s inputs) (n.run t inputs) := by
  induction inputs generalizing s t with
  | nil => exact .some ⟨rfl, related⟩
  | cons a inputs ih =>
    rw [Machine.run, Machine.run]
    have head := bisimilar s t a related
    generalize m s a = one, n t a = two at head
    cases head with
    | none => exact .none
    | @some x y both =>
      rw [Option.bind_some, Option.bind_some]
      have tail := ih both.2
      generalize m.run x.1 inputs = restOne, n.run y.1 inputs = restTwo at tail
      cases tail with
      | none => exact .none
      | some rest => exact .some ⟨congrArg₂ (· ++ ·) both.1 rest.1, rest.2⟩

/-! ## Machines that do something for somebody -/

variable {ι : Type}

/-- The machine when it is said for whom it does something. -/
def Machine.tagged (m : Machine σ α ω) : Machine σ (ι × α) (ι × ω)
  | s, (i, a) => (m s a).map fun x => (x.1, x.2.map (i, ·))

theorem tagged_eq_some {s t : σ} {i : ι} {a : α} {out : List ω} (taken : m s a = some (t, out)) :
    m.tagged s (i, a) = some (t, out.map (i, ·)) := by
  rw [Machine.tagged, taken]
  rfl

theorem Bisimilar.tagged {n : Machine τ α ω} {rel : σ → τ → Prop} (bisimilar : Bisimilar m n rel) :
    Bisimilar (m.tagged (ι := ι)) n.tagged rel := by
  rintro s t ⟨i, a⟩ related
  rw [Machine.tagged, Machine.tagged]
  have both := bisimilar s t a related
  generalize m s a = one, n t a = two at both
  cases both with
  | none => exact .none
  | some same => exact .some ⟨congrArg _ same.1, same.2⟩

end Refinement
