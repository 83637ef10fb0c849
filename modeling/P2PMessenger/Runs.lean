import Mathlib.Tactic

/-!
Runs of a system whose step is a partial function of an action, where a guard says
which actions a run may take, and logs in which every event rests on earlier ones.
-/
namespace Runs

variable {σ α ε : Type}

/-- The states that guarded runs from a state reach. -/
inductive Reaches (step : σ → α → Option σ) (allowed : σ → α → Prop) (start : σ) : σ → Prop where
  | start : Reaches step allowed start start
  | step {s t : σ} {a : α} : Reaches step allowed start s → allowed s a → step s a = some t →
      Reaches step allowed start t

variable {step : σ → α → Option σ} {allowed : σ → α → Prop} {start : σ}

/-- What holds at the start and is kept by every allowed step holds in every state reached. -/
theorem Reaches.invariant {I : σ → Prop} (initial : I start)
    (keeps : ∀ s a t, I s → allowed s a → step s a = some t → I t) {s : σ} (reaches : Reaches step allowed start s) :
    I s := by
  induction reaches with
  | start => exact initial
  | step _ guard taken ih => exact keeps _ _ _ ih guard taken

/-- A run that keeps to more keeps to less. -/
theorem Reaches.mono {permits : σ → α → Prop} (more : ∀ s a, allowed s a → permits s a) {s : σ}
    (reaches : Reaches step allowed start s) : Reaches step permits start s := by
  induction reaches with
  | start => exact .start
  | step _ guard taken ih => exact ih.step (more _ _ guard) taken

theorem Reaches.trans {s t : σ} (first : Reaches step allowed start s) (second : Reaches step allowed s t) :
    Reaches step allowed start t := by
  induction second with
  | start => exact first
  | step _ guard taken ih => exact ih.step guard taken

/-- When every step between related states is a run of the other system, or no step at all, the
    other system goes wherever the first one goes. -/
theorem Reaches.simulates {τ β : Type} {other : τ → β → Option τ} {permits : τ → β → Prop} {origin : τ} {rel : σ → τ → Prop}
    (initial : rel start origin)
    (follows : ∀ s a t u, Reaches other permits origin u → rel s u → allowed s a → step s a = some t →
      ∃ v, Reaches other permits u v ∧ rel t v) {s : σ} (reaches : Reaches step allowed start s) :
    ∃ u, Reaches other permits origin u ∧ rel s u := by
  induction reaches with
  | start => exact ⟨origin, .start, initial⟩
  | step _ guard taken ih =>
    obtain ⟨u, before, related⟩ := ih
    obtain ⟨v, later, still⟩ := follows _ _ _ _ before related guard taken
    exact ⟨v, before.trans later, still⟩

/-- The state after a list of actions, if every one of them can be taken. -/
def run (step : σ → α → Option σ) : σ → List α → Option σ
  | s, [] => some s
  | s, a :: actions => (step s a).bind fun t => run step t actions

/-- A run of two lists of actions is one run after the other. -/
theorem run_append (step : σ → α → Option σ) (s : σ) (one two : List α) :
    run step s (one ++ two) = (run step s one).bind fun t => run step t two := by
  induction one generalizing s with
  | nil => rfl
  | cons a one ih =>
    rw [List.cons_append, run, run, Option.bind_assoc]
    exact congrArg _ (funext ih)

/-- Every action of the list is allowed where it is taken. -/
def Guarded (step : σ → α → Option σ) (allowed : σ → α → Prop) : σ → List α → Prop
  | _, [] => True
  | s, a :: actions => allowed s a ∧ ∀ t ∈ step s a, Guarded step allowed t actions

instance decGuarded [∀ s a, Decidable (allowed s a)] : ∀ s actions, Decidable (Guarded step allowed s actions)
  | _, [] => isTrue trivial
  | s, a :: actions =>
    have : ∀ t, Decidable (Guarded step allowed t actions) := fun t => decGuarded t actions
    inferInstanceAs (Decidable (allowed s a ∧ ∀ t ∈ step s a, Guarded step allowed t actions))

theorem guarded_of_free {actions : List α} (free : ∀ a ∈ actions, ∀ u, allowed u a) (s : σ) :
    Guarded step allowed s actions := by
  induction actions generalizing s with
  | nil => trivial
  | cons a actions ih =>
    refine ⟨free a List.mem_cons_self s, fun t _ => ?_⟩
    exact ih (fun b member => free b (List.mem_cons_of_mem _ member)) t

theorem reaches_of_guarded {s t : σ} {actions : List α} (reaches : Reaches step allowed start s)
    (guarded : Guarded step allowed s actions) (taken : run step s actions = some t) : Reaches step allowed start t := by
  induction actions generalizing s with
  | nil =>
    obtain rfl := Option.some.inj taken
    exact reaches
  | cons a actions ih =>
    obtain ⟨u, first, rest⟩ := Option.bind_eq_some_iff.mp taken
    obtain ⟨here, later⟩ := guarded
    exact ih (reaches.step here first) (later u first) rest

/-- A list of actions that are allowed everywhere leads to a state that is reached. -/
theorem reaches_of_run {s t : σ} {actions : List α} (reaches : Reaches step allowed start s)
    (free : ∀ a ∈ actions, ∀ u, allowed u a) (taken : run step s actions = some t) : Reaches step allowed start t :=
  reaches_of_guarded reaches (guarded_of_free free s) taken

/-! ## Logs -/

/-- Every event of the log is justified by the events before it. -/
def Justified (P : List ε → ε → Prop) (log : List ε) : Prop :=
  ∀ before e later, log = before ++ e :: later → P before e

theorem justified_nil (P : List ε → ε → Prop) : Justified P [] := by
  intro before e later empty
  exact absurd empty.symm (List.append_ne_nil_of_right_ne_nil _ (List.cons_ne_nil _ _))

/-- An event of a log with one more event is that event or stands in the log. -/
theorem split_snoc {log before later : List ε} {e x : ε} (split : log ++ [e] = before ++ x :: later) :
    (log = before ∧ e = x ∧ later = []) ∨ ∃ rest, later = rest ++ [e] ∧ log = before ++ x :: rest := by
  rcases List.eq_nil_or_concat later with rfl | ⟨rest, last, rfl⟩
  · obtain ⟨rfl, same⟩ := List.append_inj' split rfl
    exact .inl ⟨rfl, (List.cons.inj same).1, rfl⟩
  · rw [List.concat_eq_append, ← List.cons_append, ← List.append_assoc] at split
    obtain ⟨rfl, same⟩ := List.append_inj' split rfl
    obtain rfl := (List.cons.inj same).1
    exact .inr ⟨rest, List.concat_eq_append, rfl⟩

theorem Justified.snoc {P : List ε → ε → Prop} {log : List ε} {e : ε} (old : Justified P log) (new : P log e) :
    Justified P (log ++ [e]) := by
  intro before x later split
  rcases split_snoc split with ⟨rfl, rfl, -⟩ | ⟨rest, -, inside⟩
  · exact new
  · exact old before x rest inside

/-- New events may rest on the whole log before them. -/
theorem Justified.append {P : List ε → ε → Prop} (mono : ∀ before more e, P before e → P (before ++ more) e)
    {log added : List ε} (old : Justified P log) (new : ∀ e ∈ added, P log e) : Justified P (log ++ added) := by
  intro before e later split
  rcases List.append_eq_append_iff.mp split with ⟨more, rfl, rest⟩ | ⟨more, same, rest⟩
  · refine mono _ _ _ (new e ?_)
    rw [rest]
    exact List.mem_append_right _ List.mem_cons_self
  · cases more with
    | nil =>
      rw [List.append_nil] at same
      subst same
      refine new e ?_
      rw [List.nil_append] at rest
      rw [← rest]
      exact List.mem_cons_self
    | cons first more =>
      rw [List.cons_append, List.cons.injEq] at rest
      obtain ⟨rfl, -⟩ := rest
      exact old before e more same

/-- What the latest event says that says anything. -/
def latest {β : Type} (tells : ε → Option β) (log : List ε) : Option β := (log.filterMap tells).getLast?

theorem latest_append {β : Type} (tells : ε → Option β) (one two : List ε) :
    latest tells (one ++ two) = (latest tells two).or (latest tells one) := by
  rw [latest, List.filterMap_append, List.getLast?_append]
  rfl

/-- What is told was told by an event. -/
theorem latest_eq_some {β : Type} {tells : ε → Option β} {log : List ε} {b : β} (told : latest tells log = some b) :
    ∃ e ∈ log, tells e = some b :=
  List.mem_filterMap.mp (List.mem_of_getLast? told)

/-- When an event tells something, something is told. -/
theorem latest_of_mem {β : Type} {tells : ε → Option β} {log : List ε} {e : ε} {b : β} (member : e ∈ log)
    (told : tells e = some b) : ∃ c, latest tells log = some c := by
  have some_told : log.filterMap tells ≠ [] := List.ne_nil_of_mem (List.mem_filterMap.mpr ⟨e, member, told⟩)
  exact ⟨_, List.getLast?_eq_some_getLast some_told⟩

@[simp] theorem latest_nil {β : Type} (tells : ε → Option β) : latest tells ([] : List ε) = none := rfl

/-! ## Logs of several parties -/

variable {ι : Type} [DecidableEq ι]

/-- What one party has in a list of which it is said whose everything is. -/
def own (i : ι) (log : List (ι × ε)) : List ε := log.filterMap fun e => if e.1 = i then some e.2 else none

@[simp] theorem own_nil (i : ι) : own i ([] : List (ι × ε)) = [] := rfl

@[simp] theorem own_append (i : ι) (one two : List (ι × ε)) : own i (one ++ two) = own i one ++ own i two :=
  List.filterMap_append

theorem own_map (i j : ι) (added : List ε) : own j (added.map (i, ·)) = if i = j then added else [] := by
  unfold own
  rw [List.filterMap_map]
  by_cases same : i = j
  · simp [same]
  · simp [same]

theorem own_singleton (i j : ι) (e : ε) : own j [(i, e)] = if i = j then [e] else [] := own_map i j [e]

theorem count_own [DecidableEq ε] (i : ι) (e : ε) (log : List (ι × ε)) : (own i log).count e = log.count (i, e) := by
  induction log with
  | nil => rfl
  | cons first log ih =>
    obtain ⟨j, e'⟩ := first
    rw [List.count_cons, ← ih, own, List.filterMap_cons]
    by_cases same : j = i
    · subst same
      by_cases alike : e' = e
      · simp [alike, own]
      · simp [alike, own]
    · simp [same, own]

/-- Whoever has less of everybody has less. -/
theorem subperm_of_own {one two : List (ι × ε)} (less : ∀ i, own i one <+: own i two) : one.Subperm two := by
  classical
  rw [List.subperm_ext_iff]
  rintro ⟨i, e⟩ -
  rw [← count_own, ← count_own]
  exact (less i).sublist.count_le e

theorem perm_of_own {one two : List (ι × ε)} (same : ∀ i, own i one = own i two) : one.Perm two := by
  classical
  rw [List.perm_iff_count]
  rintro ⟨i, e⟩
  rw [← count_own, ← count_own, same i]

end Runs
