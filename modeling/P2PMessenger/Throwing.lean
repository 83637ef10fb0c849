import Mathlib.Tactic

/-!
Programs on a state that may throw, where a throw keeps the state reached so far:
core's `EStateM` without rollback, with the rules for the statements that core has
no lemma for.
-/
namespace Throwing

variable {ε σ α β : Type}

theorem run_ite {c : Prop} [Decidable c] (one two : EStateM ε σ α) (s : σ) :
    (if c then one else two).run s = if c then one.run s else two.run s := by
  split <;> rfl

theorem run_throw (e : ε) (s : σ) : (throw e : EStateM ε σ α).run s = .error e s := rfl

/-- A caught exception leaves the state as it was when it was thrown. -/
theorem run_tryCatch (body : EStateM ε σ α) (handler : ε → EStateM ε σ α) (s : σ) :
    (tryCatch body handler).run s =
      match body.run s with
      | .ok a t => .ok a t
      | .error e t => (handler e).run t := by
  simp only [tryCatch, tryCatchThe, MonadExceptOf.tryCatch, EStateM.tryCatch, EStateM.run]
  cases body s with
  | ok a t => rfl
  | error e t => rfl

/-- A result that was computed without the state. -/
theorem run_ofExcept (result : Except ε α) (s : σ) :
    (MonadExcept.ofExcept result : EStateM ε σ α).run s =
      match result with
      | .ok a => .ok a s
      | .error e => .error e s := by
  cases result <;> rfl

theorem run_modify (f : σ → σ) (s : σ) : (modify f : EStateM ε σ Unit).run s = .ok () (f s) := rfl

/-- The state that a program leaves, also one that throws. -/
def after : EStateM.Result ε σ α → σ
  | .ok _ s => s
  | .error _ s => s

@[simp] theorem after_ok (a : α) (s : σ) : after (.ok a s : EStateM.Result ε σ α) = s := rfl
@[simp] theorem after_error (e : ε) (s : σ) : after (.error e s : EStateM.Result ε σ α) = s := rfl

def returns : EStateM.Result ε σ α → Bool
  | .ok _ _ => true
  | .error _ _ => false

theorem eq_ok_of_returns {result : EStateM.Result ε σ Unit} (ok : returns result = true) :
    result = .ok () (after result) := by
  cases result with
  | ok a s => rfl
  | error e s => cases ok

/-- A handler that does nothing leaves what was done before the exception. -/
theorem run_swallow (body : EStateM ε σ Unit) (s : σ) :
    (tryCatch body fun _ => pure ()).run s = .ok () (after (body.run s)) := by
  rw [run_tryCatch]
  cases body.run s with
  | ok a t => rfl
  | error e t => rfl

/-! ## What a program keeps -/

/-- The program, also when it throws, leaves what `f` sees of the state as it was. -/
def Keeps {γ : Type} (f : σ → γ) (program : EStateM ε σ α) : Prop := ∀ s, f (after (program.run s)) = f s

variable {γ : Type} {f : σ → γ}

theorem Keeps.pure (a : α) : Keeps f (Pure.pure a : EStateM ε σ α) := fun _ => rfl

theorem Keeps.bind {one : EStateM ε σ α} {two : α → EStateM ε σ β} (head : Keeps f one) (tail : ∀ a, Keeps f (two a)) :
    Keeps f (one >>= two) := by
  intro s
  have first := head s
  rw [EStateM.run_bind]
  cases run : one.run s with
  | error e t =>
    rw [run] at first
    exact first
  | ok a t =>
    rw [run] at first
    exact (tail a t).trans first

theorem Keeps.ite {c : Prop} [Decidable c] {one two : EStateM ε σ α} (yes : Keeps f one) (no : Keeps f two) :
    Keeps f (if c then one else two) := by
  by_cases h : c
  · rw [if_pos h]
    exact yes
  · rw [if_neg h]
    exact no

theorem Keeps.throw (e : ε) : Keeps f (MonadExcept.throw e : EStateM ε σ α) := fun _ => rfl

theorem Keeps.ofExcept (result : Except ε α) : Keeps f (MonadExcept.ofExcept result : EStateM ε σ α) := by
  intro s
  rw [run_ofExcept]
  cases result <;> rfl

theorem Keeps.modify {g : σ → σ} (same : ∀ s, f (g s) = f s) : Keeps f (modify g : EStateM ε σ Unit) := same

theorem Keeps.swallow {body : EStateM ε σ Unit} (keeps : Keeps f body) : Keeps f (tryCatch body fun _ => Pure.pure ()) := by
  intro s
  rw [run_swallow]
  exact keeps s

end Throwing
