import Mathlib
import Flash.Support.Pool

/-!
# Support — Phases of threads

A program that waits at a handful of points is described by the point it has reached, its
*phase*.  `Follows prog next` says that a family of programs indexed by phases is such a
description: at a phase the program is `prog ph`, and when it waits on an operation, the reply
`r` continues it as `prog (next ph r)`.  The phase a thread stands at is then a function of the
replies it received (`after`), so a fact about the phases of the threads of a pool is a fact
about its runs that names nothing of the programs' text.

* `Follows.feed_eq`: a program fed the replies it ends on, with value `v`, stands at the phase
  those replies lead to as `.pure v`;
* `Follows.bind`: a program followed by another is described by the phases of the first while it
  runs and then those of the second;
* `Pool.phasesAt_step`: one step of threads that follow their machines keeps each thread at
  the phase the run's replies to it lead to.

An invariant of a run is then `Pool.run_inv_hist` applied to `PhasesAt` and a property of the
world and the phases, with `Pool.phasesAt_step` for each step.
-/

namespace Threads

variable {Op Rep φ α : Type}

/-- The programs `prog` follow the phases `next`. -/
def Follows (prog : φ → Prog Op Rep α) (next : φ → Rep → φ) : Prop :=
  ∀ ph op k, prog ph = .call op k → ∀ r, k r = prog (next ph r)

/-- The phase the replies `rs` lead to from `ph`. -/
def after (next : φ → Rep → φ) (ph : φ) (rs : List Rep) : φ :=
  rs.foldl next ph

@[simp] theorem after_nil (next : φ → Rep → φ) (ph : φ) : after next ph [] = ph := rfl

@[simp] theorem after_append_singleton (next : φ → Rep → φ) (ph : φ) (rs : List Rep) (r : Rep) :
    after next ph (rs ++ [r]) = next (after next ph rs) r := by
  simp [after]

@[simp] theorem after_cons (next : φ → Rep → φ) (ph : φ) (r : Rep) (rs : List Rep) :
    after next ph (r :: rs) = after next (next ph r) rs := rfl

theorem after_append (next : φ → Rep → φ) (ph : φ) (rs rs' : List Rep) :
    after next ph (rs ++ rs') = after next (after next ph rs) rs' := by
  simp [after]

theorem Prog.eq_pure_of_feed_nil {p : Prog Op Rep α} {v : α} (h : p.feed [] = some v) :
    p = .pure v := by
  cases p with
  | pure a => cases h; rfl
  | call op k => cases h

/-- **A program that ends stands at its last phase as its value.**  Fed the replies on which
it ends with `v`, the program reaches a phase whose program is `.pure v`. -/
theorem Follows.feed_eq {prog : φ → Prog Op Rep α} {next : φ → Rep → φ}
    (hf : Follows prog next) :
    ∀ (rs : List Rep) (ph : φ) {v : α}, (prog ph).feed rs = some v →
      prog (after next ph rs) = .pure v
  | [], ph, v, h => by
      -- with no reply left, only a finished program is fed successfully
      cases hp : prog ph with
      | pure a => rw [hp] at h; cases h; exact hp
      | call op k => rw [hp] at h; cases h
  | r :: rs, ph, v, h => by
      cases hp : prog ph with
      | pure a => rw [hp] at h; cases h
      | call op k =>
          rw [hp, Prog.feed, hf ph op k hp r] at h
          exact hf.feed_eq rs (next ph r) h

/-- A program whose value is dropped at its end follows the same phases. -/
theorem Follows.bind_pure {β : Type} {prog : φ → Prog Op Rep α} {next : φ → Rep → φ}
    (hf : Follows prog next) (g : α → β) :
    Follows (fun ph => (prog ph).bind fun v => .pure (g v)) next := by
  intro ph op k h r
  beta_reduce at h ⊢
  cases hp : prog ph with
  | pure v =>
      rw [hp, Prog.pure_bind] at h
      cases h
  | call op' k' =>
      rw [hp, Prog.call_bind] at h
      obtain ⟨rfl, rfl⟩ := Prog.call.inj h
      exact congrArg (Prog.bind · _) (hf ph op' k' hp r)

/-- A program whose value is dropped waits where the program waits. -/
theorem Prog.eq_call_of_bind_pure {β : Type} {p : Prog Op Rep α} {g : α → β} {op : Op}
    {k : Rep → Prog Op Rep β} (h : p.bind (fun v => .pure (g v)) = .call op k) :
    ∃ k', p = .call op k' := by
  cases p with
  | pure v => cases h
  | call op' k' =>
      rw [Prog.call_bind] at h
      obtain ⟨rfl, -⟩ := Prog.call.inj h
      exact ⟨k', rfl⟩

/-! ### A program followed by another -/

section Bind

variable {ψ β : Type} (result₁ : φ → Prog Op Rep α) (next₁ : φ → Rep → φ)
  (g : α → Prog Op Rep β) (result₂ : ψ → Prog Op Rep β) (next₂ : ψ → Rep → ψ) (start₂ : α → ψ)

/-- The phases of `(result₁ ph).bind g`: the first program's while it runs, then the second's. -/
def bindResult : φ ⊕ ψ → Prog Op Rep β
  | .inl ph => (result₁ ph).bind g
  | .inr q => result₂ q

/-- A reply at a phase of the first program that has ended goes to the second, from the phase
`start₂ v` its value `v` starts it at. -/
def bindNext : φ ⊕ ψ → Rep → φ ⊕ ψ
  | .inl ph, r =>
      match result₁ ph with
      | .pure v => .inr (next₂ (start₂ v) r)
      | .call _ _ => .inl (next₁ ph r)
  | .inr q, r => .inr (next₂ q r)

variable {result₁ next₁ g result₂ next₂ start₂}

theorem Follows.bind (h₁ : Follows result₁ next₁) (h₂ : Follows result₂ next₂)
    (hg : ∀ v, g v = result₂ (start₂ v)) :
    Follows (bindResult result₁ g result₂) (bindNext result₁ next₁ next₂ start₂) := by
  rintro (ph | q) op k h r
  · cases hp : result₁ ph with
    | pure v =>
        -- the first program has ended: the second one is waiting
        rw [bindResult, hp, Prog.pure_bind, hg] at h
        simp only [bindNext, hp, bindResult]
        exact h₂ _ op k h r
    | call op' k' =>
        rw [bindResult, hp, Prog.call_bind] at h
        obtain ⟨rfl, rfl⟩ := Prog.call.inj h
        simp only [bindNext, hp, bindResult]
        rw [h₁ ph op' k' hp r]
  · exact h₂ q op k h r

/-- While the first program runs, the phases are its own. -/
theorem after_bindNext_inl (h₁ : Follows result₁ next₁) :
    ∀ (rs : List Rep) (ph : φ) {v : α}, (result₁ ph).feed rs = some v →
      after (bindNext result₁ next₁ next₂ start₂) (.inl ph) rs = .inl (after next₁ ph rs)
  | [], _, _, _ => rfl
  | r :: rs, ph, v, h => by
      cases hp : result₁ ph with
      | pure a => rw [hp] at h; cases h
      | call op k =>
          rw [hp, Prog.feed, h₁ ph op k hp r] at h
          simp only [after_cons, bindNext, hp]
          exact after_bindNext_inl h₁ rs (next₁ ph r) h

end Bind

namespace Pool

variable {σ : Type} {sem : σ → Op → Rep → Option σ}

theorem repliesTo_append (sched : List (Nat × Rep)) (i j : Nat) (r : Rep) :
    repliesTo (sched ++ [(j, r)]) i = if j = i then repliesTo sched i ++ [r] else repliesTo sched i := by
  by_cases hji : j = i <;> simp [repliesTo, List.filter_append, hji]

variable {ι : Type} (prog : ι → φ → Prog Op Rep Unit) (next : ι → φ → Rep → φ) (start : ι → φ)

/-- The phase thread `x` stands at after the replies `sched` gave thread `i`. -/
def phaseOf (x : ι) (sched : List (Nat × Rep)) (i : Nat) : φ :=
  after (next x) (start x) (repliesTo sched i)

/-- The threads of `c` are those of `xs`, each at the phase its replies in `sched` lead to. -/
def PhasesAt (xs : List ι) (sched : List (Nat × Rep)) (c : Pool σ Op Rep) : Prop :=
  c.threads = xs.mapIdx fun i x => prog x (phaseOf next start x sched i)

theorem phasesAt_start (xs : List ι) (w : σ) :
    PhasesAt prog next start xs [] (⟨w, xs.map fun x => prog x (start x)⟩ : Pool σ Op Rep) := by
  apply List.ext_getElem (by simp)
  intro i h₁ h₂
  simp [phaseOf, repliesTo]

theorem phaseOf_append (x : ι) (sched : List (Nat × Rep)) (i j : Nat) (r : Rep) :
    phaseOf next start x (sched ++ [(j, r)]) i =
      if j = i then next x (phaseOf next start x sched i) r else phaseOf next start x sched i := by
  by_cases hji : j = i <;> simp [phaseOf, repliesTo_append, hji]

/-- Threads told apart by a key: two of the same key are one. -/
theorem index_eq_of_key_eq {κ : Type} {xs : List ι} {key : ι → κ} (h : (xs.map key).Nodup)
    {i j : Fin xs.length} (hij : key xs[i] = key xs[j]) : i = j := by
  have hi : i.1 < (xs.map key).length := by simp
  have hj : j.1 < (xs.map key).length := by simp
  have h' : (xs.map key)[i.1] = (xs.map key)[j.1] := by simpa using hij
  exact Fin.ext (h.getElem_inj_iff.mp h')

variable {prog next start}

/-- One step of a pool of threads following their machines: thread `i` waits on its phase's
operation, the world answers it, and the thread moves to the next phase. -/
theorem phasesAt_step (hf : ∀ x, Follows (prog x) (next x)) {xs : List ι}
    {sched : List (Nat × Rep)} {c c' : Pool σ Op Rep} {i : Nat} {r : Rep}
    (hat : PhasesAt prog next start xs sched c) (h : step sem c i r = some c') :
    ∃ hi : i < xs.length, ∃ op k, prog xs[i] (phaseOf next start xs[i] sched i) = .call op k ∧
      sem c.world op r = some c'.world ∧ PhasesAt prog next start xs (sched ++ [(i, r)]) c' := by
  obtain ⟨op, k, hthread, hsem, hthreads⟩ := step_eq_some h
  rw [hat, List.getElem?_mapIdx] at hthread
  obtain ⟨x, hx, hprog⟩ := Option.map_eq_some_iff.mp hthread
  obtain ⟨hi, rfl⟩ := List.getElem?_eq_some_iff.mp hx
  refine ⟨hi, op, k, hprog, hsem, ?_⟩
  rw [PhasesAt, hthreads, hat]
  -- only thread `i` got a reply, and it moved to the next phase
  apply List.ext_getElem (by simp)
  intro j hj₁ hj₂
  simp only [List.getElem_set, List.getElem_mapIdx, phaseOf, repliesTo_append]
  by_cases hij : i = j
  · subst hij
    simp only [if_true, after_append_singleton]
    exact hf _ _ op k hprog r
  · simp [hij]

end Pool

end Threads
