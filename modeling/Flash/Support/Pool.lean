import Flash.Support.Prog

/-!
# Support — Pools of threads

A pool is a world and a list of threads, each a `Prog` still to run.  A step picks a thread
whose next move is an operation, and a reply the world's semantics accepts for it; the world
moves on and the thread continues with that reply.  A schedule is a list of such choices, so
every interleaving of the threads' operations, with every outcome the semantics allows, is the
run of some schedule, and a run is computed by `Pool.run`.

The rules at the end are the two ways a fact about a whole run is obtained here: a property of
the world that every permitted operation keeps (`run_world`), with the operations a thread may
issue bounded by `Always`; and a property of the world together with the threads (`run_inv`).
-/

namespace Threads

variable {σ Op Rep : Type}

/-- A world `σ` and the threads still running against it. -/
structure Pool (σ Op Rep : Type) where
  world : σ
  threads : List (Prog Op Rep Unit)

namespace Pool

variable (sem : σ → Op → Rep → Option σ)

/-- Thread `i` issues its pending operation and the world replies `r`. -/
def step (c : Pool σ Op Rep) (i : Nat) (r : Rep) : Option (Pool σ Op Rep) :=
  match c.threads[i]? with
  | some (.call op k) => (sem c.world op r).map fun s' => ⟨s', c.threads.set i (k r)⟩
  | _ => none

/-- The run of a schedule: each entry names a thread and the reply it receives. -/
def run : Pool σ Op Rep → List (Nat × Rep) → Option (Pool σ Op Rep)
  | c, [] => some c
  | c, (i, r) :: rest => (step sem c i r).bind fun c' => run c' rest

/-- The run of a schedule whose entries name a thread and a choice `χ` of the environment; the
reply is what `oracle` makes of the choice in the current world.  A concrete run is written
this way, with the world's answers computed rather than spelled out. -/
def runBy {χ : Type} (oracle : σ → Op → χ → Rep) :
    Pool σ Op Rep → List (Nat × χ) → Option (Pool σ Op Rep)
  | c, [] => some c
  | c, (i, x) :: rest =>
      match c.threads[i]? with
      | some (.call op _) => (step sem c i (oracle c.world op x)).bind fun c' => runBy oracle c' rest
      | _ => none

/-- The replies a schedule gives thread `i`, in order. -/
def repliesTo (sched : List (Nat × Rep)) (i : Nat) : List Rep :=
  (sched.filter fun e => e.1 = i).map (·.2)

/-- `c'` is reachable from `c`: some schedule leads there. -/
def Reachable (c c' : Pool σ Op Rep) : Prop :=
  ∃ sched, run sem c sched = some c'

variable {sem}

@[simp] theorem run_nil (c : Pool σ Op Rep) : run sem c [] = some c := rfl

theorem run_cons (c : Pool σ Op Rep) (i : Nat) (r : Rep) (rest : List (Nat × Rep)) :
    run sem c ((i, r) :: rest) = (step sem c i r).bind fun c' => run sem c' rest := rfl

theorem run_append (c : Pool σ Op Rep) (xs ys : List (Nat × Rep)) :
    run sem c (xs ++ ys) = (run sem c xs).bind fun c' => run sem c' ys := by
  induction xs generalizing c with
  | nil => rfl
  | cons x xs ih =>
      obtain ⟨i, r⟩ := x
      simp only [List.cons_append, run_cons]
      cases step sem c i r with
      | none => rfl
      | some c' => exact ih c'

/-- Inversion of a step: the thread was waiting on `op`, which the world answered with `r`. -/
theorem step_eq_some {c c' : Pool σ Op Rep} {i : Nat} {r : Rep} (h : step sem c i r = some c') :
    ∃ op k, c.threads[i]? = some (.call op k) ∧ sem c.world op r = some c'.world ∧
      c'.threads = c.threads.set i (k r) := by
  unfold step at h
  split at h
  · rename_i op k hi
    obtain ⟨s', hs, rfl⟩ := Option.map_eq_some_iff.mp h
    exact ⟨op, k, hi, hs, rfl⟩
  · cases h

theorem Reachable.refl (c : Pool σ Op Rep) : Reachable sem c c := ⟨[], rfl⟩

theorem Reachable.trans {c₁ c₂ c₃ : Pool σ Op Rep} (h₁ : Reachable sem c₁ c₂)
    (h₂ : Reachable sem c₂ c₃) : Reachable sem c₁ c₃ := by
  obtain ⟨xs, hx⟩ := h₁
  obtain ⟨ys, hy⟩ := h₂
  exact ⟨xs ++ ys, by rw [run_append, hx]; exact hy⟩

/-- A run driven by choices is a run. -/
theorem runBy_reachable {χ : Type} {oracle : σ → Op → χ → Rep} {c c' : Pool σ Op Rep}
    {sched : List (Nat × χ)} (h : runBy sem oracle c sched = some c') : Reachable sem c c' := by
  induction sched generalizing c with
  | nil => cases h; exact Reachable.refl _
  | cons x xs ih =>
      obtain ⟨i, ch⟩ := x
      simp only [runBy] at h
      split at h
      · rename_i op k _
        cases hs : step sem c i (oracle c.world op ch) with
        | none => rw [hs] at h; cases h
        | some c₁ =>
            rw [hs] at h
            exact Reachable.trans ⟨[(i, oracle c.world op ch)], by simp [run, hs]⟩ (ih h)
      · cases h

theorem runBy_append {χ : Type} (oracle : σ → Op → χ → Rep) (c : Pool σ Op Rep)
    (xs ys : List (Nat × χ)) :
    runBy sem oracle c (xs ++ ys) = (runBy sem oracle c xs).bind fun c' => runBy sem oracle c' ys := by
  induction xs generalizing c with
  | nil => rfl
  | cons x xs ih =>
      obtain ⟨i, ch⟩ := x
      simp only [List.cons_append, runBy]
      split
      · rename_i op k _
        cases step sem c i (oracle c.world op ch) with
        | none => rfl
        | some c' => exact ih c'
      · rfl

/-- A run of one choice is one step. -/
theorem runBy_single {χ : Type} {oracle : σ → Op → χ → Rep} {c c' : Pool σ Op Rep} {i : Nat}
    {x : χ} (h : runBy sem oracle c [(i, x)] = some c') : ∃ r, step sem c i r = some c' := by
  simp only [runBy] at h
  split at h
  · rename_i op k _
    refine ⟨oracle c.world op x, ?_⟩
    cases hs : step sem c i (oracle c.world op x) with
    | none => rw [hs] at h; cases h
    | some c₁ => rw [hs] at h; cases h; rfl
  · cases h

/-! ### Invariants of whole runs -/

/-- An invariant of pools kept by every step is kept by every run. -/
theorem run_inv {I : Pool σ Op Rep → Prop}
    (hstep : ∀ c c' i r, I c → step sem c i r = some c' → I c')
    {c c' : Pool σ Op Rep} {sched : List (Nat × Rep)} (hc : I c)
    (h : run sem c sched = some c') : I c' := by
  induction sched generalizing c with
  | nil => cases h; exact hc
  | cons x xs ih =>
      obtain ⟨i, r⟩ := x
      rw [run_cons] at h
      cases hs : step sem c i r with
      | none => rw [hs] at h; cases h
      | some c₁ =>
          rw [hs] at h
          exact ih (hstep c c₁ i r hc hs) h

/-- An invariant of a pool together with the schedule that led to it, kept by every step, holds
after every run: the schedule so far is the run's history, which names the thread each reply
went to. -/
theorem run_inv_hist {I : List (Nat × Rep) → Pool σ Op Rep → Prop}
    (hstep : ∀ hist c c' i r, I hist c → step sem c i r = some c' → I (hist ++ [(i, r)]) c')
    {hist : List (Nat × Rep)} {c c' : Pool σ Op Rep} {sched : List (Nat × Rep)} (hc : I hist c)
    (h : run sem c sched = some c') : I (hist ++ sched) c' := by
  induction sched generalizing hist c with
  | nil => cases h; simpa using hc
  | cons x xs ih =>
      obtain ⟨i, r⟩ := x
      rw [run_cons] at h
      cases hs : step sem c i r with
      | none => rw [hs] at h; cases h
      | some c₁ =>
          rw [hs] at h
          have hnext := ih (hstep hist c c₁ i r hc hs) h
          simpa using hnext

/-- A property of the world that every operation keeps, whoever issues it, holds after every run. -/
theorem run_world_of_answer {I : σ → Prop} (hop : ∀ s op r s', I s → sem s op r = some s' → I s')
    {c c' : Pool σ Op Rep} {sched : List (Nat × Rep)} (hc : I c.world)
    (h : run sem c sched = some c') : I c'.world := by
  refine run_inv (I := fun c => I c.world) (fun c₁ c₂ i r hI hs => ?_) hc h
  obtain ⟨op, k, -, hsem, -⟩ := step_eq_some hs
  exact hop _ op r _ hI hsem

/-- Every thread of the pool issues only operations satisfying `P`. -/
def AllAlways (P : Op → Prop) (c : Pool σ Op Rep) : Prop :=
  ∀ p ∈ c.threads, Always P p

/-- The rely `AllAlways P` survives a step: the thread that moved continues with a
continuation of a program that only issues `P`, and the others are untouched. -/
theorem AllAlways.next {P : Op → Prop} {c c' : Pool σ Op Rep} {i : Nat} {r : Rep}
    (hc : AllAlways P c) (h : step sem c i r = some c') : AllAlways P c' := by
  obtain ⟨op, k, hi, -, hth⟩ := step_eq_some h
  intro p hp
  rw [hth] at hp
  rcases List.mem_or_eq_of_mem_set hp with hp | rfl
  · exact hc p hp
  · exact (hc _ (List.mem_of_getElem? hi)).tail r

/-- The operation a step performs satisfies the rely. -/
theorem AllAlways.op {P : Op → Prop} {c c' : Pool σ Op Rep} {i : Nat} {r : Rep}
    (hc : AllAlways P c) (h : step sem c i r = some c') :
    ∃ op, P op ∧ sem c.world op r = some c'.world := by
  obtain ⟨op, k, hi, hs, -⟩ := step_eq_some h
  exact ⟨op, (hc _ (List.mem_of_getElem? hi)).head, hs⟩

/-- **Rely rule.**  A property of the world that every operation permitted by `P` keeps holds
after every run of threads that only issue `P`. -/
theorem run_world {P : Op → Prop} {I : σ → Prop}
    (hop : ∀ s op r s', P op → I s → sem s op r = some s' → I s')
    {c c' : Pool σ Op Rep} {sched : List (Nat × Rep)} (hP : AllAlways P c) (hc : I c.world)
    (h : run sem c sched = some c') : I c'.world := by
  have hstep : ∀ c₁ c₂ i r, AllAlways P c₁ ∧ I c₁.world → step sem c₁ i r = some c₂ →
      AllAlways P c₂ ∧ I c₂.world := by
    rintro c₁ c₂ i r ⟨hA, hI⟩ hs
    obtain ⟨op, hp, hs'⟩ := hA.op hs
    exact ⟨hA.next hs, hop _ op r _ hp hI hs'⟩
  exact (run_inv hstep ⟨hP, hc⟩ h).2

end Pool

end Threads
