import Mathlib

/-!
# Support — Programs

Finite programs that talk to a shared world.  A program either has finished with a value or
issues one operation and waits for its reply; what it does next is a function of the reply.
An `async` function of the source whose every `await` is one operation is such a program,
written in `do` notation: the `await`s are the points where other programs may run.

A world answers an operation through a *semantics* `sem s op r = some s'`: in the world `s` the
operation `op` may reply `r`, leaving `s'`.  Operations that may fail, or whose reply the
environment chooses, accept several replies; a read of the world accepts one.

`Always P p` says that every operation `p` can issue, whatever the replies, satisfies `P`; it is
the rely condition the interleaving rules of `Pool` consume.  A program that may fail is an
`ExceptT ε (Prog Op Rep)`, whose `run` is a program; `Always.exceptBind`, `Always.throwIf` and
`Always.foldlM` read `Always` off its parts.
-/

namespace Threads

/-- A program issuing operations of `Op`, reading replies of `Rep`, ending in an `α`. -/
inductive Prog (Op Rep : Type) (α : Type) where
  | pure (a : α)
  | call (op : Op) (k : Rep → Prog Op Rep α)

variable {Op Rep : Type} {α β γ : Type}

namespace Prog

/-- Sequencing: run `p`, then `f` on its value. -/
def bind : Prog Op Rep α → (α → Prog Op Rep β) → Prog Op Rep β
  | .pure a, f => f a
  | .call op k, f => .call op fun r => bind (k r) f

instance : Monad (Prog Op Rep) where
  pure := .pure
  bind := bind

/-- Issue `op` and return its reply. -/
def issue (op : Op) : Prog Op Rep Rep :=
  .call op .pure

@[simp] theorem pure_eq (a : α) : (Pure.pure a : Prog Op Rep α) = .pure a := rfl

@[simp] theorem bind_eq (p : Prog Op Rep α) (f : α → Prog Op Rep β) : p >>= f = p.bind f := rfl

@[simp] theorem pure_bind (a : α) (f : α → Prog Op Rep β) : (Prog.pure a).bind f = f a := rfl

@[simp] theorem call_bind (op : Op) (k : Rep → Prog Op Rep α) (f : α → Prog Op Rep β) :
    (Prog.call op k).bind f = .call op fun r => (k r).bind f := rfl

@[simp] theorem issue_bind (op : Op) (f : Rep → Prog Op Rep β) :
    (issue op).bind f = .call op f := rfl

/-- The value `p` ends with when its operations receive `replies` in turn, if it ends exactly
when they run out. -/
def feed : Prog Op Rep α → List Rep → Option α
  | .pure a, [] => some a
  | .call _ k, r :: rs => feed (k r) rs
  | _, _ => none

theorem bind_pure_right (p : Prog Op Rep α) : p.bind .pure = p := by
  induction p with
  | pure a => rfl
  | call op k ih => simp only [call_bind, ih]

theorem bind_assoc (p : Prog Op Rep α) (f : α → Prog Op Rep β) (g : β → Prog Op Rep γ) :
    (p.bind f).bind g = p.bind fun a => (f a).bind g := by
  induction p with
  | pure a => rfl
  | call op k ih => simp only [call_bind, ih]

end Prog

/-! ### What a program can issue -/

/-- Every operation `p` can issue satisfies `P`. -/
inductive Always (P : Op → Prop) : Prog Op Rep α → Prop where
  | pure (a : α) : Always P (.pure a)
  | call {op : Op} {k : Rep → Prog Op Rep α} (h : P op) (hk : ∀ r, Always P (k r)) :
      Always P (.call op k)

namespace Always

variable {P : Op → Prop}

theorem bind {p : Prog Op Rep α} {f : α → Prog Op Rep β} (hp : Always P p)
    (hf : ∀ a, Always P (f a)) : Always P (p.bind f) := by
  induction hp with
  | pure a => exact hf a
  | call h _ ih => exact .call h ih

theorem issue {op : Op} (h : P op) : Always P (Prog.issue op : Prog Op Rep Rep) :=
  .call h fun r => .pure r

theorem issue_bind {op : Op} {f : Rep → Prog Op Rep β} (h : P op) (hf : ∀ r, Always P (f r)) :
    Always P ((Prog.issue op).bind f) :=
  .call h hf

theorem mono {Q : Op → Prop} (hPQ : ∀ op, P op → Q op) {p : Prog Op Rep α} (hp : Always P p) :
    Always Q p := by
  induction hp with
  | pure a => exact .pure a
  | call h _ ih => exact .call (hPQ _ h) ih

theorem head {op : Op} {k : Rep → Prog Op Rep α} (h : Always P (.call op k)) : P op := by
  cases h with
  | call h _ => exact h

theorem tail {op : Op} {k : Rep → Prog Op Rep α} (h : Always P (.call op k)) (r : Rep) :
    Always P (k r) := by
  cases h with
  | call _ hk => exact hk r

/-- A failing program's sequence issues what its parts issue: an error skips the rest. -/
theorem exceptBind {ε : Type} {x : ExceptT ε (Prog Op Rep) α} {f : α → ExceptT ε (Prog Op Rep) β}
    (hx : Always P x.run) (hf : ∀ a, Always P (f a).run) : Always P (x >>= f).run := by
  refine hx.bind fun e => ?_
  cases e with
  | ok a => exact hf a
  | error e => exact .pure _

/-- A program that fails at once issues nothing. -/
theorem fail {ε : Type} (e : ε) : Always P (throw e : ExceptT ε (Prog Op Rep) α).run :=
  .pure _

/-- A guard `if c then throw e` issues what the program after it issues. -/
theorem throwIf {ε : Type} {c : Prop} [Decidable c] {e : ε} {f : β → ExceptT ε (Prog Op Rep) α}
    {x : ExceptT ε (Prog Op Rep) α} (hx : Always P x.run) :
    Always P (if c then throw e >>= f else x).run := by
  split
  · exact .pure _
  · exact hx

/-- A loop of failing steps issues what its steps issue. -/
theorem foldlM {ε : Type} {f : β → α → ExceptT ε (Prog Op Rep) β}
    (hf : ∀ b a, Always P (f b a).run) (l : List α) (b : β) : Always P (l.foldlM f b).run := by
  induction l generalizing b with
  | nil => exact .pure _
  | cons a l ih => exact exceptBind (hf b a) ih

end Always

end Threads
