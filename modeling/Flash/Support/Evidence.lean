import Flash.Support.Licence

/-!
# Support — Operations made on evidence

Some operations may only be made once a fact about the world holds: a record may say a payment
went out only once it did.  A program respects this when it makes such an operation only after a
reply that witnesses the fact, and the fact, once true, stays true.  No lock and no order between
the threads is needed: each thread carries its own evidence.

* `Pool.Evidenced`: the world's side, for the worlds satisfying `Inv`: a reply of `G k` shows
  `F k`, which no operation undoes, and an operation keeps `Inv` when every key it needs the
  evidence of has its fact.
* `Pool.EvidenceInv`: `Inv` holds, and of every thread, either `F k` holds or the thread makes
  no operation of `S k` before a reply of `G k`.
* `Pool.run_evidenced`: threads that start so keep `Inv` over every run.

A thread's side is `¬ Reaches (S k) (G k) p`, read off its parts by the rules of `Reaches`.
-/

namespace Threads

namespace Pool

variable {σ Op Rep K : Type}

/-- The world's side of the discipline, for the worlds satisfying `Inv`: a reply of `G k` shows
`F k`; no operation undoes `F k`; and an operation keeps `Inv` when every key it needs the
evidence of has its fact. -/
structure Evidenced (sem : σ → Op → Rep → Option σ) (S : K → Op → Prop)
    (G : K → Op → Rep → Prop) (F : K → σ → Prop) (Inv : σ → Prop) : Prop where
  witness : ∀ {k s op r s'}, Inv s → sem s op r = some s' → G k op r → F k s'
  stable : ∀ {k s op r s'}, Inv s → sem s op r = some s' → F k s → F k s'
  keep : ∀ {s op r s'}, Inv s → sem s op r = some s' → (∀ k, S k op → F k s) → Inv s'

variable {sem : σ → Op → Rep → Option σ} {S : K → Op → Prop} {G : K → Op → Rep → Prop}
  {F : K → σ → Prop} {Inv : σ → Prop}

/-- `Inv` holds, and no thread may make an operation of `S k` without a new reply of `G k` while
`F k` is false. -/
structure EvidenceInv (S : K → Op → Prop) (G : K → Op → Rep → Prop) (F : K → σ → Prop)
    (Inv : σ → Prop) (c : Pool σ Op Rep) : Prop where
  inv : Inv c.world
  waits : ∀ k, ∀ p ∈ c.threads, F k c.world ∨ ¬ Reaches (S k) (G k) p

/-- One step keeps the invariant: the thread that moved had the evidence its operation needs,
and a reply that is no evidence leaves it waiting as before. -/
theorem EvidenceInv.step (hE : Evidenced sem S G F Inv) {c c' : Pool σ Op Rep} {i : Nat}
    {r : Rep} (hI : EvidenceInv S G F Inv c) (h : step sem c i r = some c') :
    EvidenceInv S G F Inv c' := by
  obtain ⟨op, kont, hi, hsem, hth⟩ := step_eq_some h
  have hmem : Prog.call op kont ∈ c.threads := List.mem_of_getElem? hi
  refine ⟨hE.keep hI.inv hsem fun k hs => ?_, fun k p hp => ?_⟩
  · exact (hI.waits k _ hmem).resolve_right fun hn => hn (.here hs)
  rw [hth] at hp
  rcases List.mem_or_eq_of_mem_set hp with hp | rfl
  · exact (hI.waits k p hp).imp (hE.stable hI.inv hsem) id
  · by_cases hg : G k op r
    · exact .inl (hE.witness hI.inv hsem hg)
    · exact (hI.waits k _ hmem).imp (hE.stable hI.inv hsem) fun hn hr => hn (.next r hg hr)

/-- A pool whose world satisfies `Inv` and whose threads wait for their evidence satisfies the
invariant. -/
theorem EvidenceInv.start {c : Pool σ Op Rep} (hinv : Inv c.world)
    (hwait : ∀ k, ∀ p ∈ c.threads, ¬ Reaches (S k) (G k) p) : EvidenceInv S G F Inv c :=
  ⟨hinv, fun k p hp => .inr (hwait k p hp)⟩

/-- **Operations made on evidence keep the invariant.**  Over every run of threads that make an
operation of `S k` only after a reply of `G k`, from a world satisfying `Inv`, the world satisfies
`Inv`. -/
theorem run_evidenced (hE : Evidenced sem S G F Inv) {c c' : Pool σ Op Rep}
    {sched : List (Nat × Rep)} (hinv : Inv c.world)
    (hwait : ∀ k, ∀ p ∈ c.threads, ¬ Reaches (S k) (G k) p) (h : run sem c sched = some c') :
    Inv c'.world :=
  (run_inv (fun _ _ _ _ hI hs => hI.step hE hs) (EvidenceInv.start hinv hwait) h).inv

end Pool

end Threads
