import Flash.Support.Pool

/-!
# Support — Operations made under a licence

An operation that must happen at most once per key, made only by a program that has won a
compare-and-set on the key, is the pattern here.  The compare-and-set is the *licence*, and the
world grants it once per key; the threads' side is stated on their programs.

* `Reaches S G p`: `p` may issue an operation of `S` along replies none of which is a licence
  `G` — it holds a licence it has not used yet, or it needs none.
* `SpendsLicence S G p`: after each operation of `S`, `p` reaches no other without a new licence.
* `Pool.Licensing`: the world grants the licence for a key only while the key is open, closes it
  for good when it does, and counts one per operation of `S` on the key.
* `Pool.run_licensed_at_most_once`: threads that start without a licence and spend it on each
  operation of `S` make at most one per key, over every run, and none while the key is open.

The bind rules read a program's licence facts off its parts, so that a program is checked once
and its operations interleaved arbitrarily afterwards.
-/

namespace Threads

variable {Op Rep : Type} {α β : Type}

section Programs

variable (S : Op → Prop) (G : Op → Rep → Prop)

/-- `p` may issue an operation of `S` along replies none of which is a licence `G`. -/
inductive Reaches : Prog Op Rep α → Prop
  | here {op : Op} {k : Rep → Prog Op Rep α} : S op → Reaches (.call op k)
  | next {op : Op} {k : Rep → Prog Op Rep α} (r : Rep) : ¬ G op r → Reaches (k r) →
      Reaches (.call op k)

/-- After each operation of `S` that `p` issues, it reaches no other without a new licence. -/
inductive SpendsLicence : Prog Op Rep α → Prop
  | pure (a : α) : SpendsLicence (.pure a)
  | call {op : Op} {k : Rep → Prog Op Rep α} (h : S op → ∀ r, ¬ Reaches S G (k r))
      (hk : ∀ r, SpendsLicence (k r)) : SpendsLicence (.call op k)

end Programs

variable {S : Op → Prop} {G : Op → Rep → Prop}

namespace Reaches

theorem not_pure (a : α) : ¬ Reaches S G (Prog.pure a : Prog Op Rep α) := by
  intro h
  cases h

/-- A program that never issues `S` reaches none. -/
theorem not_of_always {p : Prog Op Rep α} (hp : Always (fun op => ¬ S op) p) :
    ¬ Reaches S G p := by
  induction hp with
  | pure a => exact not_pure a
  | call h _ ih =>
      intro hr
      cases hr with
      | here hs => exact h hs
      | next r _ hk => exact ih r hk

/-- A call outside `S` reaches nothing if each of its replies but a licence leads nowhere. -/
theorem not_call {op : Op} {k : Rep → Prog Op Rep α} (hop : ¬ S op)
    (hk : ∀ r, ¬ G op r → ¬ Reaches S G (k r)) : ¬ Reaches S G (.call op k) := by
  intro hr
  cases hr with
  | here hs => exact hop hs
  | next r hg h => exact hk r hg h

/-- A sequence reaches nothing if neither of its parts does. -/
theorem not_bind {p : Prog Op Rep α} {f : α → Prog Op Rep β} (hp : ¬ Reaches S G p)
    (hf : ∀ a, ¬ Reaches S G (f a)) : ¬ Reaches S G (p.bind f) := by
  induction p with
  | pure a => exact hf a
  | call op k ih =>
      rw [Prog.call_bind]
      intro hr
      cases hr with
      | here hs => exact hp (.here hs)
      | next r hg h => exact ih r (fun hk => hp (.next r hg hk)) h

/-- A failing program's sequence reaches nothing if neither part does. -/
theorem not_exceptBind {ε : Type} {x : ExceptT ε (Prog Op Rep) α}
    {f : α → ExceptT ε (Prog Op Rep) β} (hx : ¬ Reaches S G x.run)
    (hf : ∀ a, ¬ Reaches S G (f a).run) : ¬ Reaches S G (x >>= f).run := by
  refine not_bind hx fun e => ?_
  cases e with
  | ok a => exact hf a
  | error e => exact not_pure _

end Reaches

namespace SpendsLicence

/-- A program that never issues `S` spends every licence it gets. -/
theorem of_always {p : Prog Op Rep α} (hp : Always (fun op => ¬ S op) p) :
    SpendsLicence S G p := by
  induction hp with
  | pure a => exact .pure a
  | call h _ ih => exact .call (fun hs => absurd hs h) ih

theorem tail {op : Op} {k : Rep → Prog Op Rep α} (h : SpendsLicence S G (.call op k)) (r : Rep) :
    SpendsLicence S G (k r) := by
  cases h with
  | call _ hk => exact hk r

theorem spent {op : Op} {k : Rep → Prog Op Rep α} (h : SpendsLicence S G (.call op k))
    (hs : S op) (r : Rep) : ¬ Reaches S G (k r) := by
  cases h with
  | call h _ => exact h hs r

/-- An operation of `S` after which nothing of `S` is issued. -/
theorem call_last {op : Op} {k : Rep → Prog Op Rep α} (hk : ∀ r, Always (fun op => ¬ S op) (k r)) :
    SpendsLicence S G (.call op k) :=
  .call (fun _ r => Reaches.not_of_always (hk r)) fun r => of_always (hk r)

/-- A prefix that issues nothing of `S` keeps the discipline of what follows it. -/
theorem bind_of_always {p : Prog Op Rep α} {f : α → Prog Op Rep β}
    (hp : Always (fun op => ¬ S op) p) (hf : ∀ a, SpendsLicence S G (f a)) :
    SpendsLicence S G (p.bind f) := by
  induction hp with
  | pure a => exact hf a
  | call h _ ih =>
      rw [Prog.call_bind]
      exact .call (fun hs => absurd hs h) ih

/-- So does a suffix that issues nothing of `S`. -/
theorem bind_always {p : Prog Op Rep α} {f : α → Prog Op Rep β} (hp : SpendsLicence S G p)
    (hf : ∀ a, Always (fun op => ¬ S op) (f a)) : SpendsLicence S G (p.bind f) := by
  induction hp with
  | pure a => exact of_always (hf a)
  | call h _ ih =>
      rw [Prog.call_bind]
      exact .call (fun hs r => Reaches.not_bind (h hs r) fun a => Reaches.not_of_always (hf a)) ih

/-- A failing prefix that issues nothing of `S` keeps the discipline of what follows it. -/
theorem exceptBind_of_always {ε : Type} {x : ExceptT ε (Prog Op Rep) α}
    {f : α → ExceptT ε (Prog Op Rep) β} (hx : Always (fun op => ¬ S op) x.run)
    (hf : ∀ a, SpendsLicence S G (f a).run) : SpendsLicence S G (x >>= f).run := by
  refine bind_of_always hx fun e => ?_
  cases e with
  | ok a => exact hf a
  | error e => exact .pure _

end SpendsLicence

/-! ### Licences over whole runs -/

namespace Pool

variable {σ K : Type}

/-- The world's side of the licence discipline, for the worlds satisfying `W`: the licence `G k`
is granted only while `k` is open, and closes it; `count k` grows by at most one per operation of
`S k`, and not otherwise; a closed key stays closed. -/
structure Licensing (sem : σ → Op → Rep → Option σ) (S : K → Op → Prop) (G : K → Op → Rep → Prop)
    (Open : K → σ → Prop) (count : K → σ → Nat) (W : σ → Prop) : Prop where
  inv : ∀ {s op r s'}, W s → sem s op r = some s' → W s'
  grant : ∀ {k s op r s'}, W s → sem s op r = some s' → G k op r →
    Open k s ∧ ¬ Open k s' ∧ count k s' = count k s
  spend : ∀ {k s op r s'}, W s → sem s op r = some s' → S k op → count k s' ≤ count k s + 1
  keep : ∀ {k s op r s'}, W s → sem s op r = some s' → ¬ S k op → count k s' = count k s
  stays_closed : ∀ {k s op r s'}, W s → sem s op r = some s' → Open k s' → Open k s

variable {sem : σ → Op → Rep → Option σ} {S : K → Op → Prop} {G : K → Op → Rep → Prop}
  {Open : K → σ → Prop} {count : K → σ → Nat} {W : σ → Prop}

/-- Thread `i` of `c` may make an operation of `S k` without a further licence. -/
def Armed (S : K → Op → Prop) (G : K → Op → Rep → Prop) (k : K) (c : Pool σ Op Rep)
    (i : Nat) : Prop :=
  ∃ p, c.threads[i]? = some p ∧ Reaches (S k) (G k) p

/-- For the key `k`: an operation made or a thread armed, one at most, and neither while `k` is
open; and every thread spends its licences. -/
structure LicenceInv (S : K → Op → Prop) (G : K → Op → Rep → Prop) (Open : K → σ → Prop)
    (count : K → σ → Nat) (k : K) (c : Pool σ Op Rep) : Prop where
  count_le : count k c.world ≤ 1
  unarmed_of_made : 0 < count k c.world → ∀ i, ¬ Armed S G k c i
  armed_unique : ∀ i j, Armed S G k c i → Armed S G k c j → i = j
  open_fresh : Open k c.world → count k c.world = 0 ∧ ∀ i, ¬ Armed S G k c i
  spends : ∀ p ∈ c.threads, SpendsLicence (S k) (G k) p

section Step

variable {c c' : Pool σ Op Rep} {i : Nat} {op : Op} {kont : Rep → Prog Op Rep Unit} {r : Rep}
  {k : K}

/-- The other threads are as armed as before the step. -/
theorem armed_step_ne (hth : c'.threads = c.threads.set i (kont r)) {j : Nat} (hj : i ≠ j) :
    Armed S G k c' j ↔ Armed S G k c j := by
  simp only [Armed, hth, List.getElem?_set_ne hj]

/-- The thread that moved is armed as its continuation is. -/
theorem armed_step_self (hi : c.threads[i]? = some (.call op kont))
    (hth : c'.threads = c.threads.set i (kont r)) :
    Armed S G k c' i ↔ Reaches (S k) (G k) (kont r) := by
  have hlt : i < c.threads.length := (List.getElem?_eq_some_iff.mp hi).1
  simp [Armed, hth, List.getElem?_set_self hlt]

/-- A thread whose next operation is of `S k` is armed. -/
theorem armed_of_op (hi : c.threads[i]? = some (.call op kont)) (hs : S k op) :
    Armed S G k c i :=
  ⟨_, hi, .here hs⟩

/-- A reply that is not a licence arms no thread. -/
theorem armed_of_step (hi : c.threads[i]? = some (.call op kont))
    (hth : c'.threads = c.threads.set i (kont r)) (hg : ¬ G k op r) {j : Nat}
    (h : Armed S G k c' j) : Armed S G k c j := by
  by_cases hj : i = j
  · subst hj
    exact ⟨_, hi, .next r hg ((armed_step_self hi hth).mp h)⟩
  · exact (armed_step_ne hth hj).mp h

theorem spends_step (hsp : ∀ p ∈ c.threads, SpendsLicence (S k) (G k) p)
    (hi : c.threads[i]? = some (.call op kont)) (hth : c'.threads = c.threads.set i (kont r)) :
    ∀ p ∈ c'.threads, SpendsLicence (S k) (G k) p := by
  intro p hp
  rw [hth] at hp
  rcases List.mem_or_eq_of_mem_set hp with hp | rfl
  · exact hsp p hp
  · exact (hsp _ (List.mem_of_getElem? hi)).tail r

end Step

/-- A step by a thread granted the licence: the key was open, so nothing was made and nobody was
armed; at most the granted thread is armed now, and the key is closed. -/
theorem LicenceInv.step_grant {c c' : Pool σ Op Rep} {i : Nat} {op : Op}
    {kont : Rep → Prog Op Rep Unit} {r : Rep} {k : K} (hI : LicenceInv S G Open count k c)
    (hi : c.threads[i]? = some (.call op kont)) (hth : c'.threads = c.threads.set i (kont r))
    (hopen : Open k c.world) (hclosed : ¬ Open k c'.world) (hcount : count k c'.world = count k c.world) :
    LicenceInv S G Open count k c' := by
  obtain ⟨hzero, hnone⟩ := hI.open_fresh hopen
  -- only the granted thread can be armed after the step
  have honly : ∀ j, Armed S G k c' j → j = i := by
    intro j hj
    by_cases hji : j = i
    · exact hji
    · exact absurd ((armed_step_ne hth (Ne.symm hji)).mp hj) (hnone j)
  refine ⟨by omega, fun h => absurd h (by omega), ?_, fun h => absurd h hclosed,
    spends_step hI.spends hi hth⟩
  intro j₁ j₂ h₁ h₂
  rw [honly j₁ h₁, honly j₂ h₂]

/-- A step making an operation of `S k` without a licence: the thread was armed, so it was the
only one and nothing was made yet; it spends its licence, and nobody is armed now. -/
theorem LicenceInv.step_spend (hL : Licensing sem S G Open count W) {c c' : Pool σ Op Rep}
    {i : Nat} {op : Op} {kont : Rep → Prog Op Rep Unit} {r : Rep} {k : K}
    (hW : W c.world) (hI : LicenceInv S G Open count k c)
    (hi : c.threads[i]? = some (.call op kont)) (hsem : sem c.world op r = some c'.world)
    (hth : c'.threads = c.threads.set i (kont r)) (hs : S k op) :
    LicenceInv S G Open count k c' := by
  have harmed : Armed S G k c i := armed_of_op hi hs
  have hzero : count k c.world = 0 :=
    Nat.eq_zero_of_not_pos fun hpos => hI.unarmed_of_made hpos i harmed
  have hnone : ∀ j, ¬ Armed S G k c' j := by
    intro j hj
    by_cases hij : i = j
    · subst hij
      exact (hI.spends _ (List.mem_of_getElem? hi)).spent hs r ((armed_step_self hi hth).mp hj)
    · exact hij (hI.armed_unique i j harmed ((armed_step_ne hth hij).mp hj))
  have hle := hL.spend hW hsem hs
  refine ⟨by omega, fun _ => hnone, fun j _ hj => absurd hj (hnone j), fun ho => ?_,
    spends_step hI.spends hi hth⟩
  exact absurd harmed ((hI.open_fresh (hL.stays_closed hW hsem ho)).2 i)

/-- Any other step: nothing is made, and no thread becomes armed. -/
theorem LicenceInv.step_other (hL : Licensing sem S G Open count W) {c c' : Pool σ Op Rep}
    {i : Nat} {op : Op} {kont : Rep → Prog Op Rep Unit} {r : Rep} {k : K}
    (hW : W c.world) (hI : LicenceInv S G Open count k c)
    (hi : c.threads[i]? = some (.call op kont)) (hsem : sem c.world op r = some c'.world)
    (hth : c'.threads = c.threads.set i (kont r)) (hg : ¬ G k op r) (hs : ¬ S k op) :
    LicenceInv S G Open count k c' := by
  have hcount := hL.keep hW hsem hs
  have hback : ∀ j, Armed S G k c' j → Armed S G k c j := fun j => armed_of_step hi hth hg
  refine ⟨hcount ▸ hI.count_le, fun h j hj => hI.unarmed_of_made (hcount ▸ h) j (hback j hj),
    fun j₁ j₂ h₁ h₂ => hI.armed_unique j₁ j₂ (hback j₁ h₁) (hback j₂ h₂), fun ho => ?_,
    spends_step hI.spends hi hth⟩
  obtain ⟨hzero, hnone⟩ := hI.open_fresh (hL.stays_closed hW hsem ho)
  exact ⟨hcount ▸ hzero, fun j hj => hnone j (hback j hj)⟩

/-- One step keeps the licence invariant of every key. -/
theorem LicenceInv.step (hL : Licensing sem S G Open count W) {c c' : Pool σ Op Rep} {i : Nat}
    {r : Rep} {k : K} (hW : W c.world) (hI : LicenceInv S G Open count k c)
    (h : step sem c i r = some c') : LicenceInv S G Open count k c' := by
  obtain ⟨op, kont, hi, hsem, hth⟩ := step_eq_some h
  by_cases hg : G k op r
  · obtain ⟨hopen, hclosed, hcount⟩ := hL.grant hW hsem hg
    exact hI.step_grant hi hth hopen hclosed hcount
  · by_cases hs : S k op
    · exact hI.step_spend hL hW hi hsem hth hs
    · exact hI.step_other hL hW hi hsem hth hg hs

/-- A pool whose threads hold no licence yet and spend each they get, before anything is made,
satisfies the invariant. -/
theorem LicenceInv.start {c : Pool σ Op Rep} {k : K} (hcount : count k c.world = 0)
    (hfresh : ∀ p ∈ c.threads, ¬ Reaches (S k) (G k) p)
    (hspends : ∀ p ∈ c.threads, SpendsLicence (S k) (G k) p) :
    LicenceInv S G Open count k c := by
  have hnone : ∀ i, ¬ Armed S G k c i := by
    rintro i ⟨p, hp, hr⟩
    exact hfresh p (List.mem_of_getElem? hp) hr
  exact ⟨by omega, fun _ => hnone, fun i _ hi => absurd hi (hnone i), fun _ => ⟨hcount, hnone⟩,
    hspends⟩

/-- **At most once under a licence.**  Over every run from a pool satisfying the invariant for
every key, each key has at most one operation made, and none while it is open. -/
theorem run_licensed_at_most_once (hL : Licensing sem S G Open count W) {c c' : Pool σ Op Rep}
    {sched : List (Nat × Rep)} (hW : W c.world) (hI : ∀ k, LicenceInv S G Open count k c)
    (h : run sem c sched = some c') :
    W c'.world ∧ ∀ k, count k c'.world ≤ 1 ∧ (0 < count k c'.world → ¬ Open k c'.world) := by
  have hstep : ∀ c₁ c₂ i r, (W c₁.world ∧ ∀ k, LicenceInv S G Open count k c₁) →
      step sem c₁ i r = some c₂ → W c₂.world ∧ ∀ k, LicenceInv S G Open count k c₂ := by
    rintro c₁ c₂ i r ⟨hW₁, hI₁⟩ hs
    obtain ⟨op, kont, -, hsem, -⟩ := step_eq_some hs
    exact ⟨hL.inv hW₁ hsem, fun k => (hI₁ k).step hL hW₁ hs⟩
  obtain ⟨hW', hI'⟩ := run_inv hstep ⟨hW, hI⟩ h
  refine ⟨hW', fun k => ⟨(hI' k).count_le, fun hpos ho => ?_⟩⟩
  have := ((hI' k).open_fresh ho).1
  omega

end Pool

end Threads
