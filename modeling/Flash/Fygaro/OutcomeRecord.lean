import Mathlib
import Flash.Support.Pool
import Flash.Fygaro.Outcome

/-!
# Fygaro — recording outcomes concurrently

`recordIntentOutcome` (`checkout-intent-store.ts`) stamps an outcome on the intent's record by
a read and a compare-and-set (`CAS_INTENT_RECORD`): it reads the record, merges its stamp in
with `mergeIntentOutcome`, and swaps the result in only if the record still holds what it read;
a lost swap re-reads and decides again, up to `RECORD_OUTCOME_ATTEMPTS` times, after which the
call gives up.  Concurrent deliveries run such calls against one record in any interleaving.

A call *takes effect* when one of its swaps goes through or a read shows its stamp is dropped
(`tookEffect`, read off the replies the call received).  The result is linearisability of the
calls that take effect:

* `callAt_step`: one step of a call either takes effect, applying the call's stamp to the record
  as `applyStamp` does, or leaves the record as it was;
* `linearized_run`: after any run, from any record, the record is the sequential fold of the
  stamps of the calls that took effect, in the order they took effect, and each such call has
  finished;
* `intent_outcome_never_walks_backwards`: the ordering rules of the merge, and for calls that
  all take effect, a record that is the fold of all their stamps in some order;
* `credited_stamp_lost_after_three_lost_swaps`: a call that loses three swaps gives up, and a
  `credited` stamp is then lost from the record, which no order of all the stamps leaves.

The key's expiry and the record's other fields (which these calls write back unchanged) are
left out: the key holds the outcome.  A Redis error is a call that did not run.
-/

namespace Fygaro

open Threads

/-! ### The record and the calls on it -/

/-- The Redis commands `recordIntentOutcome` issues on the intent's key. -/
inductive IntentRecordOp where
  /-- `redis.get(key)`. -/
  | get
  /-- `redis.eval(CAS_INTENT_RECORD, 1, key, raw, next, ttl)`. -/
  | casIntentRecord (expected : Option FygaroTopupOutcome) (next : FygaroTopupOutcome)
  deriving DecidableEq, Repr

/-- What a command returns: the record read, whether the swap went through, or an error. -/
inductive IntentRecordReply where
  | record (outcome : Option FygaroTopupOutcome)
  | swapped (ok : Bool)
  | failed
  deriving DecidableEq, Repr

/-- The outcome the intent's key holds. -/
abbrev IntentRecord := Option FygaroTopupOutcome

/-- What Redis does: a read returns the record, and the script swaps exactly when the record
still holds the expected value. -/
def IntentRecord.answer (w : IntentRecord) : IntentRecordOp → IntentRecordReply →
    Option IntentRecord
  | .get, .record found => if found = w then some w else none
  | .casIntentRecord expected next, .swapped ok =>
      if ok = decide (w = expected) then some (if ok then some next else w) else none
  | _, .failed => some w
  | _, _ => none

/-- The programs of these calls. -/
abbrev IntentProg := Prog IntentRecordOp IntentRecordReply

/-- `RECORD_OUTCOME_ATTEMPTS`. -/
def RECORD_OUTCOME_ATTEMPTS : Nat := 3

/-- The swap of one attempt: done when it goes through, `retry` when another write won, and an
error ends the call. -/
def casIntentRecordStep (found : Option FygaroTopupOutcome) (merged : FygaroTopupOutcome)
    (retry : IntentProg Unit) : IntentProg Unit :=
  .call (.casIntentRecord found merged) fun
    | .swapped true => .pure ()
    | .swapped false => retry
    | _ => .pure ()

/-- The loop of `recordIntentOutcome` with `attempts` tries left: read, merge, swap; at none
left the call gives up. -/
def recordIntentOutcomeLoop (outcome : FygaroTopupOutcome) : Nat → IntentProg Unit
  | 0 => .pure ()
  | attempts + 1 =>
      .call .get fun
        | .record found =>
            match mergeIntentOutcome found outcome with
            | none => .pure ()
            | some merged =>
                casIntentRecordStep found merged (recordIntentOutcomeLoop outcome attempts)
        | _ => .pure ()

/-- `recordIntentOutcome`. -/
def recordIntentOutcome (outcome : FygaroTopupOutcome) : IntentProg Unit :=
  recordIntentOutcomeLoop outcome RECORD_OUTCOME_ATTEMPTS

/-- Concurrent calls against one record. -/
abbrev IntentPool := Pool IntentRecord IntentRecordOp IntentRecordReply

/-- The calls stamping `stamps`, one each, against a record holding `record`. -/
def IntentPool.start (record : IntentRecord) (stamps : List FygaroTopupOutcome) : IntentPool :=
  ⟨record, stamps.map recordIntentOutcome⟩

/-! ### One call -/

/-- A call has taken effect, by the replies it received: a swap went through, or a read showed
its stamp is dropped. -/
def tookEffect (stamp : FygaroTopupOutcome) (replies : List IntentRecordReply) : Bool :=
  replies.any fun
    | .swapped true => true
    | .record found => (mergeIntentOutcome found stamp).isNone
    | _ => false

@[simp] theorem tookEffect_nil (stamp : FygaroTopupOutcome) : tookEffect stamp [] = false := rfl

theorem tookEffect_append (stamp : FygaroTopupOutcome) (replies : List IntentRecordReply)
    (reply : IntentRecordReply) :
    tookEffect stamp (replies ++ [reply]) = (tookEffect stamp replies || tookEffect stamp [reply]) := by
  simp [tookEffect, List.any_append]

/-- Where a call stands: finished once it took effect; otherwise finished (it gave up or
failed), at the top of an attempt, or about to swap in the merge of what it read. -/
def CallAt (stamp : FygaroTopupOutcome) (effect : Bool) (p : IntentProg Unit) : Prop :=
  if effect then p = .pure ()
  else p = .pure () ∨ (∃ attempts, p = recordIntentOutcomeLoop stamp attempts) ∨
    ∃ found merged attempts, mergeIntentOutcome found stamp = some merged ∧
      p = casIntentRecordStep found merged (recordIntentOutcomeLoop stamp attempts)

/-- One step of a call that has not taken effect: it takes effect by this reply, and the record
moves by its stamp, or it does not, and the record stays. -/
theorem callAt_step {stamp : FygaroTopupOutcome} {effect : Bool} {op : IntentRecordOp}
    {k : IntentRecordReply → IntentProg Unit} {r : IntentRecordReply} {w w' : IntentRecord}
    (hat : CallAt stamp effect (.call op k)) (hsem : IntentRecord.answer w op r = some w') :
    effect = false ∧ CallAt stamp (tookEffect stamp [r]) (k r) ∧
      w' = if tookEffect stamp [r] then applyStamp w stamp else w := by
  unfold CallAt at hat
  cases effect with
  | true => cases hat
  | false =>
      simp only [Bool.false_eq_true, if_false] at hat
      refine ⟨rfl, ?_⟩
      rcases hat with hpure | ⟨attempts, hloop⟩ | ⟨found, merged, attempts, hmerge, hcas⟩
      · cases hpure
      · -- the top of an attempt: the call reads the record
        cases attempts with
        | zero => cases hloop
        | succ attempts =>
            simp only [recordIntentOutcomeLoop, Prog.call.injEq] at hloop
            obtain ⟨rfl, rfl⟩ := hloop
            cases r with
            | record found =>
                simp only [IntentRecord.answer] at hsem
                split at hsem
                next hfound =>
                  cases hsem
                  subst hfound
                  -- the merge drops the stamp, or the call goes on to swap
                  cases hm : mergeIntentOutcome found stamp with
                  | none => simp [CallAt, tookEffect, applyStamp, hm]
                  | some merged =>
                      have hnone : tookEffect stamp [.record found] = false := by
                        simp [tookEffect, hm]
                      rw [hnone]
                      refine ⟨?_, by simp⟩
                      simp only [CallAt, Bool.false_eq_true, if_false]
                      exact .inr (.inr ⟨found, merged, attempts, hm, by rw [hm]⟩)
                next => cases hsem
            | swapped ok => simp [IntentRecord.answer] at hsem
            | failed =>
                simp only [IntentRecord.answer] at hsem
                cases hsem
                simp [CallAt, tookEffect]
      · -- the swap of an attempt
        simp only [casIntentRecordStep, Prog.call.injEq] at hcas
        obtain ⟨rfl, rfl⟩ := hcas
        cases r with
        | record found' => simp [IntentRecord.answer] at hsem
        | swapped ok =>
            simp only [IntentRecord.answer] at hsem
            split at hsem
            next hok =>
              cases hsem
              cases ok with
              | true =>
                  -- the record still held what the call read: its merge goes in
                  have hw : w = found := by simpa using hok
                  subst hw
                  simp [CallAt, tookEffect, applyStamp, hmerge]
              | false =>
                  have hnone : tookEffect stamp [.swapped false] = false := rfl
                  rw [hnone]
                  refine ⟨?_, by simp⟩
                  simp only [CallAt, Bool.false_eq_true, if_false]
                  exact .inr (.inl ⟨attempts, rfl⟩)
            next => cases hsem
        | failed =>
            simp only [IntentRecord.answer] at hsem
            cases hsem
            simp [CallAt, tookEffect]

/-! ### Concurrent calls -/

/-- The replies a history gave call `i`, in order. -/
def repliesTo (hist : List (Nat × IntentRecordReply)) (i : Nat) : List IntentRecordReply :=
  (hist.filter (·.1 = i)).map (·.2)

theorem repliesTo_append (hist : List (Nat × IntentRecordReply)) (j : Nat) (r : IntentRecordReply)
    (i : Nat) :
    repliesTo (hist ++ [(j, r)]) i = if j = i then repliesTo hist i ++ [r] else repliesTo hist i := by
  by_cases hji : j = i <;> simp [repliesTo, List.filter_append, hji]

/-- After a history, the record is the fold of the stamps of the calls that took effect, in the
order they did, and each call stands where `CallAt` says. -/
def Linearized (record : IntentRecord) (stamps : List FygaroTopupOutcome)
    (hist : List (Nat × IntentRecordReply)) (c : IntentPool) : Prop :=
  c.threads.length = stamps.length ∧
    (∀ i : Fin stamps.length, ∃ p, c.threads[i.val]? = some p ∧
      CallAt stamps[i.val] (tookEffect stamps[i.val] (repliesTo hist i)) p) ∧
    ∃ order : List (Fin stamps.length), order.Nodup ∧
      (∀ i : Fin stamps.length, i ∈ order ↔ tookEffect stamps[i.val] (repliesTo hist i) = true) ∧
      c.world = foldOutcome record (order.map fun i => stamps[i.val])

theorem linearized_start (record : IntentRecord) (stamps : List FygaroTopupOutcome) :
    Linearized record stamps [] (IntentPool.start record stamps) := by
  refine ⟨by simp [IntentPool.start], fun i => ?_, [], List.nodup_nil, by simp [repliesTo], rfl⟩
  refine ⟨recordIntentOutcome stamps[i.val], by simp [IntentPool.start], ?_⟩
  simp only [repliesTo, List.filter_nil, List.map_nil, tookEffect_nil, CallAt,
    Bool.false_eq_true, if_false]
  exact .inr (.inl ⟨RECORD_OUTCOME_ATTEMPTS, rfl⟩)

/-- One step of the pool keeps `Linearized`: the call that moved takes effect, and joins the end
of the order, or it does not, and the record stays. -/
theorem linearized_step {record : IntentRecord} {stamps : List FygaroTopupOutcome}
    {hist : List (Nat × IntentRecordReply)} {c c' : IntentPool} {i : Nat} {r : IntentRecordReply}
    (hinv : Linearized record stamps hist c) (h : Pool.step IntentRecord.answer c i r = some c') :
    Linearized record stamps (hist ++ [(i, r)]) c' := by
  obtain ⟨hlen, hcalls, order, hnodup, hmem, hworld⟩ := hinv
  obtain ⟨op, k, hi, hsem, hthreads⟩ := Pool.step_eq_some h
  have hilt : i < stamps.length := hlen ▸ (List.getElem?_eq_some_iff.mp hi).1
  -- the call that moved had not taken effect, and this reply decides whether it does
  obtain ⟨p, hp, hat⟩ := hcalls ⟨i, hilt⟩
  have hpk : p = .call op k := by
    rw [hi] at hp
    exact (Option.some.inj hp).symm
  subst hpk
  obtain ⟨hbefore, hafter, hw⟩ := callAt_step hat hsem
  have heffect : ∀ j : Fin stamps.length,
      tookEffect stamps[j.val] (repliesTo (hist ++ [(i, r)]) j) =
        if i = j.val then tookEffect stamps[j.val] [r]
        else tookEffect stamps[j.val] (repliesTo hist j) := by
    intro j
    by_cases hj : i = j.val
    · have hji : j = ⟨i, hilt⟩ := Fin.ext hj.symm
      subst hji
      simp only [repliesTo_append, if_true, tookEffect_append, hbefore, Bool.false_or]
    · simp only [repliesTo_append, hj, if_false]
  refine ⟨by simp [hthreads, hlen], fun j => ?_, ?_⟩
  · rw [heffect j, hthreads]
    by_cases hj : i = j.val
    · have hji : j = ⟨i, hilt⟩ := Fin.ext hj.symm
      subst hji
      exact ⟨k r, by simp [hlen, hilt], by simpa using hafter⟩
    · obtain ⟨q, hq, hatq⟩ := hcalls j
      exact ⟨q, by simpa [List.getElem?_set, hj] using hq, by simpa [hj] using hatq⟩
  · by_cases hnow : tookEffect stamps[i] [r] = true
    · -- the call joins the order, and the record moves by its stamp
      have hnotin : (⟨i, hilt⟩ : Fin stamps.length) ∉ order := by
        rw [hmem]
        simp [hbefore]
      refine ⟨order ++ [⟨i, hilt⟩],
        hnodup.append (List.nodup_singleton _) (by simpa using hnotin), fun j => ?_, ?_⟩
      · rw [heffect j]
        by_cases hj : i = j.val
        · have hji : j = ⟨i, hilt⟩ := Fin.ext hj.symm
          subst hji
          simp [hnow]
        · have hne : j ≠ ⟨i, hilt⟩ := fun h => hj (h ▸ rfl)
          simp [hj, hne, hmem]
      · rw [hw, if_pos hnow, List.map_append, List.map_singleton,
          foldOutcome_append_singleton, hworld]
    · refine ⟨order, hnodup, fun j => ?_, ?_⟩
      · rw [heffect j]
        by_cases hj : i = j.val
        · have hji : j = ⟨i, hilt⟩ := Fin.ext hj.symm
          subst hji
          rw [hmem]
          simp [hbefore, hnow]
        · simp [hj, hmem]
      · rw [hw, if_neg hnow, hworld]

/-- When every call took effect, the order of `Linearized` is an order of all the stamps. -/
theorem Linearized.perm_of_tookEffect {record : IntentRecord} {stamps : List FygaroTopupOutcome}
    {hist : List (Nat × IntentRecordReply)} {c : IntentPool}
    (hinv : Linearized record stamps hist c)
    (hall : ∀ i : Fin stamps.length, tookEffect stamps[i.val] (repliesTo hist i) = true) :
    ∃ order : List FygaroTopupOutcome, order.Perm stamps ∧ c.world = foldOutcome record order := by
  obtain ⟨-, -, order, hnodup, hmem, hworld⟩ := hinv
  -- the order holds every call once, so it is a permutation of all of them
  have hperm : order.Perm (List.finRange stamps.length) :=
    (List.perm_ext_iff_of_nodup hnodup (List.nodup_finRange _)).mpr fun i => by
      simp [hmem, hall i]
  refine ⟨order.map fun i => stamps[i.val], ?_, hworld⟩
  have hmap := hperm.map fun i : Fin stamps.length => stamps[i.val]
  rwa [List.map_getElem_finRange] at hmap

/-! ### The outcome never walks backwards -/

/-- The ordering rules of `mergeIntentOutcome`, over any sequence of stamps, and for concurrent
`recordIntentOutcome` calls that all take effect, the record they leave is the sequential fold of
their stamps in some order. -/
theorem intent_outcome_never_walks_backwards :
    (∀ (record : FygaroTopupOutcome) (stamps : List FygaroTopupOutcome),
      record.state = .credited →
        (foldOutcome (some record) stamps).map (·.state) = some .credited) ∧
    (∀ stamps : List FygaroTopupOutcome, stamps ≠ [] →
      (foldOutcome none stamps).map (·.state) = some (finalState (stamps.map (·.state)))) ∧
    (∀ record stamp : FygaroTopupOutcome, stamp.state = .received →
      applyStamp (some record) stamp = some record) ∧
    (∀ record stamp : FygaroTopupOutcome, record.state = .credited →
      record.netAmountCents.isSome →
      ¬ (stamp.state = .credited ∧ differentPayment record stamp ∧ stamp.netAmountCents = none) →
      ∃ merged, applyStamp (some record) stamp = some merged ∧ merged.state = .credited ∧
        merged.netAmountCents.isSome) ∧
    (∀ (record : FygaroTopupOutcome) (stamps : List FygaroTopupOutcome),
      record.state = .credited → record.netAmountCents.isSome →
      (∀ stamp ∈ stamps, stamp.state = .credited →
        stamp.transactionId = none ∨ stamp.transactionId = record.transactionId) →
      ∃ final, foldOutcome (some record) stamps = some final ∧ final.state = .credited ∧
        final.netAmountCents.isSome) ∧
    (∀ (stamps : List FygaroTopupOutcome) (sched : List (Nat × IntentRecordReply))
        (c' : IntentPool),
      Pool.run IntentRecord.answer (IntentPool.start none stamps) sched = some c' →
      (∀ i : Fin stamps.length, tookEffect stamps[i.val] (repliesTo sched i) = true) →
      ∃ order : List FygaroTopupOutcome, order.Perm stamps ∧ c'.world = foldOutcome none order) := by
  refine ⟨fun record stamps hstate => ?_, fun stamps hne => ?_, fun record stamp h => ?_,
    fun record stamp hstate hnet hnot => ?_, fun record stamps hstate hnet hsame => ?_,
    fun stamps sched c' hrun hall => ?_⟩
  · rw [foldOutcome_state, Option.map_some, hstate, foldState_credited]
  · rw [foldOutcome_state, Option.map_none, foldState_none (by simpa using hne)]
  · exact applyStamp_received h
  · rcases applyStamp_net_isSome stamp hstate hnet with hkeep | hlost
    · exact hkeep
    · exact absurd hlost hnot
  · exact foldOutcome_net_isSome stamps hstate hnet (.inr rfl) hsame
  · -- the run keeps `Linearized`, one step at a time
    have hlin : Linearized none stamps ([] ++ sched) c' :=
      Pool.run_inv_hist (fun _ _ _ _ _ hinv hs => linearized_step hinv hs)
        (linearized_start none stamps) hrun
    rw [List.nil_append] at hlin
    exact hlin.perm_of_tookEffect hall

/-! ### Runs of one payment's deliveries -/

/-- `received`, for transaction `tx-1`. -/
def receivedStamp : FygaroTopupOutcome :=
  { state := .received, transactionId := some "tx-1", atMs := 1 }

/-- `credited` with its net, for transaction `tx-1`. -/
def creditedStamp : FygaroTopupOutcome :=
  { state := .credited, netAmountCents := some 9421, transactionId := some "tx-1", atMs := 2 }

/-- `failed`, for transaction `tx-1`. -/
def failedStamp : FygaroTopupOutcome :=
  { state := .failed, reason := some "credit-failed", transactionId := some "tx-1", atMs := 3 }

/-- `held-for-review`, for transaction `tx-1`. -/
def heldStamp : FygaroTopupOutcome :=
  { state := .heldForReview, reason := some "daily-limit-exceeded", transactionId := some "tx-1",
    atMs := 4 }

/-- The `received` call reads and swaps, then the `credited` call does. -/
def receivedThenCredited : List (Nat × IntentRecordReply) :=
  [(0, .record none), (0, .swapped true), (1, .record (some receivedStamp)), (1, .swapped true)]

/-- Both calls take effect, and the record is the fold of their stamps in an order. -/
example :
    ∃ c', Pool.run IntentRecord.answer (IntentPool.start none [receivedStamp, creditedStamp])
        receivedThenCredited = some c' ∧
      ∃ order, order.Perm [receivedStamp, creditedStamp] ∧ c'.world = foldOutcome none order := by
  have hrun : (Pool.run IntentRecord.answer (IntentPool.start none [receivedStamp, creditedStamp])
      receivedThenCredited).map (·.world) = some (some creditedStamp) := by decide
  obtain ⟨c', hc', -⟩ := Option.map_eq_some_iff.mp hrun
  have hall : ∀ i : Fin [receivedStamp, creditedStamp].length,
      tookEffect [receivedStamp, creditedStamp][i.val] (repliesTo receivedThenCredited i) = true := by
    decide
  exact ⟨c', hc', intent_outcome_never_walks_backwards.2.2.2.2.2 _ _ c' hc' hall⟩

/-- The `credited` call reads, and loses its swap to the `received`, `failed` and
`held-for-review` calls in turn; after its third lost swap it gives up. -/
def lostCreditSchedule : List (Nat × IntentRecordReply) :=
  [(0, .record none), (1, .record none), (1, .swapped true), (0, .swapped false),
   (0, .record (some receivedStamp)), (2, .record (some receivedStamp)), (2, .swapped true),
   (0, .swapped false),
   (0, .record (some failedStamp)), (3, .record (some failedStamp)), (3, .swapped true),
   (0, .swapped false)]

/-- **A credited stamp is lost.**  The `credited` call loses three swaps and gives up without
its stamp: the record ends `held-for-review`, the fold of the other three stamps, where every
order of all four stamps ends `credited`. -/
theorem credited_stamp_lost_after_three_lost_swaps :
    ∃ c', Pool.run IntentRecord.answer
        (IntentPool.start none [creditedStamp, receivedStamp, failedStamp, heldStamp])
        lostCreditSchedule = some c' ∧
      (repliesTo lostCreditSchedule 0).count (.swapped false) = RECORD_OUTCOME_ATTEMPTS ∧
      tookEffect creditedStamp (repliesTo lostCreditSchedule 0) = false ∧
      c'.world = foldOutcome none [receivedStamp, failedStamp, heldStamp] ∧
      c'.world.map (·.state) = some .heldForReview ∧
      ∀ order, order.Perm [creditedStamp, receivedStamp, failedStamp, heldStamp] →
        (foldOutcome none order).map (·.state) = some .credited := by
  have hrun : (Pool.run IntentRecord.answer
      (IntentPool.start none [creditedStamp, receivedStamp, failedStamp, heldStamp])
      lostCreditSchedule).map (·.world) = some (some heldStamp) := by decide
  obtain ⟨c', hc', hworld⟩ := Option.map_eq_some_iff.mp hrun
  refine ⟨c', hc', by decide, by decide, by rw [hworld]; decide, by rw [hworld]; rfl,
    fun order hperm => ?_⟩
  -- an order of all four holds the `credited` stamp, which absorbs every later one
  have hmem : FygaroTopupOutcomeState.credited ∈ order.map (·.state) :=
    List.mem_map.mpr ⟨creditedStamp, hperm.symm.subset List.mem_cons_self, rfl⟩
  rw [foldOutcome_state, Option.map_none, foldState_none (List.ne_nil_of_mem hmem),
    (finalState_eq_credited_iff _).mpr hmem]

end Fygaro
