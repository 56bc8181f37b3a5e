import Mathlib
import Flash.Support.Evidence
import Flash.Fygaro.DailyLimit

/-!
# Fygaro — a credit is recorded only once it went out

Two records say that a payment was credited: its `BridgeTransferRequest` row once it is
`Completed`, and a `credited` stamp naming its transaction on the authorisation's intent.  The
payment hook reads both to confirm a retried payment without sending again, so either, written
before the wallet was credited, would lose the payment for good.  No lock orders the deliveries
of one payment against each other; what keeps the records honest is that each delivery writes
them only after a reply that shows the credit: its own send going through, or one of the two
records read back.

* `TopupWorld.CreditsBacked`: every `Completed` row and every `credited` stamp names a
  transaction the wallet was credited for;
* `TopupWorld.answer_evidenced`: the world's side — a send, a `Completed` row read or a
  `credited` stamp read shows the credit, no operation takes a credit back, and an operation
  keeps the records backed when each transaction it claims credited is;
* `paymentDelivery_waits`: a delivery writes no record of a transaction's credit before a reply
  shows it;
* `completed_topups_were_credited`: over every run of any deliveries, duplicates and faults
  included, the records stay backed.
-/

namespace Fygaro

open Threads

/-! ### The records of a credit -/

/-- The stamp says transaction `t` was credited. -/
def FygaroTopupOutcome.CreditedFor (t : TransactionId) (o : FygaroTopupOutcome) : Prop :=
  o.state = .credited ∧ o.transactionId = some t

/-- The intent carries a stamp saying transaction `t` was credited. -/
def FygaroCheckoutIntent.CreditedFor (t : TransactionId) (i : FygaroCheckoutIntent) : Prop :=
  ∃ o, i.outcome = some o ∧ o.CreditedFor t

/-- A merge drops the stamp, or keeps its state and its transaction. -/
theorem mergeIntentOutcome_cases (existing : Option FygaroTopupOutcome)
    (incoming : FygaroTopupOutcome) :
    mergeIntentOutcome existing incoming = none ∨
      ∃ o, mergeIntentOutcome existing incoming = some o ∧ o.state = incoming.state ∧
        o.transactionId = incoming.transactionId := by
  unfold mergeIntentOutcome
  split
  · exact .inr ⟨_, rfl, rfl, rfl⟩
  · split_ifs
    · exact .inl rfl
    · exact .inl rfl
    · exact .inr ⟨_, rfl, rfl, rfl⟩
    · exact .inr ⟨_, rfl, rfl, rfl⟩

/-- A stamp the merge leaves saying `t` was credited came with the stamp, or was there. -/
theorem FygaroTopupOutcome.creditedFor_of_applyStamp {t : TransactionId}
    {record : Option FygaroTopupOutcome} {stamp o : FygaroTopupOutcome}
    (h : applyStamp record stamp = some o) (ho : o.CreditedFor t) :
    stamp.CreditedFor t ∨ record = some o := by
  unfold applyStamp at h
  rcases mergeIntentOutcome_cases record stamp with hm | ⟨s, hm, hs, ht⟩ <;>
    rw [hm] at h
  · exact .inr h
  · -- the stamp was kept: the merged outcome is `o`
    cases h
    exact .inl ⟨hs ▸ ho.1, ht ▸ ho.2⟩

namespace TopupWorld

/-- The wallet was credited for transaction `t`. -/
def Credited (t : TransactionId) (w : TopupWorld) : Prop :=
  t ∈ w.credits.map Prod.fst

/-- Every record of a credit names a transaction the wallet was credited for: each `Completed`
row and each intent stamped `credited`. -/
structure CreditsBacked (w : TopupWorld) : Prop where
  rows : ∀ x ∈ w.rows, x.status = .completed → w.Credited x.requestId
  intents : ∀ i ∈ w.intents, ∀ t, i.CreditedFor t → w.Credited t

variable {w w' : TopupWorld} {op : TopupOp} {r : TopupReply} {t : TransactionId}

/-- No operation takes a credit back. -/
theorem Credited.answer (hc : w.Credited t) (h : w.answer op r = some w') : w'.Credited t := by
  unfold Credited at hc ⊢
  rcases answer_credits_cases h with hcr | ⟨_, _, -, hcr⟩ <;> rw [hcr]
  · exact hc
  · rw [List.map_append]
    exact List.mem_append_left _ hc

/-- A send that went through leaves its transaction credited, now or from before. -/
theorem credited_of_answer_credit {n : Nat} (h : w.answer (.creditFygaroTopup t n) .ok = some w') :
    w'.Credited t := by
  simp only [answer, Option.some.injEq] at h
  subst h
  split_ifs with hany
  · obtain ⟨p, hp, hpt⟩ := List.any_eq_true.mp hany
    exact List.mem_map.mpr ⟨p, hp, of_decide_eq_true hpt⟩
  · exact List.mem_map.mpr ⟨(t, n), List.mem_append_right _ (List.mem_singleton_self _), rfl⟩

/-- A read that returned `a` left the world as it was, and `a` is what the world holds. -/
theorem read_of_ne_failed {a : TopupReply} (h : w.read a r = some w') (hr : r ≠ .failed false) :
    r = a ∧ w' = w := by
  unfold read at h
  split_ifs at h with ha
  cases h
  exact ⟨ha.resolve_right hr, rfl⟩

/-- Every operation leaves the intent records as they were, writes one, or stamps them. -/
theorem answer_intents_cases (h : w.answer op r = some w') :
    w'.intents = w.intents ∨ (∃ i, op = .setIntent i ∧ w'.intents = setIntent w.intents i) ∨
      ∃ id o, op = .recordIntentOutcome id o ∧ w'.intents = stampIntent w.intents id o := by
  rcases answer_eq_some h with rfl | rfl
  · exact .inl rfl
  · exact effect_intents_cases w op

/-- A `Completed` row after an upsert was `Completed` before, or the upsert wrote `Completed`
to it: the status keeps the higher rank. -/
theorem completed_of_mem_upsertRow {rows : List TopupRow} {wr : TopupRowWrite} {nowMs : Nat}
    {x : TopupRow} (hx : x ∈ upsertRow rows wr nowMs) (hc : x.status = .completed) :
    (∃ y ∈ rows, y.requestId = x.requestId ∧ y.status = .completed) ∨
      (x.requestId = wr.requestId ∧ wr.status = .completed) := by
  unfold upsertRow at hx
  split_ifs at hx
  · obtain ⟨y, hy, rfl⟩ := List.mem_map.mp hx
    by_cases hid : y.requestId = wr.requestId
    · rw [if_pos hid] at hc ⊢
      dsimp only at hc ⊢
      split_ifs at hc
      · exact .inl ⟨y, hy, rfl, hc⟩
      · exact .inr ⟨hid, hc⟩
    · rw [if_neg hid] at hc ⊢
      exact .inl ⟨y, hy, rfl, hc⟩
  · rcases List.mem_append.mp hx with hx | hx
    · exact .inl ⟨x, hx, rfl, hc⟩
    · rw [List.mem_singleton] at hx
      subst hx
      exact .inr ⟨rfl, hc⟩

theorem mem_setIntent {intents : List FygaroCheckoutIntent} {intent i : FygaroCheckoutIntent}
    (hi : i ∈ setIntent intents intent) : i ∈ intents ∨ i = intent := by
  rcases List.mem_append.mp hi with hi | hi
  · exact .inl (List.mem_of_mem_filter hi)
  · exact .inr (List.mem_singleton.mp hi)

/-- An intent credited for `t` after a stamp was so before, or the stamp says `t` was
credited. -/
theorem creditedFor_of_mem_stampIntent {intents : List FygaroCheckoutIntent} {id : IntentId}
    {o : FygaroTopupOutcome} {i : FygaroCheckoutIntent} (hi : i ∈ stampIntent intents id o)
    (hc : i.CreditedFor t) : (∃ j ∈ intents, j.CreditedFor t) ∨ o.CreditedFor t := by
  obtain ⟨j, hj, rfl⟩ := List.mem_map.mp hi
  by_cases hid : j.intentId = id
  · rw [if_pos hid] at hc
    obtain ⟨o', ho', hcr⟩ := hc
    rcases FygaroTopupOutcome.creditedFor_of_applyStamp ho' hcr with hs | hr
    · exact .inr hs
    · exact .inl ⟨j, hj, o', hr, hcr⟩
  · rw [if_neg hid] at hc
    exact .inl ⟨j, hj, hc⟩

end TopupWorld

/-! ### The operations that claim a credit and the replies that show one -/

namespace TopupOp

/-- The operations that say transaction `t` was credited: an upsert promoting its row to
`Completed`, a stamp saying so, and an intent record written with such a stamp. -/
def ClaimsCredit (t : TransactionId) : TopupOp → Prop
  | .upsertBridgeTransferRequest wr _ => wr.requestId = t ∧ wr.status = .completed
  | .recordIntentOutcome _ o => o.CreditedFor t
  | .setIntent i => i.CreditedFor t
  | _ => False

/-- The replies that show transaction `t` was credited: its send going through, its row read as
`Completed`, and an intent read with a stamp saying so. -/
def ShowsCredit (t : TransactionId) : TopupOp → TopupReply → Prop
  | .creditFygaroTopup t' _, .ok => t' = t
  | .findBridgeTransferRequest t', .row (some x) => t' = t ∧ x.status = .completed
  | .getIntent _, .intent (some i) => i.CreditedFor t
  | _, _ => False

variable {t : TransactionId} {op : TopupOp} {r : TopupReply}

theorem ShowsCredit.cases (hg : op.ShowsCredit t r) :
    (∃ n, op = .creditFygaroTopup t n ∧ r = .ok) ∨
      (∃ x, op = .findBridgeTransferRequest t ∧ r = .row (some x) ∧ x.status = .completed) ∨
      ∃ id i, op = .getIntent id ∧ r = .intent (some i) ∧ i.CreditedFor t := by
  unfold ShowsCredit at hg
  split at hg
  · subst hg
    exact .inl ⟨_, rfl, rfl⟩
  · obtain ⟨rfl, hx⟩ := hg
    exact .inr (.inl ⟨_, rfl, rfl, hx⟩)
  · exact .inr (.inr ⟨_, _, rfl, rfl, hg⟩)
  · exact hg.elim

theorem not_claimsCredit_of_keepsRecords (h : op.keepsRecords = true) : ¬ op.ClaimsCredit t := by
  cases op <;> first | exact id | cases h

end TopupOp

namespace TopupWorld

variable {w w' : TopupWorld} {op : TopupOp} {r : TopupReply} {t : TransactionId}

/-- What a reply shows is so: a send that went through credited its transaction, and a record
read back names a credited one. -/
theorem credited_of_shows (hw : w.CreditsBacked) (h : w.answer op r = some w')
    (hg : op.ShowsCredit t r) : w'.Credited t := by
  rcases hg.cases with ⟨n, rfl, rfl⟩ | ⟨x, rfl, rfl, hx⟩ | ⟨id, i, rfl, rfl, hi⟩
  · exact credited_of_answer_credit h
  · obtain ⟨hr, hw'⟩ := read_of_ne_failed h (by simp)
    rw [hw']
    have hfind : w.rows.find? (·.requestId = t) = some x := (TopupReply.row.inj hr).symm
    have hid : x.requestId = t := by simpa using List.find?_some hfind
    exact hid ▸ hw.rows x (List.mem_of_find?_eq_some hfind) hx
  · obtain ⟨hr, hw'⟩ := read_of_ne_failed h (by simp)
    rw [hw']
    have hfind : w.intents.find? (·.intentId = id) = some i := (TopupReply.intent.inj hr).symm
    exact hw.intents i (List.mem_of_find?_eq_some hfind) t hi

/-- **An operation keeps the records backed** when each transaction it claims credited is. -/
theorem CreditsBacked.answer (hw : w.CreditsBacked) (h : w.answer op r = some w')
    (hclaim : ∀ t, op.ClaimsCredit t → w.Credited t) : w'.CreditsBacked := by
  have hmono : ∀ {t}, w.Credited t → w'.Credited t := fun hc => hc.answer h
  refine ⟨fun x hx hc => ?_, fun i hi t hc => ?_⟩
  · rcases answer_rows_cases h with hrows | ⟨wr, nowMs, rfl⟩
    · rw [hrows] at hx
      exact hmono (hw.rows x hx hc)
    rcases answer_upsert_rows h with hrows | hrows <;> rw [hrows] at hx
    · exact hmono (hw.rows x hx hc)
    -- the promoted row is the write's own, which claims the credit
    rcases completed_of_mem_upsertRow hx hc with ⟨y, hy, hid, hyc⟩ | ⟨hid, hwc⟩
    · exact hid ▸ hmono (hw.rows y hy hyc)
    · exact hid ▸ hmono (hclaim _ ⟨rfl, hwc⟩)
  · rcases answer_intents_cases h with hints | ⟨j, rfl, hints⟩ | ⟨id, o, rfl, hints⟩ <;>
      rw [hints] at hi
    · exact hmono (hw.intents i hi t hc)
    · rcases mem_setIntent hi with hi | rfl
      · exact hmono (hw.intents i hi t hc)
      · exact hmono (hclaim t hc)
    · rcases creditedFor_of_mem_stampIntent hi hc with ⟨j, hj, hjc⟩ | ho
      · exact hmono (hw.intents j hj t hjc)
      · exact hmono (hclaim t ho)

/-- **The world's side.**  A send that went through, a `Completed` row read and a `credited`
stamp read show the credit; no operation takes a credit back; and an operation keeps the records
backed when each transaction it claims credited is. -/
theorem answer_evidenced :
    Pool.Evidenced answer TopupOp.ClaimsCredit TopupOp.ShowsCredit Credited CreditsBacked :=
  ⟨credited_of_shows, fun _ h hc => hc.answer h, CreditsBacked.answer⟩

end TopupWorld

/-! ### The replies the handler acts on -/

/-- The completion read says completed only on a row read as `Completed`. -/
theorem readFygaroTopupCompletion_reply (tx : TransactionId) :
    ∃ k, readFygaroTopupCompletion tx = .call (.findBridgeTransferRequest tx) k ∧
      ∀ r, ∃ pc, k r = .pure pc ∧
        (pc.completed = true → ∃ x, r = .row (some x) ∧ x.status = .completed) := by
  refine ⟨_, rfl, fun r => ?_⟩
  split
  · split_ifs with hc
    · exact ⟨_, rfl, fun _ => ⟨_, rfl, hc⟩⟩
    · exact ⟨_, rfl, fun h => by cases h⟩
  · exact ⟨_, rfl, fun h => by cases h⟩

/-- `creditFygaroTopup` reports a send only when it went through. -/
theorem creditFygaroTopup_reply (tx : TransactionId) (netCents : Nat) :
    ∃ k, creditFygaroTopup tx netCents = .call (.creditFygaroTopup tx netCents) k ∧
      ∀ r, ∃ sent, k r = .pure sent ∧ (sent = true → r = .ok) := by
  refine ⟨_, rfl, fun r => ?_⟩
  cases r <;> first | exact ⟨false, rfl, fun h => by cases h⟩ | exact ⟨true, rfl, fun _ => rfl⟩

theorem TopupReply.intentOf_eq_some {r : TopupReply} {i : FygaroCheckoutIntent}
    (h : r.intentOf = some i) : r = .intent (some i) := by
  cases r <;> cases h
  rfl

/-! ### A delivery waits for the credit it records -/

namespace FygaroPaymentDelivery

variable (d : FygaroPaymentDelivery) (creditEnabled : Bool) (level : Nat) {t : TransactionId}

/-- Of a `Completed` row read for `tx` that shows no credit of `t`, `tx` is not `t`. -/
theorem ne_of_completed_read {tx : TransactionId} {r : TopupReply}
    (hr : ¬ TopupOp.ShowsCredit t (.findBridgeTransferRequest tx) r)
    (hc : ∃ x, r = .row (some x) ∧ x.status = .completed) : tx ≠ t := by
  rintro rfl
  obtain ⟨x, rfl, hx⟩ := hc
  exact hr ⟨rfl, hx⟩

/-- A stamp of `d` claims a credit only of `d`'s own transaction, and only when it says
credited. -/
theorem recordOutcome_noClaim {state : FygaroTopupOutcomeState} {reason : Option String}
    {netAmountCents detailCents : Option Nat} (h : state = .credited → d.transactionId ≠ t) :
    Always (fun op => ¬ op.ClaimsCredit t) (d.recordOutcome state reason netAmountCents detailCents) := by
  unfold recordOutcome
  split
  · exact .pure _
  · exact .call (fun ⟨hs, ht⟩ => h hs (Option.some_injective _ ht)) fun _ => .pure _

/-- The stamp of an earlier credit read with the authorisation says so on the intent read. -/
theorem creditedOutcome_eq_none {authorizedIntent : Option FygaroCheckoutIntent}
    (h : ∀ i, authorizedIntent = some i → ¬ i.CreditedFor d.transactionId) :
    d.creditedOutcome authorizedIntent = none := by
  rw [creditedOutcome, Option.filter_eq_none_iff]
  intro o ho hp
  obtain ⟨i, rfl, hi⟩ := Option.bind_eq_some_iff.mp ho
  exact h i rfl ⟨o, hi, by simpa [FygaroTopupOutcome.CreditedFor] using hp⟩

section Waits

variable (hP : ∀ op : TopupOp, op.keepsRecords = true → ¬ op.ClaimsCredit t)
include hP

/-- The block under the payment's lock confirms only a `Completed` row of its own transaction
read just now, and promotes and stamps only after its own send went through. -/
theorem creditBlock_waits (fees : FygaroFees) (authorizedIntent : Option FygaroCheckoutIntent) :
    ¬ Reaches (TopupOp.ClaimsCredit t) (TopupOp.ShowsCredit t) (d.creditBlock fees authorizedIntent) := by
  unfold creditBlock
  obtain ⟨k, hk, hkr⟩ := readFygaroTopupCompletion_reply d.transactionId
  rw [hk, Prog.call_bind]
  refine Reaches.not_call (hP _ rfl) fun r hr => ?_
  obtain ⟨pc, hpc, hcomp⟩ := hkr r
  rw [hpc, Prog.pure_bind]
  split_ifs with hc
  · have hne := ne_of_completed_read hr (hcomp hc)
    exact Reaches.not_of_always ((d.recordOutcome_noClaim fun _ => hne).bind fun _ => .pure _)
  obtain ⟨k', hk', hkr'⟩ := creditFygaroTopup_reply d.transactionId fees.netCents.toNat
  rw [hk', Prog.call_bind]
  refine Reaches.not_call id fun r' hr' => ?_
  obtain ⟨sent, hsent, hok⟩ := hkr' r'
  rw [hsent, Prog.pure_bind]
  cases sent with
  | false =>
      exact Reaches.not_of_always ((releaseAuthorizedHold_always hP _).bind fun _ =>
        (d.recordOutcome_noClaim fun h => by cases h).bind fun _ => .pure _)
  | true =>
      -- the send of `d`'s transaction went through: it is not `t`, or `t` is credited now
      have hne : d.transactionId ≠ t := fun heq => hr' (by rw [hok rfl]; exact heq)
      exact Reaches.not_of_always (upsert_always (fun h => hne h.1) fun _ =>
        (d.recordOutcome_noClaim fun _ => hne).bind fun _ =>
          (redeemIntent_always hP d).bind fun _ => .pure _)

theorem creditPath_waits (fees : FygaroFees) (authorizedIntent : Option FygaroCheckoutIntent) :
    ¬ Reaches (TopupOp.ClaimsCredit t) (TopupOp.ShowsCredit t) (d.creditPath fees authorizedIntent) := by
  unfold creditPath
  refine Reaches.not_bind (Reaches.not_of_always (lockPaymentIdempotencyKey_always hP _))
    fun lock => ?_
  cases lock
  · exact Reaches.not_bind (d.creditBlock_waits hP fees authorizedIntent) fun _ =>
      Reaches.not_of_always ((unlockPaymentIdempotencyKey_always hP _).bind fun _ => .pure _)
  · exact Reaches.not_pure _
  · exact Reaches.not_pure _

/-- The record-only path confirms a credit only on a `Completed` row read just now or on the
earlier `credited` stamp of the authorisation, which `hai` says was evidence too. -/
theorem recordOnlyPath_waits (reason : RecordOnlyReason) (settings : Option FygaroSettings)
    (prior : Option Nat) (authorizedIntent : Option FygaroCheckoutIntent)
    (hai : t = d.transactionId → d.creditedOutcome authorizedIntent = none) :
    ¬ Reaches (TopupOp.ClaimsCredit t) (TopupOp.ShowsCredit t)
      (d.recordOnlyPath reason settings level prior authorizedIntent) := by
  unfold recordOnlyPath
  dsimp only
  split_ifs
  · exact Reaches.not_pure _
  obtain ⟨k, hk, hkr⟩ := readFygaroTopupCompletion_reply d.transactionId
  rw [hk, Prog.call_bind]
  refine Reaches.not_call (hP _ rfl) fun r hr => ?_
  obtain ⟨pc, hpc, hcomp⟩ := hkr r
  rw [hpc, Prog.pure_bind]
  cases hc : pc.completed
  · cases ho : d.creditedOutcome authorizedIntent
    · -- neither: the dedupe lock, the refusal on the row and a `heldForReview` stamp
      refine Reaches.not_of_always ((lockIdempotencyKey_always hP _).bind fun b => ?_)
      cases b
      · exact (d.recordOutcome_noClaim fun h => by cases h).bind fun _ => .pure _
      · exact (redeemIntent_always hP d).bind fun _ => upsert_always (fun h => by cases h.2)
          fun _ => (d.recordOutcome_noClaim fun h => by cases h).bind fun _ => .pure _
    · have hne : d.transactionId ≠ t := fun heq => by
        rw [hai heq.symm] at ho
        cases ho
      exact Reaches.not_of_always ((d.recordOutcome_noClaim fun _ => hne).bind fun _ => .pure _)
  · have hne := ne_of_completed_read hr (hcomp hc)
    exact Reaches.not_of_always ((d.recordOutcome_noClaim fun _ => hne).bind fun _ => .pure _)

theorem afterCreditHistory_waits (authorizedIntent : Option FygaroCheckoutIntent)
    (settings : Option FygaroSettings)
    (hai : t = d.transactionId → d.creditedOutcome authorizedIntent = none)
    (history : Option Nat × Nat) :
    ¬ Reaches (TopupOp.ClaimsCredit t) (TopupOp.ShowsCredit t)
      (d.afterCreditHistory creditEnabled level authorizedIntent settings history) := by
  obtain ⟨prior, discount⟩ := history
  rcases d.afterCreditHistory_cases creditEnabled level authorizedIntent settings prior discount
    with ⟨-, fees, heq⟩ | ⟨-, reason, heq⟩ <;> rw [heq]
  · exact d.creditPath_waits hP fees authorizedIntent
  · exact d.recordOnlyPath_waits level hP reason settings prior authorizedIntent hai

theorem afterAuthorization_waits (authorizedIntent : Option FygaroCheckoutIntent)
    (hai : t = d.transactionId → d.creditedOutcome authorizedIntent = none) :
    ¬ Reaches (TopupOp.ClaimsCredit t) (TopupOp.ShowsCredit t)
      (d.afterAuthorization creditEnabled level authorizedIntent) := by
  refine Reaches.not_bind ?_ fun settings => ?_
  · split
    · exact Reaches.not_of_always (.call (hP _ rfl) fun r => by cases r <;> exact .pure _)
    · exact Reaches.not_pure _
  refine Reaches.not_bind ?_
    (d.afterCreditHistory_waits creditEnabled level hP authorizedIntent settings hai)
  unfold readCreditHistory
  split_ifs
  · exact Reaches.not_of_always (.call (hP _ rfl) fun r => by
      cases r <;> exact (getFlashFeeDiscountPercent_always hP).bind fun _ => .pure _)
  · exact Reaches.not_pure _

/-- The authorisation read is the evidence of an earlier `credited` stamp. -/
theorem afterReceived_waits :
    ¬ Reaches (TopupOp.ClaimsCredit t) (TopupOp.ShowsCredit t) (d.afterReceived creditEnabled level) := by
  unfold afterReceived readAuthorization
  cases hid : d.intentId with
  | none => exact d.afterAuthorization_waits creditEnabled level hP none fun _ => rfl
  | some intentId =>
      dsimp only
      rw [readIntent_eq, Prog.call_bind]
      refine Reaches.not_call (hP _ rfl) fun r hr => ?_
      rw [Prog.pure_bind]
      refine d.afterAuthorization_waits creditEnabled level hP _ fun heq =>
        d.creditedOutcome_eq_none fun i hi hc => hr ?_
      rw [TopupReply.intentOf_eq_some hi]
      exact heq ▸ hc

/-- The `received` stamp claims nothing; then the rest. -/
theorem afterAudit_waits (written : Bool) :
    ¬ Reaches (TopupOp.ClaimsCredit t) (TopupOp.ShowsCredit t)
      (d.afterAudit creditEnabled level written) := by
  cases written with
  | false => exact Reaches.not_pure _
  | true =>
      exact Reaches.not_bind (Reaches.not_of_always (d.recordOutcome_noClaim fun h => by cases h))
        fun _ => d.afterReceived_waits creditEnabled level hP

end Waits

end FygaroPaymentDelivery

open FygaroPaymentDelivery in
/-- A delivery writes no record of a transaction's credit before a reply shows it. -/
theorem paymentDelivery_waits (creditEnabled : Bool) (level : Nat) (d : FygaroPaymentDelivery)
    (t : TransactionId) :
    ¬ Reaches (TopupOp.ClaimsCredit t) (TopupOp.ShowsCredit t)
      (paymentDelivery creditEnabled level d) := by
  have hP : ∀ op : TopupOp, op.keepsRecords = true → ¬ op.ClaimsCredit t :=
    fun _ h => TopupOp.not_claimsCredit_of_keepsRecords h
  refine Reaches.not_bind ?_ fun _ => Reaches.not_pure _
  unfold paymentHandler
  split
  · exact Reaches.not_pure _
  rw [writeFygaroTopupRequest, upsertBridgeTransferRequest, Prog.call_bind]
  refine Reaches.not_call (fun h => by cases h.2) fun r _ => ?_
  cases r <;> exact d.afterAudit_waits creditEnabled level hP _

/-- **A credit is recorded only once it went out.**  Over every run of any deliveries of the
payment hook, duplicates and faults included, from a world whose records of a credit are backed,
every `Completed` row and every `credited` stamp names a transaction the wallet was credited
for. -/
theorem completed_topups_were_credited (creditEnabled : Bool) (level : Nat)
    (deliveries : List FygaroPaymentDelivery) {w : TopupWorld} {sched : List (Nat × TopupReply)}
    {c : TopupPool} (hw : w.CreditsBacked)
    (hrun : Pool.run TopupWorld.answer
      ⟨w, deliveries.map (paymentDelivery creditEnabled level)⟩ sched = some c) :
    c.world.CreditsBacked := by
  refine Pool.run_evidenced TopupWorld.answer_evidenced hw (fun t p hp => ?_) hrun
  obtain ⟨d, -, rfl⟩ := List.mem_map.mp hp
  exact paymentDelivery_waits creditEnabled level d t

/-- The two payments at the limit leave both rows `Completed`, each backed by its credit. -/
theorem two_payments_credits_backed :
    ∃ c, Pool.run TopupWorld.answer ⟨sampleWorld, [paymentA, paymentB].map (paymentDelivery true 1)⟩
      twoPaymentsReplies = some c ∧ c.world.CreditsBacked := by
  have hrun : (Pool.run TopupWorld.answer
      ⟨sampleWorld, [paymentA, paymentB].map (paymentDelivery true 1)⟩
      twoPaymentsReplies).isSome = true := by
    decide +kernel
  refine ⟨_, (Option.some_get hrun).symm, ?_⟩
  exact completed_topups_were_credited true 1 _
    ⟨fun _ h => by simp [sampleWorld] at h, fun _ h => by simp [sampleWorld] at h⟩
    (Option.some_get hrun).symm

end Fygaro
