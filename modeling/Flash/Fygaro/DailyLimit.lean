import Mathlib
import Flash.Fygaro.Allowance
import Flash.Fygaro.PaymentPhases

/-!
# Fygaro — concurrent deliveries credit within the daily limit

`paymentHandler` gates each credit on the trailing-24h gross of the account's other payments,
read from the ERPNext rows.  Deliveries of different payments run concurrently, and nothing
serialises one's read against another's credit.  What keeps them within the daily limit is the
order of each delivery's own steps: it writes its row, counted, before it reads the history, and
the row stays counted while the delivery may still credit — only the record-only path stamps the
reason it was not credited on it.  Of two deliveries that both credit, the one that read its
history second saw the other's row.

`credited_payments_within_daily_limit`: in every run of deliveries of distinct new payments of one
account, handled at one time, the gross the run credited, with the trailing-24h gross of the rows
before it, is within the daily limit of the account's level.  No read is assumed to succeed and no
write to land: a history that cannot be read refuses, and a write that fails leaves a row that
counts, or none.  `credited_payments_stay_counted`: after the run, every payment it credited is
counted in the account's trailing gross, so that no credited top-up escapes a later check.

* `RowHeld`, `RowsExtend`: the row a delivery keeps from its audit on, and the rows of a run;
* `PaymentPhase.Known`, `Known.step`: what a delivery knows at its phase, kept by its own steps
  and, `Known.frame`, by every other delivery's;
* `PaymentPhase.Committed`, `Known.commit_step`: a delivery commits when it reads a history its
  payment fits within the limit, and stays committed while it may credit;
* `CreditInv.step`: one step of a run keeps its invariant.
-/

namespace Fygaro

open Threads

/-! ### What an operation does to the credits and the rows -/

namespace TopupWorld

variable {w w' : TopupWorld} {op : TopupOp} {r : TopupReply}

/-- Every operation leaves the credits as they were, or is a send that recorded itself. -/
theorem answer_credits_cases (h : w.answer op r = some w') :
    w'.credits = w.credits ∨
      ∃ t n, op = .creditFygaroTopup t n ∧ w'.credits = w.credits ++ [(t, n)] := by
  rcases answer_eq_some h with rfl | rfl
  · exact .inl rfl
  · exact effect_credits_cases w op

theorem answer_upsert_rows {wr : TopupRowWrite} {nowMs : Nat}
    (h : w.answer (.upsertBridgeTransferRequest wr nowMs) r = some w') :
    w'.rows = w.rows ∨ w'.rows = upsertRow w.rows wr nowMs := by
  rcases write_eq_some h with rfl | rfl
  · exact .inl rfl
  · exact .inr rfl

theorem answer_rows_of_keeps (hop : op.keepsRowsAndCredits = true)
    (h : w.answer op r = some w') : w'.rows = w.rows := by
  rcases answer_rows_cases h with hrows | ⟨wr, nowMs, rfl⟩
  · exact hrows
  · cases hop

end TopupWorld

/-! ### The rows of the payments -/

/-- The row of the payment of `d` as its audit wrote it: the gross and the currency, no failure
reason, seen at the delivery's time. -/
def RowHeld (rows : List TopupRow) (d : FygaroPaymentDelivery) : Prop :=
  ∃ x ∈ rows, x.requestId = d.transactionId ∧ x.amountCents = d.grossCents ∧
    x.currency = d.currency ∧ x.failureReason = none ∧ x.lastSeenAtMs = d.nowMs

/-- The rows `rows₀`, then rows of other payments. -/
def RowsExtend (rows₀ rows : List TopupRow) : Prop :=
  ∃ extra, rows = rows₀ ++ extra ∧ ∀ x ∈ extra, ∀ y ∈ rows₀, x.requestId ≠ y.requestId

section Rows

variable {rows rows₀ : List TopupRow} {wr : TopupRowWrite} {nowMs : Nat}
  {d : FygaroPaymentDelivery}

/-- An upsert keeps every row of another payment. -/
theorem mem_upsertRow_of_ne {x : TopupRow} (hx : x ∈ rows) (hne : x.requestId ≠ wr.requestId) :
    x ∈ upsertRow rows wr nowMs := by
  unfold upsertRow
  split_ifs
  · exact List.mem_map.mpr ⟨x, hx, by simp [hne]⟩
  · exact List.mem_append_left _ hx

/-- A row an upsert leaves of another payment is one it found. -/
theorem mem_of_mem_upsertRow {x : TopupRow} (hx : x ∈ upsertRow rows wr nowMs)
    (hne : x.requestId ≠ wr.requestId) : x ∈ rows := by
  unfold upsertRow at hx
  split_ifs at hx
  · obtain ⟨y, hy, rfl⟩ := List.mem_map.mp hx
    by_cases hyw : y.requestId = wr.requestId
    · rw [if_pos hyw] at hne
      exact absurd hyw hne
    · rw [if_neg hyw]
      exact hy
  · rcases List.mem_append.mp hx with hx | hx
    · exact hx
    · rw [List.mem_singleton.mp hx] at hne
      exact absurd rfl hne

/-- An upsert of another payment writes no row of `t`. -/
theorem requestId_ne_of_upsertRow {t : TransactionId} (h : ∀ x ∈ rows, x.requestId ≠ t)
    (hne : wr.requestId ≠ t) : ∀ x ∈ upsertRow rows wr nowMs, x.requestId ≠ t := by
  intro x hx hxt
  exact h x (mem_of_mem_upsertRow hx (hxt ▸ hne.symm)) hxt

theorem RowHeld.upsertRow_of_ne (h : RowHeld rows d) (hne : wr.requestId ≠ d.transactionId) :
    RowHeld (upsertRow rows wr nowMs) d := by
  obtain ⟨x, hx, hid, hfields⟩ := h
  exact ⟨x, mem_upsertRow_of_ne hx (hid ▸ hne.symm), hid, hfields⟩

/-- An upsert of the row of `d` with the payment's figures and no failure reason leaves the row as
the audit wrote it — on a row that was so, or on none. -/
theorem RowHeld.upsertRow_own (hop : (TopupOp.upsertBridgeTransferRequest wr nowMs).OwnPaymentOp d)
    (hf : wr.failureReason = none)
    (h : RowHeld rows d ∨ ∀ x ∈ rows, x.requestId ≠ d.transactionId) :
    RowHeld (upsertRow rows wr nowMs) d := by
  obtain ⟨hid, hamt, hcur, hnow⟩ := hop
  unfold upsertRow
  split_ifs with hany
  · -- the row is rewritten in place, its failure reason kept unset
    rcases h with ⟨x, hx, hxid, -, -, hxf, -⟩ | hnone
    · refine ⟨_, List.mem_map.mpr ⟨x, hx, rfl⟩, ?_⟩
      simp [hxid, hid, hamt, hcur, hf, hxf, hnow]
    · obtain ⟨x, hx, hxid⟩ := List.any_eq_true.mp hany
      exact absurd (by simpa [hid] using hxid) (hnone x hx)
  · exact ⟨_, List.mem_append_right _ (List.mem_singleton_self _), hid, hamt, hcur, hf, hnow⟩

theorem TopupRow.counts_some_of_ne {x : TopupRow} {sinceMs : Nat} {t : TransactionId}
    (h : x.requestId ≠ t) : x.counts sinceMs (some t) = x.counts sinceMs none := by
  have hsome : (some t != some x.requestId) = true := bne_iff_ne.mpr (by simpa using Ne.symm h)
  have hnone : (none != some x.requestId) = true := bne_iff_ne.mpr (by simp)
  simp only [TopupRow.counts, hsome, hnone]

/-- The held row of a USD payment counts in every history read in its window that does not
exclude it. -/
theorem RowHeld.counts (h : RowHeld rows d) (husd : d.currency = "USD") {sinceMs : Nat}
    (hsince : sinceMs ≤ d.nowMs) {ex : Option TransactionId} (hex : ex ≠ some d.transactionId) :
    ∃ x ∈ rows, x.requestId = d.transactionId ∧ x.counts sinceMs ex = true ∧
      x.amountCents = d.grossCents := by
  obtain ⟨x, hx, hid, hamt, hcur, hf, hseen⟩ := h
  refine ⟨x, hx, hid, ?_, hamt⟩
  have hexc : (ex != some x.requestId) = true := bne_iff_ne.mpr (hid ▸ hex)
  simp [TopupRow.counts, hcur, husd, hf, hseen, hsince, hexc]

theorem RowsExtend.upsertRow (h : RowsExtend rows₀ rows)
    (hw : ∀ y ∈ rows₀, y.requestId ≠ wr.requestId) :
    RowsExtend rows₀ (upsertRow rows wr nowMs) := by
  obtain ⟨extra, rfl, hextra⟩ := h
  unfold Fygaro.upsertRow
  split_ifs
  · -- the rows of `rows₀` are of other payments: the upsert keeps them
    rw [List.map_append, List.map_congr_left (l := rows₀) (g := id) fun y hy => by simp [hw y hy],
      List.map_id]
    refine ⟨_, rfl, fun x hx y hy => ?_⟩
    obtain ⟨x', hx', rfl⟩ := List.mem_map.mp hx
    -- an upsert keeps the payment a row is of
    split <;> exact hextra x' hx' y hy
  · refine ⟨extra ++ [_], List.append_assoc _ _ _, fun x hx y hy => ?_⟩
    rcases List.mem_append.mp hx with hx | hx
    · exact hextra x hx y hy
    · rw [List.mem_singleton.mp hx]
      exact (hw y hy).symm

/-- Rows of distinct payments, each counted, add up to at most the rows' counted gross. -/
theorem sum_le_of_rows {ι : Type} {p : TopupRow → Bool} {tx : ι → TransactionId}
    {gross : ι → Nat} (F : List ι) :
    ∀ l : List TopupRow, (F.map tx).Nodup →
      (∀ i ∈ F, ∃ x ∈ l, x.requestId = tx i ∧ p x = true ∧ x.amountCents = gross i) →
      (F.map gross).sum ≤ ((l.filter p).map (·.amountCents)).sum := by
  induction F with
  | nil => exact fun _ _ _ => Nat.zero_le _
  | cons i F ih =>
      intro l hnd hw
      obtain ⟨x, hx, hid, hp, hamt⟩ := hw i List.mem_cons_self
      rw [List.map_cons, List.nodup_cons] at hnd
      -- the row of `i` is counted once; the rows of the others are among the rest
      have hrest : ∀ j ∈ F, ∃ y ∈ l.erase x, y.requestId = tx j ∧ p y = true ∧
          y.amountCents = gross j := by
        intro j hj
        obtain ⟨y, hy, hyid, hyp, hyamt⟩ := hw j (List.mem_cons_of_mem _ hj)
        have hne : y ≠ x := by
          rintro rfl
          exact hnd.1 ((hid.symm.trans hyid) ▸ List.mem_map_of_mem hj)
        exact ⟨y, (List.mem_erase_of_ne hne).mpr hy, hyid, hyp, hyamt⟩
      have hperm : (l.filter p).Perm (x :: (l.erase x).filter p) := by
        simpa [List.filter_cons, hp] using (List.perm_cons_erase hx).filter p
      rw [(hperm.map _).sum_eq, List.map_cons, List.sum_cons, List.map_cons, List.sum_cons, hamt]
      exact Nat.add_le_add_left (ih (l.erase x) hnd.2 hrest) _

/-- **What a history read counts.**  A history whose exclusion spares the rows `rows₀` counts the
rows of `rows₀` that count without an exclusion, and every counted row of the other payments. -/
theorem le_sum_of_rowsExtend {ι : Type} {sinceMs : Nat} {ex : Option TransactionId}
    (h : RowsExtend rows₀ rows) (ht : ∀ y ∈ rows₀, y.counts sinceMs ex = y.counts sinceMs none)
    (F : List ι) (tx : ι → TransactionId) (gross : ι → Nat) (hF : (F.map tx).Nodup)
    (hF₀ : ∀ i ∈ F, ∀ y ∈ rows₀, y.requestId ≠ tx i)
    (hw : ∀ i ∈ F, ∃ x ∈ rows, x.requestId = tx i ∧ x.counts sinceMs ex = true ∧
      x.amountCents = gross i) :
    sumFygaroTopupGrossCentsSince rows₀ sinceMs none + (F.map gross).sum ≤
      sumFygaroTopupGrossCentsSince rows sinceMs ex := by
  obtain ⟨extra, rfl, -⟩ := h
  have h₀ : rows₀.filter (TopupRow.counts sinceMs ex) =
      rows₀.filter (TopupRow.counts sinceMs none) :=
    List.filter_congr fun y hy => ht y hy
  have hextra : (F.map gross).sum ≤
      ((extra.filter (TopupRow.counts sinceMs ex)).map (·.amountCents)).sum := by
    refine sum_le_of_rows F extra hF fun i hi => ?_
    obtain ⟨x, hx, hid, hc, hamt⟩ := hw i hi
    rcases List.mem_append.mp hx with hx₀ | hxe
    · exact absurd hid (hF₀ i hi x hx₀)
    · exact ⟨x, hxe, hid, hc, hamt⟩
  simp only [sumFygaroTopupGrossCentsSince, List.filter_append, List.map_append, List.sum_append,
    h₀]
  omega

end Rows

/-! ### What a delivery knows -/

namespace PaymentPhase

variable {creditEnabled : Bool} {level : Nat} {d : FygaroPaymentDelivery} {S₀ : FygaroSettings}

/-- What a delivery of `d` knows at a phase, in a run against the settings `S₀` whose rows are
`rows`: before its audit, no row of its payment; from the audit to the gate, and on the credit
path, its row as the audit wrote it; the settings it read, `S₀`'s or none; from the history on, a
USD payment; and once decided, that what remains keeps to its path. -/
def Known (d : FygaroPaymentDelivery) (S₀ : FygaroSettings) (rows : List TopupRow) :
    PaymentPhase → Prop
  | start => ∀ x ∈ rows, x.requestId ≠ d.transactionId
  | audited | received | intentRead _ => RowHeld rows d
  | settingsRead _ settings => RowHeld rows d ∧ ∀ S ∈ settings, S = S₀
  | historyRead _ settings _ => RowHeld rows d ∧ (∀ S ∈ settings, S = S₀) ∧ d.currency = "USD"
  | decided true rest =>
      RowHeld rows d ∧ d.currency = "USD" ∧ Always (TopupOp.CreditingOp d) rest
  | decided false rest => Always (TopupOp.RecordingOp d) rest

theorem Known.mono {rows rows' : List TopupRow}
    (hno : (∀ x ∈ rows, x.requestId ≠ d.transactionId) →
      ∀ x ∈ rows', x.requestId ≠ d.transactionId)
    (hheld : RowHeld rows d → RowHeld rows' d) :
    ∀ {ph : PaymentPhase}, Known d S₀ rows ph → Known d S₀ rows' ph
  | start, hk => hno hk
  | audited, hk | received, hk | intentRead _, hk => hheld hk
  | settingsRead _ _, hk => ⟨hheld hk.1, hk.2⟩
  | historyRead _ _ _, hk => ⟨hheld hk.1, hk.2⟩
  | decided true _, hk => ⟨hheld hk.1, hk.2⟩
  | decided false _, hk => hk

/-- **The frame of a delivery.**  Another delivery's step keeps what `d` knows: it touches no row
of `d`'s payment. -/
theorem Known.frame {d' : FygaroPaymentDelivery} {w w' : TopupWorld} {op : TopupOp}
    {r : TopupReply} {ph : PaymentPhase} (hk : Known d S₀ w.rows ph) (hop : op.OwnPaymentOp d')
    (hne : d'.transactionId ≠ d.transactionId) (hans : w.answer op r = some w') :
    Known d S₀ w'.rows ph := by
  rcases TopupWorld.answer_rows_cases hans with hrows | ⟨wr, n, rfl⟩
  · rwa [hrows]
  · obtain ⟨hid, -⟩ := hop
    have hw : wr.requestId ≠ d.transactionId := hid ▸ hne
    rcases TopupWorld.answer_upsert_rows hans with hrows | hrows <;> rw [hrows]
    · exact hk
    · exact hk.mono (fun h => requestId_ne_of_upsertRow h hw) fun h => h.upsertRow_of_ne hw

/-- What remains of a delivery touches only its own row and credit. -/
theorem Known.ownPayment {rows : List TopupRow} :
    ∀ {ph : PaymentPhase}, Known d S₀ rows ph →
      Always (TopupOp.OwnPaymentOp d) (result creditEnabled level d ph)
  | start, _ => paymentHandler_ownPayment creditEnabled level d
  | audited, _ => d.afterAudit_ownPayment creditEnabled level true
  | received, _ => d.afterReceived_ownPayment creditEnabled level
  | intentRead authorizedIntent, _ => d.afterAuthorization_ownPayment creditEnabled level authorizedIntent
  | settingsRead authorizedIntent settings, _ =>
      d.afterPaymentSettings_ownPayment creditEnabled level authorizedIntent settings
  | historyRead authorizedIntent settings _, _ =>
      ((getFlashFeeDiscountPercent_always fun _ h =>
        TopupOp.ownPaymentOp_of_keeps (TopupOp.keepsRowsAndCredits_of_keepsRecords h)).bind
        fun _ => .pure _).bind
        (d.afterCreditHistory_ownPayment creditEnabled level authorizedIntent settings)
  | decided true _, hk => hk.2.2.mono fun _ hop => hop.1
  | decided false _, hk => Always.mono (fun _ hop => hop.1) hk

/-- **A delivery sends its credit only on the credit path.** -/
theorem Known.crediting_of_sendsCredit {rows : List TopupRow} {ph : PaymentPhase} {op : TopupOp}
    {k : TopupReply → TopupProg PaymentResponse} (hk : Known d S₀ rows ph)
    (hcall : result creditEnabled level d ph = .call op k) (hs : op.sendsCredit = true) :
    ∃ rest, ph = decided true rest := by
  obtain ⟨crediting, rest, rfl⟩ := decided_of_sendsCredit creditEnabled level d hcall hs
  cases crediting with
  | true => exact ⟨rest, rfl⟩
  | false =>
      -- the record-only path sends nothing
      rw [result] at hcall
      rw [hcall] at hk
      rw [hk.head.2] at hs
      cases hs

/-! ### One step of a delivery -/

section Step

variable {w w' : TopupWorld} {op : TopupOp} {k : TopupReply → TopupProg PaymentResponse}
  {r : TopupReply}

theorem Known.step_decided {crediting : Bool} {rest : TopupProg PaymentResponse}
    (hk : Known d S₀ w.rows (decided crediting rest)) (hcall : rest = .call op k)
    (hans : w.answer op r = some w') : Known d S₀ w'.rows (decided crediting (k r)) := by
  subst hcall
  cases crediting with
  | false => exact Always.tail hk r
  | true =>
      obtain ⟨hheld, husd, hall⟩ := hk
      refine ⟨?_, husd, hall.tail r⟩
      -- the credit path's only upsert is its row's promotion, which sets no failure reason
      obtain ⟨hop, hfail⟩ := hall.head
      rcases TopupWorld.answer_rows_cases hans with hrows | ⟨wr, n, rfl⟩
      · rwa [hrows]
      · rcases TopupWorld.answer_upsert_rows hans with hrows | hrows <;> rw [hrows]
        · exact hheld
        · have hf : wr.failureReason = none := by simpa [TopupOp.stampsFailure] using hfail
          exact RowHeld.upsertRow_own hop hf (.inl hheld)

theorem Known.step_historyRead (authorizedIntent : Option FygaroCheckoutIntent)
    (settings : Option FygaroSettings) (prior : Option Nat)
    (hk : Known d S₀ w.rows (historyRead authorizedIntent settings prior))
    (hcall : result creditEnabled level d (historyRead authorizedIntent settings prior) =
      .call op k)
    (hans : w.answer op r = some w') :
    Known d S₀ w'.rows (next creditEnabled level d (historyRead authorizedIntent settings prior) r) := by
  rw [result, getFlashFeeDiscountPercent_eq, Prog.call_bind] at hcall
  obtain ⟨rfl, -⟩ := Prog.call.inj hcall
  rw [TopupWorld.answer_rows_of_keeps rfl hans]
  obtain ⟨hheld, -, husd⟩ := hk
  simp only [next]
  cases hg : d.gateCredits creditEnabled level settings prior r.discountOf authorizedIntent with
  | true => exact ⟨hheld, husd, d.afterCreditHistory_crediting creditEnabled level hg⟩
  | false => exact d.afterCreditHistory_recording creditEnabled level hg

theorem Known.step_settingsRead (authorizedIntent : Option FygaroCheckoutIntent)
    (settings : Option FygaroSettings)
    (hk : Known d S₀ w.rows (settingsRead authorizedIntent settings))
    (hcall : result creditEnabled level d (settingsRead authorizedIntent settings) = .call op k)
    (hans : w.answer op r = some w') :
    Known d S₀ w'.rows (next creditEnabled level d (settingsRead authorizedIntent settings) r) := by
  obtain ⟨hheld, hset⟩ := hk
  rw [result, FygaroPaymentDelivery.afterPaymentSettings,
    FygaroPaymentDelivery.readCreditHistory] at hcall
  simp only [next, nextSettingsRead]
  split_ifs at hcall ⊢ with hc
  · -- the history read leaves the rows
    rw [sumFygaroTopupGrossCentsLast24h_eq, Prog.call_bind, Prog.call_bind] at hcall
    obtain ⟨rfl, -⟩ := Prog.call.inj hcall
    rw [TopupWorld.answer_rows_of_keeps rfl hans]
    exact ⟨hheld, hset, hc.2.2⟩
  · -- without a history the gate refuses: the record-only path goes on
    rw [Prog.pure_bind] at hcall
    have hrec := d.afterCreditHistory_recording creditEnabled level
      (d.gateCredits_none creditEnabled level settings 0 authorizedIntent)
    rw [hcall] at hrec ⊢
    exact hrec.tail r

theorem Known.step_intentRead (hS : w.settings = S₀) (authorizedIntent : Option FygaroCheckoutIntent)
    (hk : Known d S₀ w.rows (intentRead authorizedIntent))
    (hcall : result creditEnabled level d (intentRead authorizedIntent) = .call op k)
    (hans : w.answer op r = some w') :
    Known d S₀ w'.rows (next creditEnabled level d (intentRead authorizedIntent) r) := by
  cases creditEnabled with
  | true =>
      rw [result, FygaroPaymentDelivery.afterAuthorization, if_pos rfl, getFygaroSettings_eq,
        Prog.call_bind] at hcall
      obtain ⟨rfl, -⟩ := Prog.call.inj hcall
      obtain ⟨rfl, hset⟩ := TopupWorld.answer_getFygaroSettings hans
      exact ⟨hk, fun S hS' => (hset S hS').trans hS⟩
  | false =>
      -- without the deploy gate the settings are not read
      have hcall' : result false level d (settingsRead authorizedIntent none) = .call op k := hcall
      exact Known.step_settingsRead authorizedIntent none ⟨hk, fun _ h => by cases h⟩ hcall' hans

theorem Known.step_received (hS : w.settings = S₀) (hk : Known d S₀ w.rows received)
    (hcall : result creditEnabled level d received = .call op k)
    (hans : w.answer op r = some w') :
    Known d S₀ w'.rows (next creditEnabled level d received r) := by
  rw [result, FygaroPaymentDelivery.afterReceived, FygaroPaymentDelivery.readAuthorization] at hcall
  cases hid : d.intentId with
  | some intentId =>
      simp only [hid, readIntent_eq, Prog.call_bind] at hcall
      obtain ⟨rfl, -⟩ := Prog.call.inj hcall
      simp only [next, hid]
      rw [TopupWorld.answer_rows_of_keeps rfl hans]
      exact hk
  | none =>
      -- no intent to read
      simp only [hid, Prog.pure_bind] at hcall
      simp only [next, hid]
      exact Known.step_intentRead hS none hk hcall hans

theorem Known.step_audited (hS : w.settings = S₀) (hk : Known d S₀ w.rows audited)
    (hcall : result creditEnabled level d audited = .call op k)
    (hans : w.answer op r = some w') :
    Known d S₀ w'.rows (next creditEnabled level d audited r) := by
  rw [result, FygaroPaymentDelivery.afterAudit, FygaroPaymentDelivery.recordOutcome] at hcall
  cases hid : d.intentId with
  | none =>
      -- no intent: nothing is stamped and nothing read
      simp only [hid, Prog.pure_bind, FygaroPaymentDelivery.afterReceived,
        FygaroPaymentDelivery.readAuthorization] at hcall
      simp only [next, hid]
      exact Known.step_intentRead hS none hk hcall hans
  | some intentId =>
      simp only [hid, recordIntentOutcomeStep, Prog.call_bind] at hcall
      obtain ⟨rfl, -⟩ := Prog.call.inj hcall
      simp only [next, hid]
      rw [TopupWorld.answer_rows_of_keeps rfl hans]
      exact hk

theorem Known.step_start (hk : Known d S₀ w.rows start)
    (hcall : result creditEnabled level d start = .call op k) (hans : w.answer op r = some w') :
    Known d S₀ w'.rows (next creditEnabled level d start r) := by
  rw [result, paymentHandler] at hcall
  split at hcall
  · cases hcall
  · next hfound =>
      rw [writeFygaroTopupRequest, upsertBridgeTransferRequest, Prog.call_bind] at hcall
      obtain ⟨rfl, -⟩ := Prog.call.inj hcall
      cases r
      case ok =>
        -- the audit row is written as the audit writes it
        simp only [next, hfound]
        have hrows : w'.rows = upsertRow w.rows
            ⟨d.transactionId, d.grossCents, d.currency, .fiatReceived, none, none⟩ d.nowMs := by
          cases hans
          rfl
        rw [hrows]
        exact RowHeld.upsertRow_own ⟨rfl, rfl, rfl, rfl⟩ rfl (.inr hk)
      all_goals
        simp only [next, hfound]
        exact .pure _

/-- **One step of a delivery keeps what it knows.** -/
theorem Known.step (hS : w.settings = S₀) :
    ∀ {ph : PaymentPhase}, Known d S₀ w.rows ph →
      result creditEnabled level d ph = .call op k → w.answer op r = some w' →
      Known d S₀ w'.rows (next creditEnabled level d ph r)
  | start, hk, hcall, hans => Known.step_start hk hcall hans
  | audited, hk, hcall, hans => Known.step_audited hS hk hcall hans
  | received, hk, hcall, hans => Known.step_received hS hk hcall hans
  | intentRead authorizedIntent, hk, hcall, hans =>
      Known.step_intentRead hS authorizedIntent hk hcall hans
  | settingsRead authorizedIntent settings, hk, hcall, hans =>
      Known.step_settingsRead authorizedIntent settings hk hcall hans
  | historyRead authorizedIntent settings prior, hk, hcall, hans =>
      Known.step_historyRead authorizedIntent settings prior hk hcall hans
  | decided _ rest, hk, hcall, hans => by
      have hrest : rest = .call op k := hcall
      subst hrest
      exact Known.step_decided hk rfl hans

end Step

/-! ### Commitment -/

/-- A delivery is committed from the history read whose gross its payment fits within the daily
limit of the level, until its gate refuses; on the credit path it is. -/
def Committed (S₀ : FygaroSettings) (level grossCents : Nat) : PaymentPhase → Prop
  | historyRead _ _ (some prior) =>
      ∃ l, S₀.dailyTopupLimits.lookup level = some l ∧ grossCents + prior ≤ l
  | decided true _ => True
  | _ => False

theorem Known.held_of_committed {rows : List TopupRow} {ph : PaymentPhase}
    (hk : Known d S₀ rows ph) (hc : Committed S₀ level d.grossCents ph) :
    RowHeld rows d ∧ d.currency = "USD" := by
  cases ph with
  | historyRead authorizedIntent settings prior => exact ⟨hk.1, hk.2.2⟩
  | decided crediting rest =>
      cases crediting with
      | true => exact ⟨hk.1, hk.2.1⟩
      | false => exact hc.elim
  | _ => exact hc.elim

theorem not_committed_continueWith (rest : TopupProg PaymentResponse) (r : TopupReply)
    (grossCents : Nat) : ¬ Committed S₀ level grossCents (continueWith false rest r) := by
  cases rest <;> exact id

theorem not_committed_nextIntentRead (authorizedIntent : Option FygaroCheckoutIntent)
    (r : TopupReply) (grossCents : Nat) :
    ¬ Committed S₀ level grossCents (nextIntentRead creditEnabled level d authorizedIntent r) := by
  unfold nextIntentRead nextSettingsRead
  split_ifs with hc hc'
  · exact id
  · simp at hc'
  · exact not_committed_continueWith _ r grossCents

section Step

variable {w w' : TopupWorld} {op : TopupOp} {k : TopupReply → TopupProg PaymentResponse}
  {r : TopupReply}

/-- **A delivery commits only at its history read**, against the history it read there. -/
theorem Known.commit_step {ph : PaymentPhase} (hk : Known d S₀ w.rows ph)
    (hcall : result creditEnabled level d ph = .call op k) (hans : w.answer op r = some w')
    (hbefore : ¬ Committed S₀ level d.grossCents ph)
    (hafter : Committed S₀ level d.grossCents (next creditEnabled level d ph r)) :
    ∃ l, S₀.dailyTopupLimits.lookup level = some l ∧
      d.grossCents + sumFygaroTopupGrossCentsSince w.rows (d.nowMs - 24 * 60 * 60 * 1000)
        (some d.transactionId) ≤ l := by
  cases ph with
  | start =>
      simp only [next] at hafter
      split at hafter <;> exact hafter.elim
  | audited =>
      simp only [next] at hafter
      split at hafter
      · exact hafter.elim
      · exact absurd hafter (not_committed_nextIntentRead none r _)
  | received =>
      simp only [next] at hafter
      split at hafter
      · exact hafter.elim
      · exact absurd hafter (not_committed_nextIntentRead none r _)
  | intentRead authorizedIntent =>
      exact absurd hafter (not_committed_nextIntentRead authorizedIntent r _)
  | settingsRead authorizedIntent settings =>
      simp only [next, nextSettingsRead] at hafter
      split_ifs at hafter with hc
      · -- the history read: what the delivery read is the world's gross
        rw [result, FygaroPaymentDelivery.afterPaymentSettings,
          FygaroPaymentDelivery.readCreditHistory, if_pos hc, sumFygaroTopupGrossCentsLast24h_eq,
          Prog.call_bind, Prog.call_bind] at hcall
        obtain ⟨rfl, -⟩ := Prog.call.inj hcall
        obtain ⟨-, hread⟩ := TopupWorld.answer_sumFygaroTopupGrossCentsSince hans
        cases hg : r.grossOf with
        | none => rw [hg] at hafter; exact hafter.elim
        | some prior =>
            rw [hg] at hafter
            rw [← hread prior hg]
            exact hafter
      · exact absurd hafter (not_committed_continueWith _ r _)
  | historyRead authorizedIntent settings prior =>
      -- a gate that credits read a history the payment fits: the delivery was committed
      simp only [next] at hafter
      cases hg : d.gateCredits creditEnabled level settings prior r.discountOf authorizedIntent with
      | false => rw [hg] at hafter; exact hafter.elim
      | true =>
          obtain ⟨S, H, L, rfl, rfl, hL, hle⟩ := d.gateCredits_limit creditEnabled level hg
          obtain rfl : S = S₀ := hk.2.1 S rfl
          exact absurd ⟨L, hL, hle⟩ hbefore
  | decided crediting rest =>
      cases crediting with
      | true => exact absurd trivial hbefore
      | false => exact absurd hafter (not_committed_continueWith rest r _)

end Step

end PaymentPhase

/-! ### The run -/

section Run

variable (creditEnabled : Bool) (level : Nat) (w₀ : TopupWorld) (nowMs : Nat)
  (deliveries : List FygaroPaymentDelivery)

/-- The phase delivery `i` stands at after the replies `sched`. -/
def deliveryPhase (sched : List (Nat × TopupReply)) (i : Fin deliveries.length) : PaymentPhase :=
  Pool.phaseOf (fun d => PaymentPhase.next creditEnabled level d) (fun _ => .start) deliveries[i]
    sched i

/-- The invariant of a run of the deliveries `deliveries` from `w₀`, after the replies `sched`:
the threads stand at their phases; the settings are `w₀`'s, and the rows `w₀`'s and then rows of
the deliveries; each delivery knows what it read, and has its credit sent only on the credit path;
and the committed deliveries' gross, with the history of `w₀`, is within the daily limit. -/
structure CreditInv (sched : List (Nat × TopupReply)) (c : TopupPool) : Prop where
  phases : Pool.PhasesAt (fun d => PaymentPhase.deliveryResult creditEnabled level d)
    (fun d => PaymentPhase.next creditEnabled level d) (fun _ => .start) deliveries sched c
  settings : c.world.settings = w₀.settings
  rows : RowsExtend w₀.rows c.world.rows
  known : ∀ i : Fin deliveries.length, PaymentPhase.Known deliveries[i] w₀.settings c.world.rows
    (deliveryPhase creditEnabled level deliveries sched i)
  credited : ∀ i : Fin deliveries.length,
    deliveries[i].transactionId ∈ c.world.credits.map (·.1) →
      ∃ rest, deliveryPhase creditEnabled level deliveries sched i = .decided true rest
  bound : ∀ F : List (Fin deliveries.length), F.Nodup →
    (∀ i ∈ F, PaymentPhase.Committed w₀.settings level deliveries[i].grossCents
      (deliveryPhase creditEnabled level deliveries sched i)) → F ≠ [] →
    ∃ l, w₀.settings.dailyTopupLimits.lookup level = some l ∧
      priorDayGross w₀ nowMs + (F.map fun i => deliveries[i].grossCents).sum ≤ l

theorem creditInv_start (hnew : ∀ d ∈ deliveries, ∀ x ∈ w₀.rows, x.requestId ≠ d.transactionId)
    (hsent : ∀ d ∈ deliveries, ∀ e ∈ w₀.credits, e.1 ≠ d.transactionId) :
    CreditInv creditEnabled level w₀ nowMs deliveries []
      ⟨w₀, deliveries.map (paymentDelivery creditEnabled level)⟩ := by
  refine ⟨Pool.phasesAt_start _ _ _ deliveries w₀, rfl, ⟨[], by simp, by simp⟩,
    fun i => hnew _ (List.getElem_mem _), fun i hi => ?_, ?_⟩
  · -- nothing of the deliveries was sent before
    obtain ⟨e, he, hid⟩ := List.mem_map.mp hi
    exact absurd hid (hsent _ (List.getElem_mem _) e he)
  · -- no delivery has read a history
    intro F hF hc hne
    obtain ⟨i, hi⟩ := List.exists_mem_of_ne_nil F hne
    exact (hc i hi).elim

theorem deliveryPhase_append (sched : List (Nat × TopupReply)) (m j : Fin deliveries.length)
    (r : TopupReply) :
    deliveryPhase creditEnabled level deliveries (sched ++ [((m : Nat), r)]) j =
      if m = j then
        PaymentPhase.next creditEnabled level deliveries[j]
          (deliveryPhase creditEnabled level deliveries sched j) r
      else deliveryPhase creditEnabled level deliveries sched j := by
  simp only [deliveryPhase, Pool.phaseOf_append, Fin.val_inj]

variable {creditEnabled level w₀ nowMs deliveries}

/-- **One step keeps the invariant.**  The delivery that moves learns what its step teaches it;
the others keep what they know, since no delivery touches another's row; and a step that commits
a delivery is its history read, which counted the row of every delivery committed before. -/
theorem CreditInv.step (hnow : ∀ d ∈ deliveries, d.nowMs = nowMs)
    (htx : (deliveries.map (·.transactionId)).Nodup)
    (hnew : ∀ d ∈ deliveries, ∀ x ∈ w₀.rows, x.requestId ≠ d.transactionId)
    {sched : List (Nat × TopupReply)} {c c' : TopupPool} {i : Nat} {r : TopupReply}
    (hinv : CreditInv creditEnabled level w₀ nowMs deliveries sched c)
    (h : Pool.step TopupWorld.answer c i r = some c') :
    CreditInv creditEnabled level w₀ nowMs deliveries (sched ++ [(i, r)]) c' := by
  obtain ⟨hi, op, k, hcall, hsem, hat⟩ :=
    Pool.phasesAt_step (fun d => PaymentPhase.delivery_follows creditEnabled level d) hinv.phases h
  -- the delivery that moved, and the operation it issued
  let m : Fin deliveries.length := ⟨i, hi⟩
  have hphase := fun j => deliveryPhase_append creditEnabled level deliveries sched m j r
  obtain ⟨k', hcall'⟩ := Prog.eq_call_of_bind_pure hcall
  have hcallm : PaymentPhase.result creditEnabled level deliveries[m]
      (deliveryPhase creditEnabled level deliveries sched m) = .call op k' := hcall'
  have hkm := hinv.known m
  have hop : op.OwnPaymentOp deliveries[m] := by
    have hall : Always (TopupOp.OwnPaymentOp deliveries[m]) (PaymentPhase.result creditEnabled level
        deliveries[m] (deliveryPhase creditEnabled level deliveries sched m)) := hkm.ownPayment
    rw [hcallm] at hall
    exact hall.head
  have hS : c.world.settings = w₀.settings := hinv.settings
  have hne : ∀ j : Fin deliveries.length, m ≠ j →
      deliveries[m].transactionId ≠ deliveries[j].transactionId :=
    fun j hmj hid => hmj (Pool.index_eq_of_key_eq htx hid)
  refine ⟨hat, (TopupWorld.answer_settings hsem).1.trans hS, ?_, ?_, ?_, ?_⟩
  · -- the rows: the mover upserts only its own, new, payment's row
    rcases TopupWorld.answer_rows_cases hsem with hrows | ⟨wr, n, rfl⟩
    · exact hrows ▸ hinv.rows
    · rcases TopupWorld.answer_upsert_rows hsem with hrows | hrows <;> rw [hrows]
      · exact hinv.rows
      · obtain ⟨hid, -⟩ := hop
        exact hinv.rows.upsertRow fun y hy => hid ▸ hnew deliveries[m] (List.getElem_mem _) y hy
  · intro j
    rw [hphase j]
    by_cases hmj : m = j
    · subst hmj
      rw [if_pos rfl]
      exact PaymentPhase.Known.step hS hkm hcallm hsem
    · rw [if_neg hmj]
      exact (hinv.known j).frame hop (hne j hmj) hsem
  · -- a credit is sent only from the credit path, which the delivery then stays on
    have hstays : ∀ j : Fin deliveries.length, ∀ rest,
        deliveryPhase creditEnabled level deliveries sched j = .decided true rest →
        ∃ rest', deliveryPhase creditEnabled level deliveries (sched ++ [((m : Nat), r)]) j =
          .decided true rest' := by
      intro j rest hj
      rw [hphase j]
      split_ifs with hmj
      · rw [hj]
        cases rest <;> exact ⟨_, rfl⟩
      · exact ⟨rest, hj⟩
    intro j hj
    rcases TopupWorld.answer_credits_cases hsem with hcr | ⟨t, n, rfl, hcr⟩
    · rw [hcr] at hj
      obtain ⟨rest, hrest⟩ := hinv.credited j hj
      exact hstays j rest hrest
    · rw [hcr, List.map_append, List.mem_append] at hj
      rcases hj with hj | hj
      · obtain ⟨rest, hrest⟩ := hinv.credited j hj
        exact hstays j rest hrest
      · -- the new send is the mover's own
        have htj : deliveries[m].transactionId = deliveries[j].transactionId := by
          simp only [List.map_cons, List.map_nil, List.mem_singleton] at hj
          have ht : t = deliveries[m].transactionId := hop
          exact ht.symm.trans hj.symm
        obtain rfl := Pool.index_eq_of_key_eq htx htj
        obtain ⟨rest, hrest⟩ := hkm.crediting_of_sendsCredit hcallm rfl
        exact hstays m rest hrest
  · intro F hF hcommitted hF₀
    by_cases hcommit : m ∈ F ∧
        ¬ PaymentPhase.Committed w₀.settings level deliveries[m].grossCents
          (deliveryPhase creditEnabled level deliveries sched m)
    · -- the step commits the mover: its history counted every committed delivery's row
      obtain ⟨hmF, hbefore⟩ := hcommit
      have hafter := hcommitted m hmF
      rw [hphase m, if_pos rfl] at hafter
      obtain ⟨l, hl, hwithin⟩ := hkm.commit_step hcallm hsem hbefore hafter
      have hnowm := hnow deliveries[m] (List.getElem_mem _)
      have hrest : ∀ j ∈ F.erase m, ∃ x ∈ c.world.rows,
          x.requestId = deliveries[j].transactionId ∧
          x.counts (nowMs - 24 * 60 * 60 * 1000) (some deliveries[m].transactionId) = true ∧
          x.amountCents = deliveries[j].grossCents := by
        intro j hj
        obtain ⟨hjm, hjF⟩ := (List.Nodup.mem_erase_iff hF).mp hj
        have hcj := hcommitted j hjF
        rw [hphase j, if_neg (Ne.symm hjm)] at hcj
        obtain ⟨hheld, husd⟩ := (hinv.known j).held_of_committed hcj
        refine hheld.counts husd ?_ fun h => hne j (Ne.symm hjm) (Option.some.inj h)
        rw [hnow deliveries[j] (List.getElem_mem _)]
        omega
      have hle := le_sum_of_rowsExtend hinv.rows
        (fun y hy => TopupRow.counts_some_of_ne (hnew deliveries[m] (List.getElem_mem _) y hy))
        (F.erase m)
        (fun j => deliveries[j].transactionId) (fun j => deliveries[j].grossCents)
        (((hF.sublist (List.erase_sublist)).map_on fun a _ b _ hab => Pool.index_eq_of_key_eq htx hab))
        (fun j _ y hy => hnew deliveries[j] (List.getElem_mem _) y hy) hrest
      have hsum : (F.map fun j => deliveries[j].grossCents).sum =
          deliveries[m].grossCents + ((F.erase m).map fun j => deliveries[j].grossCents).sum := by
        rw [((List.perm_cons_erase hmF).map _).sum_eq, List.map_cons, List.sum_cons]
      refine ⟨l, hl, ?_⟩
      rw [hsum]
      rw [hnowm] at hwithin
      unfold priorDayGross
      omega
    · -- otherwise every delivery of `F` was committed before the step
      refine hinv.bound F hF (fun j hj => ?_) hF₀
      by_cases hmj : m = j
      · subst hmj
        by_contra hno
        exact hcommit ⟨hj, hno⟩
      · have hcj := hcommitted j hj
        rwa [hphase j, if_neg hmj] at hcj

/-- The invariant holds after every run of the deliveries. -/
theorem creditInv_run (hnow : ∀ d ∈ deliveries, d.nowMs = nowMs)
    (htx : (deliveries.map (·.transactionId)).Nodup)
    (hnew : ∀ d ∈ deliveries, ∀ x ∈ w₀.rows, x.requestId ≠ d.transactionId)
    (hsent : ∀ d ∈ deliveries, ∀ e ∈ w₀.credits, e.1 ≠ d.transactionId)
    {sched : List (Nat × TopupReply)} {c : TopupPool}
    (hrun : Pool.run TopupWorld.answer
      ⟨w₀, deliveries.map (paymentDelivery creditEnabled level)⟩ sched = some c) :
    CreditInv creditEnabled level w₀ nowMs deliveries sched c := by
  have hinv := Pool.run_inv_hist (I := CreditInv creditEnabled level w₀ nowMs deliveries)
    (fun _ _ _ _ _ hI hs => hI.step hnow htx hnew hs)
    (creditInv_start creditEnabled level w₀ nowMs deliveries hnew hsent) hrun
  rwa [List.nil_append] at hinv

/-- A payment the run credited: its delivery is on the credit path, its row held. -/
theorem CreditInv.held_of_credited {sched : List (Nat × TopupReply)} {c : TopupPool}
    (hinv : CreditInv creditEnabled level w₀ nowMs deliveries sched c) {i : Fin deliveries.length}
    (hi : deliveries[i].transactionId ∈ c.world.credits.map (·.1)) :
    PaymentPhase.Committed w₀.settings level deliveries[i].grossCents
        (deliveryPhase creditEnabled level deliveries sched i) ∧
      RowHeld c.world.rows deliveries[i] ∧ deliveries[i].currency = "USD" := by
  obtain ⟨rest, hrest⟩ := hinv.credited i hi
  have hk := hinv.known i
  rw [hrest] at hk ⊢
  exact ⟨trivial, hk.1, hk.2.1⟩

end Run

/-- **Concurrent deliveries credit within the daily limit.**  In every run of payment deliveries
of distinct payments of one account, none of them recorded or sent before and all handled at
`nowMs`, the gross of the payments the run credited, with the trailing-24h gross of the rows
before it, is within the daily limit of the account's level — whatever the interleaving, and
whichever reads and writes failed. -/
theorem credited_payments_within_daily_limit {creditEnabled : Bool} {level nowMs : Nat}
    {w : TopupWorld} {deliveries : List FygaroPaymentDelivery}
    (hnow : ∀ d ∈ deliveries, d.nowMs = nowMs)
    (htx : (deliveries.map (·.transactionId)).Nodup)
    (hnew : ∀ d ∈ deliveries, ∀ x ∈ w.rows, x.requestId ≠ d.transactionId)
    (hsent : ∀ d ∈ deliveries, ∀ e ∈ w.credits, e.1 ≠ d.transactionId)
    {sched : List (Nat × TopupReply)} {c : TopupPool}
    (hrun : Pool.run TopupWorld.answer
      ⟨w, deliveries.map (paymentDelivery creditEnabled level)⟩ sched = some c)
    (F : List (Fin deliveries.length)) (hF : F.Nodup) (hne : F ≠ [])
    (hcredited : ∀ i ∈ F, deliveries[i].transactionId ∈ c.world.credits.map (·.1)) :
    ∃ l, w.settings.dailyTopupLimits.lookup level = some l ∧
      sumFygaroTopupGrossCentsSince w.rows (nowMs - 24 * 60 * 60 * 1000) none +
        (F.map fun i => deliveries[i].grossCents).sum ≤ l := by
  have hinv := creditInv_run hnow htx hnew hsent hrun
  -- a payment credited is a delivery on the credit path, which is committed
  exact hinv.bound F hF (fun i hi => (hinv.held_of_credited (hcredited i hi)).1) hne

/-- **A credited payment stays in the history.**  After every run of such deliveries, the
trailing gross of the account's rows, read in any window from before the deliveries' time,
counts what it counted before and the gross of every payment the run credited: no credited
top-up drops out of a later daily-limit check. -/
theorem credited_payments_stay_counted {creditEnabled : Bool} {level nowMs : Nat}
    {w : TopupWorld} {deliveries : List FygaroPaymentDelivery}
    (hnow : ∀ d ∈ deliveries, d.nowMs = nowMs)
    (htx : (deliveries.map (·.transactionId)).Nodup)
    (hnew : ∀ d ∈ deliveries, ∀ x ∈ w.rows, x.requestId ≠ d.transactionId)
    (hsent : ∀ d ∈ deliveries, ∀ e ∈ w.credits, e.1 ≠ d.transactionId)
    {sched : List (Nat × TopupReply)} {c : TopupPool}
    (hrun : Pool.run TopupWorld.answer
      ⟨w, deliveries.map (paymentDelivery creditEnabled level)⟩ sched = some c)
    (F : List (Fin deliveries.length)) (hF : F.Nodup)
    (hcredited : ∀ i ∈ F, deliveries[i].transactionId ∈ c.world.credits.map (·.1))
    {sinceMs : Nat} (hsince : sinceMs ≤ nowMs) :
    sumFygaroTopupGrossCentsSince w.rows sinceMs none +
        (F.map fun i => deliveries[i].grossCents).sum ≤
      sumFygaroTopupGrossCentsSince c.world.rows sinceMs none := by
  have hinv := creditInv_run hnow htx hnew hsent hrun
  refine le_sum_of_rowsExtend hinv.rows (fun _ _ => rfl) F (fun i => deliveries[i].transactionId)
    (fun i => deliveries[i].grossCents)
    (hF.map_on fun a _ b _ hab => Pool.index_eq_of_key_eq htx hab)
    (fun i _ y hy => hnew deliveries[i] (List.getElem_mem _) y hy) fun i hi => ?_
  obtain ⟨-, hheld, husd⟩ := hinv.held_of_credited (hcredited i hi)
  refine hheld.counts husd ?_ (by simp)
  rw [hnow deliveries[i] (List.getElem_mem _)]
  exact hsince

/-! ### Two payments at the limit -/

def paymentA : FygaroPaymentDelivery := ⟨"tA", 5000, "USD", none, sampleNow, .found⟩
def paymentB : FygaroPaymentDelivery := ⟨"tB", 5000, "USD", none, sampleNow, .found⟩

/-- Both deliveries write their rows; then each reads the settings, a history holding the other's
row, the discount, takes the payment's lock, finds no completed row, sends, promotes its row and
releases the lock. -/
def twoPaymentsReplies : List (Nat × TopupReply) :=
  [(0, .ok), (1, .ok),
   (0, .settings (some sampleSettings)), (0, .grossCents 5000), (0, .discount 0),
   (0, .acquired true), (0, .failed false), (0, .ok), (0, .ok), (0, .ok),
   (1, .settings (some sampleSettings)), (1, .grossCents 5000), (1, .discount 0),
   (1, .acquired true), (1, .failed false), (1, .ok), (1, .ok), (1, .ok)]

/-- Two $50 payments delivered at once are both credited, at the $100 limit. -/
theorem two_payments_at_daily_limit :
    ∃ l, sampleSettings.dailyTopupLimits.lookup 1 = some l ∧
      sumFygaroTopupGrossCentsSince sampleWorld.rows (sampleNow - 24 * 60 * 60 * 1000) none +
        (([⟨0, by decide⟩, ⟨1, by decide⟩] : List (Fin [paymentA, paymentB].length)).map
          fun i => [paymentA, paymentB][i].grossCents).sum ≤ l := by
  have hrun : (Pool.run TopupWorld.answer
      ⟨sampleWorld, [paymentA, paymentB].map (paymentDelivery true 1)⟩
      twoPaymentsReplies).isSome = true := by
    decide +kernel
  refine credited_payments_within_daily_limit (by decide) (by decide) (by decide) (by decide)
    (Option.some_get hrun).symm _ (by decide) (by simp) ?_
  intro i hi
  simp only [List.mem_cons, List.not_mem_nil, or_false] at hi
  rcases hi with rfl | rfl <;> decide +revert +kernel

/-- After the two payments, the history counts both of them. -/
theorem two_payments_stay_counted :
    sumFygaroTopupGrossCentsSince sampleWorld.rows (sampleNow - 24 * 60 * 60 * 1000) none +
        (([⟨0, by decide⟩, ⟨1, by decide⟩] : List (Fin [paymentA, paymentB].length)).map
          fun i => [paymentA, paymentB][i].grossCents).sum ≤
      sumFygaroTopupGrossCentsSince ((Pool.run TopupWorld.answer
          ⟨sampleWorld, [paymentA, paymentB].map (paymentDelivery true 1)⟩
          twoPaymentsReplies).getD ⟨sampleWorld, []⟩).world.rows
        (sampleNow - 24 * 60 * 60 * 1000) none := by
  have hrun : (Pool.run TopupWorld.answer
      ⟨sampleWorld, [paymentA, paymentB].map (paymentDelivery true 1)⟩
      twoPaymentsReplies).isSome = true := by
    decide +kernel
  rw [← Option.get_eq_getD _ (h := hrun)]
  refine credited_payments_stay_counted
    (by decide : ∀ d ∈ [paymentA, paymentB], d.nowMs = sampleNow) (by decide) (by decide)
    (by decide) (Option.some_get hrun).symm _ (by decide) ?_ (Nat.sub_le _ _)
  intro i hi
  simp only [List.mem_cons, List.not_mem_nil, or_false] at hi
  rcases hi with rfl | rfl <;> decide +revert +kernel

end Fygaro
