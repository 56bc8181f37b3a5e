import Mathlib
import Flash.Fygaro.AuthorizePhases
import Flash.Fygaro.Webhook

/-!
# Fygaro — the phases of a payment delivery

A delivery of the payment hook waits on the account's stores at five points before its gate
decides: the audit row's upsert, the `received` stamp, the read of the authorisation, the
settings, and the history with the discount.  `PaymentPhase` names each point with what the
delivery read there; once the gate has decided, the phase is what remains of the program, tagged
with whether the gate credited.  `PaymentPhase.follows` proves that the phases describe
`paymentHandler`, so that what holds of the phases of the deliveries of a run holds of the
handler.

* `gate_eq_credit`: a gate that credits read the settings, a history, and a daily limit for the
  level that the payment and the history stay within;
* `recordOnlyPath_recording`: the record-only path never sends a credit;
* `creditPath_crediting`: the credit path never sets a failure reason on its row;
* `paymentHandler_ownPayment`: a delivery touches no row but its own, each upsert with the
  payment's gross, currency and time, and sends no credit but its own;
* `PaymentPhase.decided_of_sendsCredit`: a delivery sends its credit only once its gate has
  decided.
-/

namespace Fygaro

open Threads

/-! ### The operations of a delivery -/

namespace TopupOp

/-- The operations that touch neither a row nor a credit: the intent store, the locks and the
reads. -/
def keepsRowsAndCredits : TopupOp → Bool
  | .upsertBridgeTransferRequest _ _ | .creditFygaroTopup _ _ => false
  | _ => true

/-- The operations that touch no row, no credit and no intent record: the reads, the locks, the
reservation index and the redemption claims. -/
def keepsRecords : TopupOp → Bool
  | .upsertBridgeTransferRequest _ _ | .creditFygaroTopup _ _ | .recordIntentOutcome _ _
  | .setIntent _ => false
  | _ => true

/-- An operation a delivery of `d` may issue: an upsert of its own row, with the payment's gross,
currency and time; its own credit; or one that touches neither. -/
def OwnPaymentOp (d : FygaroPaymentDelivery) : TopupOp → Prop
  | .upsertBridgeTransferRequest wr nowMs =>
      wr.requestId = d.transactionId ∧ wr.amountCents = d.grossCents ∧ wr.currency = d.currency ∧
        nowMs = d.nowMs
  | .creditFygaroTopup t _ => t = d.transactionId
  | _ => True

/-- Whether an operation sets a failure reason on a row. -/
def stampsFailure : TopupOp → Bool
  | .upsertBridgeTransferRequest wr _ => wr.failureReason.isSome
  | _ => false

/-- Whether an operation sends a credit. -/
def sendsCredit : TopupOp → Bool
  | .creditFygaroTopup _ _ => true
  | _ => false

/-- An operation of the credit path of `d`: its own, and never a failure reason. -/
def CreditingOp (d : FygaroPaymentDelivery) (op : TopupOp) : Prop :=
  op.OwnPaymentOp d ∧ op.stampsFailure = false

/-- An operation of the record-only path of `d`: its own, and never a credit. -/
def RecordingOp (d : FygaroPaymentDelivery) (op : TopupOp) : Prop :=
  op.OwnPaymentOp d ∧ op.sendsCredit = false

variable {d : FygaroPaymentDelivery} {op : TopupOp}

theorem keepsRowsAndCredits_of_keepsRecords (h : op.keepsRecords = true) :
    op.keepsRowsAndCredits = true := by
  cases op <;> first | rfl | cases h

theorem ownPaymentOp_of_keeps (h : op.keepsRowsAndCredits = true) : op.OwnPaymentOp d := by
  cases op <;> trivial

theorem creditingOp_of_keeps (h : op.keepsRowsAndCredits = true) : op.CreditingOp d := by
  refine ⟨ownPaymentOp_of_keeps h, ?_⟩
  cases op <;> first | rfl | cases h

theorem recordingOp_of_keeps (h : op.keepsRowsAndCredits = true) : op.RecordingOp d := by
  refine ⟨ownPaymentOp_of_keeps h, ?_⟩
  cases op <;> first | rfl | cases h

end TopupOp

/-! ### The services that touch neither a row nor a credit -/

section Bookkeeping

variable {P : TopupOp → Prop}

theorem readIntent_always (hP : ∀ op, op.keepsRecords = true → P op) (intentId : IntentId) :
    Always P (readIntent intentId) := by
  unfold readIntent
  exact .call (hP _ rfl) fun r => by cases r <;> exact .pure _

theorem releaseIntentReservation_always (hP : ∀ op, op.keepsRecords = true → P op)
    (intentId : IntentId) (amountCents : Nat) :
    Always P (releaseIntentReservation intentId amountCents) := by
  unfold releaseIntentReservation
  exact .call (hP _ rfl) fun _ => .pure _

theorem consumeIntent_always (hP : ∀ op, op.keepsRecords = true → P op)
    (intentId : IntentId) : Always P (consumeIntent intentId) := by
  -- the claim's `DEL`, whether or not there was a hold to release
  have hclaim : ∀ k : TopupReply → TopupProg Bool, (∀ r, ∃ b, k r = .pure b) →
      Always P (.call (.consumeClaim intentId) k) := fun k hk =>
    .call (hP _ rfl) fun r => by
      obtain ⟨b, hb⟩ := hk r
      rw [hb]
      exact .pure _
  unfold consumeIntent
  simp only [Prog.bind_eq]
  refine (readIntent_always hP intentId).bind fun lookup => ?_
  cases lookup with
  | none => exact hclaim _ fun r => by cases r <;> exact ⟨_, rfl⟩
  | some intent =>
      exact (releaseIntentReservation_always hP _ _).bind fun _ =>
        hclaim _ fun r => by cases r <;> exact ⟨_, rfl⟩

theorem releaseAuthorizedHold_always (hP : ∀ op, op.keepsRecords = true → P op)
    (authorizedIntent : Option FygaroCheckoutIntent) :
    Always P (releaseAuthorizedHold authorizedIntent) := by
  cases authorizedIntent with
  | none => exact .pure _
  | some intent => exact releaseIntentReservation_always hP _ _

theorem readFygaroTopupCompletion_always (hP : ∀ op, op.keepsRecords = true → P op)
    (transactionId : TransactionId) : Always P (readFygaroTopupCompletion transactionId) := by
  unfold readFygaroTopupCompletion
  refine .call (hP _ rfl) fun (r : TopupReply) => ?_
  split
  · split_ifs <;> exact .pure _
  · exact .pure _

theorem lockIdempotencyKey_always (hP : ∀ op, op.keepsRecords = true → P op)
    (transactionId : TransactionId) : Always P (lockIdempotencyKey transactionId) := by
  unfold lockIdempotencyKey
  exact .call (hP _ rfl) fun r => by cases r <;> exact .pure _

theorem lockPaymentIdempotencyKey_always (hP : ∀ op, op.keepsRecords = true → P op)
    (transactionId : TransactionId) : Always P (lockPaymentIdempotencyKey transactionId) := by
  unfold lockPaymentIdempotencyKey
  exact .call (hP _ rfl) fun r => by split <;> exact .pure _

theorem unlockPaymentIdempotencyKey_always (hP : ∀ op, op.keepsRecords = true → P op)
    (transactionId : TransactionId) : Always P (unlockPaymentIdempotencyKey transactionId) := by
  unfold unlockPaymentIdempotencyKey
  exact .call (hP _ rfl) fun _ => .pure _

theorem getFlashFeeDiscountPercent_always (hP : ∀ op, op.keepsRecords = true → P op) :
    Always P getFlashFeeDiscountPercent := by
  unfold getFlashFeeDiscountPercent
  exact .call (hP _ rfl) fun r => by cases r <;> exact .pure _

theorem recordOutcome_always (hstamp : ∀ intentId outcome, P (.recordIntentOutcome intentId outcome))
    (d : FygaroPaymentDelivery) (state : FygaroTopupOutcomeState) (reason : Option String)
    (netAmountCents detailCents : Option Nat) :
    Always P (d.recordOutcome state reason netAmountCents detailCents) := by
  unfold FygaroPaymentDelivery.recordOutcome
  split
  · exact .pure _
  · exact .call (hstamp _ _) fun _ => .pure _

theorem redeemIntent_always (hP : ∀ op, op.keepsRecords = true → P op)
    (d : FygaroPaymentDelivery) : Always P d.redeemIntent := by
  unfold FygaroPaymentDelivery.redeemIntent
  split
  · exact .pure _
  · exact (consumeIntent_always hP _).bind fun _ => .pure _

end Bookkeeping

/-! ### The two paths -/

namespace FygaroPaymentDelivery

variable (d : FygaroPaymentDelivery) (creditEnabled : Bool) (level : Nat)

/-- An upsert of the row of `d` reads back as a `Bool`, whatever it replies. -/
theorem upsert_always {P : TopupOp → Prop} {wr : TopupRowWrite} {nowMs : Nat}
    (h : P (.upsertBridgeTransferRequest wr nowMs)) {β : Type} {f : Bool → TopupProg β}
    (hf : ∀ b, Always P (f b)) : Always P ((upsertBridgeTransferRequest wr nowMs).bind f) :=
  .call h fun r => by cases r <;> exact hf _

/-- **The record-only path never sends a credit.** -/
theorem recordOnlyPath_recording (reason : RecordOnlyReason) (settings : Option FygaroSettings)
    (prior : Option Nat) (authorizedIntent : Option FygaroCheckoutIntent) :
    Always (TopupOp.RecordingOp d) (d.recordOnlyPath reason settings level prior authorizedIntent) := by
  have hP : ∀ op : TopupOp, op.keepsRecords = true → op.RecordingOp d :=
    fun _ h => TopupOp.recordingOp_of_keeps (TopupOp.keepsRowsAndCredits_of_keepsRecords h)
  have hstamp : ∀ i o, (TopupOp.recordIntentOutcome i o).RecordingOp d :=
    fun _ _ => TopupOp.recordingOp_of_keeps rfl
  unfold recordOnlyPath
  dsimp only
  split_ifs
  · exact .pure _
  refine (readFygaroTopupCompletion_always hP _).bind fun priorCompletion => ?_
  split
  · refine (lockIdempotencyKey_always hP _).bind fun b => ?_
    cases b
    · exact (recordOutcome_always hstamp d _ _ _ _).bind fun _ => .pure _
    · -- the stamp of the refusal: an upsert of its own row that sends nothing
      refine (redeemIntent_always hP d).bind fun _ => upsert_always ⟨⟨rfl, rfl, rfl, rfl⟩, rfl⟩
        fun _ => ?_
      exact (recordOutcome_always hstamp d _ _ _ _).bind fun _ => .pure _
  · exact (recordOutcome_always hstamp d _ _ _ _).bind fun _ => .pure _

/-- **The credit path never sets a failure reason on its row**: the promotion to `Completed` is
the only upsert it makes. -/
theorem creditPath_crediting (fees : FygaroFees) (authorizedIntent : Option FygaroCheckoutIntent) :
    Always (TopupOp.CreditingOp d) (d.creditPath fees authorizedIntent) := by
  have hP : ∀ op : TopupOp, op.keepsRecords = true → op.CreditingOp d :=
    fun _ h => TopupOp.creditingOp_of_keeps (TopupOp.keepsRowsAndCredits_of_keepsRecords h)
  have hstamp : ∀ i o, (TopupOp.recordIntentOutcome i o).CreditingOp d :=
    fun _ _ => TopupOp.creditingOp_of_keeps rfl
  unfold creditPath creditBlock
  refine (lockPaymentIdempotencyKey_always hP _).bind fun lock => ?_
  cases lock
  · refine Always.bind ((readFygaroTopupCompletion_always hP _).bind fun priorCompletion => ?_)
      fun _ => (unlockPaymentIdempotencyKey_always hP _).bind fun _ => .pure _
    split_ifs
    · exact (recordOutcome_always hstamp d _ _ _ _).bind fun _ => .pure _
    refine Always.bind (.call ⟨rfl, rfl⟩ fun r => ?_) fun sent => ?_
    · cases r <;> exact .pure _
    cases sent
    · exact (releaseAuthorizedHold_always hP _).bind fun _ =>
        (recordOutcome_always hstamp d _ _ _ _).bind fun _ => .pure _
    · refine upsert_always ⟨⟨rfl, rfl, rfl, rfl⟩, rfl⟩ fun _ => ?_
      exact (recordOutcome_always hstamp d _ _ _ _).bind fun _ =>
        (redeemIntent_always hP d).bind fun _ => .pure _
  · exact .pure _
  · exact .pure _

/-! ### The gate of a delivery -/

/-- `gate.credit`: whether the gate credits. -/
def gateCredits (settings : Option FygaroSettings) (priorDayGrossCents : Option Nat)
    (flashFeeDiscountPercent : Nat) (authorizedIntent : Option FygaroCheckoutIntent) : Bool :=
  match d.gate creditEnabled level settings priorDayGrossCents flashFeeDiscountPercent
      authorizedIntent with
  | .credit _ => true
  | .recordOnly _ => false

/-- A gate that credits read the settings and a history, and the payment with the history is
within the daily limit of the level. -/
theorem gate_eq_credit {settings : Option FygaroSettings} {prior : Option Nat}
    {flashFeeDiscountPercent : Nat} {authorizedIntent : Option FygaroCheckoutIntent}
    {fees : FygaroFees}
    (h : d.gate creditEnabled level settings prior flashFeeDiscountPercent authorizedIntent =
      .credit fees) :
    ∃ S H L, settings = some S ∧ prior = some H ∧ S.dailyTopupLimits.lookup level = some L ∧
      d.grossCents + H ≤ L := by
  unfold gate at h
  split_ifs at h
  obtain ⟨S, L, H, hb, hp, ha⟩ := evaluateCreditGate_eq_credit_iff.mp h
  obtain ⟨hS, hL⟩ := CreditGateInput.beforeHistory_eq_ok hb
  obtain ⟨hle, -⟩ := afterHistory_eq_credit_iff.mp ha
  exact ⟨S, H, L, hS, hp, hL, hle⟩

/-- Without a history the gate refuses. -/
theorem gateCredits_none (settings : Option FygaroSettings) (flashFeeDiscountPercent : Nat)
    (authorizedIntent : Option FygaroCheckoutIntent) :
    d.gateCredits creditEnabled level settings none flashFeeDiscountPercent authorizedIntent =
      false := by
  unfold gateCredits
  split
  · next fees h =>
      obtain ⟨_, _, _, -, hp, -⟩ := d.gate_eq_credit creditEnabled level h
      cases hp
  · rfl

/-- A gate that credits read the settings and a history, and the payment with the history is
within the daily limit of the level. -/
theorem gateCredits_limit {settings : Option FygaroSettings} {prior : Option Nat}
    {flashFeeDiscountPercent : Nat} {authorizedIntent : Option FygaroCheckoutIntent}
    (h : d.gateCredits creditEnabled level settings prior flashFeeDiscountPercent authorizedIntent =
      true) :
    ∃ S H L, settings = some S ∧ prior = some H ∧ S.dailyTopupLimits.lookup level = some L ∧
      d.grossCents + H ≤ L := by
  unfold gateCredits at h
  split at h
  · next fees hgate => exact d.gate_eq_credit creditEnabled level hgate
  · cases h

/-- The paths the gate chooses between. -/
theorem afterCreditHistory_cases (authorizedIntent : Option FygaroCheckoutIntent)
    (settings : Option FygaroSettings) (prior : Option Nat) (flashFeeDiscountPercent : Nat) :
    (d.gateCredits creditEnabled level settings prior flashFeeDiscountPercent authorizedIntent =
        true ∧ ∃ fees, d.afterCreditHistory creditEnabled level authorizedIntent settings
          (prior, flashFeeDiscountPercent) = d.creditPath fees authorizedIntent) ∨
      (d.gateCredits creditEnabled level settings prior flashFeeDiscountPercent authorizedIntent =
        false ∧ ∃ reason, d.afterCreditHistory creditEnabled level authorizedIntent settings
          (prior, flashFeeDiscountPercent) =
            d.recordOnlyPath reason settings level prior authorizedIntent) := by
  unfold gateCredits afterCreditHistory
  dsimp only
  cases d.gate creditEnabled level settings prior flashFeeDiscountPercent authorizedIntent with
  | credit fees => exact .inl ⟨rfl, fees, rfl⟩
  | recordOnly reason => exact .inr ⟨rfl, reason, rfl⟩

/-- A gate that credits chose the credit path. -/
theorem afterCreditHistory_crediting {authorizedIntent : Option FygaroCheckoutIntent}
    {settings : Option FygaroSettings} {prior : Option Nat} {flashFeeDiscountPercent : Nat}
    (h : d.gateCredits creditEnabled level settings prior flashFeeDiscountPercent authorizedIntent =
      true) :
    Always (TopupOp.CreditingOp d)
      (d.afterCreditHistory creditEnabled level authorizedIntent settings
        (prior, flashFeeDiscountPercent)) := by
  rcases d.afterCreditHistory_cases creditEnabled level authorizedIntent settings prior
      flashFeeDiscountPercent with ⟨-, fees, heq⟩ | ⟨hc, -, -⟩
  · rw [heq]
    exact d.creditPath_crediting fees authorizedIntent
  · rw [h] at hc
    cases hc

/-- A gate that refuses chose the record-only path. -/
theorem afterCreditHistory_recording {authorizedIntent : Option FygaroCheckoutIntent}
    {settings : Option FygaroSettings} {prior : Option Nat} {flashFeeDiscountPercent : Nat}
    (h : d.gateCredits creditEnabled level settings prior flashFeeDiscountPercent authorizedIntent =
      false) :
    Always (TopupOp.RecordingOp d)
      (d.afterCreditHistory creditEnabled level authorizedIntent settings
        (prior, flashFeeDiscountPercent)) := by
  rcases d.afterCreditHistory_cases creditEnabled level authorizedIntent settings prior
      flashFeeDiscountPercent with ⟨hc, -, -⟩ | ⟨-, reason, heq⟩
  · rw [h] at hc
    cases hc
  · rw [heq]
    exact d.recordOnlyPath_recording level reason settings prior authorizedIntent

/-! ### A delivery touches only its own row and credit -/

theorem afterCreditHistory_ownPayment (authorizedIntent : Option FygaroCheckoutIntent)
    (settings : Option FygaroSettings) (history : Option Nat × Nat) :
    Always (TopupOp.OwnPaymentOp d)
      (d.afterCreditHistory creditEnabled level authorizedIntent settings history) := by
  obtain ⟨prior, discount⟩ := history
  cases h : d.gateCredits creditEnabled level settings prior discount authorizedIntent with
  | true => exact (d.afterCreditHistory_crediting creditEnabled level h).mono fun _ hop => hop.1
  | false => exact (d.afterCreditHistory_recording creditEnabled level h).mono fun _ hop => hop.1

theorem afterPaymentSettings_ownPayment (authorizedIntent : Option FygaroCheckoutIntent)
    (settings : Option FygaroSettings) :
    Always (TopupOp.OwnPaymentOp d)
      (d.afterPaymentSettings creditEnabled level authorizedIntent settings) := by
  refine Always.bind ?_ (d.afterCreditHistory_ownPayment creditEnabled level authorizedIntent
    settings)
  unfold readCreditHistory
  split_ifs
  · rw [sumFygaroTopupGrossCentsLast24h_eq, getFlashFeeDiscountPercent_eq]
    exact .call trivial fun _ => .call trivial fun _ => .pure _
  · exact .pure _

theorem afterAuthorization_ownPayment (authorizedIntent : Option FygaroCheckoutIntent) :
    Always (TopupOp.OwnPaymentOp d) (d.afterAuthorization creditEnabled level authorizedIntent) := by
  refine Always.bind ?_ (d.afterPaymentSettings_ownPayment creditEnabled level authorizedIntent)
  split
  · exact .call trivial fun r => by cases r <;> exact .pure _
  · exact .pure _

theorem afterReceived_ownPayment :
    Always (TopupOp.OwnPaymentOp d) (d.afterReceived creditEnabled level) := by
  refine Always.bind ?_ (d.afterAuthorization_ownPayment creditEnabled level)
  unfold readAuthorization
  split
  · exact readIntent_always
      (fun _ h => TopupOp.ownPaymentOp_of_keeps (TopupOp.keepsRowsAndCredits_of_keepsRecords h)) _
  · exact .pure _

theorem afterAudit_ownPayment (written : Bool) :
    Always (TopupOp.OwnPaymentOp d) (d.afterAudit creditEnabled level written) := by
  cases written with
  | false => exact .pure _
  | true =>
      exact (recordOutcome_always (fun _ _ => trivial) d _ _ _ _).bind
        fun _ => d.afterReceived_ownPayment creditEnabled level

/-! ### Before the gate decides, no credit -/

/-- After the settings a delivery waits on the history, or on the record-only path the gate chose
without one. -/
theorem afterPaymentSettings_first {authorizedIntent : Option FygaroCheckoutIntent}
    {settings : Option FygaroSettings} {op : TopupOp} {k : TopupReply → TopupProg PaymentResponse}
    (h : d.afterPaymentSettings creditEnabled level authorizedIntent settings = .call op k) :
    op.sendsCredit = false := by
  unfold afterPaymentSettings readCreditHistory at h
  split_ifs at h
  · rw [sumFygaroTopupGrossCentsLast24h_eq, Prog.call_bind, Prog.call_bind] at h
    obtain ⟨rfl, -⟩ := Prog.call.inj h
    rfl
  · rw [Prog.pure_bind] at h
    have hrec := d.afterCreditHistory_recording creditEnabled level
      (d.gateCredits_none creditEnabled level settings 0 authorizedIntent)
    rw [h] at hrec
    exact hrec.head.2

theorem afterAuthorization_first {authorizedIntent : Option FygaroCheckoutIntent} {op : TopupOp}
    {k : TopupReply → TopupProg PaymentResponse}
    (h : d.afterAuthorization creditEnabled level authorizedIntent = .call op k) :
    op.sendsCredit = false := by
  cases creditEnabled with
  | true =>
      rw [afterAuthorization, if_pos rfl, getFygaroSettings_eq, Prog.call_bind] at h
      obtain ⟨rfl, -⟩ := Prog.call.inj h
      rfl
  | false => exact d.afterPaymentSettings_first false level h

theorem afterReceived_first {op : TopupOp} {k : TopupReply → TopupProg PaymentResponse}
    (h : d.afterReceived creditEnabled level = .call op k) : op.sendsCredit = false := by
  rw [afterReceived, readAuthorization] at h
  split at h
  · rw [readIntent_eq, Prog.call_bind] at h
    obtain ⟨rfl, -⟩ := Prog.call.inj h
    rfl
  · exact d.afterAuthorization_first creditEnabled level h

theorem afterAudit_first {op : TopupOp} {k : TopupReply → TopupProg PaymentResponse}
    (h : d.afterAudit creditEnabled level true = .call op k) : op.sendsCredit = false := by
  rw [afterAudit, recordOutcome] at h
  split at h
  · exact d.afterReceived_first creditEnabled level h
  · rw [recordIntentOutcomeStep, Prog.call_bind] at h
    obtain ⟨rfl, -⟩ := Prog.call.inj h
    rfl

end FygaroPaymentDelivery

open FygaroPaymentDelivery in
theorem paymentHandler_ownPayment (creditEnabled : Bool) (level : Nat)
    (d : FygaroPaymentDelivery) :
    Always (TopupOp.OwnPaymentOp d) (paymentHandler creditEnabled level d) := by
  unfold paymentHandler
  split
  · exact .pure _
  · exact FygaroPaymentDelivery.upsert_always ⟨rfl, rfl, rfl, rfl⟩
      (d.afterAudit_ownPayment creditEnabled level)

/-! ### The phases -/

/-- The points a delivery waits at until its gate decides, with what it read there; and, once the
gate has decided, what remains of its program, with whether the gate credited. -/
inductive PaymentPhase where
  /-- Before the audit row. -/
  | start
  /-- The audit row written; the `received` stamp next. -/
  | audited
  /-- The authorisation's read next. -/
  | received
  /-- The settings next. -/
  | intentRead (authorizedIntent : Option FygaroCheckoutIntent)
  /-- The history next, when a credit could happen. -/
  | settingsRead (authorizedIntent : Option FygaroCheckoutIntent) (settings : Option FygaroSettings)
  /-- The discount next, and then the gate. -/
  | historyRead (authorizedIntent : Option FygaroCheckoutIntent) (settings : Option FygaroSettings)
      (priorDayGrossCents : Option Nat)
  /-- The gate has decided; `rest` remains. -/
  | decided (crediting : Bool) (rest : TopupProg PaymentResponse)

namespace PaymentPhase

variable (creditEnabled : Bool) (level : Nat) (d : FygaroPaymentDelivery)

/-- What remains of the handler at a phase. -/
def result : PaymentPhase → TopupProg PaymentResponse
  | start => paymentHandler creditEnabled level d
  | audited => d.afterAudit creditEnabled level true
  | received => d.afterReceived creditEnabled level
  | intentRead authorizedIntent => d.afterAuthorization creditEnabled level authorizedIntent
  | settingsRead authorizedIntent settings =>
      d.afterPaymentSettings creditEnabled level authorizedIntent settings
  | historyRead authorizedIntent settings prior =>
      (getFlashFeeDiscountPercent.bind fun flashFeeDiscountPercent =>
          .pure (prior, flashFeeDiscountPercent)).bind
        (d.afterCreditHistory creditEnabled level authorizedIntent settings)
  | decided _ rest => rest

/-- The phase of a decided delivery after a reply: what remains of its program. -/
def continueWith (crediting : Bool) : TopupProg PaymentResponse → TopupReply → PaymentPhase
  | .call _ k, r => decided crediting (k r)
  | rest, _ => decided crediting rest

/-- After the settings: the history when a credit could happen; otherwise the gate refuses at
once, and the record-only path goes on. -/
def nextSettingsRead (authorizedIntent : Option FygaroCheckoutIntent)
    (settings : Option FygaroSettings) (r : TopupReply) : PaymentPhase :=
  if creditEnabled ∧ settings.any (·.autoCreditEnabled) ∧ d.currency = "USD" then
    historyRead authorizedIntent settings r.grossOf
  else
    continueWith false (d.afterCreditHistory creditEnabled level authorizedIntent settings (none, 0))
      r

/-- After the authorisation: the settings, under the deploy gate. -/
def nextIntentRead (authorizedIntent : Option FygaroCheckoutIntent) (r : TopupReply) :
    PaymentPhase :=
  if creditEnabled then settingsRead authorizedIntent r.settingsOf
  else nextSettingsRead creditEnabled level d authorizedIntent none r

/-- The phase a delivery moves to on a reply.  A delivery without an intent stamps and reads
nothing: its `received` and its authorisation pass without a reply. -/
def next : PaymentPhase → TopupReply → PaymentPhase
  | start, r =>
      match d.lookup, r with
      | .found, .ok => audited
      | .found, _ => decided false (.pure (.serverError "Failed to persist audit row"))
      | .fault, _ => start
  | audited, r =>
      match d.intentId with
      | some _ => received
      | none => nextIntentRead creditEnabled level d none r
  | received, r =>
      match d.intentId with
      | some _ => intentRead r.intentOf
      | none => nextIntentRead creditEnabled level d none r
  | intentRead authorizedIntent, r => nextIntentRead creditEnabled level d authorizedIntent r
  | settingsRead authorizedIntent settings, r =>
      nextSettingsRead creditEnabled level d authorizedIntent settings r
  | historyRead authorizedIntent settings prior, r =>
      decided (d.gateCredits creditEnabled level settings prior r.discountOf authorizedIntent)
        (d.afterCreditHistory creditEnabled level authorizedIntent settings (prior, r.discountOf))
  | decided crediting rest, r => continueWith crediting rest r

theorem follows_settingsRead (authorizedIntent : Option FygaroCheckoutIntent)
    (settings : Option FygaroSettings) {op : TopupOp} {k : TopupReply → TopupProg PaymentResponse}
    (h : result creditEnabled level d (settingsRead authorizedIntent settings) = .call op k)
    (r : TopupReply) :
    k r = result creditEnabled level d (nextSettingsRead creditEnabled level d authorizedIntent
      settings r) := by
  rw [result, FygaroPaymentDelivery.afterPaymentSettings,
    FygaroPaymentDelivery.readCreditHistory] at h
  unfold nextSettingsRead
  split_ifs at h ⊢
  · rw [sumFygaroTopupGrossCentsLast24h_eq, Prog.call_bind, Prog.call_bind] at h
    obtain ⟨rfl, rfl⟩ := Prog.call.inj h
    rfl
  · rw [Prog.pure_bind] at h
    rw [h]
    rfl

theorem follows_intentRead (authorizedIntent : Option FygaroCheckoutIntent) {op : TopupOp}
    {k : TopupReply → TopupProg PaymentResponse}
    (h : result creditEnabled level d (intentRead authorizedIntent) = .call op k) (r : TopupReply) :
    k r = result creditEnabled level d (nextIntentRead creditEnabled level d authorizedIntent r) := by
  rw [result, FygaroPaymentDelivery.afterAuthorization] at h
  unfold nextIntentRead
  cases creditEnabled with
  | true =>
      rw [if_pos rfl, getFygaroSettings_eq, Prog.call_bind] at h
      obtain ⟨rfl, rfl⟩ := Prog.call.inj h
      rfl
  | false =>
      exact follows_settingsRead false level d authorizedIntent none h r

/-- **The phases describe the handler.** -/
theorem follows : Follows (result creditEnabled level d) (next creditEnabled level d) := by
  intro ph op k h r
  cases ph with
  | start =>
      rw [result, paymentHandler] at h
      split at h
      · cases h
      · next hfound =>
          rw [writeFygaroTopupRequest, upsertBridgeTransferRequest, Prog.call_bind] at h
          obtain ⟨rfl, rfl⟩ := Prog.call.inj h
          cases r <;> simp only [next, hfound] <;> rfl
  | audited =>
      rw [result, FygaroPaymentDelivery.afterAudit, FygaroPaymentDelivery.recordOutcome] at h
      cases hid : d.intentId with
      | none =>
          -- no intent: nothing is stamped, and the authorisation reads as none
          simp only [hid, Prog.pure_bind, FygaroPaymentDelivery.afterReceived,
            FygaroPaymentDelivery.readAuthorization] at h
          simp only [next, hid]
          exact follows_intentRead creditEnabled level d none h r
      | some intentId =>
          simp only [hid, recordIntentOutcomeStep, Prog.call_bind] at h
          obtain ⟨rfl, rfl⟩ := Prog.call.inj h
          simp only [next, hid]
          rfl
  | received =>
      rw [result, FygaroPaymentDelivery.afterReceived, FygaroPaymentDelivery.readAuthorization] at h
      cases hid : d.intentId with
      | some intentId =>
          simp only [hid, readIntent_eq, Prog.call_bind] at h
          obtain ⟨rfl, rfl⟩ := Prog.call.inj h
          simp only [next, hid]
          rfl
      | none =>
          simp only [hid, Prog.pure_bind] at h
          simp only [next, hid]
          exact follows_intentRead creditEnabled level d none h r
  | intentRead authorizedIntent => exact follows_intentRead creditEnabled level d authorizedIntent h r
  | settingsRead authorizedIntent settings =>
      exact follows_settingsRead creditEnabled level d authorizedIntent settings h r
  | historyRead authorizedIntent settings prior =>
      rw [result, getFlashFeeDiscountPercent_eq, Prog.call_bind] at h
      obtain ⟨rfl, rfl⟩ := Prog.call.inj h
      rfl
  | decided crediting rest =>
      rw [result] at h
      subst h
      rfl

/-- A delivery sends a credit only once its gate has decided. -/
theorem decided_of_sendsCredit {ph : PaymentPhase} {op : TopupOp}
    {k : TopupReply → TopupProg PaymentResponse} (h : result creditEnabled level d ph = .call op k)
    (hs : op.sendsCredit = true) : ∃ crediting rest, ph = decided crediting rest := by
  have hno : op.sendsCredit = false → ∃ crediting rest, ph = decided crediting rest := fun hf =>
    absurd (hf.symm.trans hs) Bool.false_ne_true
  cases ph with
  | start =>
      rw [result, paymentHandler] at h
      split at h
      · cases h
      · rw [writeFygaroTopupRequest, upsertBridgeTransferRequest, Prog.call_bind] at h
        obtain ⟨rfl, -⟩ := Prog.call.inj h
        exact hno rfl
  | audited => exact hno (d.afterAudit_first creditEnabled level h)
  | received => exact hno (d.afterReceived_first creditEnabled level h)
  | intentRead authorizedIntent => exact hno (d.afterAuthorization_first creditEnabled level h)
  | settingsRead authorizedIntent settings =>
      exact hno (d.afterPaymentSettings_first creditEnabled level h)
  | historyRead authorizedIntent settings prior =>
      rw [result, getFlashFeeDiscountPercent_eq, Prog.call_bind] at h
      obtain ⟨rfl, -⟩ := Prog.call.inj h
      exact hno rfl
  | decided crediting rest => exact ⟨crediting, rest, rfl⟩

/-- What remains of a delivery's thread at a phase: the handler, its answer dropped. -/
def deliveryResult (ph : PaymentPhase) : TopupProg Unit :=
  (result creditEnabled level d ph).bind fun _ => .pure ()

theorem deliveryResult_start :
    deliveryResult creditEnabled level d start = paymentDelivery creditEnabled level d :=
  rfl

theorem delivery_follows :
    Follows (deliveryResult creditEnabled level d) (next creditEnabled level d) :=
  (follows creditEnabled level d).bind_pure fun _ => ()

end PaymentPhase

end Fygaro
