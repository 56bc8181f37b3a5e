import Mathlib
import Flash.Fygaro.TopupServices

/-!
# Fygaro — the payment webhook

`services/fygaro/webhook-server/routes/payment.ts`.  `paymentHandler` answers one delivery of
Fygaro's payment hook: it records the payment on the account's ERPNext row, stamps the intent
`received`, cross-checks it against the authorisation, runs `evaluateCreditGate` against the
trailing-24h gross of the account's other payments, and then either records the payment only
(with the reason on its row and on the intent) or credits it under the payment's releasing lock.

The model is the handler from the account lookup on, for a delivery whose reference names the
account of the world: the `<username>|<intentId>` reference `authorizeFygaroTopup` mints, or a
bare username.  An unattributed payment's row is no row of the account, and the `|<intentId>`
form, which reads the intent before the lookup, is left out.  A lookup fault writes such an
unattributed row and answers 500, so it leaves the account's world as it was.  Alerts, the ops
feed and the customer's push notifications change nothing the world holds; they are left out,
and with them the push's own claim lock.  `Date.now()` of every stamp is the delivery's `nowMs`.
-/

namespace Fygaro

open Threads

/-- What the account lookup of a delivery found: the account, or a repository fault. -/
inductive AccountLookup where
  | found
  | fault
  deriving DecidableEq, Repr

/-- A delivery of the payment hook: the payment's transaction, its gross in cents and currency,
the intent its reference names, the time it is handled, and what the account lookup found. -/
structure FygaroPaymentDelivery where
  transactionId : TransactionId
  grossCents : Nat
  currency : String
  intentId : Option IntentId
  nowMs : Nat
  lookup : AccountLookup
  deriving DecidableEq, Repr

/-- The handler's answers: a 200 with its status, or a 500 with its error. -/
inductive PaymentResponse where
  | recorded (credited : Bool)
  | alreadyProcessed
  | alreadyProcessing
  | success
  | serverError (error : String)
  deriving DecidableEq, Repr

/-- `thresholdCentsFor`: the number behind a threshold refusal — what is left of the daily cap,
or the single-payment limit, or the minimum. -/
def thresholdCentsFor (reason : RecordOnlyReason) (settings : Option FygaroSettings) (level : Nat)
    (priorDayGrossCents : Option Nat) : Option Nat :=
  match settings with
  | none => none
  | some settings =>
      if reason = .dailyLimitExceeded then
        match settings.dailyTopupLimits.lookup level, priorDayGrossCents with
        | some capCents, some prior => some (capCents - prior)
        | _, _ => none
      else if reason = .overLimit then some settings.autoCreditLimit
      else if reason = .underMinimum then some settings.minimumTopup
      else none

/-! ### The services the handler calls -/

/-- `LockService().lockIdempotencyKey`: `true` when this delivery took the key; an error reads as
the key being taken. -/
def lockIdempotencyKey (transactionId : TransactionId) : TopupProg Bool :=
  .call (.lockIdempotencyKey transactionId) fun
    | .acquired b => .pure b
    | _ => .pure false

/-- What taking the payment's releasing lock answered. -/
inductive PaymentLockResult where
  | acquired
  /-- `ResourceAttemptsLockServiceError`: another delivery holds it. -/
  | busy
  /-- Any other lock error, which the handler rethrows. -/
  | error
  deriving DecidableEq, Repr

def lockPaymentIdempotencyKey (transactionId : TransactionId) : TopupProg PaymentLockResult :=
  .call (.lockPaymentIdempotencyKey transactionId) fun
    | .acquired true => .pure .acquired
    | .acquired false => .pure .busy
    | _ => .pure .error

def unlockPaymentIdempotencyKey (transactionId : TransactionId) : TopupProg Unit :=
  .call (.unlockPaymentIdempotencyKey transactionId) fun _ => .pure ()

/-- `creditFygaroTopup`: `true` when the send succeeded. -/
def creditFygaroTopup (transactionId : TransactionId) (netCents : Nat) : TopupProg Bool :=
  .call (.creditFygaroTopup transactionId netCents) fun
    | .ok => .pure true
    | _ => .pure false

/-- `releaseAuthorizedHold`: the authorisation's hold is dropped, its record kept. -/
def releaseAuthorizedHold (authorizedIntent : Option FygaroCheckoutIntent) : TopupProg Unit :=
  match authorizedIntent with
  | none => .pure ()
  | some intent => releaseIntentReservation intent.intentId intent.amountCents

namespace FygaroPaymentDelivery

variable (d : FygaroPaymentDelivery)

/-- `recordOutcome`: the stamp, naming this transaction, when the reference carries an intent. -/
def recordOutcome (state : FygaroTopupOutcomeState) (reason : Option String)
    (netAmountCents detailCents : Option Nat) : TopupProg Unit :=
  match d.intentId with
  | none => .pure ()
  | some intentId =>
      recordIntentOutcomeStep intentId
        { state, reason, netAmountCents, detailCents, transactionId := some d.transactionId,
          atMs := d.nowMs }

/-- `redeemIntent`: the intent is consumed, when the reference carries one. -/
def redeemIntent : TopupProg Unit :=
  match d.intentId with
  | none => .pure ()
  | some intentId => (consumeIntent intentId).bind fun _ => .pure ()

/-- The gate's arguments for this delivery. -/
def gateInput (creditEnabled : Bool) (level : Nat) (settings : Option FygaroSettings)
    (priorDayGrossCents : Option Nat) (flashFeeDiscountPercent : Nat) : CreditGateInput :=
  { creditEnabled, currency := d.currency, settings, grossCents := d.grossCents, level,
    priorDayGrossCents, flashFeeDiscountPercent }

/-- The history and the discount, read only when a credit could happen: deploy gate on,
auto-credit on, USD.  An unreadable history stays unknown. -/
def readCreditHistory (creditEnabled : Bool) (settings : Option FygaroSettings) :
    TopupProg (Option Nat × Nat) :=
  if creditEnabled ∧ settings.any (·.autoCreditEnabled) ∧ d.currency = "USD" then
    (sumFygaroTopupGrossCentsLast24h d.nowMs (some d.transactionId)).bind fun prior =>
      getFlashFeeDiscountPercent.bind fun flashFeeDiscountPercent =>
        .pure (prior, flashFeeDiscountPercent)
  else .pure (none, 0)

/-- The stamp of an earlier credit of this very transaction on the intent, if there is one. -/
def creditedOutcome (authorizedIntent : Option FygaroCheckoutIntent) :
    Option FygaroTopupOutcome :=
  (authorizedIntent.bind (·.outcome)).filter fun o =>
    o.state = .credited ∧ o.transactionId = some d.transactionId

/-- The record-only path of a refusal: a transient stop answers 500 so Fygaro retries; a payment
already credited is confirmed; otherwise, under the non-releasing dedupe lock, the intent is
redeemed, the row stamped not credited, and the intent held for review. -/
def recordOnlyPath (reason : RecordOnlyReason) (settings : Option FygaroSettings) (level : Nat)
    (priorDayGrossCents : Option Nat) (authorizedIntent : Option FygaroCheckoutIntent) :
    TopupProg PaymentResponse :=
  let detailCents := thresholdCentsFor reason settings level priorDayGrossCents
  if reason = .settingsUnavailable ∨ reason = .historyUnavailable then
    .pure (.serverError "ERPNext read unavailable; will retry")
  else
    (readFygaroTopupCompletion d.transactionId).bind fun priorCompletion =>
      match priorCompletion.completed, d.creditedOutcome authorizedIntent with
      | false, none =>
          (lockIdempotencyKey d.transactionId).bind fun
            | false =>
                (d.recordOutcome .heldForReview (some reason.toString) none detailCents).bind
                  fun _ => .pure .alreadyProcessed
            | true =>
                d.redeemIntent.bind fun _ =>
                  (markFygaroTopupNotCredited d.transactionId d.grossCents d.currency
                      reason.toString d.nowMs).bind fun _ =>
                    (d.recordOutcome .heldForReview (some reason.toString) none detailCents).bind
                      fun _ => .pure (.recorded false)
      | _, credited =>
          (d.recordOutcome .credited none
              (priorCompletion.netAmountCents.or (credited.bind (·.netAmountCents))) none).bind
            fun _ => .pure .alreadyProcessed

/-- The block run under the payment's releasing lock: a completed row is confirmed; otherwise the
net is sent, the row promoted, the intent stamped credited and redeemed.  A failed send releases
the hold and keeps the record, for the retry it invites. -/
def creditBlock (fees : FygaroFees) (authorizedIntent : Option FygaroCheckoutIntent) :
    TopupProg PaymentResponse :=
  (readFygaroTopupCompletion d.transactionId).bind fun priorCompletion =>
    if priorCompletion.completed then
      (d.recordOutcome .credited none
          (some (priorCompletion.netAmountCents.getD fees.netCents.toNat)) none).bind
        fun _ => .pure .alreadyProcessed
    else
      (creditFygaroTopup d.transactionId fees.netCents.toNat).bind fun
        | false =>
            (releaseAuthorizedHold authorizedIntent).bind fun _ =>
              (d.recordOutcome .failed (some "credit-failed") none none).bind fun _ =>
                .pure (.recorded false)
        | true =>
            -- the promotion's failure only alerts: the money moved
            (completeFygaroTopup d.transactionId d.grossCents d.currency fees.netCents.toNat
                d.nowMs).bind fun _ =>
              (d.recordOutcome .credited none (some fees.netCents.toNat) none).bind fun _ =>
                d.redeemIntent.bind fun _ => .pure .success

/-- The credit path: the block under `lockPaymentIdempotencyKey`, released afterwards. -/
def creditPath (fees : FygaroFees) (authorizedIntent : Option FygaroCheckoutIntent) :
    TopupProg PaymentResponse :=
  (lockPaymentIdempotencyKey d.transactionId).bind fun
    | .busy => .pure .alreadyProcessing
    | .error => .pure (.serverError "Internal server error")
    | .acquired =>
        (d.creditBlock fees authorizedIntent).bind fun response =>
          (unlockPaymentIdempotencyKey d.transactionId).bind fun _ => .pure response

/-! ### The handler, continuation by continuation -/

/-- `lookupIntent()`: the authorisation the reference names, read once and not consumed, so that
a retry still finds it. -/
def readAuthorization : TopupProg (Option FygaroCheckoutIntent) :=
  match d.intentId with
  | some intentId => readIntent intentId
  | none => .pure none

/-- The gate of this delivery: a mismatch with what was authorised overrides every other
outcome. -/
def gate (creditEnabled : Bool) (level : Nat) (settings : Option FygaroSettings)
    (priorDayGrossCents : Option Nat) (flashFeeDiscountPercent : Nat)
    (authorizedIntent : Option FygaroCheckoutIntent) : CreditGate :=
  if authorizedIntent.any (·.amountCents ≠ d.grossCents) then .recordOnly .intentMismatch
  else evaluateCreditGate (d.gateInput creditEnabled level settings priorDayGrossCents
    flashFeeDiscountPercent)

/-- After the history and the discount: the record-only path or the credit path, as the gate
decides. -/
def afterCreditHistory (creditEnabled : Bool) (level : Nat)
    (authorizedIntent : Option FygaroCheckoutIntent) (settings : Option FygaroSettings) :
    Option Nat × Nat → TopupProg PaymentResponse
  | (prior, flashFeeDiscountPercent) =>
      match d.gate creditEnabled level settings prior flashFeeDiscountPercent authorizedIntent with
      | .recordOnly reason => d.recordOnlyPath reason settings level prior authorizedIntent
      | .credit fees => d.creditPath fees authorizedIntent

/-- After the settings: the history and the discount, when a credit could happen. -/
def afterPaymentSettings (creditEnabled : Bool) (level : Nat)
    (authorizedIntent : Option FygaroCheckoutIntent) (settings : Option FygaroSettings) :
    TopupProg PaymentResponse :=
  (d.readCreditHistory creditEnabled settings).bind
    (d.afterCreditHistory creditEnabled level authorizedIntent settings)

/-- After the authorisation is read: the settings, under the deploy gate. -/
def afterAuthorization (creditEnabled : Bool) (level : Nat)
    (authorizedIntent : Option FygaroCheckoutIntent) : TopupProg PaymentResponse :=
  (if creditEnabled then getFygaroSettings else .pure none).bind
    (d.afterPaymentSettings creditEnabled level authorizedIntent)

/-- After the `received` stamp: the authorisation. -/
def afterReceived (creditEnabled : Bool) (level : Nat) : TopupProg PaymentResponse :=
  d.readAuthorization.bind (d.afterAuthorization creditEnabled level)

/-- After the audit row: a row that could not be written answers 500, so Fygaro retries. -/
def afterAudit (creditEnabled : Bool) (level : Nat) : Bool → TopupProg PaymentResponse
  | false => .pure (.serverError "Failed to persist audit row")
  | true => (d.recordOutcome .received none none none).bind fun _ => d.afterReceived creditEnabled level

end FygaroPaymentDelivery

open FygaroPaymentDelivery in
/-- `paymentHandler`, for a delivery attributed to the account of level `level`, with the
deploy's `fygaro.credit.enabled`. -/
def paymentHandler (creditEnabled : Bool) (level : Nat) (d : FygaroPaymentDelivery) :
    TopupProg PaymentResponse :=
  match d.lookup with
  | .fault => .pure (.serverError "account lookup unavailable; will retry")
  | .found =>
      (writeFygaroTopupRequest d.transactionId d.grossCents d.currency d.nowMs).bind
        (d.afterAudit creditEnabled level)

/-- A delivery handled to its answer. -/
def paymentDelivery (creditEnabled : Bool) (level : Nat) (d : FygaroPaymentDelivery) :
    TopupProg Unit :=
  (paymentHandler creditEnabled level d).bind fun _ => .pure ()

end Fygaro
