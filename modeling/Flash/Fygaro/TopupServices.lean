import Flash.Fygaro.TopupWorld
import Flash.Support.Prog

/-!
# Fygaro — the services a card top-up calls

The calls of `services/fygaro/checkout-intent-store.ts` (`saveIntent`,
`readOutstandingReservations`, `releaseIntentReservation`, `readIntent`, `consumeIntent`,
`recordIntentOutcome`) and of `services/frappe/BridgeTransferRequestWriter.ts`
(`sumFygaroTopupGrossCentsLast24h`, `writeFygaroTopupRequest`, `markFygaroTopupNotCredited`,
`completeFygaroTopup`, `readFygaroTopupCompletion`), with `getFygaroSettings` and
`getFlashFeeDiscountPercent`, as programs against `TopupWorld`.

Each keeps the failure posture of its source: the reservation index is read fail-closed
(`readOutstandingReservations` returns no list at all), an intent record fail-open (a fault reads
as a miss), the settings and the discount fail to `undefined` and to 0, and the writes whose
failure the callers only log return nothing.  `saveIntent` writes the hold before the record, so
any error but `reservationWrite` comes after the hold was written.
-/

namespace Fygaro

open Threads

/-- A program of the top-up code. -/
abbrev TopupProg := Prog TopupOp TopupReply

/-! ### Settings, discount and history -/

/-- `getFygaroSettings()`: `undefined` when the row cannot be read. -/
def getFygaroSettings : TopupProg (Option FygaroSettings) :=
  .call .getFygaroSettings fun
    | .settings v => .pure v
    | _ => .pure none

/-- `getFlashFeeDiscountPercent`: 0 on any failure. -/
def getFlashFeeDiscountPercent : TopupProg Nat :=
  .call .getFlashFeeDiscountPercent fun
    | .discount v => .pure v
    | _ => .pure 0

/-- `sumFygaroTopupGrossCentsLast24h`, at `nowMs`: the gross of the trailing 24 hours, or no
number when ERPNext cannot be read. -/
def sumFygaroTopupGrossCentsLast24h (nowMs : Nat) (excludeTransactionId : Option TransactionId) :
    TopupProg (Option Nat) :=
  .call (.sumFygaroTopupGrossCentsSince (nowMs - 24 * 60 * 60 * 1000) excludeTransactionId) fun
    | .grossCents v => .pure (some v)
    | _ => .pure none

/-! ### The intent store -/

/-- Why `saveIntent` failed: the hold (`FygaroReservationWriteError`), or the record after it. -/
inductive SaveIntentError where
  | reservationWrite
  | record
  deriving DecidableEq, Repr

/-- `saveIntent`: the hold, scored by the JWT's expiry; the index key's lifetime, whose failure
is only logged; the record; and the redemption claim, best-effort. -/
def saveIntent (intent : FygaroCheckoutIntent) (ttlSeconds : Nat) :
    TopupProg (Except SaveIntentError Unit) :=
  .call (.zadd ⟨intent.intentId, intent.amountCents, intent.createdAtMs + ttlSeconds * 1000⟩) fun
    | .ok =>
        .call .expire fun _ =>
          .call (.setIntent intent) fun
            | .ok => .call (.setClaim intent.intentId) fun _ => .pure (.ok ())
            | _ => .pure (.error .record)
    | _ => .pure (.error .reservationWrite)

/-- `readOutstandingReservations`, at `nowMs`: the expired members are pruned, then the index is
read with its scores; a member whose amount does not parse to a positive number is dropped.  No
list at all when either command fails. -/
def readOutstandingReservations (nowMs : Nat) : TopupProg (Option (List FygaroReservation)) :=
  .call (.zremrangebyscore nowMs) fun
    | .ok =>
        .call .zrange fun
          | .reservations flat => .pure (some (flat.filter (0 < ·.amountCents)))
          | _ => .pure none
    | _ => .pure none

/-- `releaseIntentReservation`: the `ZREM` of the hold, its failure only logged. -/
def releaseIntentReservation (intentId : IntentId) (amountCents : Nat) : TopupProg Unit :=
  .call (.zrem (amountCents, intentId)) fun _ => .pure ()

/-- `readIntent`: the record, or none — a cache fault reads as a miss. -/
def readIntent (intentId : IntentId) : TopupProg (Option FygaroCheckoutIntent) :=
  .call (.getIntent intentId) fun
    | .intent v => .pure v
    | _ => .pure none

/-- `consumeIntent`: the hold is released whoever wins, then the `DEL` of the claim decides
whether this caller redeemed the authorisation. -/
def consumeIntent (intentId : IntentId) : TopupProg Bool := do
  let lookup ← readIntent intentId
  if let some intent := lookup then
    releaseIntentReservation intent.intentId intent.amountCents
  .call (.consumeClaim intentId) fun
    | .acquired consumed => .pure consumed
    | _ => .pure false

/-- `recordIntentOutcome` as one step of the store, its failure swallowed: the calls of it that
take effect act as single stamps in some order (`Fygaro.OutcomeRecord`). -/
def recordIntentOutcomeStep (intentId : IntentId) (outcome : FygaroTopupOutcome) :
    TopupProg Unit :=
  .call (.recordIntentOutcome intentId outcome) fun _ => .pure ()

/-! ### The ERPNext rows -/

/-- An upsert, `true` when it reports success. -/
def upsertBridgeTransferRequest (write : TopupRowWrite) (nowMs : Nat) : TopupProg Bool :=
  .call (.upsertBridgeTransferRequest write nowMs) fun
    | .ok => .pure true
    | _ => .pure false

/-- `writeFygaroTopupRequest`: the audit row of a payment, `Fiat Received`. -/
def writeFygaroTopupRequest (transactionId : TransactionId) (amountCents : Nat) (currency : String)
    (nowMs : Nat) : TopupProg Bool :=
  upsertBridgeTransferRequest ⟨transactionId, amountCents, currency, .fiatReceived, none, none⟩
    nowMs

/-- `markFygaroTopupNotCredited`: the reason a payment was not credited, on its row, whose status
stays `Fiat Received`. -/
def markFygaroTopupNotCredited (transactionId : TransactionId) (amountCents : Nat)
    (currency : String) (reason : String) (nowMs : Nat) : TopupProg Bool :=
  upsertBridgeTransferRequest
    ⟨transactionId, amountCents, currency, .fiatReceived, some reason, none⟩ nowMs

/-- `completeFygaroTopup`: the row promoted to `Completed`, with the net credited. -/
def completeFygaroTopup (transactionId : TransactionId) (amountCents : Nat) (currency : String)
    (netCents : Nat) (nowMs : Nat) : TopupProg Bool :=
  upsertBridgeTransferRequest
    ⟨transactionId, amountCents, currency, .completed, none, some netCents⟩ nowMs

/-- `FygaroTopupCompletion`. -/
structure FygaroTopupCompletion where
  completed : Bool
  netAmountCents : Option Nat
  deriving DecidableEq, Repr

/-- `readFygaroTopupCompletion`: whether the payment's row is `Completed`, and the positive net it
records; a failed lookup reads as not completed. -/
def readFygaroTopupCompletion (transactionId : TransactionId) : TopupProg FygaroTopupCompletion :=
  .call (.findBridgeTransferRequest transactionId) fun
    | .row (some doc) =>
        if doc.status = .completed then
          .pure ⟨true, doc.finalAmountCents.filter (0 < ·)⟩
        else .pure ⟨false, none⟩
    | _ => .pure ⟨false, none⟩

end Fygaro
