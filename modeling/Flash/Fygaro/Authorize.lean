import Mathlib
import Flash.Fygaro.TopupServices

/-!
# Fygaro — authorising a card top-up before the charge

`app/fygaro/authorize-topup.ts`.  `authorizeFygaroTopup` decides, before the customer is sent to
Fygaro, whether a link for `amountCents` may be minted.  The decision is `evaluateCreditGate`,
the webhook's own gate, fed the trailing-24h gross plus the amounts of the links the account
still holds; a yes is made a hold in the reservation index (`saveIntent`), and the index is read
again so that two requests that raced past the check both see each other's hold and back out.

The program keeps every branch of the source: the master gate, the probe that refuses before
ERPNext is read, the transient refusals of the three reads, the hand-back of a link the account
already holds (`refuseOpenCheckout`), the fail-open record write, and the re-read, whose own
failure skips the comparison.  `checkoutRequest` is a client's request: the link reaches the
customer (`handOut`) when it is authorised.

The world is one account's, so every intent record it holds names that account: the source's
check that a re-offered record is the caller's always passes here.  A link's signature, its
button URL and key id are not modelled; `newIntentId()` is the call's `intentId`.
-/

namespace Fygaro

open Threads

/-- `AuthorizeTopupFailure`. -/
inductive AuthorizeTopupFailure where
  | checkoutDisabled
  | settingsUnavailable
  | belowMinimum
  | nonPositiveNet
  | aboveSinglePaymentLimit
  | noDailyLimitForLevel
  | historyUnavailable
  | reservationsUnavailable
  | exceedsDailyAllowance
  | checkoutAlreadyOpen
  deriving DecidableEq, Repr

/-- `AuthorizeTopupRefusal`: the reason, with the figures known when it was given. -/
structure AuthorizeTopupRefusal where
  reason : AuthorizeTopupFailure
  remainingAllowanceCents : Option Nat
  limitCents : Option Nat
  minimumCents : Option Nat
  holdExpiresAtMs : Option Nat
  holdAmountCents : Option Nat
  deriving DecidableEq, Repr

/-- `AuthorizeTopupResult`. -/
inductive AuthorizeTopupResult where
  | authorized (checkout : FygaroCheckout) (remainingAllowanceCents : Int) (reused : Bool)
  | refused (refusal : AuthorizeTopupRefusal)
  deriving DecidableEq, Repr

/-- `FAILURE_BY_GATE_REASON`. -/
def failureByGateReason : RecordOnlyReason → AuthorizeTopupFailure
  | .creditDisabled => .checkoutDisabled
  | .autoCreditDisabled => .checkoutDisabled
  | .nonUsd => .checkoutDisabled
  | .intentMismatch => .checkoutDisabled
  | .settingsUnavailable => .settingsUnavailable
  | .historyUnavailable => .historyUnavailable
  | .overLimit => .aboveSinglePaymentLimit
  | .noDailyLimitForLevel => .noDailyLimitForLevel
  | .dailyLimitExceeded => .exceedsDailyAllowance
  | .nonPositiveNet => .nonPositiveNet
  | .underMinimum => .belowMinimum

/-- A call of `authorizeFygaroTopup`: the account's level, the amount, the time, and the id
`newIntentId()` draws for it. -/
structure AuthorizeTopupArgs where
  level : Nat
  amountCents : Nat
  nowMs : Nat
  intentId : IntentId
  deriving DecidableEq, Repr

/-! ### Refusals -/

/-- The figures a refusal reports, read off the settings: `minimumCents`, `singleLimitCents`
and `dailyLimitCents`, each `undefined` without settings. -/
structure AuthorizeFigures where
  minimumCents : Option Nat
  singleLimitCents : Option Nat
  dailyLimitCents : Option Nat
  deriving DecidableEq, Repr

def AuthorizeFigures.ofSettings (settings : Option FygaroSettings) (level : Nat) :
    AuthorizeFigures :=
  { minimumCents := settings.map (·.minimumTopup)
    singleLimitCents := settings.map (·.autoCreditLimit)
    dailyLimitCents := settings.bind (·.dailyTopupLimits.lookup level) }

namespace AuthorizeFigures

variable (f : AuthorizeFigures)

/-- `refuseWith`: a limit not given is the daily one. -/
def refuseWith (reason : AuthorizeTopupFailure) (remainingAllowanceCents limitCents : Option Nat) :
    AuthorizeTopupRefusal :=
  { reason, remainingAllowanceCents, limitCents := limitCents.or f.dailyLimitCents
    minimumCents := f.minimumCents, holdExpiresAtMs := none, holdAmountCents := none }

/-- `refuse`: a stop of the gate, in this call site's words; `over-limit` reports the
single-payment limit. -/
def refuse (reason : RecordOnlyReason) (remainingAllowanceCents : Option Nat) :
    AuthorizeTopupRefusal :=
  f.refuseWith (failureByGateReason reason) remainingAllowanceCents
    (if reason = .overLimit then f.singleLimitCents else f.dailyLimitCents)

/-- `refuseTransient`: a dependency of the check is down.  The page it sends is not modelled. -/
def refuseTransient (reason : AuthorizeTopupFailure) : AuthorizeTopupRefusal :=
  f.refuseWith reason none none

end AuthorizeFigures

/-- The link a record still stands for, when it can be handed back at `nowMs`: nothing has been
paid against it, and it carries its URL and an expiry still ahead. -/
def FygaroCheckoutIntent.reoffer (intent : FygaroCheckoutIntent) (nowMs : Nat) :
    Option FygaroCheckout :=
  match intent.outcome, intent.checkoutUrl, intent.expiresAtMs with
  | none, some url, some expiresAtMs =>
      if nowMs < expiresAtMs then some ⟨url, expiresAtMs, intent.intentId⟩ else none
  | _, _, _ => none

/-- The hold that lifts first: the earliest expiry, the first of equal ones. -/
def soonestHold (reservations : List FygaroReservation) : Option FygaroReservation :=
  reservations.foldl
    (fun earliest r => match earliest with
      | none => some r
      | some e => if r.expiresAtMs < e.expiresAtMs then some r else some e)
    none

/-- The refusal of a request whose shortfall is the account's own unpaid links: it says when, and
for how much, the soonest hold lifts. -/
def openCheckoutRefusal (f : AuthorizeFigures) (reservations : List FygaroReservation)
    (dailyLimitCents remainingAllowanceCents : Nat) : AuthorizeTopupResult :=
  let soonest := soonestHold reservations
  .refused { f.refuseWith .checkoutAlreadyOpen (some remainingAllowanceCents) (some dailyLimitCents)
    with
    holdExpiresAtMs := soonest.map (·.expiresAtMs)
    holdAmountCents := soonest.map (·.amountCents) }

/-- After the record of a same-amount hold is read: its link is handed back when it still can
be; the hold is already counted, so nothing is subtracted again. -/
def afterReoffer (refusal : AuthorizeTopupResult) (remainingAllowanceCents nowMs : Nat) :
    Option FygaroCheckoutIntent → TopupProg AuthorizeTopupResult
  | some intent =>
      match intent.reoffer nowMs with
      | some checkout => .pure (.authorized checkout remainingAllowanceCents true)
      | none => .pure refusal
  | none => .pure refusal

/-- `refuseOpenCheckout`: the account is holding its allowance in links it has not paid.  A
live hold for exactly this amount is handed back; otherwise the refusal says when the soonest
hold lifts. -/
def refuseOpenCheckout (f : AuthorizeFigures) (reservations : List FygaroReservation)
    (amountCents dailyLimitCents remainingAllowanceCents nowMs : Nat) :
    TopupProg AuthorizeTopupResult :=
  let refusal := openCheckoutRefusal f reservations dailyLimitCents remainingAllowanceCents
  match reservations.find? (·.amountCents = amountCents) with
  | none => .pure refusal
  | some sameAmount =>
      (readIntent sameAmount.intentId).bind (afterReoffer refusal remainingAllowanceCents nowMs)

/-! ### The program

Each continuation of the source is a definition of its own, named after the value it waits on,
so that what a call does from any point on is a term of this module. -/

/-- The gate's arguments at this call site: credit on, USD, this amount and level. -/
def authorizeGateInput (settings : Option FygaroSettings) (args : AuthorizeTopupArgs)
    (priorDayGrossCents : Option Nat) (flashFeeDiscountPercent : Nat) : CreditGateInput :=
  { creditEnabled := true, currency := "USD", settings, grossCents := args.amountCents,
    level := args.level, priorDayGrossCents, flashFeeDiscountPercent }

/-- The link a yes mints. -/
def freshCheckout (ttlSeconds : Nat) (args : AuthorizeTopupArgs) : FygaroCheckout :=
  buildFygaroCheckout args.intentId args.amountCents ttlSeconds args.nowMs

/-- The intent record a fresh link is saved under. -/
def freshIntent (args : AuthorizeTopupArgs) (checkout : FygaroCheckout) : FygaroCheckoutIntent :=
  { intentId := args.intentId, amountCents := args.amountCents, createdAtMs := args.nowMs,
    checkoutUrl := some checkout.url, expiresAtMs := some checkout.expiresAtMs, outcome := none }

/-- The refusal of a request a re-read found over the limit; its own hold, which the re-read
counted, comes back out of the figure. -/
def rolledBackRefusal (args : AuthorizeTopupArgs) (dailyLimitCents priorCents outstandingAfter : Nat) :
    AuthorizeTopupResult :=
  .refused
    { reason := .exceedsDailyAllowance
      remainingAllowanceCents := some ((dailyLimitCents : Int) - priorCents -
        ((outstandingAfter : Int) - args.amountCents)).toNat
      limitCents := some dailyLimitCents, minimumCents := none,
      holdExpiresAtMs := none, holdAmountCents := none }

/-- After the re-read: over the daily limit the hold is released and the request refused; a
re-read that failed skips the comparison. -/
def afterReread (args : AuthorizeTopupArgs) (f : AuthorizeFigures) (priorCents allowanceCents : Nat)
    (checkout : FygaroCheckout) (after : Option (List FygaroReservation)) :
    TopupProg AuthorizeTopupResult :=
  match f.dailyLimitCents, after with
  | some dailyLimitCents, some rs =>
      let outstandingAfter := (rs.map (·.amountCents)).sum
      if dailyLimitCents < priorCents + outstandingAfter then
        (releaseIntentReservation args.intentId args.amountCents).bind fun _ =>
          .pure (rolledBackRefusal args dailyLimitCents priorCents outstandingAfter)
      else .pure (.authorized checkout ((allowanceCents : Int) - args.amountCents) false)
  | _, _ => .pure (.authorized checkout ((allowanceCents : Int) - args.amountCents) false)

/-- After `saveIntent`: a hold that could not be written refuses; a missing record only loses
the cross-check, so the re-read still runs. -/
def afterSave (ttlSeconds : Nat) (args : AuthorizeTopupArgs) (f : AuthorizeFigures)
    (priorCents allowanceCents : Nat) : Except SaveIntentError Unit → TopupProg AuthorizeTopupResult
  | .error .reservationWrite => .pure (.refused (f.refuseTransient .reservationsUnavailable))
  | _ => (readOutstandingReservations args.nowMs).bind
      (afterReread args f priorCents allowanceCents (freshCheckout ttlSeconds args))

/-- Reserve, then re-read: the hold is saved, and the index read again. -/
def reserveAndReread (ttlSeconds : Nat) (args : AuthorizeTopupArgs) (f : AuthorizeFigures)
    (priorCents allowanceCents : Nat) : TopupProg AuthorizeTopupResult :=
  (saveIntent (freshIntent args (freshCheckout ttlSeconds args)) ttlSeconds).bind
    (afterSave ttlSeconds args f priorCents allowanceCents)

/-- After the discount is read: the gate at the spent total — the history plus the outstanding
holds — and on a yes the reservation. -/
def afterDiscount (ttlSeconds : Nat) (args : AuthorizeTopupArgs) (settings : Option FygaroSettings)
    (priorCents : Nat) (reservations : List FygaroReservation) (flashFeeDiscountPercent : Nat) :
    TopupProg AuthorizeTopupResult :=
  let f := AuthorizeFigures.ofSettings settings args.level
  let spentCents := priorCents + (reservations.map (·.amountCents)).sum
  let remaining := f.dailyLimitCents.map fun l => ((l : Int) - spentCents).toNat
  match evaluateCreditGate (authorizeGateInput settings args (some spentCents)
      flashFeeDiscountPercent) with
  | .credit _ => reserveAndReread ttlSeconds args f priorCents (remaining.getD 0)
  | .recordOnly reason =>
      -- a shortfall made of the account's own unpaid links is answered as such
      match reason, f.dailyLimitCents with
      | .dailyLimitExceeded, some dailyLimitCents =>
          if priorCents + args.amountCents ≤ dailyLimitCents then
            refuseOpenCheckout f reservations args.amountCents dailyLimitCents
              (remaining.getD 0) args.nowMs
          else .pure (.refused (f.refuse reason remaining))
      | _, _ => .pure (.refused (f.refuse reason remaining))

/-- The check against the spent total, once the history and the holds are read. -/
def authorizeAgainstSpent (ttlSeconds : Nat) (args : AuthorizeTopupArgs)
    (settings : Option FygaroSettings) (priorCents : Nat) (reservations : List FygaroReservation) :
    TopupProg AuthorizeTopupResult :=
  getFlashFeeDiscountPercent.bind (afterDiscount ttlSeconds args settings priorCents reservations)

/-- After the holds are read: an unreadable index is refused on as unknown. -/
def afterReservations (ttlSeconds : Nat) (args : AuthorizeTopupArgs)
    (settings : Option FygaroSettings) (priorCents : Nat) :
    Option (List FygaroReservation) → TopupProg AuthorizeTopupResult
  | none => .pure (.refused ((AuthorizeFigures.ofSettings settings args.level).refuseTransient
      .reservationsUnavailable))
  | some reservations => authorizeAgainstSpent ttlSeconds args settings priorCents reservations

/-- After the history is read: an unreadable history is refused on as unknown. -/
def afterHistory (ttlSeconds : Nat) (args : AuthorizeTopupArgs) (settings : Option FygaroSettings) :
    Option Nat → TopupProg AuthorizeTopupResult
  | none => .pure (.refused ((AuthorizeFigures.ofSettings settings args.level).refuseTransient
      .historyUnavailable))
  | some priorCents =>
      (readOutstandingReservations args.nowMs).bind
        (afterReservations ttlSeconds args settings priorCents)

/-- What follows a probe that did not refuse: the history, then the holds. -/
def authorizeAfterProbe (ttlSeconds : Nat) (args : AuthorizeTopupArgs)
    (settings : Option FygaroSettings) : TopupProg AuthorizeTopupResult :=
  (sumFygaroTopupGrossCentsLast24h args.nowMs none).bind (afterHistory ttlSeconds args settings)

/-- After the settings are read: the probe, which decides every stop before the history without
reading ERPNext. -/
def afterSettings (ttlSeconds : Nat) (args : AuthorizeTopupArgs)
    (settings : Option FygaroSettings) : TopupProg AuthorizeTopupResult :=
  let f := AuthorizeFigures.ofSettings settings args.level
  match evaluateCreditGate (authorizeGateInput settings args none 0) with
  | .recordOnly .settingsUnavailable => .pure (.refused (f.refuseTransient .settingsUnavailable))
  | .recordOnly .historyUnavailable => authorizeAfterProbe ttlSeconds args settings
  | .recordOnly reason => .pure (.refused (f.refuse reason none))
  | .credit _ => authorizeAfterProbe ttlSeconds args settings

/-- `authorizeFygaroTopup`, with the master gate's link lifetime `masterTtlSeconds` (`none` when
a deploy gate is off). -/
def authorizeFygaroTopup (masterTtlSeconds : Option Nat) (args : AuthorizeTopupArgs) :
    TopupProg AuthorizeTopupResult :=
  match masterTtlSeconds with
  | none => .pure (.refused ⟨.checkoutDisabled, none, none, none, none, none⟩)
  | some ttlSeconds => getFygaroSettings.bind (afterSettings ttlSeconds args)

/-- What the client does with the answer: the link reaches the customer when authorised. -/
def handOutAuthorized : AuthorizeTopupResult → TopupProg Unit
  | .authorized checkout _ _ => .call (.handOut checkout) fun _ => .pure ()
  | .refused _ => .pure ()

/-- A client's request for a link: the link reaches the customer when it is authorised. -/
def checkoutRequest (masterTtlSeconds : Option Nat) (args : AuthorizeTopupArgs) : TopupProg Unit :=
  (authorizeFygaroTopup masterTtlSeconds args).bind handOutAuthorized

end Fygaro
