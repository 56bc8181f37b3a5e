import Mathlib
import Flash.Fygaro.CreditGate
import Flash.Fygaro.Outcome
import Flash.Support.Js

/-!
# Fygaro — the stores a card top-up touches

One account's side of a card top-up, as a world answering the operations the code awaits:

* the account's reservation index (`fygaro-checkout-intents:<accountId>`), a Redis sorted set of
  `<amountCents>:<intentId>` members scored by the JWT's expiry in epoch milliseconds;
* the intent records (`fygaro-checkout-intent:<intentId>`) and their redemption claims
  (`fygaro-checkout-claim:<intentId>`);
* the account's ERPNext `Bridge Transfer Request` rows of Fygaro top-ups, and the trailing-24h
  gross `sumFygaroTopupGrossCentsSince` reads off them;
* the webhook's two locks, the wallet credits, and the checkout links handed to the customer.

The Fygaro Settings row and the account's fee discount are part of the world and no operation
changes them.  Every read may fail, and every write may fail before or after it lands: a write's
failure reply carries whether it took effect, which the code cannot see.

* `TopupWorld.answer_settings`: no operation changes the settings or the discount.
* `TopupWorld.answer_index_nodup`: the index never holds a member twice — `ZADD` of a member
  already there moves it.

A stamp of an intent's outcome is one operation here, taking effect as `applyStamp` or not at
all; `recordIntentOutcome`'s compare-and-set loop, which is how it does so, is
`Flash.Fygaro.OutcomeRecord`.
-/

namespace Fygaro

/-- Identifiers, as the source's strings. -/
abbrev IntentId := String
abbrev TransactionId := String

/-! ### Checkout links and intents -/

/-- The signed checkout URL, by what its token carries: the amount, the intent its reference
names, and the expiry in epoch seconds.  The signature is not modelled. -/
structure CheckoutUrl where
  amountCents : Nat
  intentId : IntentId
  exp : Nat
  deriving DecidableEq, Repr

/-- `FygaroCheckout`: the link a customer is handed. -/
structure FygaroCheckout where
  url : CheckoutUrl
  expiresAtMs : Nat
  intentId : IntentId
  deriving DecidableEq, Repr

/-- `buildFygaroCheckout`: a link for `amountCents`, payable for `ttlSeconds` from `nowMs`
rounded down to the second. -/
def buildFygaroCheckout (intentId : IntentId) (amountCents ttlSeconds nowMs : Nat) :
    FygaroCheckout :=
  let nowSecs := nowMs / 1000
  { url := { amountCents, intentId, exp := nowSecs + ttlSeconds }
    expiresAtMs := (nowSecs + ttlSeconds) * 1000
    intentId }

/-- `FygaroCheckoutIntent`, for one account: what was authorised, and the outcome the webhook
stamped on it. -/
structure FygaroCheckoutIntent where
  intentId : IntentId
  amountCents : Nat
  createdAtMs : Nat
  checkoutUrl : Option CheckoutUrl
  expiresAtMs : Option Nat
  outcome : Option FygaroTopupOutcome
  deriving DecidableEq, Repr

/-! ### The reservation index -/

/-- `FygaroReservation`: a member of the index, its amount and intent, with its score. -/
structure FygaroReservation where
  intentId : IntentId
  amountCents : Nat
  expiresAtMs : Nat
  deriving DecidableEq, Repr

/-- `reservationMember`: the member a reservation is stored under. -/
def FygaroReservation.member (r : FygaroReservation) : Nat × IntentId :=
  (r.amountCents, r.intentId)

/-- `ZADD key score member`: the member, with its new score, in score order after the members of
equal score; a member already there is moved. -/
def zadd (index : List FygaroReservation) (r : FygaroReservation) : List FygaroReservation :=
  (index.filter fun x => x.member ≠ r.member).orderedInsert
    (fun a b => a.expiresAtMs < b.expiresAtMs) r

/-- `ZREMRANGEBYSCORE key -inf maxMs`. -/
def zremrangebyscore (index : List FygaroReservation) (maxMs : Nat) : List FygaroReservation :=
  index.filter fun x => maxMs < x.expiresAtMs

/-- `ZREM key member`. -/
def zrem (index : List FygaroReservation) (member : Nat × IntentId) : List FygaroReservation :=
  index.filter fun x => x.member ≠ member

/-! ### The ERPNext rows -/

/-- `BridgeTransferRequestStatus`, the two a Fygaro top-up row takes, in the order the upsert
keeps them. -/
inductive TopupRowStatus where
  | fiatReceived
  | completed
  deriving DecidableEq, Repr

/-- `BRIDGE_TRANSFER_STATUS_RANK`. -/
def TopupRowStatus.rank : TopupRowStatus → Nat
  | fiatReceived => 1
  | completed => 3

/-- A `Bridge Transfer Request` row of a Fygaro top-up of the account, keyed by the payment's
transaction (`request_id` is `fygaro:<transactionId>`). -/
structure TopupRow where
  requestId : TransactionId
  amountCents : Nat
  currency : String
  status : TopupRowStatus
  failureReason : Option String
  finalAmountCents : Option Nat
  lastSeenAtMs : Nat
  deriving DecidableEq, Repr

/-- What one upsert writes: the fields a writer sets, `none` for a field it omits. -/
structure TopupRowWrite where
  requestId : TransactionId
  amountCents : Nat
  currency : String
  status : TopupRowStatus
  failureReason : Option String
  finalAmountCents : Option Nat
  deriving DecidableEq, Repr

/-- `upsertBridgeTransferRequest` with `applyUpdateGuards`: a new row, or the existing one
rewritten with the status never moving back, the omitted fields kept, and `last_seen_at`
bumped. -/
def upsertRow (rows : List TopupRow) (w : TopupRowWrite) (nowMs : Nat) : List TopupRow :=
  if rows.any (·.requestId = w.requestId) then
    rows.map fun r =>
      if r.requestId = w.requestId then
        { r with
          amountCents := w.amountCents
          currency := w.currency
          status := if w.status.rank < r.status.rank then r.status else w.status
          failureReason := w.failureReason.or r.failureReason
          finalAmountCents := w.finalAmountCents.or r.finalAmountCents
          lastSeenAtMs := nowMs }
      else r
  else
    let row : TopupRow :=
      { requestId := w.requestId, amountCents := w.amountCents, currency := w.currency,
        status := w.status, failureReason := w.failureReason,
        finalAmountCents := w.finalAmountCents, lastSeenAtMs := nowMs }
    rows ++ [row]

/-- The rows `sumFygaroTopupGrossCentsSince` counts: USD, seen since `sinceMs`, not the excluded
request, and not deliberately uncredited — a row with a failure reason counts only once it is
`Completed`. -/
def TopupRow.counts (sinceMs : Nat) (excludeRequestId : Option TransactionId) (r : TopupRow) :
    Bool :=
  let failureReasonSet := r.failureReason.any fun s => Js.trim s ≠ ""
  r.currency == "USD" && decide (sinceMs ≤ r.lastSeenAtMs) &&
    excludeRequestId != some r.requestId && !(failureReasonSet && r.status != .completed)

/-- `sumFygaroTopupGrossCentsSince`: the gross of the rows counted. -/
def sumFygaroTopupGrossCentsSince (rows : List TopupRow) (sinceMs : Nat)
    (excludeRequestId : Option TransactionId) : Nat :=
  ((rows.filter (TopupRow.counts sinceMs excludeRequestId)).map (·.amountCents)).sum

/-! ### The world -/

/-- One account's stores, the settings and its fee discount. -/
structure TopupWorld where
  settings : FygaroSettings
  discount : Nat
  index : List FygaroReservation
  intents : List FygaroCheckoutIntent
  claims : List IntentId
  rows : List TopupRow
  credits : List (TransactionId × Nat)
  idempotencyKeys : List TransactionId
  paymentLocks : List TransactionId
  checkouts : List FygaroCheckout

/-- The operations the top-up code awaits. -/
inductive TopupOp where
  /-- `getFygaroSettings()`. -/
  | getFygaroSettings
  /-- `ErpNext.sumFygaroTopupGrossCentsSince`. -/
  | sumFygaroTopupGrossCentsSince (sinceMs : Nat) (excludeRequestId : Option TransactionId)
  /-- `getFlashFeeDiscountPercent`. -/
  | getFlashFeeDiscountPercent
  /-- `ErpNext.upsertBridgeTransferRequest`, at `nowMs`. -/
  | upsertBridgeTransferRequest (write : TopupRowWrite) (nowMs : Nat)
  /-- `ErpNext.findBridgeTransferRequest`. -/
  | findBridgeTransferRequest (requestId : TransactionId)
  | zadd (entry : FygaroReservation)
  /-- `EXPIRE` on the index key. -/
  | expire
  | zremrangebyscore (maxMs : Nat)
  /-- `ZRANGE key 0 -1 WITHSCORES`. -/
  | zrange
  | zrem (member : Nat × IntentId)
  /-- `cache.get` of an intent record. -/
  | getIntent (intentId : IntentId)
  /-- `cache.set` of an intent record. -/
  | setIntent (intent : FygaroCheckoutIntent)
  /-- `cache.set` of a redemption claim. -/
  | setClaim (intentId : IntentId)
  /-- `consumeCacheKey` of a redemption claim: the `DEL`. -/
  | consumeClaim (intentId : IntentId)
  /-- `recordIntentOutcome`. -/
  | recordIntentOutcome (intentId : IntentId) (outcome : FygaroTopupOutcome)
  /-- `LockService().lockIdempotencyKey`: a lock never released. -/
  | lockIdempotencyKey (transactionId : TransactionId)
  /-- Taking `LockService().lockPaymentIdempotencyKey`. -/
  | lockPaymentIdempotencyKey (transactionId : TransactionId)
  /-- Releasing it. -/
  | unlockPaymentIdempotencyKey (transactionId : TransactionId)
  /-- `creditFygaroTopup`: the send, exactly once per transaction. -/
  | creditFygaroTopup (transactionId : TransactionId) (netCents : Nat)
  /-- The checkout link reaching the customer. -/
  | handOut (checkout : FygaroCheckout)
  deriving DecidableEq, Repr

/-- What an operation returns.  `failed landed` is an error; for a write, `landed` says whether
it took effect anyway. -/
inductive TopupReply where
  | ok
  | failed (landed : Bool)
  | settings (value : Option FygaroSettings)
  | grossCents (value : Nat)
  | discount (value : Nat)
  | reservations (value : List FygaroReservation)
  | intent (value : Option FygaroCheckoutIntent)
  | row (value : Option TopupRow)
  | acquired (value : Bool)
  deriving DecidableEq, Repr

namespace TopupWorld

/-- A write: it takes effect when it succeeds, and when its failure came after it landed. -/
def write (w w' : TopupWorld) : TopupReply → Option TopupWorld
  | .ok => some w'
  | .failed landed => some (if landed then w' else w)
  | _ => none

/-- A read: it returns what the world holds, or fails. -/
def read (w : TopupWorld) (answer r : TopupReply) : Option TopupWorld :=
  if r = answer ∨ r = .failed false then some w else none

/-- The outcome stamp `applyStamp` makes on an intent's record, when there is one. -/
def stampIntent (intents : List FygaroCheckoutIntent) (intentId : IntentId)
    (outcome : FygaroTopupOutcome) : List FygaroCheckoutIntent :=
  intents.map fun i =>
    if i.intentId = intentId then { i with outcome := applyStamp i.outcome outcome } else i

/-- `cache.set` of an intent record: the record under its id, replacing an older one. -/
def setIntent (intents : List FygaroCheckoutIntent) (intent : FygaroCheckoutIntent) :
    List FygaroCheckoutIntent :=
  (intents.filter (·.intentId ≠ intent.intentId)) ++ [intent]

/-- What each operation may reply and what it leaves. -/
def answer (w : TopupWorld) : TopupOp → TopupReply → Option TopupWorld
  -- an unreadable or malformed settings row is `undefined`, never an error
  | .getFygaroSettings, .settings v => if v = some w.settings ∨ v = none then some w else none
  | .sumFygaroTopupGrossCentsSince sinceMs ex, r =>
      w.read (.grossCents (sumFygaroTopupGrossCentsSince w.rows sinceMs ex)) r
  -- the discount reader resolves to 0 on any failure
  | .getFlashFeeDiscountPercent, .discount v => if v = w.discount ∨ v = 0 then some w else none
  | .upsertBridgeTransferRequest wr nowMs, r =>
      w.write { w with rows := upsertRow w.rows wr nowMs } r
  | .findBridgeTransferRequest id, r =>
      w.read (.row (w.rows.find? (·.requestId = id))) r
  | .zadd e, r => w.write { w with index := zadd w.index e } r
  | .expire, r => w.write w r
  | .zremrangebyscore maxMs, r => w.write { w with index := zremrangebyscore w.index maxMs } r
  | .zrange, r => w.read (.reservations w.index) r
  | .zrem m, r => w.write { w with index := zrem w.index m } r
  | .getIntent id, r => w.read (.intent (w.intents.find? (·.intentId = id))) r
  | .setIntent i, r => w.write { w with intents := setIntent w.intents i } r
  | .setClaim id, r =>
      w.write { w with claims := if id ∈ w.claims then w.claims else w.claims ++ [id] } r
  -- the `DEL` count says whether this caller removed the claim
  | .consumeClaim id, .acquired b =>
      if b = decide (id ∈ w.claims) then some { w with claims := w.claims.erase id } else none
  | .consumeClaim id, .failed landed =>
      some (if landed then { w with claims := w.claims.erase id } else w)
  | .recordIntentOutcome id o, r => w.write { w with intents := stampIntent w.intents id o } r
  -- a lock service error reads as the lock being taken
  | .lockIdempotencyKey t, .acquired b =>
      if b then (if t ∈ w.idempotencyKeys then none
        else some { w with idempotencyKeys := w.idempotencyKeys ++ [t] })
      else some w
  | .lockPaymentIdempotencyKey t, .acquired b =>
      if b = decide (t ∉ w.paymentLocks) then
        some (if b then { w with paymentLocks := w.paymentLocks ++ [t] } else w)
      else none
  | .lockPaymentIdempotencyKey _, .failed false => some w
  | .unlockPaymentIdempotencyKey t, r =>
      w.write { w with paymentLocks := w.paymentLocks.erase t } r
  -- `withPaymentIdempotency`: a transaction already sent replays its send
  | .creditFygaroTopup t n, .ok =>
      some (if w.credits.any (·.1 = t) then w else { w with credits := w.credits ++ [(t, n)] })
  | .creditFygaroTopup _ _, .failed false => some w
  | .handOut co, .ok => some { w with checkouts := w.checkouts ++ [co] }
  | _, _ => none

/-- The world an operation leaves once it takes effect: a write's change, a lock's key taken, a
claim removed, a send recorded unless its transaction already was, a link handed out.  A read
changes nothing. -/
def effect (w : TopupWorld) : TopupOp → TopupWorld
  | .upsertBridgeTransferRequest wr nowMs => { w with rows := upsertRow w.rows wr nowMs }
  | .zadd e => { w with index := zadd w.index e }
  | .zremrangebyscore maxMs => { w with index := zremrangebyscore w.index maxMs }
  | .zrem m => { w with index := zrem w.index m }
  | .setIntent i => { w with intents := setIntent w.intents i }
  | .setClaim id => { w with claims := if id ∈ w.claims then w.claims else w.claims ++ [id] }
  | .consumeClaim id => { w with claims := w.claims.erase id }
  | .recordIntentOutcome id o => { w with intents := stampIntent w.intents id o }
  | .lockIdempotencyKey t => { w with idempotencyKeys := w.idempotencyKeys ++ [t] }
  | .lockPaymentIdempotencyKey t => { w with paymentLocks := w.paymentLocks ++ [t] }
  | .unlockPaymentIdempotencyKey t => { w with paymentLocks := w.paymentLocks.erase t }
  | .creditFygaroTopup t n =>
      { w with credits := if w.credits.any (·.1 = t) then w.credits else w.credits ++ [(t, n)] }
  | .handOut co => { w with checkouts := w.checkouts ++ [co] }
  | _ => w

theorem write_eq_some {w w' s : TopupWorld} {r : TopupReply} (h : w.write w' r = some s) :
    s = w ∨ s = w' := by
  unfold write at h
  split at h
  · cases h; exact .inr rfl
  · cases h; split <;> simp
  · cases h

theorem read_eq_some {w s : TopupWorld} {a r : TopupReply} (h : w.read a r = some s) : s = w := by
  unfold read at h
  split at h
  · cases h; rfl
  · cases h

variable {w w' : TopupWorld} {op : TopupOp} {r : TopupReply}

/-- **What a reply does.**  The world after any reply is the world before it, or the world the
operation leaves once it takes effect. -/
theorem answer_eq_some (h : w.answer op r = some w') : w' = w ∨ w' = w.effect op := by
  cases op with
  | upsertBridgeTransferRequest wr nowMs => exact write_eq_some h
  | zadd e => exact write_eq_some h
  | expire => exact (write_eq_some h).elim .inl .inl
  | zremrangebyscore maxMs => exact write_eq_some h
  | zrem m => exact write_eq_some h
  | setIntent i => exact write_eq_some h
  | setClaim id => exact write_eq_some h
  | recordIntentOutcome id o => exact write_eq_some h
  | unlockPaymentIdempotencyKey t => exact write_eq_some h
  | sumFygaroTopupGrossCentsSince sinceMs ex => exact .inl (read_eq_some h)
  | findBridgeTransferRequest id => exact .inl (read_eq_some h)
  | zrange => exact .inl (read_eq_some h)
  | getIntent id => exact .inl (read_eq_some h)
  | getFygaroSettings =>
      -- an unreadable row reads as `undefined`; no other reply is given
      cases r with
      | settings v =>
          simp only [answer] at h
          split_ifs at h
          exact .inl (Option.some.inj h).symm
      | _ => cases h
  | getFlashFeeDiscountPercent =>
      cases r with
      | discount v =>
          simp only [answer] at h
          split_ifs at h
          exact .inl (Option.some.inj h).symm
      | _ => cases h
  | consumeClaim id =>
      -- the `DEL` count says whether this caller removed the claim
      cases r with
      | acquired b =>
          simp only [answer] at h
          split_ifs at h
          exact .inr (Option.some.inj h).symm
      | failed landed =>
          cases h
          cases landed
          · exact .inl rfl
          · exact .inr rfl
      | _ => cases h
  | lockIdempotencyKey t =>
      cases r with
      | acquired b =>
          simp only [answer] at h
          split_ifs at h
          · exact .inr (Option.some.inj h).symm
          · exact .inl (Option.some.inj h).symm
      | _ => cases h
  | lockPaymentIdempotencyKey t =>
      cases r with
      | acquired b =>
          simp only [answer] at h
          split_ifs at h
          · exact .inr (Option.some.inj h).symm
          · exact .inl (Option.some.inj h).symm
      | failed landed =>
          cases landed
          · exact .inl (Option.some.inj h).symm
          · cases h
      | _ => cases h
  | creditFygaroTopup t n =>
      -- `withPaymentIdempotency`: a transaction already sent replays its send
      cases r with
      | ok =>
          cases h
          split_ifs with hany
          · exact .inl rfl
          · exact .inr (by simp only [effect, if_neg hany])
      | failed landed =>
          cases landed
          · exact .inl (Option.some.inj h).symm
          · cases h
      | _ => cases h
  | handOut co =>
      cases r with
      | ok => exact .inr (Option.some.inj h).symm
      | _ => cases h

/-! ### What no operation changes -/

@[simp] theorem effect_settings (w : TopupWorld) (op : TopupOp) :
    (w.effect op).settings = w.settings := by
  cases op <;> rfl

@[simp] theorem effect_discount (w : TopupWorld) (op : TopupOp) :
    (w.effect op).discount = w.discount := by
  cases op <;> rfl

/-- No operation changes the settings or the fee discount. -/
theorem answer_settings (h : w.answer op r = some w') :
    w'.settings = w.settings ∧ w'.discount = w.discount := by
  rcases answer_eq_some h with rfl | rfl
  · exact ⟨rfl, rfl⟩
  · exact ⟨effect_settings w op, effect_discount w op⟩

/-! ### What an operation does to each store -/

/-- The index changes only by a `ZADD`, a `ZREM` or a prune. -/
theorem effect_index_cases (w : TopupWorld) (op : TopupOp) :
    (w.effect op).index = w.index ∨ (∃ e, op = .zadd e ∧ (w.effect op).index = zadd w.index e) ∨
      (∃ m, op = .zrem m ∧ (w.effect op).index = zrem w.index m) ∨
      (∃ maxMs, op = .zremrangebyscore maxMs ∧
        (w.effect op).index = zremrangebyscore w.index maxMs) := by
  cases op with
  | zadd e => exact .inr (.inl ⟨e, rfl, rfl⟩)
  | zrem m => exact .inr (.inr (.inl ⟨m, rfl, rfl⟩))
  | zremrangebyscore maxMs => exact .inr (.inr (.inr ⟨maxMs, rfl, rfl⟩))
  | _ => exact .inl rfl

/-- The rows change only by an upsert. -/
theorem effect_rows_cases (w : TopupWorld) (op : TopupOp) :
    (w.effect op).rows = w.rows ∨ ∃ wr nowMs, op = .upsertBridgeTransferRequest wr nowMs ∧
      (w.effect op).rows = upsertRow w.rows wr nowMs := by
  cases op with
  | upsertBridgeTransferRequest wr nowMs => exact .inr ⟨wr, nowMs, rfl, rfl⟩
  | _ => exact .inl rfl

/-- The credits grow only by a send of a transaction not yet credited. -/
theorem effect_credits_cases (w : TopupWorld) (op : TopupOp) :
    (w.effect op).credits = w.credits ∨
      ∃ t n, op = .creditFygaroTopup t n ∧ (w.effect op).credits = w.credits ++ [(t, n)] := by
  cases op with
  | creditFygaroTopup t n =>
      by_cases hany : w.credits.any (·.1 = t)
      · exact .inl (if_pos hany)
      · exact .inr ⟨t, n, rfl, if_neg hany⟩
  | _ => exact .inl rfl

/-- The intent records change only by a record written or a stamp. -/
theorem effect_intents_cases (w : TopupWorld) (op : TopupOp) :
    (w.effect op).intents = w.intents ∨
      (∃ i, op = .setIntent i ∧ (w.effect op).intents = setIntent w.intents i) ∨
      ∃ id o, op = .recordIntentOutcome id o ∧
        (w.effect op).intents = stampIntent w.intents id o := by
  cases op with
  | setIntent i => exact .inr (.inl ⟨i, rfl, rfl⟩)
  | recordIntentOutcome id o => exact .inr (.inr ⟨id, o, rfl, rfl⟩)
  | _ => exact .inl rfl

/-! ### The index holds each member once -/

theorem zadd_members_nodup {index : List FygaroReservation} (h : (index.map (·.member)).Nodup)
    (r : FygaroReservation) : ((zadd index r).map (·.member)).Nodup := by
  have hperm := List.perm_orderedInsert (fun a b : FygaroReservation => a.expiresAtMs < b.expiresAtMs)
    r (index.filter fun x => x.member ≠ r.member)
  rw [zadd, (hperm.map _).nodup_iff, List.map_cons, List.nodup_cons]
  refine ⟨?_, (List.filter_sublist.map _).nodup h⟩
  simp

theorem filter_members_nodup {index : List FygaroReservation} (h : (index.map (·.member)).Nodup)
    (p : FygaroReservation → Bool) : ((index.filter p).map (·.member)).Nodup :=
  (List.filter_sublist.map _).nodup h

/-- The index never holds a member twice. -/
theorem answer_index_nodup (hw : (w.index.map (·.member)).Nodup) (h : w.answer op r = some w') :
    (w'.index.map (·.member)).Nodup := by
  rcases answer_eq_some h with rfl | rfl
  · exact hw
  · rcases effect_index_cases w op with hidx | ⟨e, -, hidx⟩ | ⟨m, -, hidx⟩ | ⟨maxMs, -, hidx⟩ <;>
      rw [hidx]
    · exact hw
    · exact zadd_members_nodup hw e
    · exact filter_members_nodup hw _
    · exact filter_members_nodup hw _

end TopupWorld

end Fygaro
