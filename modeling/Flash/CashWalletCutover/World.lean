import Flash.Support.Pool
import Flash.CashWalletCutover.Migration

/-!
# Cash-wallet cutover — the world the pipeline runs against

The shared state every actor of the cutover reads and writes: the migration record as MongoDB
holds it, the account's default-wallet pointer, the clock, and the payments IBEX has accepted.
Each `await` of the cutover code is one `CutoverOp`; `answer` says which replies the world can
give to it and what it leaves behind.

* The repository writes are the guarded `findOneAndUpdate`s of
  `services/mongoose/cash-wallet-cutover.ts` (`CashWalletCutoverRepository`): a write whose
  filter matches returns the new record, one whose filter does not returns
  `CouldNotUpdateError`, and any call may instead fail with a `RepositoryError` and change
  nothing.
* A call to IBEX or to the wallet services may succeed or fail, as the environment decides; a
  balance or fee read may return any amount.  A payment that succeeds is recorded with a fresh
  transaction id, and that record is what the no-double-payment results count.
* The clock only moves forward; a lock is stamped with the time at which it is taken.

The cutover's `async` functions are written against this signature as `CutoverProg`s: a call
`migrationsRepo.transitionMigration args` of the source is the program of the same name here.
-/

namespace CashWalletCutover

open Threads

/-- `CUTOVER_IBEX_INVOICE_EXPIRATION_SECONDS`, in milliseconds. -/
def cutoverIbexInvoiceExpirationMs : Nat := 15 * 60 * 1000

/-- A payment IBEX accepted. -/
structure IssuedPayment where
  senderWalletId : WalletId
  paymentRequest : PaymentRequest
  transactionId : TransactionId
  deriving DecidableEq, Repr

/-- The state shared by every actor, for one account and its migration record. -/
structure World where
  migration : CashWalletMigration
  defaultWalletId : WalletId
  treasuryWalletId : WalletId
  clock : Nat
  nextId : Nat
  payments : List IssuedPayment

/-- The arguments of `transitionMigration` (`TransitionMigrationArgs`). -/
structure TransitionMigrationArgs where
  fromStatus : CashWalletMigrationStatus
  toStatus : CashWalletMigrationStatus
  patch : CashWalletMigrationPatch := {}
  clear : List MigrationField := []

/-- The arguments of `payInvoice`. -/
structure PayInvoiceArgs where
  senderWalletId : WalletId
  paymentRequest : PaymentRequest
  senderAmountUsdCents : Option DecimalAmount := none
  senderAmountUsdtMicros : Option Nat := none

/-- The operations the cutover code awaits. -/
inductive CutoverOp where
  /-- `findMigrationByAccountId`, `listRunnableMigrations`, `listMigrationsByStatuses`. -/
  | findMigration
  | transitionMigration (args : TransitionMigrationArgs)
  | acquireMigrationLock (workerId : WorkerId) (staleBefore : Nat)
  | releaseMigrationLock (workerId : WorkerId)
  | markMigrationFailed (workerId : WorkerId) (status : CashWalletMigrationStatus)
  /-- `accountsRepo.findById(accountId)`, of which the code reads `defaultWalletId`. -/
  | findAccountDefaultWalletId
  /-- `updateDefaultWalletId`. -/
  | updateDefaultWalletId (walletId : WalletId)
  /-- `new Date()` and `services.now()`. -/
  | now
  | ensureDestinationWallet
  | readSourceBalanceUsdCents
  | readDestinationBalanceUsdtMicros
  | readDestinationSpendableUsdtMicros
  | createNoAmountInvoice (recipientWalletId : WalletId) (memo : InvoiceMemo)
  | createInvoice (recipientWalletId : WalletId) (amount : Nat) (memo : InvoiceMemo)
  | payInvoice (args : PayInvoiceArgs)
  | verifyBalanceMove
  | readFeeAmountUsdtMicros
  | getTreasuryWalletId
  | verifyLegacyWalletZero

/-- The replies the world gives. -/
inductive CutoverReply where
  | error (e : CashWalletCutoverError)
  | migration (m : CashWalletMigration)
  | wallet (w : WalletId)
  | time (t : Nat)
  | micros (n : Nat)
  | cents (d : DecimalAmount)
  | invoice (pr : PaymentRequest)
  | transaction (id : TransactionId)
  | done

/-- A program of the cutover. -/
abbrev CutoverProg := Prog CutoverOp CutoverReply

/-! ### The repository's guarded writes -/

namespace CashWalletCutoverRepository

/-- `transitionMigration`'s filter `{_id, status: from}` and update. -/
def transitionMigration (m : CashWalletMigration) (a : TransitionMigrationArgs) :
    Option CashWalletMigration :=
  if m.status = a.fromStatus then some (m.transitioned a.toStatus a.patch a.clear) else none

/-- `acquireMigrationLock`: the lock is free (`lockedAt: null`) or stale. -/
def acquireMigrationLock (m : CashWalletMigration) (workerId : WorkerId) (staleBefore now : Nat) :
    Option CashWalletMigration :=
  if m.lockedAt.all (· < staleBefore) then
    some { m with lockedAt := some now, lockedBy := some workerId }
  else none

/-- `releaseMigrationLock`: guarded by `lockedBy` only. -/
def releaseMigrationLock (m : CashWalletMigration) (workerId : WorkerId) :
    Option CashWalletMigration :=
  if m.lockedBy = some workerId then some { m with lockedAt := none, lockedBy := none } else none

/-- `markMigrationFailed`: guarded by `lockedBy` only, it overwrites whatever status is there. -/
def markMigrationFailed (m : CashWalletMigration) (workerId : WorkerId)
    (status : CashWalletMigrationStatus) : Option CashWalletMigration :=
  if m.lockedBy = some workerId then
    some { m with status := status, lockedAt := none, lockedBy := none }
  else none

end CashWalletCutoverRepository

/-! ### The world's answers -/

namespace World

/-- The replies of a guarded write: the updated record when the filter matched (`matched`),
`CouldNotUpdateError` with the write's message when it did not, or a failed call. -/
def answerWrite (w : World) (matched : Option CashWalletMigration) (message : String) :
    CutoverReply → Option World
  | .migration m => if matched = some m then some { w with migration := m } else none
  | .error (.couldNotUpdate msg) => if matched = none ∧ msg = message then some w else none
  | .error .repository => some w
  | _ => none

/-- The replies of a call outside the cutover code that changes nothing here. -/
def answerRead (w : World) (ok : CutoverReply → Bool) : CutoverReply → Option World
  | .error _ => some w
  | r => if ok r then some w else none

/-- What the world can reply to an operation, and the world after it. -/
def answer (w : World) : CutoverOp → CutoverReply → Option World
  | .findMigration, .migration m => if m = w.migration then some w else none
  | .findMigration, .error .repository => some w
  | .findMigration, _ => none
  | .transitionMigration a, r =>
      answerWrite w (CashWalletCutoverRepository.transitionMigration w.migration a)
        "Could not transition cash wallet migration" r
  | .acquireMigrationLock workerId staleBefore, r =>
      answerWrite w
        (CashWalletCutoverRepository.acquireMigrationLock w.migration workerId staleBefore w.clock)
        "Could not acquire cash wallet migration lock" r
  | .releaseMigrationLock workerId, r =>
      answerWrite w (CashWalletCutoverRepository.releaseMigrationLock w.migration workerId)
        "Could not release cash wallet migration lock" r
  | .markMigrationFailed workerId status, r =>
      answerWrite w (CashWalletCutoverRepository.markMigrationFailed w.migration workerId status)
        "Could not mark cash wallet migration failed" r
  | .findAccountDefaultWalletId, .wallet x => if x = w.defaultWalletId then some w else none
  | .findAccountDefaultWalletId, .error .repository => some w
  | .findAccountDefaultWalletId, _ => none
  | .updateDefaultWalletId x, .done => some { w with defaultWalletId := x }
  | .updateDefaultWalletId _, .error _ => some w
  | .updateDefaultWalletId _, _ => none
  | .now, .time t => if w.clock ≤ t then some { w with clock := t } else none
  | .now, _ => none
  | .ensureDestinationWallet, r => answerRead w (fun | .done => true | _ => false) r
  | .readSourceBalanceUsdCents, r => answerRead w (fun | .cents _ => true | _ => false) r
  | .readDestinationBalanceUsdtMicros, r => answerRead w (fun | .micros _ => true | _ => false) r
  | .readDestinationSpendableUsdtMicros, r =>
      answerRead w (fun | .micros _ => true | _ => false) r
  | .readFeeAmountUsdtMicros, r => answerRead w (fun | .micros _ => true | _ => false) r
  | .verifyBalanceMove, r => answerRead w (fun | .done => true | _ => false) r
  | .verifyLegacyWalletZero, r => answerRead w (fun | .done => true | _ => false) r
  | .getTreasuryWalletId, r =>
      answerRead w (fun | .wallet x => x == w.treasuryWalletId | _ => false) r
  | .createNoAmountInvoice _ memo, .invoice pr =>
      if pr = ⟨w.nextId, w.clock + cutoverIbexInvoiceExpirationMs, memo⟩ then
        some { w with nextId := w.nextId + 1 }
      else none
  | .createInvoice _ _ memo, .invoice pr =>
      if pr = ⟨w.nextId, w.clock + cutoverIbexInvoiceExpirationMs, memo⟩ then
        some { w with nextId := w.nextId + 1 }
      else none
  | .createNoAmountInvoice _ _, .error _ => some w
  | .createInvoice _ _ _, .error _ => some w
  | .createNoAmountInvoice _ _, _ => none
  | .createInvoice _ _ _, _ => none
  | .payInvoice a, .transaction id =>
      if id = w.nextId then
        some { w with
          nextId := w.nextId + 1
          payments := w.payments ++ [⟨a.senderWalletId, a.paymentRequest, id⟩] }
      else none
  | .payInvoice _, .error _ => some w
  | .payInvoice _, _ => none

end World

/-! ### The operations as programs -/

namespace CutoverReply

/-- The record a repository call returned. -/
def toMigration : CutoverReply → Except CashWalletCutoverError CashWalletMigration
  | .migration m => .ok m
  | .error e => .error e
  | _ => .error .repository

/-- A wallet id a call returned. -/
def toWallet : CutoverReply → Except CashWalletCutoverError WalletId
  | .wallet x => .ok x
  | .error e => .error e
  | _ => .error .service

/-- An amount of micros a call returned. -/
def toMicros : CutoverReply → Except CashWalletCutoverError Nat
  | .micros n => .ok n
  | .error e => .error e
  | _ => .error .service

/-- An amount of cents a call returned. -/
def toCents : CutoverReply → Except CashWalletCutoverError DecimalAmount
  | .cents d => .ok d
  | .error e => .error e
  | _ => .error .service

/-- An invoice a call returned. -/
def toInvoice : CutoverReply → Except CashWalletCutoverError PaymentRequest
  | .invoice pr => .ok pr
  | .error e => .error e
  | _ => .error .service

/-- A transaction id a call returned. -/
def toTransaction : CutoverReply → Except CashWalletCutoverError TransactionId
  | .transaction id => .ok id
  | .error e => .error e
  | _ => .error .service

/-- `true` from a call that returns `true | ApplicationError`. -/
def toDone : CutoverReply → Except CashWalletCutoverError Unit
  | .done => .ok ()
  | .error e => .error e
  | _ => .error .service

/-- A time read. -/
def toTime : CutoverReply → Nat
  | .time t => t
  | _ => 0

end CutoverReply

namespace migrationsRepo

def findMigration : CutoverProg (Except CashWalletCutoverError CashWalletMigration) :=
  .call .findMigration fun r => .pure r.toMigration

def transitionMigration (args : TransitionMigrationArgs) :
    CutoverProg (Except CashWalletCutoverError CashWalletMigration) :=
  .call (.transitionMigration args) fun r => .pure r.toMigration

def acquireMigrationLock (workerId : WorkerId) (staleBefore : Nat) :
    CutoverProg (Except CashWalletCutoverError CashWalletMigration) :=
  .call (.acquireMigrationLock workerId staleBefore) fun r => .pure r.toMigration

def releaseMigrationLock (workerId : WorkerId) :
    CutoverProg (Except CashWalletCutoverError CashWalletMigration) :=
  .call (.releaseMigrationLock workerId) fun r => .pure r.toMigration

def markMigrationFailed (workerId : WorkerId) (status : CashWalletMigrationStatus) :
    CutoverProg (Except CashWalletCutoverError CashWalletMigration) :=
  .call (.markMigrationFailed workerId status) fun r => .pure r.toMigration

end migrationsRepo

namespace services

def now : CutoverProg Nat :=
  .call .now fun r => .pure r.toTime

def ensureDestinationWallet : CutoverProg (Except CashWalletCutoverError Unit) :=
  .call .ensureDestinationWallet fun r => .pure r.toDone

def readSourceBalanceUsdCents : CutoverProg (Except CashWalletCutoverError DecimalAmount) :=
  .call .readSourceBalanceUsdCents fun r => .pure r.toCents

def readDestinationBalanceUsdtMicros : CutoverProg (Except CashWalletCutoverError Nat) :=
  .call .readDestinationBalanceUsdtMicros fun r => .pure r.toMicros

def readDestinationSpendableUsdtMicros : CutoverProg (Except CashWalletCutoverError Nat) :=
  .call .readDestinationSpendableUsdtMicros fun r => .pure r.toMicros

def createNoAmountInvoice (recipientWalletId : WalletId) (memo : InvoiceMemo) :
    CutoverProg (Except CashWalletCutoverError PaymentRequest) :=
  .call (.createNoAmountInvoice recipientWalletId memo) fun r => .pure r.toInvoice

def createInvoice (recipientWalletId : WalletId) (amount : Nat) (memo : InvoiceMemo) :
    CutoverProg (Except CashWalletCutoverError PaymentRequest) :=
  .call (.createInvoice recipientWalletId amount memo) fun r => .pure r.toInvoice

def payInvoice (args : PayInvoiceArgs) :
    CutoverProg (Except CashWalletCutoverError TransactionId) :=
  .call (.payInvoice args) fun r => .pure r.toTransaction

def verifyBalanceMove : CutoverProg (Except CashWalletCutoverError Unit) :=
  .call .verifyBalanceMove fun r => .pure r.toDone

def readFeeAmountUsdtMicros : CutoverProg (Except CashWalletCutoverError Nat) :=
  .call .readFeeAmountUsdtMicros fun r => .pure r.toMicros

def getTreasuryWalletId : CutoverProg (Except CashWalletCutoverError WalletId) :=
  .call .getTreasuryWalletId fun r => .pure r.toWallet

def verifyLegacyWalletZero : CutoverProg (Except CashWalletCutoverError Unit) :=
  .call .verifyLegacyWalletZero fun r => .pure r.toDone

/-- `accountReader.getDefaultWalletId`. -/
def getDefaultWalletId : CutoverProg (Except CashWalletCutoverError WalletId) :=
  .call .findAccountDefaultWalletId fun r => .pure r.toWallet

/-- `pointerService.flipDefaultWallet` of the runtime services: read the account's default,
then point it at the destination; the read value is the "previous" default. -/
def flipDefaultWallet (destinationWalletId : WalletId) :
    CutoverProg (Except CashWalletCutoverError WalletId) :=
  .call .findAccountDefaultWalletId fun r =>
    match r.toWallet with
    | .error e => .pure (.error e)
    | .ok previousDefaultWalletId =>
        .call (.updateDefaultWalletId destinationWalletId) fun u =>
          match u.toDone with
          | .error e => .pure (.error e)
          | .ok () => .pure (.ok previousDefaultWalletId)

end services

end CashWalletCutover
