import Flash.CashWalletCutover.Worker

/-!
# Cash-wallet cutover — rollback, rollback requests and retry-failed

`rollback-worker.ts`, `rollback.ts` and `retry-failed.ts`.

* `executeCashWalletMigrationRollbackStep` resumes a rollback from the fields it finds on the
  record: restore the default-wallet pointer when `previousDefaultWalletId` says the forward
  pipeline flipped it, reverse the balance move when `balanceMovePaymentTransactionId` says one
  was sent, top up a remaining shortfall from the treasury once, and finalise.  Each sub-step
  records its artifact with a `rollback_started` self-loop; the step is cut here into its three
  stages.
* `requestCashWalletMigrationRollback` moves a record into `rollback_started` from the status it
  read, with no lock.
* `retryFailedCashWalletMigrations` moves `failed` records back to `not_started`, or to
  `pointer_flipped` when `previousDefaultWalletId` is set, skipping records with a recorded
  payment.

The reports these return keep their counters; the per-status maps and id lists are left out.
-/

namespace CashWalletCutover

open Threads CashWalletMigrationStatus

/-- `patchRollbackProgress`: the `rollback_started` self-loop that records a sub-step. -/
def patchRollbackProgress (patch : CashWalletMigrationPatch) : CutoverProg StepResult :=
  migrationsRepo.transitionMigration
    { fromStatus := .rollbackStarted, toStatus := .rollbackStarted, patch }

/-- Step 1 of the rollback: restore the pointer, then record that it was restored. -/
def restoreRollbackPointer (current : CashWalletMigration) : CutoverProg StepResult := do
  if current.rollbackPointerRestoredAt.isSome then return .ok current
  if let some previousDefaultWalletId := current.previousDefaultWalletId then
    match ← services.getDefaultWalletId with
    | .error e => return .error e
    | .ok defaultWalletId =>
        if defaultWalletId = current.destinationUsdtWalletId then
          match ← services.flipDefaultWallet previousDefaultWalletId with
          | .error e => return .error e
          | .ok _ => pure ()
  let now ← services.now
  patchRollbackProgress { rollbackPointerRestoredAt := some now }

/-- The reverse payment of step 2, once the reverse amount has passed its checks. -/
def payRollbackBalanceMove (current : CashWalletMigration) (reverseAmount : Nat) :
    CutoverProg StepResult := do
  let refreshed ←
    match current.rollbackInvoicePaymentRequest with
    | some paymentRequest => do
        let now ← services.now
        if isInvoicePaymentRequestStale paymentRequest now then
          createRollbackInvoice current .rollbackMove
        else pure (.ok current)
    | none => createRollbackInvoice current .rollbackMove
  match refreshed with
  | .error e => return .error e
  | .ok current =>
      let some paymentRequest := current.rollbackInvoicePaymentRequest
        | return .error (.invalidTransition
            "rollbackInvoicePaymentRequest is required before reverse payment sending")
      match ← services.payInvoice
          { senderWalletId := current.destinationUsdtWalletId, paymentRequest
            senderAmountUsdtMicros := some reverseAmount } with
      | .error e => return .error e
      | .ok transactionId =>
          patchRollbackProgress { rollbackPaymentTransactionId := some transactionId }
where
  /-- A fresh invoice on the legacy wallet, recorded on the record. -/
  createRollbackInvoice (current : CashWalletMigration) (memo : InvoiceMemo) :
      CutoverProg StepResult := do
    match ← services.createNoAmountInvoice current.legacyUsdWalletId memo with
    | .error e => return .error e
    | .ok invoice => patchRollbackProgress { rollbackInvoicePaymentRequest := some invoice }

/-- Step 2 of the rollback: reverse the balance move, by the spendable USDT balance capped at
the forward amount. -/
def reverseRollbackBalanceMove (current : CashWalletMigration) : CutoverProg StepResult := do
  let some target := current.destinationAmountUsdtMicros
    | return .error (.invalidTransition
        "destinationAmountUsdtMicros is required to reverse a sent balance move")
  if target = 0 then return .ok current
  match ← services.readDestinationSpendableUsdtMicros with
  | .error e => return .error e
  | .ok spendable =>
      let reverseAmount := min spendable target
      let shortfall := target - reverseAmount
      if rollbackShortfallToleranceUsdtMicros < shortfall then
        return .error (.migrationFailed ("USDT balance " ++ toString spendable ++
          " is short of reverse target " ++ toString target ++ " by " ++ toString shortfall ++
          " micros (> tolerance) — likely spent post-cutover"))
      if reverseAmount < cutoverMinPayableUsdtMicros then
        return .error (.migrationFailed ("Reverse amount " ++ toString reverseAmount ++
          " micros is below IBEX's minimum payable — target " ++ toString target ++
          ", spendable " ++ toString spendable ++ "; resolve manually"))
      payRollbackBalanceMove current reverseAmount

/-- The treasury top-up of step 3, for a shortfall above tolerance with none paid yet. -/
def payRollbackShortfall (current : CashWalletMigration) (shortfall : Nat) :
    CutoverProg StepResult := do
  match ← services.getTreasuryWalletId with
  | .error e => return .error e
  | .ok treasuryWalletId =>
      let refreshed ←
        match current.rollbackShortfallInvoicePaymentRequest with
        | some paymentRequest => do
            let now ← services.now
            if isInvoicePaymentRequestStale paymentRequest now then
              createShortfallInvoice current
            else pure (.ok current)
        | none => createShortfallInvoice current
      match refreshed with
      | .error e => return .error e
      | .ok current =>
          let some paymentRequest := current.rollbackShortfallInvoicePaymentRequest
            | return .error (.invalidTransition
                "rollbackShortfallInvoicePaymentRequest is required before shortfall payment")
          match ← services.payInvoice
              { senderWalletId := treasuryWalletId, paymentRequest
                senderAmountUsdtMicros := some shortfall } with
          | .error e => return .error e
          | .ok transactionId =>
              -- left in `rollback_started`: the next pass re-reads the balance and finalises
              patchRollbackProgress { rollbackShortfallPaymentTransactionId := some transactionId }
where
  /-- A fresh shortfall invoice on the legacy wallet, recorded on the record. -/
  createShortfallInvoice (current : CashWalletMigration) : CutoverProg StepResult := do
    match ← services.createNoAmountInvoice current.legacyUsdWalletId .rollbackShortfall with
    | .error e => return .error e
    | .ok invoice =>
        patchRollbackProgress { rollbackShortfallInvoicePaymentRequest := some invoice }

/-- `rolled_back`, the last write of a rollback. -/
def finalizeRollback : CutoverProg StepResult :=
  migrationsRepo.transitionMigration { fromStatus := .rollbackStarted, toStatus := .rolledBack }

/-- Steps 3 and 4 of the rollback: top up a shortfall once, else verify and finalise. -/
def settleRollback (current : CashWalletMigration) (forwardMovedFunds : Bool) :
    CutoverProg StepResult := do
  if !forwardMovedFunds then return ← finalizeRollback
  let some sourceBalanceUsdCents := current.sourceBalanceUsdCents
    | return .error (.invalidTransition "sourceBalanceUsdCents is required to verify a rollback")
  match ← services.readSourceBalanceUsdCents with
  | .error e => return .error e
  | .ok currentUsdCents =>
      let shortfall := legacyShortfallUsdtMicros sourceBalanceUsdCents currentUsdCents
      if rollbackShortfallToleranceUsdtMicros < shortfall then
        if current.rollbackShortfallPaymentTransactionId.isSome then
          return .error (.migrationFailed ("Legacy wallet still short " ++ toString shortfall ++
            " USDT micros after treasury top-up"))
        payRollbackShortfall current shortfall
      else finalizeRollback

/-- `executeCashWalletMigrationRollbackStep`. -/
def executeCashWalletMigrationRollbackStep (migration : CashWalletMigration) :
    CutoverProg StepResult := do
  if migration.status ≠ .rollbackStarted then
    return .error (.invalidTransition
      ("Rollback step requires status rollback_started, got: " ++ migration.status.name))
  match ← restoreRollbackPointer migration with
  | .error e => return .error e
  | .ok current =>
      let forwardMovedFunds := current.balanceMovePaymentTransactionId.isSome
      if forwardMovedFunds && current.rollbackPaymentTransactionId.isNone then
        match ← reverseRollbackBalanceMove current with
        | .error e => return .error e
        | .ok current => settleRollback current forwardMovedFunds
      else settleRollback current forwardMovedFunds

/-! ### Rollback requests -/

/-- `requestCashWalletMigrationRollback`: no lock, the filter is the status it read. -/
def requestCashWalletMigrationRollback (migration : CashWalletMigration) :
    CutoverProg StepResult :=
  withTransition migration.status .rollbackStarted <|
    transitionFrom migration .rollbackStarted

/-- The counters of `CashWalletRollbackRequestReport`. -/
structure CashWalletRollbackRequestReport where
  eligible : Nat := 0
  requested : Nat := 0
  skipped : Nat := 0
  deriving DecidableEq, Repr

/-- `requestPrimaryCashWalletRollback`, for the account's record: single-account mode when
`singleAccount`, else the run-wide list (which holds the record when its status is rollbackable,
`rollback_started` or `rolled_back`). -/
def requestPrimaryCashWalletRollback (singleAccount dryRun : Bool) :
    CutoverProg (Except CashWalletCutoverError CashWalletRollbackRequestReport) := do
  match ← migrationsRepo.findMigration with
  | .error e => return .error e
  | .ok migration =>
      let listed := singleAccount || isRollbackableCashWalletMigrationStatus migration.status ||
        migration.status = .rollbackStarted || migration.status = .rolledBack
      if !listed then return .ok {}
      if !isRollbackableCashWalletMigrationStatus migration.status then
        return .ok { skipped := 1 }
      if dryRun then return .ok { eligible := 1 }
      match ← requestCashWalletMigrationRollback migration with
      | .error e => return .error e
      | .ok _ => return .ok { eligible := 1, requested := 1 }

/-! ### Retry-failed -/

/-- The counters of `CashWalletRetryFailedReport`. -/
structure CashWalletRetryFailedReport where
  eligible : Nat := 0
  retried : Nat := 0
  skippedMoneyMoved : Nat := 0
  conflicts : Nat := 0
  deriving DecidableEq, Repr

/-- The fields a reset to `not_started` clears. -/
def retryResetClearedFields : List MigrationField :=
  [.sourceBalanceUsdCents, .destinationAmountUsdtMicros, .feeAmountUsdtMicros,
    .balanceMoveInvoicePaymentRequest, .feeReimbursementInvoicePaymentRequest]

/-- The status retry-failed resumes a migration at. -/
def retryResumeStatus (migration : CashWalletMigration) : CashWalletMigrationStatus :=
  if migration.previousDefaultWalletId.isSome then .pointerFlipped else .notStarted

/-- The loop body of `retryFailedCashWalletMigrations` for one candidate. -/
def retryFailedCandidate (migration : CashWalletMigration) (dryRun : Bool) :
    CutoverProg CashWalletRetryFailedReport := do
  if !migration.holdsNoPaymentTransaction then return { skippedMoneyMoved := 1 }
  let resumeStatus := retryResumeStatus migration
  if dryRun then return { eligible := 1 }
  let clear := if resumeStatus = .notStarted then retryResetClearedFields else []
  match ← migrationsRepo.transitionMigration
      { fromStatus := .failed, toStatus := resumeStatus, clear } with
  | .error _ => return { conflicts := 1 }
  | .ok _ => return { eligible := 1, retried := 1 }

/-- `retryFailedCashWalletMigrations`, for the account's record: single-account mode when
`singleAccount` (an error unless the record is `failed`), else the run's `failed` list. -/
def retryFailedCashWalletMigrations (singleAccount dryRun : Bool) :
    CutoverProg (Except CashWalletCutoverError CashWalletRetryFailedReport) := do
  match ← migrationsRepo.findMigration with
  | .error e => return .error e
  | .ok migration =>
      if migration.status ≠ .failed then
        if singleAccount then
          return .error (.migrationFailed ("Migration for accountId=" ++
            toString migration.accountId ++ " is " ++ migration.status.name ++ ", not failed"))
        return .ok {}
      return .ok (← retryFailedCandidate migration dryRun)

end CashWalletCutover
