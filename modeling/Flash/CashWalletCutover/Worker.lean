import Flash.CashWalletCutover.World

/-!
# Cash-wallet cutover — the forward handlers

`worker.ts` and `handlers.ts`: one handler per runnable status, each a `CutoverProg` that checks
`assertCanTransition` on the record it was handed, awaits the services it needs and ends with one
`transitionMigration` from the status it was handed.  `executeCashWalletMigrationStep` dispatches
on the status and hands a terminal record back untouched.

The handlers read the record they were handed, not the database: between the lock and the
final write another actor may have moved the record, and then the final write's `{status: from}`
filter is what notices.  The payments (`sendCashWalletMigrationBalanceMovePayment`,
`sendCashWalletMigrationFeeReimbursementPayment`) record their transaction id only in that final
write.

Fields the model leaves out (`startedAt`, `completedAt`, `feeAmountUsdCents`,
`destinationStartingBalanceUsdtMicros`, the invoice hashes) are written by the code but read by
no modelled function; the reads and conversions that produce them stay.
-/

namespace CashWalletCutover

open Threads CashWalletMigrationStatus

/-- The result of a handler: the record it wrote, or an error. -/
abbrev StepResult := Except CashWalletCutoverError CashWalletMigration

/-- `if (transition instanceof Error) return transition`, then the rest. -/
def withTransition (fromStatus toStatus : CashWalletMigrationStatus)
    (rest : CutoverProg StepResult) : CutoverProg StepResult :=
  match assertCanTransition fromStatus toStatus with
  | .error e => .pure (.error e)
  | .ok () => rest

/-- The write every handler ends with: from the status it was handed, to `toStatus`. -/
def transitionFrom (migration : CashWalletMigration) (toStatus : CashWalletMigrationStatus)
    (patch : CashWalletMigrationPatch := {}) : CutoverProg StepResult :=
  migrationsRepo.transitionMigration { fromStatus := migration.status, toStatus, patch }

/-- `startCashWalletMigration`. -/
def startCashWalletMigration (migration : CashWalletMigration) : CutoverProg StepResult :=
  withTransition migration.status .started <|
    transitionFrom migration .started

/-- `provisionCashWalletMigrationDestination`. -/
def provisionCashWalletMigrationDestination (migration : CashWalletMigration) :
    CutoverProg StepResult :=
  withTransition migration.status .provisioned do
    match ← services.ensureDestinationWallet with
    | .error e => return .error e
    | .ok () => transitionFrom migration .provisioned

/-- `recordCashWalletMigrationBalance`. -/
def recordCashWalletMigrationBalance (migration : CashWalletMigration)
    (sourceBalanceUsdCents : DecimalAmount) : CutoverProg StepResult :=
  let destinationAmountUsdtMicros := usdCentsToUsdtMicros sourceBalanceUsdCents
  withTransition migration.status .balanceRead <|
    transitionFrom migration .balanceRead
      { sourceBalanceUsdCents := some sourceBalanceUsdCents
        destinationAmountUsdtMicros := some destinationAmountUsdtMicros }

/-- `createCashWalletMigrationBalanceMoveInvoice`. -/
def createCashWalletMigrationBalanceMoveInvoice (migration : CashWalletMigration) :
    CutoverProg StepResult :=
  withTransition migration.status .invoiceCreated do
    if migration.destinationAmountUsdtMicros.isNone then
      return .error (.invalidAmount
        "destinationAmountUsdtMicros is required before balance move invoice creation")
    match ← services.createNoAmountInvoice migration.destinationUsdtWalletId .move with
    | .error e => return .error e
    | .ok invoice =>
        transitionFrom migration .invoiceCreated
          { balanceMoveInvoicePaymentRequest := some invoice }

/-- The payment of `sendCashWalletMigrationBalanceMovePayment`, on the record whose invoice is
fresh (`payableMigration`). -/
def payCashWalletMigrationBalanceMove (payableMigration : CashWalletMigration) :
    CutoverProg StepResult := do
  let some paymentRequest := payableMigration.balanceMoveInvoicePaymentRequest
    | return .error (.invalidTransition
        "balanceMoveInvoicePaymentRequest is required before balance move payment sending")
  let some sourceBalanceUsdCents := payableMigration.sourceBalanceUsdCents
    | return .error (.invalidTransition
        "sourceBalanceUsdCents is required before balance move payment sending")
  match ← services.payInvoice
      { senderWalletId := payableMigration.legacyUsdWalletId, paymentRequest
        senderAmountUsdCents := some sourceBalanceUsdCents } with
  | .error e => return .error e
  | .ok transactionId =>
      transitionFrom payableMigration .balanceMoveSending
        { balanceMovePaymentTransactionId := some transactionId }

/-- `sendCashWalletMigrationBalanceMovePayment`: refresh a stale invoice (the
`invoice_created` self-loop), then pay it from the legacy wallet. -/
def sendCashWalletMigrationBalanceMovePayment (migration : CashWalletMigration) :
    CutoverProg StepResult :=
  withTransition migration.status .balanceMoveSending do
    let some paymentRequest := migration.balanceMoveInvoicePaymentRequest
      | return .error (.invalidTransition
          "balanceMoveInvoicePaymentRequest is required before balance move payment sending")
    if migration.sourceBalanceUsdCents.isNone then
      return .error (.invalidTransition
        "sourceBalanceUsdCents is required before balance move payment sending")
    let now ← services.now
    if isInvoicePaymentRequestStale paymentRequest now then
      match ← createCashWalletMigrationBalanceMoveInvoice migration with
      | .error e => return .error e
      | .ok refreshedMigration => payCashWalletMigrationBalanceMove refreshedMigration
    else payCashWalletMigrationBalanceMove migration

/-- `markCashWalletMigrationBalanceMoveSent`. -/
def markCashWalletMigrationBalanceMoveSent (migration : CashWalletMigration) :
    CutoverProg StepResult :=
  withTransition migration.status .balanceMoveSent do
    if migration.balanceMovePaymentTransactionId.isNone then
      return .error (.invalidTransition
        "balanceMovePaymentTransactionId is required before marking balance move sent")
    transitionFrom migration .balanceMoveSent

/-- `verifyCashWalletMigrationBalanceMove`. -/
def verifyCashWalletMigrationBalanceMove (migration : CashWalletMigration) :
    CutoverProg StepResult :=
  withTransition migration.status .balanceMoveVerified do
    if migration.balanceMovePaymentTransactionId.isNone then
      return .error (.invalidTransition
        "balanceMovePaymentTransactionId is required before verifying balance move")
    match ← services.verifyBalanceMove with
    | .error e => return .error e
    | .ok () => transitionFrom migration .balanceMoveVerified

/-- `createCashWalletMigrationFeeReimbursementInvoice`: an invoice for the fee, with no amount
when the fee is below the fixed-invoice minimum. -/
def createCashWalletMigrationFeeReimbursementInvoice (migration : CashWalletMigration)
    (feeAmountUsdtMicros : Nat) : CutoverProg StepResult :=
  withTransition migration.status .feeReimbursementInvoiceCreated do
    let invoice ←
      if usesNoAmountFeeReimbursementInvoice feeAmountUsdtMicros then
        services.createNoAmountInvoice migration.destinationUsdtWalletId .fee
      else services.createInvoice migration.destinationUsdtWalletId feeAmountUsdtMicros .fee
    match invoice with
    | .error e => return .error e
    | .ok invoice =>
        transitionFrom migration .feeReimbursementInvoiceCreated
          { feeAmountUsdtMicros := some feeAmountUsdtMicros
            feeReimbursementInvoicePaymentRequest := some invoice }

/-- `skipCashWalletMigrationFeeReimbursement`: a sub-minimum fee is absorbed. -/
def skipCashWalletMigrationFeeReimbursement (migration : CashWalletMigration)
    (feeAmountUsdtMicros : Nat) : CutoverProg StepResult :=
  withTransition migration.status .feeReimbursed <|
    transitionFrom migration .feeReimbursed { feeAmountUsdtMicros := some feeAmountUsdtMicros }

/-- The payment of `sendCashWalletMigrationFeeReimbursementPayment`, from the treasury. -/
def payCashWalletMigrationFeeReimbursement (payableMigration : CashWalletMigration)
    (treasuryWalletId : WalletId) : CutoverProg StepResult := do
  let some paymentRequest := payableMigration.feeReimbursementInvoicePaymentRequest
    | return .error (.invalidTransition
        "feeReimbursementInvoicePaymentRequest is required before fee reimbursement sending")
  let some feeAmountUsdtMicros := payableMigration.feeAmountUsdtMicros
    | return .error (.invalidTransition
        "feeAmountUsdtMicros is required before fee reimbursement sending")
  let senderAmountUsdtMicros :=
    if usesNoAmountFeeReimbursementInvoice feeAmountUsdtMicros then some feeAmountUsdtMicros
    else none
  match ← services.payInvoice
      { senderWalletId := treasuryWalletId, paymentRequest, senderAmountUsdtMicros } with
  | .error e => return .error e
  | .ok transactionId =>
      transitionFrom payableMigration .feeReimbursementSending
        { feeReimbursementPaymentTransactionId := some transactionId }

/-- `sendCashWalletMigrationFeeReimbursementPayment`. -/
def sendCashWalletMigrationFeeReimbursementPayment (migration : CashWalletMigration)
    (treasuryWalletId : WalletId) : CutoverProg StepResult :=
  withTransition migration.status .feeReimbursementSending do
    let some paymentRequest := migration.feeReimbursementInvoicePaymentRequest
      | return .error (.invalidTransition
          "feeReimbursementInvoicePaymentRequest is required before fee reimbursement sending")
    let now ← services.now
    if isInvoicePaymentRequestStale paymentRequest now then
      let some feeAmountUsdtMicros := migration.feeAmountUsdtMicros
        | return .error (.invalidTransition
            "feeAmountUsdtMicros is required before fee reimbursement invoice refresh")
      match ← createCashWalletMigrationFeeReimbursementInvoice migration feeAmountUsdtMicros with
      | .error e => return .error e
      | .ok refreshedMigration =>
          payCashWalletMigrationFeeReimbursement refreshedMigration treasuryWalletId
    else payCashWalletMigrationFeeReimbursement migration treasuryWalletId

/-- `markCashWalletMigrationFeeReimbursed`. -/
def markCashWalletMigrationFeeReimbursed (migration : CashWalletMigration) :
    CutoverProg StepResult :=
  withTransition migration.status .feeReimbursed do
    if migration.feeReimbursementPaymentTransactionId.isNone then
      return .error (.invalidTransition
        "feeReimbursementPaymentTransactionId is required before marking fee reimbursed")
    transitionFrom migration .feeReimbursed

/-- `flipCashWalletMigrationDefaultPointer`: the only write of `previousDefaultWalletId`. -/
def flipCashWalletMigrationDefaultPointer (migration : CashWalletMigration) :
    CutoverProg StepResult :=
  withTransition migration.status .pointerFlipped do
    match ← services.flipDefaultWallet migration.destinationUsdtWalletId with
    | .error e => return .error e
    | .ok previousDefaultWalletId =>
        transitionFrom migration .pointerFlipped
          { previousDefaultWalletId := some previousDefaultWalletId }

/-- `verifyCashWalletMigrationLegacyZero`. -/
def verifyCashWalletMigrationLegacyZero (migration : CashWalletMigration) :
    CutoverProg StepResult :=
  withTransition migration.status .legacyZeroVerified do
    match ← services.verifyLegacyWalletZero with
    | .error e => return .error e
    | .ok () => transitionFrom migration .legacyZeroVerified

/-- `completeCashWalletMigration`. -/
def completeCashWalletMigration (migration : CashWalletMigration) : CutoverProg StepResult :=
  withTransition migration.status .complete <|
    transitionFrom migration .complete

/-! ### The handlers and the executor -/

/-- `createCashWalletMigrationStepHandlers`, at the status the record was handed with. -/
def cashWalletMigrationStepHandler (migration : CashWalletMigration) :
    CashWalletMigrationStatus → CutoverProg StepResult
  | .notStarted => startCashWalletMigration migration
  | .started => provisionCashWalletMigrationDestination migration
  | .provisioned => do
      match ← services.readSourceBalanceUsdCents with
      | .error e => return .error e
      | .ok sourceBalanceUsdCents =>
          match ← services.readDestinationBalanceUsdtMicros with
          | .error e => return .error e
          | .ok _ => recordCashWalletMigrationBalance migration sourceBalanceUsdCents
  | .balanceRead =>
      if migration.destinationAmountUsdtMicros = some 0 then
        flipCashWalletMigrationDefaultPointer migration
      else createCashWalletMigrationBalanceMoveInvoice migration
  | .invoiceCreated => sendCashWalletMigrationBalanceMovePayment migration
  | .balanceMoveSending => markCashWalletMigrationBalanceMoveSent migration
  | .balanceMoveSent => verifyCashWalletMigrationBalanceMove migration
  | .balanceMoveVerified => do
      match ← services.readFeeAmountUsdtMicros with
      | .error e => return .error e
      | .ok feeAmountUsdtMicros =>
          if isSubMinimumFeeReimbursementAmount feeAmountUsdtMicros then
            skipCashWalletMigrationFeeReimbursement migration feeAmountUsdtMicros
          else createCashWalletMigrationFeeReimbursementInvoice migration feeAmountUsdtMicros
  | .feeReimbursementInvoiceCreated => do
      match ← services.getTreasuryWalletId with
      | .error e => return .error e
      | .ok treasuryWalletId =>
          sendCashWalletMigrationFeeReimbursementPayment migration treasuryWalletId
  | .feeReimbursementSending => markCashWalletMigrationFeeReimbursed migration
  | .feeReimbursed => flipCashWalletMigrationDefaultPointer migration
  | .pointerFlipped => verifyCashWalletMigrationLegacyZero migration
  | .legacyZeroVerified => completeCashWalletMigration migration
  -- the terminal statuses have no handler; the executor never reaches these
  | _ => .pure (.ok migration)

/-- `executeCashWalletMigrationStep`. -/
def executeCashWalletMigrationStep (migration : CashWalletMigration) : CutoverProg StepResult :=
  if migration.status ∈ terminalStatuses then .pure (.ok migration)
  else cashWalletMigrationStepHandler migration migration.status

end CashWalletCutover
