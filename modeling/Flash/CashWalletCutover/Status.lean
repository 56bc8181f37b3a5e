import Mathlib

/-!
# Cash-wallet cutover — statuses

The status of a migration record (`CashWalletMigrationStatus`), the transition table of
`state-machine.ts` and the status lists the runner, the executor and the rollback code consult.
`assertCanTransition` is the one check every forward handler and the rollback request make
before they write; it is the reference the run-level results compare the writes against.

The errors of the cutover code are gathered here too, one constructor per error class of
`errors.ts` (and the repository's `CouldNotUpdateError`), each with the message the code builds.
-/

namespace CashWalletCutover

/-- `CashWalletMigrationStatus`. -/
inductive CashWalletMigrationStatus where
  | notStarted
  | started
  | provisioned
  | balanceRead
  | invoiceCreated
  | balanceMoveSending
  | balanceMoveSent
  | balanceMoveVerified
  | feeReimbursementInvoiceCreated
  | feeReimbursementSending
  | feeReimbursed
  | pointerFlipped
  | legacyZeroVerified
  | complete
  | failed
  | requiresOperatorReview
  | skippedAlreadyMigrated
  | rollbackStarted
  | rolledBack
  deriving DecidableEq, Repr

namespace CashWalletMigrationStatus

/-- The status as the database stores it. -/
def name : CashWalletMigrationStatus → String
  | .notStarted => "not_started"
  | .started => "started"
  | .provisioned => "provisioned"
  | .balanceRead => "balance_read"
  | .invoiceCreated => "invoice_created"
  | .balanceMoveSending => "balance_move_sending"
  | .balanceMoveSent => "balance_move_sent"
  | .balanceMoveVerified => "balance_move_verified"
  | .feeReimbursementInvoiceCreated => "fee_reimbursement_invoice_created"
  | .feeReimbursementSending => "fee_reimbursement_sending"
  | .feeReimbursed => "fee_reimbursed"
  | .pointerFlipped => "pointer_flipped"
  | .legacyZeroVerified => "legacy_zero_verified"
  | .complete => "complete"
  | .failed => "failed"
  | .requiresOperatorReview => "requires_operator_review"
  | .skippedAlreadyMigrated => "skipped_already_migrated"
  | .rollbackStarted => "rollback_started"
  | .rolledBack => "rolled_back"

end CashWalletMigrationStatus

open CashWalletMigrationStatus

/-- The errors the cutover code returns. -/
inductive CashWalletCutoverError where
  /-- `InvalidCashWalletCutoverAmountError`. -/
  | invalidAmount (message : String)
  /-- `InvalidCashWalletMigrationTransitionError`. -/
  | invalidTransition (message : String)
  /-- `CashWalletMigrationFailedError`. -/
  | migrationFailed (message : String)
  /-- `CashWalletCutoverInProgressError`. -/
  | cutoverInProgress
  /-- `CashWalletCutoverPreflightError`. -/
  | preflight
  /-- `CashWalletMissingUsdtWalletError`. -/
  | missingUsdtWallet (message : String)
  /-- `CashWalletMissingLegacyUsdWalletError`. -/
  | missingLegacyUsdWallet
  /-- `CouldNotUpdateError`, from a guarded write that matched no record. -/
  | couldNotUpdate (message : String)
  /-- A `RepositoryError` from a database call that threw. -/
  | repository
  /-- An `ApplicationError` from a service outside this code (IBEX, the wallets). -/
  | service
  deriving DecidableEq, Repr

/-! ### The transition table -/

/-- `transitions`; a status with no entry has no edge out. -/
def transitions : CashWalletMigrationStatus → List CashWalletMigrationStatus
  | .notStarted => [.started, .rollbackStarted]
  | .started => [.provisioned, .failed, .rollbackStarted]
  | .provisioned => [.balanceRead, .failed, .skippedAlreadyMigrated, .rollbackStarted]
  | .balanceRead => [.invoiceCreated, .pointerFlipped, .failed, .rollbackStarted]
  | .invoiceCreated =>
      [.invoiceCreated, .balanceMoveSending, .failed, .requiresOperatorReview, .rollbackStarted]
  | .balanceMoveSending =>
      [.balanceMoveSent, .failed, .requiresOperatorReview, .rollbackStarted]
  | .balanceMoveSent =>
      [.balanceMoveVerified, .failed, .requiresOperatorReview, .rollbackStarted]
  | .balanceMoveVerified =>
      [.feeReimbursementInvoiceCreated, .feeReimbursed, .failed, .requiresOperatorReview,
        .rollbackStarted]
  | .feeReimbursementInvoiceCreated =>
      [.feeReimbursementInvoiceCreated, .feeReimbursementSending, .failed,
        .requiresOperatorReview, .rollbackStarted]
  | .feeReimbursementSending =>
      [.feeReimbursed, .failed, .requiresOperatorReview, .rollbackStarted]
  | .feeReimbursed => [.pointerFlipped, .failed, .rollbackStarted]
  | .pointerFlipped => [.legacyZeroVerified, .failed, .rollbackStarted]
  | .legacyZeroVerified => [.complete, .failed, .rollbackStarted]
  | .complete => [.rollbackStarted]
  | .failed => [.rollbackStarted, .notStarted, .pointerFlipped]
  | .requiresOperatorReview => [.rollbackStarted]
  | .rollbackStarted => [.rollbackStarted, .rolledBack, .failed, .requiresOperatorReview]
  | .skippedAlreadyMigrated => []
  | .rolledBack => []

/-- `from -> to` is an edge of the table. -/
def CanTransition (fromStatus toStatus : CashWalletMigrationStatus) : Prop :=
  toStatus ∈ transitions fromStatus

instance (a b : CashWalletMigrationStatus) : Decidable (CanTransition a b) :=
  inferInstanceAs (Decidable (b ∈ transitions a))

/-- `assertCanTransition`. -/
def assertCanTransition (fromStatus toStatus : CashWalletMigrationStatus) :
    Except CashWalletCutoverError Unit :=
  if toStatus ∈ transitions fromStatus then .ok ()
  else .error (.invalidTransition
    ("Invalid migration transition: " ++ fromStatus.name ++ " -> " ++ toStatus.name))

theorem assertCanTransition_ok_iff (a b : CashWalletMigrationStatus) :
    assertCanTransition a b = .ok () ↔ CanTransition a b := by
  unfold assertCanTransition CanTransition
  split <;> simp_all

/-! ### The status lists -/

/-- `ROLLBACKABLE_STATUSES`. -/
def rollbackableStatuses : List CashWalletMigrationStatus :=
  [.notStarted, .started, .provisioned, .balanceRead, .invoiceCreated, .balanceMoveSending,
    .balanceMoveSent, .balanceMoveVerified, .feeReimbursementInvoiceCreated,
    .feeReimbursementSending, .feeReimbursed, .pointerFlipped, .legacyZeroVerified, .complete,
    .failed, .requiresOperatorReview]

/-- `isRollbackableCashWalletMigrationStatus`. -/
def isRollbackableCashWalletMigrationStatus (s : CashWalletMigrationStatus) : Bool :=
  s ∈ rollbackableStatuses

/-- `AMBIGUOUS_SIDE_EFFECT_STATUSES`: a failure here may follow a payment or a pointer flip. -/
def ambiguousSideEffectStatuses : List CashWalletMigrationStatus :=
  [.invoiceCreated, .balanceMoveSending, .balanceMoveSent, .balanceMoveVerified,
    .feeReimbursementInvoiceCreated, .feeReimbursementSending, .feeReimbursed, .pointerFlipped]

/-- `failureStatusForMigration`. -/
def failureStatusForMigration (s : CashWalletMigrationStatus) : CashWalletMigrationStatus :=
  if s ∈ ambiguousSideEffectStatuses then .requiresOperatorReview else .failed

/-- `TERMINAL_STATUSES` of the repository, the same list as the executor's `terminalStatuses`:
the statuses no forward batch lists and no forward handler runs on. -/
def terminalStatuses : List CashWalletMigrationStatus :=
  [.complete, .failed, .requiresOperatorReview, .skippedAlreadyMigrated, .rollbackStarted,
    .rolledBack]

/-- The rollback list is exactly the set of statuses with an edge into `rollback_started`,
less `rollback_started` itself, whose self-loop records rollback progress. -/
theorem mem_rollbackableStatuses_iff (s : CashWalletMigrationStatus) :
    s ∈ rollbackableStatuses ↔ CanTransition s .rollbackStarted ∧ s ≠ .rollbackStarted := by
  cases s <;> decide

theorem failureStatusForMigration_cases (s : CashWalletMigrationStatus) :
    failureStatusForMigration s = .failed ∨ failureStatusForMigration s = .requiresOperatorReview := by
  unfold failureStatusForMigration
  split
  · exact .inr rfl
  · exact .inl rfl

/-- Out of `rollback_started` the table leads only back into rollback, to `rolled_back`, or
to the two failure statuses. -/
theorem canTransition_rollbackStarted {s : CashWalletMigrationStatus}
    (h : CanTransition .rollbackStarted s) :
    s = .rollbackStarted ∨ s = .rolledBack ∨ s = .failed ∨ s = .requiresOperatorReview := by
  simpa [CanTransition, transitions] using h

end CashWalletCutover
