import Flash.CashWalletCutover.Status

/-!
# Cash-wallet cutover — the migration record

A migration record (`CashWalletMigration`) with the fields the forward handlers, the rollback
step, the runner and retry-failed read; the partial updates the repository applies
(`CashWalletMigrationPatch`, the `patch` and `clear` of `transitionMigration`); the invoices the
pipeline creates and pays; and the decimal conversion of `amount-conversion.ts` that turns the
legacy wallet's balance in cents into the USDT micros the balance move sends.

Identifiers (wallets, workers, transactions, invoices) are numbers, and a time is a number of
milliseconds.  A payment request carries what decoding it yields: its expiry, and the memo the
pipeline gave it, which says which of the four payments it is for.
-/

namespace CashWalletCutover

/-- A wallet id. -/
abbrev WalletId := Nat

/-- The id of a batch worker (`workerId`). -/
abbrev WorkerId := Nat

/-- An IBEX transaction id. -/
abbrev TransactionId := Nat

/-- The memo suffix of a cutover invoice (`cwco:…:move`, `cwco:…:fee`, `cwco-rb:…:move`,
`cwco-rb:…:shortfall`): the payment the invoice is for. -/
inductive InvoiceMemo where
  | move
  | fee
  | rollbackMove
  | rollbackShortfall
  deriving DecidableEq, Repr

/-- A BOLT11 payment request, as `decodeInvoice` reads it. -/
structure PaymentRequest where
  id : Nat
  expiresAt : Nat
  memo : InvoiceMemo
  deriving DecidableEq, Repr

/-- A non-negative decimal string `whole.fraction`, the form the balance reader returns an
amount of cents in. -/
structure DecimalAmount where
  whole : Nat
  fraction : List (Fin 10)
  deriving DecidableEq, Repr

/-- The value of a string of digits. -/
def digitsValue (ds : List (Fin 10)) : Nat :=
  ds.foldl (fun acc d => 10 * acc + d.val) 0

/-- `decimalToScaledInteger` of `amount-conversion.ts`: scale by `10^scale`, rounding half up on
the first dropped digit. -/
def decimalToScaledInteger (value : DecimalAmount) (scale : Nat) : Nat :=
  let paddedFraction := (value.fraction ++ List.replicate (scale + 1) 0).take (scale + 1)
  let scaledFraction := paddedFraction.take scale
  let roundingDigit := (paddedFraction[scale]?).getD 0
  let scaled := value.whole * 10 ^ scale + digitsValue scaledFraction
  scaled + if 5 ≤ roundingDigit.val then 1 else 0

/-- `usdCentsToUsdtMicros`: one cent is `10^4` micros. -/
def usdCentsToUsdtMicros (usdCents : DecimalAmount) : Nat :=
  decimalToScaledInteger usdCents 4

/-- `legacyShortfallUsdtMicros`: what the legacy wallet still lacks against the balance it
migrated with. -/
def legacyShortfallUsdtMicros (sourceUsdCents currentUsdCents : DecimalAmount) : Nat :=
  let sourceMicros := usdCentsToUsdtMicros sourceUsdCents
  let currentMicros := usdCentsToUsdtMicros currentUsdCents
  if sourceMicros ≤ currentMicros then 0 else sourceMicros - currentMicros

/-- `CUTOVER_MIN_FIXED_USDT_INVOICE_MICROS`. -/
def cutoverMinFixedUsdtInvoiceMicros : Nat := 10000

/-- `CUTOVER_MIN_PAYABLE_USDT_MICROS`. -/
def cutoverMinPayableUsdtMicros : Nat := 2500

/-- `CUTOVER_INVOICE_PAYMENT_SAFETY_WINDOW_MS`. -/
def cutoverInvoicePaymentSafetyWindowMs : Nat := 30 * 1000

/-- `ROLLBACK_SHORTFALL_TOLERANCE_USDT_MICROS`. -/
def rollbackShortfallToleranceUsdtMicros : Nat := 10000

/-- `usesNoAmountFeeReimbursementInvoice`. -/
def usesNoAmountFeeReimbursementInvoice (feeAmountUsdtMicros : Nat) : Bool :=
  feeAmountUsdtMicros < cutoverMinFixedUsdtInvoiceMicros

/-- `isSubMinimumFeeReimbursementAmount`. -/
def isSubMinimumFeeReimbursementAmount (feeAmountUsdtMicros : Nat) : Bool :=
  feeAmountUsdtMicros < cutoverMinPayableUsdtMicros

/-- `isInvoicePaymentRequestStale`, at the default `safetyWindowMs` every caller uses: the
invoice expires within the safety window. -/
def isInvoicePaymentRequestStale (paymentRequest : PaymentRequest) (now : Nat) : Bool :=
  paymentRequest.expiresAt ≤ now + cutoverInvoicePaymentSafetyWindowMs

/-! ### The record -/

/-- `CashWalletMigration`, with the fields the modelled code reads. -/
structure CashWalletMigration where
  accountId : Nat
  legacyUsdWalletId : WalletId
  destinationUsdtWalletId : WalletId
  previousDefaultWalletId : Option WalletId := none
  status : CashWalletMigrationStatus := .notStarted
  sourceBalanceUsdCents : Option DecimalAmount := none
  destinationAmountUsdtMicros : Option Nat := none
  feeAmountUsdtMicros : Option Nat := none
  balanceMoveInvoicePaymentRequest : Option PaymentRequest := none
  balanceMovePaymentTransactionId : Option TransactionId := none
  feeReimbursementInvoicePaymentRequest : Option PaymentRequest := none
  feeReimbursementPaymentTransactionId : Option TransactionId := none
  lockedAt : Option Nat := none
  lockedBy : Option WorkerId := none
  rollbackPointerRestoredAt : Option Nat := none
  rollbackInvoicePaymentRequest : Option PaymentRequest := none
  rollbackPaymentTransactionId : Option TransactionId := none
  rollbackShortfallInvoicePaymentRequest : Option PaymentRequest := none
  rollbackShortfallPaymentTransactionId : Option TransactionId := none
  deriving DecidableEq, Repr

/-- The fields a `patch` of `transitionMigration` sets; `none` leaves a field alone. -/
structure CashWalletMigrationPatch where
  previousDefaultWalletId : Option WalletId := none
  sourceBalanceUsdCents : Option DecimalAmount := none
  destinationAmountUsdtMicros : Option Nat := none
  feeAmountUsdtMicros : Option Nat := none
  balanceMoveInvoicePaymentRequest : Option PaymentRequest := none
  balanceMovePaymentTransactionId : Option TransactionId := none
  feeReimbursementInvoicePaymentRequest : Option PaymentRequest := none
  feeReimbursementPaymentTransactionId : Option TransactionId := none
  rollbackPointerRestoredAt : Option Nat := none
  rollbackInvoicePaymentRequest : Option PaymentRequest := none
  rollbackPaymentTransactionId : Option TransactionId := none
  rollbackShortfallInvoicePaymentRequest : Option PaymentRequest := none
  rollbackShortfallPaymentTransactionId : Option TransactionId := none
  deriving DecidableEq, Repr

/-- The fields retry-failed may `$unset` (its `clear` list, less the fields not modelled). -/
inductive MigrationField where
  | sourceBalanceUsdCents
  | destinationAmountUsdtMicros
  | feeAmountUsdtMicros
  | balanceMoveInvoicePaymentRequest
  | feeReimbursementInvoicePaymentRequest
  deriving DecidableEq, Repr

namespace CashWalletMigration

/-- `$set` of a patch. -/
def applyPatch (m : CashWalletMigration) (p : CashWalletMigrationPatch) : CashWalletMigration :=
  { m with
    previousDefaultWalletId := p.previousDefaultWalletId <|> m.previousDefaultWalletId
    sourceBalanceUsdCents := p.sourceBalanceUsdCents <|> m.sourceBalanceUsdCents
    destinationAmountUsdtMicros := p.destinationAmountUsdtMicros <|> m.destinationAmountUsdtMicros
    feeAmountUsdtMicros := p.feeAmountUsdtMicros <|> m.feeAmountUsdtMicros
    balanceMoveInvoicePaymentRequest :=
      p.balanceMoveInvoicePaymentRequest <|> m.balanceMoveInvoicePaymentRequest
    balanceMovePaymentTransactionId :=
      p.balanceMovePaymentTransactionId <|> m.balanceMovePaymentTransactionId
    feeReimbursementInvoicePaymentRequest :=
      p.feeReimbursementInvoicePaymentRequest <|> m.feeReimbursementInvoicePaymentRequest
    feeReimbursementPaymentTransactionId :=
      p.feeReimbursementPaymentTransactionId <|> m.feeReimbursementPaymentTransactionId
    rollbackPointerRestoredAt := p.rollbackPointerRestoredAt <|> m.rollbackPointerRestoredAt
    rollbackInvoicePaymentRequest :=
      p.rollbackInvoicePaymentRequest <|> m.rollbackInvoicePaymentRequest
    rollbackPaymentTransactionId :=
      p.rollbackPaymentTransactionId <|> m.rollbackPaymentTransactionId
    rollbackShortfallInvoicePaymentRequest :=
      p.rollbackShortfallInvoicePaymentRequest <|> m.rollbackShortfallInvoicePaymentRequest
    rollbackShortfallPaymentTransactionId :=
      p.rollbackShortfallPaymentTransactionId <|> m.rollbackShortfallPaymentTransactionId }

/-- `$unset` of one field. -/
def clearField (m : CashWalletMigration) : MigrationField → CashWalletMigration
  | .sourceBalanceUsdCents => { m with sourceBalanceUsdCents := none }
  | .destinationAmountUsdtMicros => { m with destinationAmountUsdtMicros := none }
  | .feeAmountUsdtMicros => { m with feeAmountUsdtMicros := none }
  | .balanceMoveInvoicePaymentRequest => { m with balanceMoveInvoicePaymentRequest := none }
  | .feeReimbursementInvoicePaymentRequest =>
      { m with feeReimbursementInvoicePaymentRequest := none }

/-- The update of `transitionMigration`: `$set` the patch and the status, `$unset` the cleared
fields. -/
def transitioned (m : CashWalletMigration) (toStatus : CashWalletMigrationStatus)
    (patch : CashWalletMigrationPatch) (clear : List MigrationField) : CashWalletMigration :=
  { clear.foldl clearField (m.applyPatch patch) with status := toStatus }

/-- No payment of the forward pipeline is recorded on the record. -/
def holdsNoPaymentTransaction (m : CashWalletMigration) : Bool :=
  m.balanceMovePaymentTransactionId.isNone && m.feeReimbursementPaymentTransactionId.isNone

@[simp] theorem transitioned_status (m : CashWalletMigration) (t : CashWalletMigrationStatus)
    (p : CashWalletMigrationPatch) (c : List MigrationField) :
    (m.transitioned t p c).status = t := rfl

theorem foldl_clearField_lock (m : CashWalletMigration) (c : List MigrationField) :
    (c.foldl clearField m).lockedAt = m.lockedAt ∧ (c.foldl clearField m).lockedBy = m.lockedBy := by
  induction c generalizing m with
  | nil => exact ⟨rfl, rfl⟩
  | cons f c ih =>
      obtain ⟨h₁, h₂⟩ := ih (m.clearField f)
      cases f <;> exact ⟨h₁, h₂⟩

/-- A transition leaves the lock where it was: `transitionMigration` does not touch it. -/
@[simp] theorem transitioned_lockedBy (m : CashWalletMigration) (t : CashWalletMigrationStatus)
    (p : CashWalletMigrationPatch) (c : List MigrationField) :
    (m.transitioned t p c).lockedBy = m.lockedBy :=
  (foldl_clearField_lock _ c).2

@[simp] theorem transitioned_lockedAt (m : CashWalletMigration) (t : CashWalletMigrationStatus)
    (p : CashWalletMigrationPatch) (c : List MigrationField) :
    (m.transitioned t p c).lockedAt = m.lockedAt :=
  (foldl_clearField_lock _ c).1

end CashWalletMigration

end CashWalletCutover
