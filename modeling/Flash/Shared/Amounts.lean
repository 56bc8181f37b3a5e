import Mathlib

/-!
# Shared — wallet currencies and payment amounts

`WalletCurrency` of `domain/shared/primitives.ts`, and the payment amounts of
`domain/shared/calculator.ts`: a `PaymentAmount<T>` is a bigint amount whose currency is fixed by
its type, so a BTC amount cannot carry another currency.  Of the calculator `sub` is here, its
divisions in `Shared.Calculator`.  `checkedToBtcPaymentAmount` and `checkedToUsdPaymentAmount`
of `domain/shared/amount.ts` turn a user's number into an amount, or refuse it.
-/

namespace Shared

/-- `WalletCurrency`. -/
inductive WalletCurrency where
  | usd
  | jmd
  | btc
  | usdt
  deriving DecidableEq, Repr

/-- `PaymentAmount<T>`: a bigint amount in currency `T`. -/
structure PaymentAmount (T : WalletCurrency) where
  amount : Int
  deriving DecidableEq, Repr

/-- `BtcPaymentAmount`, in satoshis. -/
abbrev BtcPaymentAmount := PaymentAmount .btc

/-- `UsdPaymentAmount`, in cents. -/
abbrev UsdPaymentAmount := PaymentAmount .usd

/-- The `currency` field of a payment amount: its type's currency. -/
def PaymentAmount.currency {T : WalletCurrency} (_ : PaymentAmount T) : WalletCurrency := T

/-- `AmountCalculator().sub`. -/
def AmountCalculator.sub {T : WalletCurrency} (a b : PaymentAmount T) : PaymentAmount T :=
  ⟨a.amount - b.amount⟩

@[simp] theorem AmountCalculator.sub_amount {T : WalletCurrency} (a b : PaymentAmount T) :
    (AmountCalculator.sub a b).amount = a.amount - b.amount := rfl

/-- The `ValidationError`s the modelled code returns: the refusals of the amount checks, and
`InvalidZeroAmountPriceRatioInputError` of a price ratio. -/
inductive ValidationError where
  | invalidBtcPaymentAmount
  | btcAmountTooLarge
  | invalidUsdPaymentAmount
  | usdAmountTooLarge
  | invalidZeroAmountPriceRatioInput
  deriving DecidableEq, Repr

/-- `MAX_SATS`: 100 000 BTC. -/
def MAX_SATS : BtcPaymentAmount := ⟨10000000000000⟩

/-- `MAX_CENTS`. -/
def MAX_CENTS : UsdPaymentAmount := ⟨10000000000000⟩

/-- `checkedToBtcPaymentAmount`, of an integral number. -/
def checkedToBtcPaymentAmount (amount : Int) : Except ValidationError BtcPaymentAmount :=
  if amount > MAX_SATS.amount then .error .btcAmountTooLarge
  else if ¬ (amount ≠ 0 ∧ amount > 0) then .error .invalidBtcPaymentAmount
  else .ok ⟨amount⟩

theorem checkedToBtcPaymentAmount_eq_ok {amount : Int} {p : BtcPaymentAmount}
    (h : checkedToBtcPaymentAmount amount = .ok p) : p.amount = amount ∧ 0 < amount := by
  unfold checkedToBtcPaymentAmount at h
  split at h
  · cases h
  · split at h
    · cases h
    · cases h
      exact ⟨rfl, by omega⟩

end Shared
