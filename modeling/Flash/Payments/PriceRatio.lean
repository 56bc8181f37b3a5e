import Flash.Shared.Calculator

/-!
# Payments — price ratios

`PriceRatio`, `WalletPriceRatio` and `DisplayPriceRatio` of `domain/payments/price-ratio.ts`.  A
price ratio is a quote: `other` units of another currency for `walletAmount` of the wallet's.
An amount is converted by scaling with the quote and dividing with the calculator: `divRound`
for the plain conversions, whose zero result is lifted to one (`amount || 1n`), `divFloor` and
`divCeil` for the directed ones.  `WalletPriceRatio` is the ratio of cents to satoshis;
`DisplayPriceRatio` that of a display currency's minor unit to a wallet's.

`RoundedConversions` says what the four conversions are for, on non-negative amounts: the
directed ones are the floor and the ceiling of the exact value, the plain ones are zero at zero
and otherwise the nearest integer, ties down, but at least one; the plain conversion lies between
the directed ones, and each is monotone.

* `conversions_of_priceRatio`: every price ratio of two positive amounts meets it, and so, with
  the same quote, does each wrapper (`conversions_of_walletPriceRatio`,
  `conversions_of_displayPriceRatio`).
* `convertFromOther_eq_ceil_of_neg`: on a negative amount the plain conversion rounds toward
  zero, and lifts a result of zero to `+1`.

`otherUnitPerWalletUnit` (a float quotient), `DisplayAmount.displayInMajor` (its text) and the
constructors from a float (`toWalletPriceRatio`, `toDisplayPriceRatio`) are left out.
-/

namespace Payments

open Shared Rounding

/-- A `PriceRatio<S>`: `other` for `walletAmount`, neither of them zero. -/
structure PriceRatio (S : WalletCurrency) where
  other : Int
  walletAmount : PaymentAmount S
  other_ne_zero : other ≠ 0
  walletAmount_ne_zero : walletAmount.amount ≠ 0

/-- `PriceRatio({ other, walletAmount })`. -/
def priceRatio {S : WalletCurrency} (other : Int) (walletAmount : PaymentAmount S) :
    Except ValidationError (PriceRatio S) :=
  if h : other = 0 ∨ walletAmount.amount = 0 then .error .invalidZeroAmountPriceRatioInput
  else .ok ⟨other, walletAmount, fun e => h (.inl e), fun e => h (.inr e)⟩

namespace PriceRatio

variable {S : WalletCurrency} (r : PriceRatio S)

/-- `convertFromOther`. -/
def convertFromOther (otherToConvert : Int) : PaymentAmount S :=
  if otherToConvert = 0 then ⟨0⟩
  else
    let amount :=
      (AmountCalculator.divRound (⟨otherToConvert * r.walletAmount.amount⟩ : PaymentAmount S)
        r.other).amount
    -- `amount || 1n`
    ⟨if amount = 0 then 1 else amount⟩

/-- `convertFromWallet`. -/
def convertFromWallet (walletAmountToConvert : PaymentAmount S) : Int :=
  if walletAmountToConvert.amount = 0 then 0
  else
    let amount :=
      (AmountCalculator.divRound (⟨walletAmountToConvert.amount * r.other⟩ : PaymentAmount S)
        r.walletAmount.amount).amount
    if amount = 0 then 1 else amount

/-- `convertFromWalletToFloor`. -/
def convertFromWalletToFloor (walletAmountToConvert : PaymentAmount S) : Int :=
  (AmountCalculator.divFloor (⟨walletAmountToConvert.amount * r.other⟩ : PaymentAmount S)
    r.walletAmount.amount).amount

/-- `convertFromWalletToCeil`. -/
def convertFromWalletToCeil (walletAmountToConvert : PaymentAmount S) : Int :=
  (AmountCalculator.divCeil (⟨walletAmountToConvert.amount * r.other⟩ : PaymentAmount S)
    r.walletAmount.amount).amount

end PriceRatio

/-- A `WalletPriceRatio`: cents for satoshis. -/
structure WalletPriceRatio where
  ratio : PriceRatio .btc

/-- `WalletPriceRatio({ usd, btc })`. -/
def walletPriceRatio (usd : UsdPaymentAmount) (btc : BtcPaymentAmount) :
    Except ValidationError WalletPriceRatio := do
  let ratio ← priceRatio usd.amount btc
  return ⟨ratio⟩

namespace WalletPriceRatio

variable (r : WalletPriceRatio)

/-- `convertFromUsd`. -/
def convertFromUsd (usdWalletAmount : UsdPaymentAmount) : BtcPaymentAmount :=
  r.ratio.convertFromOther usdWalletAmount.amount

/-- `convertFromBtc`. -/
def convertFromBtc (btcWalletAmount : BtcPaymentAmount) : UsdPaymentAmount :=
  ⟨r.ratio.convertFromWallet btcWalletAmount⟩

/-- `convertFromBtcToFloor`. -/
def convertFromBtcToFloor (btcWalletAmount : BtcPaymentAmount) : UsdPaymentAmount :=
  ⟨r.ratio.convertFromWalletToFloor btcWalletAmount⟩

/-- `convertFromBtcToCeil`. -/
def convertFromBtcToCeil (btcWalletAmount : BtcPaymentAmount) : UsdPaymentAmount :=
  ⟨r.ratio.convertFromWalletToCeil btcWalletAmount⟩

end WalletPriceRatio

/-- `DisplayCurrency`, a currency code. -/
abbrev DisplayCurrency := String

/-- A `DisplayAmount<T>`: an amount in the minor unit of the display currency. -/
structure DisplayAmount where
  amountInMinor : Int
  currency : DisplayCurrency
  deriving DecidableEq, Repr

/-- `toDisplayAmount`. -/
def toDisplayAmount (amountInMinor : Int) (currency : DisplayCurrency) : DisplayAmount :=
  ⟨amountInMinor, currency⟩

/-- A `DisplayPriceRatio<S, T>`: minor units of `displayCurrency` for amounts in `S`. -/
structure DisplayPriceRatio (S : WalletCurrency) where
  ratio : PriceRatio S
  displayCurrency : DisplayCurrency

/-- `DisplayPriceRatio({ displayAmount, walletAmount })`. -/
def displayPriceRatio {S : WalletCurrency} (displayAmount : DisplayAmount)
    (walletAmount : PaymentAmount S) : Except ValidationError (DisplayPriceRatio S) := do
  let ratio ← priceRatio displayAmount.amountInMinor walletAmount
  return ⟨ratio, displayAmount.currency⟩

namespace DisplayPriceRatio

variable {S : WalletCurrency} (r : DisplayPriceRatio S)

/-- `convertFromDisplayMinorUnit`. -/
def convertFromDisplayMinorUnit (displayAmount : DisplayAmount) : PaymentAmount S :=
  r.ratio.convertFromOther displayAmount.amountInMinor

/-- `convertFromWallet`. -/
def convertFromWallet (walletAmountToConvert : PaymentAmount S) : DisplayAmount :=
  toDisplayAmount (r.ratio.convertFromWallet walletAmountToConvert) r.displayCurrency

/-- `convertFromWalletToFloor`. -/
def convertFromWalletToFloor (walletAmountToConvert : PaymentAmount S) : DisplayAmount :=
  toDisplayAmount (r.ratio.convertFromWalletToFloor walletAmountToConvert) r.displayCurrency

/-- `convertFromWalletToCeil`. -/
def convertFromWalletToCeil (walletAmountToConvert : PaymentAmount S) : DisplayAmount :=
  toDisplayAmount (r.ratio.convertFromWalletToCeil walletAmountToConvert) r.displayCurrency

end DisplayPriceRatio

@[simp] theorem WalletPriceRatio.convertFromUsd_zero (r : WalletPriceRatio) :
    r.convertFromUsd ⟨0⟩ = ⟨0⟩ := by
  simp [WalletPriceRatio.convertFromUsd, PriceRatio.convertFromOther]

/-! ### What the conversions are for -/

/-- The conversions at the quote `other` for `w`, on non-negative amounts: `toFloor` and
`toCeil` round `x * other / w` down and up; `fromWallet` and `fromOther` round
`x * other / w` and `y * w / other` to the nearest integer, ties down, but give at least one to
a positive amount and zero to zero.  Hence the plain conversion from the wallet lies between the
directed ones, and all four are monotone. -/
structure RoundedConversions (other w : Int) (fromOther fromWallet toFloor toCeil : Int → Int) :
    Prop where
  toFloor_eq : ∀ x, 0 ≤ x → toFloor x = ⌊((x * other : Int) : ℚ) / w⌋
  toCeil_eq : ∀ x, 0 ≤ x → toCeil x = ⌈((x * other : Int) : ℚ) / w⌉
  fromWallet_zero : fromWallet 0 = 0
  fromWallet_pos : ∀ x, 0 < x → fromWallet x = max 1 (roundHalfDown (((x * other : Int) : ℚ) / w))
  fromOther_zero : fromOther 0 = 0
  fromOther_pos : ∀ y, 0 < y → fromOther y = max 1 (roundHalfDown (((y * w : Int) : ℚ) / other))
  floor_le_fromWallet : ∀ x, 0 < x → toFloor x ≤ fromWallet x
  fromWallet_le_ceil : ∀ x, 0 < x → fromWallet x ≤ toCeil x
  fromOther_mono : MonotoneOn fromOther (Set.Ici 0)
  fromWallet_mono : MonotoneOn fromWallet (Set.Ici 0)
  toFloor_mono : MonotoneOn toFloor (Set.Ici 0)
  toCeil_mono : MonotoneOn toCeil (Set.Ici 0)

section Laws

variable {c d : Int}

/-- A conversion that is zero at zero and rounds `x * c / d` half down, but to at least one, on
positive amounts, is monotone on the non-negative ones. -/
theorem monotoneOn_of_roundHalfDown {f : Int → Int} (hc : 0 < c) (hd : 0 < d) (h0 : f 0 = 0)
    (hpos : ∀ x, 0 < x → f x = max 1 (roundHalfDown (((x * c : Int) : ℚ) / d))) :
    MonotoneOn f (Set.Ici 0) := by
  intro x hx y hy hxy
  simp only [Set.mem_Ici] at hx hy
  rcases hx.eq_or_lt with rfl | hx
  · -- from zero: every value on a positive amount is at least one
    rw [h0]
    rcases hy.eq_or_lt with rfl | hy
    · rw [h0]
    · rw [hpos y hy]
      exact le_max_of_le_left zero_le_one
  · rw [hpos x hx, hpos y (lt_of_lt_of_le hx hxy)]
    exact max_le_max le_rfl (roundHalfDown_mono (scaled_div_mono hxy hc.le hd.le))

theorem RoundedConversions.of_eqs {other w : Int} {fromOther fromWallet toFloor toCeil : Int → Int}
    (ho : 0 < other) (hw : 0 < w)
    (toFloor_eq : ∀ x, 0 ≤ x → toFloor x = ⌊((x * other : Int) : ℚ) / w⌋)
    (toCeil_eq : ∀ x, 0 ≤ x → toCeil x = ⌈((x * other : Int) : ℚ) / w⌉)
    (fromWallet_zero : fromWallet 0 = 0)
    (fromWallet_pos : ∀ x, 0 < x → fromWallet x = max 1 (roundHalfDown (((x * other : Int) : ℚ) / w)))
    (fromOther_zero : fromOther 0 = 0)
    (fromOther_pos : ∀ y, 0 < y → fromOther y = max 1 (roundHalfDown (((y * w : Int) : ℚ) / other))) :
    RoundedConversions other w fromOther fromWallet toFloor toCeil where
  toFloor_eq := toFloor_eq
  toCeil_eq := toCeil_eq
  fromWallet_zero := fromWallet_zero
  fromWallet_pos := fromWallet_pos
  fromOther_zero := fromOther_zero
  fromOther_pos := fromOther_pos
  floor_le_fromWallet x hx := by
    rw [toFloor_eq x hx.le, fromWallet_pos x hx]
    exact le_max_of_le_right (floor_le_roundHalfDown _)
  fromWallet_le_ceil x hx := by
    rw [toCeil_eq x hx.le, fromWallet_pos x hx]
    -- the exact value is positive, so its ceiling is at least one
    have h1 : 1 ≤ ⌈((x * other : Int) : ℚ) / w⌉ :=
      Int.one_le_ceil_iff.mpr (scaled_div_pos hx ho hw)
    exact max_le h1 (roundHalfDown_le_ceil _)
  fromOther_mono := monotoneOn_of_roundHalfDown hw ho fromOther_zero fromOther_pos
  fromWallet_mono := monotoneOn_of_roundHalfDown ho hw fromWallet_zero fromWallet_pos
  toFloor_mono x hx y _ hxy := by
    rw [toFloor_eq x hx, toFloor_eq y (le_trans hx hxy)]
    exact Int.floor_mono (scaled_div_mono hxy ho.le hw.le)
  toCeil_mono x hx y _ hxy := by
    rw [toCeil_eq x hx, toCeil_eq y (le_trans hx hxy)]
    exact Int.ceil_mono (scaled_div_mono hxy ho.le hw.le)

end Laws

/-! ### The price ratios meet them -/

theorem priceRatio_eq_ok {S : WalletCurrency} {other : Int} {walletAmount : PaymentAmount S}
    {r : PriceRatio S} (h : priceRatio other walletAmount = .ok r) :
    r.other = other ∧ r.walletAmount = walletAmount := by
  unfold priceRatio at h
  split at h
  · cases h
  · cases h
    exact ⟨rfl, rfl⟩

namespace PriceRatio

variable {S : WalletCurrency} {r : PriceRatio S}

/-- `amount || 1n`, on a non-negative amount. -/
theorem orOne_eq_max {v : Int} (hv : 0 ≤ v) : (if v = 0 then 1 else v) = max 1 v := by
  split <;> omega

theorem convertFromWalletToFloor_eq (ho : 0 < r.other) (hw : 0 < r.walletAmount.amount) {x : Int}
    (hx : 0 ≤ x) :
    r.convertFromWalletToFloor ⟨x⟩ = ⌊((x * r.other : Int) : ℚ) / r.walletAmount.amount⌋ :=
  AmountCalculator.divFloor_amount_eq_floor (a := (⟨x * r.other⟩ : PaymentAmount S))
    (mul_nonneg hx ho.le) hw

theorem convertFromWalletToCeil_eq (hw : 0 < r.walletAmount.amount) (x : Int) :
    r.convertFromWalletToCeil ⟨x⟩ = ⌈((x * r.other : Int) : ℚ) / r.walletAmount.amount⌉ :=
  AmountCalculator.divCeil_amount_eq_ceil (a := (⟨x * r.other⟩ : PaymentAmount S)) hw

theorem convertFromWallet_zero : r.convertFromWallet ⟨0⟩ = 0 := by
  unfold convertFromWallet
  rw [if_pos rfl]

theorem convertFromWallet_pos (ho : 0 < r.other) (hw : 0 < r.walletAmount.amount) {x : Int}
    (hx : 0 < x) :
    r.convertFromWallet ⟨x⟩ =
      max 1 (roundHalfDown (((x * r.other : Int) : ℚ) / r.walletAmount.amount)) := by
  have hxo : 0 ≤ x * r.other := mul_nonneg hx.le ho.le
  unfold convertFromWallet
  rw [if_neg hx.ne']
  dsimp only
  rw [orOne_eq_max (AmountCalculator.divRound_amount_nonneg (a := ⟨x * r.other⟩) hxo hw),
    AmountCalculator.divRound_amount_eq_roundHalfDown (a := ⟨x * r.other⟩) hxo hw]

theorem convertFromOther_zero : (r.convertFromOther 0).amount = 0 := by
  unfold convertFromOther
  rw [if_pos rfl]

theorem convertFromOther_pos (ho : 0 < r.other) (hw : 0 < r.walletAmount.amount) {y : Int}
    (hy : 0 < y) :
    (r.convertFromOther y).amount =
      max 1 (roundHalfDown (((y * r.walletAmount.amount : Int) : ℚ) / r.other)) := by
  have hyw : 0 ≤ y * r.walletAmount.amount := mul_nonneg hy.le hw.le
  unfold convertFromOther
  rw [if_neg hy.ne']
  dsimp only
  rw [orOne_eq_max (AmountCalculator.divRound_amount_nonneg (a := ⟨y * r.walletAmount.amount⟩) hyw ho),
    AmountCalculator.divRound_amount_eq_roundHalfDown (a := ⟨y * r.walletAmount.amount⟩) hyw ho]

/-- On a negative amount `divRound` truncates, so `convertFromOther` gives the ceiling of the
exact value, and `+1` where that ceiling is zero. -/
theorem convertFromOther_eq_ceil_of_neg (ho : 0 < r.other) (hw : 0 < r.walletAmount.amount)
    {y : Int} (hy : y < 0) :
    (r.convertFromOther y).amount =
      let c := ⌈((y * r.walletAmount.amount : Int) : ℚ) / r.other⌉
      if c = 0 then 1 else c := by
  have hyw : y * r.walletAmount.amount ≤ 0 := Int.mul_nonpos_of_nonpos_of_nonneg hy.le hw.le
  unfold convertFromOther
  rw [if_neg hy.ne]
  dsimp only
  rw [AmountCalculator.divRound_amount_eq_ceil_of_nonpos (a := ⟨y * r.walletAmount.amount⟩) hyw ho]

theorem conversions_of_priceRatio (ho : 0 < r.other) (hw : 0 < r.walletAmount.amount) :
    RoundedConversions r.other r.walletAmount.amount (fun y => (r.convertFromOther y).amount)
      (fun x => r.convertFromWallet ⟨x⟩) (fun x => r.convertFromWalletToFloor ⟨x⟩)
      (fun x => r.convertFromWalletToCeil ⟨x⟩) :=
  RoundedConversions.of_eqs ho hw (fun _ hx => convertFromWalletToFloor_eq ho hw hx)
    (fun x _ => convertFromWalletToCeil_eq hw x) convertFromWallet_zero
    (fun _ hx => convertFromWallet_pos ho hw hx) convertFromOther_zero
    (fun _ hy => convertFromOther_pos ho hw hy)

end PriceRatio

theorem walletPriceRatio_eq_ok {usd : UsdPaymentAmount} {btc : BtcPaymentAmount}
    {r : WalletPriceRatio} (h : walletPriceRatio usd btc = .ok r) :
    priceRatio usd.amount btc = .ok r.ratio := by
  unfold walletPriceRatio at h
  cases hp : priceRatio usd.amount btc with
  | error e =>
    rw [hp] at h
    cases h
  | ok ratio =>
    rw [hp] at h
    cases h
    rfl

theorem displayPriceRatio_eq_ok {S : WalletCurrency} {displayAmount : DisplayAmount}
    {walletAmount : PaymentAmount S} {r : DisplayPriceRatio S}
    (h : displayPriceRatio displayAmount walletAmount = .ok r) :
    priceRatio displayAmount.amountInMinor walletAmount = .ok r.ratio := by
  unfold displayPriceRatio at h
  cases hp : priceRatio displayAmount.amountInMinor walletAmount with
  | error e =>
    rw [hp] at h
    cases h
  | ok ratio =>
    rw [hp] at h
    cases h
    rfl

/-- The wallet ratio's conversions are its price ratio's, at the quote `usd` for `btc`. -/
theorem WalletPriceRatio.conversions_of_walletPriceRatio {usd : UsdPaymentAmount}
    {btc : BtcPaymentAmount} {r : WalletPriceRatio} (h : walletPriceRatio usd btc = .ok r)
    (hu : 0 < usd.amount) (hb : 0 < btc.amount) :
    RoundedConversions usd.amount btc.amount (fun y => (r.convertFromUsd ⟨y⟩).amount)
      (fun x => (r.convertFromBtc ⟨x⟩).amount) (fun x => (r.convertFromBtcToFloor ⟨x⟩).amount)
      (fun x => (r.convertFromBtcToCeil ⟨x⟩).amount) := by
  obtain ⟨ho, hw⟩ := priceRatio_eq_ok (walletPriceRatio_eq_ok h)
  have hr := PriceRatio.conversions_of_priceRatio (r := r.ratio) (ho ▸ hu) (hw ▸ hb)
  rw [ho, hw] at hr
  exact hr

/-- The display ratio's conversions are its price ratio's, at the quote `displayAmount` for
`walletAmount`; the currency of the converted display amount plays no part. -/
theorem DisplayPriceRatio.conversions_of_displayPriceRatio {S : WalletCurrency}
    {displayAmount : DisplayAmount} {walletAmount : PaymentAmount S} {r : DisplayPriceRatio S}
    (h : displayPriceRatio displayAmount walletAmount = .ok r)
    (hd : 0 < displayAmount.amountInMinor) (hw : 0 < walletAmount.amount) :
    RoundedConversions displayAmount.amountInMinor walletAmount.amount
      (fun y => (r.convertFromDisplayMinorUnit ⟨y, r.displayCurrency⟩).amount)
      (fun x => (r.convertFromWallet ⟨x⟩).amountInMinor)
      (fun x => (r.convertFromWalletToFloor ⟨x⟩).amountInMinor)
      (fun x => (r.convertFromWalletToCeil ⟨x⟩).amountInMinor) := by
  obtain ⟨ho, hw'⟩ := priceRatio_eq_ok (displayPriceRatio_eq_ok h)
  have hr := PriceRatio.conversions_of_priceRatio (r := r.ratio) (ho ▸ hd) (hw' ▸ hw)
  rw [ho, hw'] at hr
  exact hr

/-- Every price ratio of two positive amounts converts as `RoundedConversions` says, and so do
the wallet and the display ratios built on one. -/
theorem price_ratio_conversions_rounded :
    (∀ (S : WalletCurrency) (other : Int) (walletAmount : PaymentAmount S) (r : PriceRatio S),
      priceRatio other walletAmount = .ok r → 0 < other → 0 < walletAmount.amount →
      RoundedConversions other walletAmount.amount (fun y => (r.convertFromOther y).amount)
        (fun x => r.convertFromWallet ⟨x⟩) (fun x => r.convertFromWalletToFloor ⟨x⟩)
        (fun x => r.convertFromWalletToCeil ⟨x⟩)) ∧
    (∀ (usd : UsdPaymentAmount) (btc : BtcPaymentAmount) (r : WalletPriceRatio),
      walletPriceRatio usd btc = .ok r → 0 < usd.amount → 0 < btc.amount →
      RoundedConversions usd.amount btc.amount (fun y => (r.convertFromUsd ⟨y⟩).amount)
        (fun x => (r.convertFromBtc ⟨x⟩).amount) (fun x => (r.convertFromBtcToFloor ⟨x⟩).amount)
        (fun x => (r.convertFromBtcToCeil ⟨x⟩).amount)) ∧
    (∀ (S : WalletCurrency) (displayAmount : DisplayAmount) (walletAmount : PaymentAmount S)
      (r : DisplayPriceRatio S),
      displayPriceRatio displayAmount walletAmount = .ok r → 0 < displayAmount.amountInMinor →
      0 < walletAmount.amount →
      RoundedConversions displayAmount.amountInMinor walletAmount.amount
        (fun y => (r.convertFromDisplayMinorUnit ⟨y, r.displayCurrency⟩).amount)
        (fun x => (r.convertFromWallet ⟨x⟩).amountInMinor)
        (fun x => (r.convertFromWalletToFloor ⟨x⟩).amountInMinor)
        (fun x => (r.convertFromWalletToCeil ⟨x⟩).amountInMinor)) := by
  refine ⟨fun S other walletAmount r h ho hw => ?_, fun usd btc r h hu hb => ?_,
    fun S displayAmount walletAmount r h hd hw => ?_⟩
  · obtain ⟨rfl, rfl⟩ := priceRatio_eq_ok h
    exact PriceRatio.conversions_of_priceRatio ho hw
  · exact WalletPriceRatio.conversions_of_walletPriceRatio h hu hb
  · exact DisplayPriceRatio.conversions_of_displayPriceRatio h hd hw

/-- The quote of the price ratio tests, 100 for 1000 satoshis, makes each of the three ratios,
and each converts as `RoundedConversions` says. -/
theorem price_ratio_conversions_rounded_at_test_quote :
    (∃ r, priceRatio 100 (⟨1000⟩ : BtcPaymentAmount) = .ok r ∧
      RoundedConversions 100 1000 (fun y => (r.convertFromOther y).amount)
        (fun x => r.convertFromWallet ⟨x⟩) (fun x => r.convertFromWalletToFloor ⟨x⟩)
        (fun x => r.convertFromWalletToCeil ⟨x⟩)) ∧
    (∃ r, walletPriceRatio ⟨100⟩ ⟨1000⟩ = .ok r ∧
      RoundedConversions 100 1000 (fun y => (r.convertFromUsd ⟨y⟩).amount)
        (fun x => (r.convertFromBtc ⟨x⟩).amount) (fun x => (r.convertFromBtcToFloor ⟨x⟩).amount)
        (fun x => (r.convertFromBtcToCeil ⟨x⟩).amount)) ∧
    (∃ r, displayPriceRatio ⟨100, "USD"⟩ (⟨1000⟩ : BtcPaymentAmount) = .ok r ∧
      RoundedConversions 100 1000
        (fun y => (r.convertFromDisplayMinorUnit ⟨y, r.displayCurrency⟩).amount)
        (fun x => (r.convertFromWallet ⟨x⟩).amountInMinor)
        (fun x => (r.convertFromWalletToFloor ⟨x⟩).amountInMinor)
        (fun x => (r.convertFromWalletToCeil ⟨x⟩).amountInMinor)) :=
  ⟨⟨_, rfl, price_ratio_conversions_rounded.1 .btc 100 ⟨1000⟩ _ rfl (by decide) (by decide)⟩,
    ⟨_, rfl, price_ratio_conversions_rounded.2.1 ⟨100⟩ ⟨1000⟩ _ rfl (by decide) (by decide)⟩,
    ⟨_, rfl, price_ratio_conversions_rounded.2.2 .btc ⟨100, "USD"⟩ ⟨1000⟩ _ rfl (by decide)
      (by decide)⟩⟩

end Payments
