import Mathlib
import Flash.Shared.Amounts
import Flash.Support.Rounding

/-!
# Shared — the calculator's divisions

`divRound`, `divFloor`, `divCeil` and `mulBasisPoints` of `domain/shared/calculator.ts`.  All
three divisions start from the bigint quotient `a / b`, which truncates toward zero
(`Int.tdiv`), and two of them correct it by the remainder `a % b`, which has the dividend's sign
(`Int.tmod`): `divRound` adds one when the remainder exceeds `b / 2n`, `divCeil` when it is
positive.

For a divisor `b > 0`:

* `divFloor_amount_eq_floor`, `divRound_amount_eq_roundHalfDown`: on a non-negative amount the
  quotient is the floor, and `divRound` the nearest integer with ties down.
* `divCeil_amount_eq_ceil`: `divCeil` is the ceiling on every amount.
* `divFloor_amount_eq_ceil_of_nonpos`, `divRound_amount_eq_ceil_of_nonpos`: on a non-positive
  amount the remainder is never positive, so neither correction fires and both give the
  truncated quotient — the ceiling, not the floor or the nearest integer.
-/

namespace Shared

open Rounding

variable {T : WalletCurrency}

/-- `AmountCalculator().divRound`. -/
def AmountCalculator.divRound (a : PaymentAmount T) (b : Int) : PaymentAmount T :=
  let quotient := a.amount.tdiv b
  let roundDownBound := b.tdiv 2
  let mod := a.amount.tmod b
  if mod > roundDownBound then ⟨quotient + 1⟩ else ⟨quotient⟩

/-- `AmountCalculator().divFloor`. -/
def AmountCalculator.divFloor (a : PaymentAmount T) (b : Int) : PaymentAmount T :=
  let quotient := a.amount.tdiv b
  ⟨quotient⟩

/-- `AmountCalculator().divCeil`. -/
def AmountCalculator.divCeil (a : PaymentAmount T) (b : Int) : PaymentAmount T :=
  let quotient := a.amount.tdiv b
  let mod := a.amount.tmod b
  if mod > 0 then ⟨quotient + 1⟩ else ⟨quotient⟩

/-- `AmountCalculator().mulBasisPoints`: `amount * basisPoints / 10000`, rounded by `divRound`. -/
def AmountCalculator.mulBasisPoints (amount : PaymentAmount T) (basisPoints : Int) :
    PaymentAmount T :=
  AmountCalculator.divRound ⟨amount.amount * basisPoints⟩ 10000

namespace AmountCalculator

variable {a : PaymentAmount T} {b : Int}

@[simp] theorem divFloor_amount : (divFloor a b).amount = a.amount.tdiv b := rfl

theorem divCeil_amount :
    (divCeil a b).amount = if a.amount.tmod b > 0 then a.amount.tdiv b + 1 else a.amount.tdiv b := by
  unfold divCeil
  dsimp only
  split <;> rfl

theorem divRound_amount :
    (divRound a b).amount =
      if a.amount.tmod b > b.tdiv 2 then a.amount.tdiv b + 1 else a.amount.tdiv b := by
  unfold divRound
  dsimp only
  split <;> rfl

/-- The quotient and remainder `divRound` and `divCeil` start from, as `omega` needs them. -/
theorem tmod_add_tdiv (a b : Int) : a = a.tmod b + a.tdiv b * b :=
  (Int.tmod_add_tdiv_mul a b).symm

theorem divFloor_amount_eq_floor (ha : 0 ≤ a.amount) (hb : 0 < b) :
    (divFloor a b).amount = ⌊(a.amount : ℚ) / b⌋ :=
  tdiv_eq_floor_div ha hb

theorem divFloor_amount_eq_ceil_of_nonpos (ha : a.amount ≤ 0) (hb : 0 < b) :
    (divFloor a b).amount = ⌈(a.amount : ℚ) / b⌉ :=
  tdiv_eq_ceil_div ha hb

theorem divCeil_amount_eq_ceil (hb : 0 < b) : (divCeil a b).amount = ⌈(a.amount : ℚ) / b⌉ := by
  have h := tmod_add_tdiv a.amount b
  rw [divCeil_amount]
  by_cases hm : a.amount.tmod b > 0
  · -- a positive remainder: the quotient lies strictly between two multiples of `b`
    have h₂ := Int.tmod_lt_of_pos a.amount hb
    rw [if_pos hm, eq_comm, ceil_div_eq_iff hb, add_mul, one_mul]
    constructor <;> omega
  · -- no positive remainder: the truncated quotient is already the ceiling
    have h₂ := Int.lt_tmod_of_pos a.amount hb
    rw [if_neg hm, eq_comm, ceil_div_eq_iff hb]
    constructor <;> omega

theorem divRound_amount_eq_roundHalfDown (ha : 0 ≤ a.amount) (hb : 0 < b) :
    (divRound a b).amount = roundHalfDown ((a.amount : ℚ) / b) := by
  have h := tmod_add_tdiv a.amount b
  have h₁ := Int.tmod_nonneg b ha
  have h₂ := Int.tmod_lt_of_pos a.amount hb
  -- `b / 2n` is the floor of a half of `b`, so the test is `2 * mod > b` for either parity
  have hhalf : b.tdiv 2 = b / 2 := Int.tdiv_eq_ediv_of_nonneg hb.le
  rw [divRound_amount]
  by_cases hm : a.amount.tmod b > b.tdiv 2
  · rw [if_pos hm, eq_comm, roundHalfDown_div_eq_iff hb, add_mul, one_mul]
    constructor <;> omega
  · rw [if_neg hm, eq_comm, roundHalfDown_div_eq_iff hb]
    constructor <;> omega

theorem divRound_amount_eq_ceil_of_nonpos (ha : a.amount ≤ 0) (hb : 0 < b) :
    (divRound a b).amount = ⌈(a.amount : ℚ) / b⌉ := by
  have hm : ¬ a.amount.tmod b > b.tdiv 2 := by
    have h₁ := tmod_nonpos b ha
    have hhalf : b.tdiv 2 = b / 2 := Int.tdiv_eq_ediv_of_nonneg hb.le
    omega
  rw [divRound_amount, if_neg hm]
  exact tdiv_eq_ceil_div ha hb

theorem divRound_amount_nonneg (ha : 0 ≤ a.amount) (hb : 0 < b) : 0 ≤ (divRound a b).amount := by
  have h := tmod_add_tdiv a.amount b
  have h₁ := Int.tdiv_nonneg ha hb.le
  rw [divRound_amount]
  split <;> omega

theorem mulBasisPoints_amount_eq_roundHalfDown {amount : PaymentAmount T} {basisPoints : Int}
    (h : 0 ≤ amount.amount * basisPoints) :
    (mulBasisPoints amount basisPoints).amount =
      roundHalfDown (((amount.amount * basisPoints : Int) : ℚ) / 10000) :=
  divRound_amount_eq_roundHalfDown (a := ⟨amount.amount * basisPoints⟩) h (by norm_num)

/-- At `-7 / 4 = -1.75` the quotient the calculator returns is `-1`: not the floor `-2`, and
three quarters from the exact value, as is `mulBasisPoints` of `-7` at 2500 basis points. -/
theorem negative_amounts_round_toward_zero :
    (divFloor (⟨-7⟩ : UsdPaymentAmount) 4).amount ≠ ⌊((-7 : ℤ) : ℚ) / (4 : ℤ)⌋ ∧
    1 / 2 < |((divRound (⟨-7⟩ : UsdPaymentAmount) 4).amount : ℚ) - ((-7 : ℤ) : ℚ) / (4 : ℤ)| ∧
    1 / 2 < |((mulBasisPoints (⟨-7⟩ : UsdPaymentAmount) 2500).amount : ℚ) -
      ((-7 * 2500 : ℤ) : ℚ) / 10000| := by
  have hfloor : ⌊((-7 : ℤ) : ℚ) / (4 : ℤ)⌋ = -2 := (floor_div_eq_iff (by decide)).mpr (by decide)
  have hdivFloor : (divFloor (⟨-7⟩ : UsdPaymentAmount) 4).amount = -1 := by decide
  have hdivRound : (divRound (⟨-7⟩ : UsdPaymentAmount) 4).amount = -1 := by decide
  have hmul : (mulBasisPoints (⟨-7⟩ : UsdPaymentAmount) 2500).amount = -1 := by decide
  refine ⟨?_, ?_, ?_⟩
  · rw [hfloor, hdivFloor]
    decide
  · rw [hdivRound]
    norm_num [abs_of_pos]
  · rw [hmul]
    norm_num [abs_of_pos]

end AmountCalculator

end Shared
