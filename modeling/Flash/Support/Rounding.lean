import Mathlib

/-!
# Support — Rounding an integer quotient

What the roundings of a quotient `a / b` of integers are, over any ordered field with a floor,
and where truncated division (`Int.tdiv`, `Int.tmod`: the quotient rounded toward zero and the
remainder with the dividend's sign) lands among them.

* `roundHalfDown q`, `⌈q - 1/2⌉`, is the nearest integer to `q` with ties taken downward
  (`isNearestTiesDown_roundHalfDown`), and the only one (`IsNearestTiesDown.unique`).
* `floor_div_eq_iff`, `ceil_div_eq_iff`, `roundHalfDown_div_eq_iff`: each rounding of `a / b`,
  for `b > 0`, as inequalities between integers, so that `omega` finishes what follows.
* `tdiv_eq_floor_div`, `tdiv_eq_ceil_div`: the truncated quotient is the floor of a
  non-negative quotient and the ceiling of a non-positive one.
-/

namespace Rounding

variable {α : Type*} [Field α] [LinearOrder α] [IsStrictOrderedRing α] [FloorRing α]

/-! ### The nearest integer, ties down -/

/-- The nearest integer to `q`, a half rounded down. -/
def roundHalfDown (q : α) : ℤ :=
  ⌈q - 1 / 2⌉

/-- `r` is an integer nearest to `q`, and below `q` when `q` is halfway between two. -/
structure IsNearestTiesDown (q : α) (r : ℤ) : Prop where
  nearest : ∀ n : ℤ, |(r : α) - q| ≤ |(n : α) - q|
  tie_below : |(r : α) - q| = 1 / 2 → (r : α) < q

theorem roundHalfDown_eq_iff {q : α} {r : ℤ} :
    roundHalfDown q = r ↔ (r : α) - 1 / 2 < q ∧ q ≤ r + 1 / 2 := by
  unfold roundHalfDown
  rw [Int.ceil_eq_iff]
  constructor
  · rintro ⟨h₁, h₂⟩
    constructor <;> linarith
  · rintro ⟨h₁, h₂⟩
    constructor <;> linarith

theorem roundHalfDown_bounds (q : α) :
    (roundHalfDown q : α) - 1 / 2 < q ∧ q ≤ roundHalfDown q + 1 / 2 :=
  roundHalfDown_eq_iff.mp rfl

theorem abs_sub_roundHalfDown_le (q : α) : |(roundHalfDown q : α) - q| ≤ 1 / 2 := by
  obtain ⟨h₁, h₂⟩ := roundHalfDown_bounds q
  rw [abs_le]
  constructor <;> linarith

theorem isNearestTiesDown_roundHalfDown (q : α) : IsNearestTiesDown q (roundHalfDown q) := by
  obtain ⟨h₁, h₂⟩ := roundHalfDown_bounds q
  set r := roundHalfDown q
  refine ⟨fun n => ?_, fun h => ?_⟩
  · -- an integer other than `r` is at least one away from it, so at least a half from `q`
    rcases lt_trichotomy n r with hn | rfl | hn
    · have hn' : (n : α) + 1 ≤ r := by exact_mod_cast hn
      calc |(r : α) - q| ≤ 1 / 2 := abs_sub_roundHalfDown_le q
        _ ≤ -((n : α) - q) := by linarith
        _ ≤ |(n : α) - q| := neg_le_abs _
    · exact le_rfl
    · have hn' : (r : α) + 1 ≤ n := by exact_mod_cast hn
      calc |(r : α) - q| ≤ 1 / 2 := abs_sub_roundHalfDown_le q
        _ ≤ n - q := by linarith
        _ ≤ |(n : α) - q| := le_abs_self _
  · -- `q - r = 1/2` is the only tie left, since `r - q < 1/2`
    rcases abs_eq (by norm_num : (0 : α) ≤ 1 / 2) |>.mp h with h' | h'
    · linarith
    · linarith

theorem IsNearestTiesDown.unique {q : α} {r s : ℤ} (hr : IsNearestTiesDown q r)
    (hs : IsNearestTiesDown q s) : r = s := by
  have hd : |(r : α) - q| = |(s : α) - q| := le_antisymm (hr.nearest s) (hs.nearest r)
  have hle : |(r : α) - q| ≤ 1 / 2 := (hr.nearest _).trans (abs_sub_roundHalfDown_le q)
  by_contra hne
  -- two integers at one distance from `q` lie on either side of it
  have hsum : (r : α) - q = -((s : α) - q) := by
    rcases abs_eq_abs.mp hd with h | h
    · exact absurd (by exact_mod_cast (by linarith : (r : α) = s)) hne
    · exact h
  -- and, being at least one apart, a half away: a tie, which both take below `q`
  have hhalf : 1 / 2 ≤ |(r : α) - q| := by
    rcases lt_or_gt_of_ne hne with h | h
    · have h' : (r : α) + 1 ≤ s := by exact_mod_cast h
      calc (1 : α) / 2 ≤ -((r : α) - q) := by linarith
        _ ≤ |(r : α) - q| := neg_le_abs _
    · have h' : (s : α) + 1 ≤ r := by exact_mod_cast h
      calc (1 : α) / 2 ≤ (r : α) - q := by linarith
        _ ≤ |(r : α) - q| := le_abs_self _
  have htie : |(r : α) - q| = 1 / 2 := le_antisymm hle hhalf
  have hrq := hr.tie_below htie
  have hsq := hs.tie_below (hd ▸ htie)
  linarith

theorem floor_le_roundHalfDown (q : α) : ⌊q⌋ ≤ roundHalfDown q := by
  unfold roundHalfDown
  rw [Int.le_ceil_iff]
  linarith [Int.floor_le q]

theorem roundHalfDown_le_ceil (q : α) : roundHalfDown q ≤ ⌈q⌉ :=
  Int.ceil_mono (by linarith)

theorem roundHalfDown_mono : Monotone (roundHalfDown : α → ℤ) :=
  fun _ _ h => Int.ceil_mono (by linarith)

section Quotient

variable {a b z : ℤ}

theorem floor_div_eq_iff (hb : 0 < b) : ⌊(a : α) / b⌋ = z ↔ z * b ≤ a ∧ a < z * b + b := by
  have hb' : (0 : α) < b := by exact_mod_cast hb
  rw [Int.floor_eq_iff, le_div_iff₀ hb', div_lt_iff₀ hb', add_one_mul]
  norm_cast

theorem ceil_div_eq_iff (hb : 0 < b) : ⌈(a : α) / b⌉ = z ↔ z * b - b < a ∧ a ≤ z * b := by
  have hb' : (0 : α) < b := by exact_mod_cast hb
  rw [Int.ceil_eq_iff, lt_div_iff₀ hb', div_le_iff₀ hb', sub_one_mul]
  norm_cast

theorem roundHalfDown_div_eq_iff (hb : 0 < b) :
    roundHalfDown ((a : α) / b) = z ↔ 2 * (z * b) - b < 2 * a ∧ 2 * a ≤ 2 * (z * b) + b := by
  have hb' : (0 : α) < b := by exact_mod_cast hb
  rw [roundHalfDown_eq_iff, lt_div_iff₀ hb', div_le_iff₀ hb']
  -- clear the halves, then read the inequalities back in the integers
  have e₁ : ((z : α) - 1 / 2) * b < a ↔ ((2 * (z * b) - b : ℤ) : α) < ((2 * a : ℤ) : α) := by
    push_cast
    constructor <;> intro h <;> linarith
  have e₂ : (a : α) ≤ (z + 1 / 2) * b ↔ ((2 * a : ℤ) : α) ≤ ((2 * (z * b) + b : ℤ) : α) := by
    push_cast
    constructor <;> intro h <;> linarith
  rw [e₁, e₂]
  norm_cast

/-! ### Truncated division

`Int.tdiv` rounds toward zero and `Int.tmod` takes the dividend's sign: for `b > 0` the remainder
lies in `[0, b)` when `a ≥ 0` and in `(-b, 0]` when `a ≤ 0`. -/

theorem tmod_nonpos (b : ℤ) (ha : a ≤ 0) : a.tmod b ≤ 0 := by
  have h := Int.tmod_nonneg b (neg_nonneg.mpr ha)
  rw [Int.neg_tmod] at h
  omega

theorem tdiv_eq_floor_div (ha : 0 ≤ a) (hb : 0 < b) : a.tdiv b = ⌊(a : α) / b⌋ := by
  have h := Int.tmod_add_tdiv_mul a b
  have h₁ := Int.tmod_nonneg b ha
  have h₂ := Int.tmod_lt_of_pos a hb
  exact ((floor_div_eq_iff hb).mpr ⟨by omega, by omega⟩).symm

theorem tdiv_eq_ceil_div (ha : a ≤ 0) (hb : 0 < b) : a.tdiv b = ⌈(a : α) / b⌉ := by
  have h := Int.tmod_add_tdiv_mul a b
  have h₁ := tmod_nonpos b ha
  have h₂ := Int.lt_tmod_of_pos a hb
  exact ((ceil_div_eq_iff hb).mpr ⟨by omega, by omega⟩).symm

end Quotient

/-! ### Scaled quotients

The conversions of an amount `x` at a rate `c / d` round `x * c / d`; with `c, d > 0` that
quotient grows with `x` and is positive with it. -/

theorem scaled_div_mono {x y c d : ℤ} (hxy : x ≤ y) (hc : 0 ≤ c) (hd : 0 ≤ d) :
    ((x * c : ℤ) : α) / d ≤ ((y * c : ℤ) : α) / d := by
  have h : ((x * c : ℤ) : α) ≤ ((y * c : ℤ) : α) := by
    exact_mod_cast Int.mul_le_mul_of_nonneg_right hxy hc
  exact div_le_div_of_nonneg_right h (by exact_mod_cast hd)

theorem scaled_div_pos {x c d : ℤ} (hx : 0 < x) (hc : 0 < c) (hd : 0 < d) :
    (0 : α) < ((x * c : ℤ) : α) / d :=
  div_pos (by exact_mod_cast Int.mul_pos hx hc) (by exact_mod_cast hd)

end Rounding
