import Mathlib

/-!
# Support — Decimal digit strings

Natural numbers written in base ten and read back, as JavaScript's `BigInt` writes them
(`toString`) and reads a string of digits (`BigInt("0042")`): `Nat.toDigits 10` and
`Nat.ofDigitChars 10 · 0` of the core library, which proves that reading undoes writing
(`Nat.ofDigitChars_ten_toDigits`).  Here are the facts about zeros on either side that a
fixed-point format needs.

* `value_zeros_append`, `value_padStart`: zeros in front change no value;
* `value_append_zeros`: zeros behind multiply it by a power of ten;
* `eq_dropTrailingZeros_append`: a string is what precedes its trailing zeros, then them.
-/

namespace Decimal

/-- The value of a string of decimal digits; `""` is `0`. -/
abbrev value (cs : List Char) : Nat :=
  Nat.ofDigitChars 10 cs 0

/-- Every character is one of `0`–`9`, as `[0-9]*` matches them. -/
def IsDigits (cs : List Char) : Prop :=
  ∀ c ∈ cs, c.isDigit = true

theorem isDigits_toDigits (n : Nat) : IsDigits (Nat.toDigits 10 n) :=
  fun _ hc => Nat.isDigit_of_mem_toDigits (by decide) (by decide) hc

theorem isDigits_replicate_zero (k : Nat) : IsDigits (List.replicate k '0') := by
  intro c hc
  rw [List.eq_of_mem_replicate hc]
  decide

theorem IsDigits.append {cs ds : List Char} (hc : IsDigits cs) (hd : IsDigits ds) :
    IsDigits (cs ++ ds) := by
  intro c h
  rcases List.mem_append.mp h with h | h
  · exact hc c h
  · exact hd c h

theorem value_toDigits (n : Nat) : value (Nat.toDigits 10 n) = n :=
  Nat.ofDigitChars_ten_toDigits

theorem value_zeros_append (k : Nat) (cs : List Char) :
    value (List.replicate k '0' ++ cs) = value cs := by
  rw [value, Nat.ofDigitChars_append, Nat.ofDigitChars_replicate_zero, Nat.mul_zero]

theorem value_append_zeros (cs : List Char) (k : Nat) :
    value (cs ++ List.replicate k '0') = value cs * 10 ^ k := by
  rw [value, Nat.ofDigitChars_append, Nat.ofDigitChars_replicate_zero, Nat.mul_comm]

/-- `s.padStart(n, "0")`. -/
def padStart (cs : List Char) (n : Nat) : List Char :=
  List.replicate (n - cs.length) '0' ++ cs

theorem length_padStart {cs : List Char} {n : Nat} (h : cs.length ≤ n) :
    (padStart cs n).length = n := by
  rw [padStart, List.length_append, List.length_replicate]
  omega

theorem value_padStart (cs : List Char) (n : Nat) : value (padStart cs n) = value cs :=
  value_zeros_append _ _

theorem IsDigits.padStart {cs : List Char} (h : IsDigits cs) (n : Nat) :
    IsDigits (Decimal.padStart cs n) :=
  (isDigits_replicate_zero _).append h

/-- The number of zeros a string ends with. -/
def trailingZeros (cs : List Char) : Nat :=
  (cs.reverse.takeWhile (· == '0')).length

/-- A string without the zeros it ends with. -/
def dropTrailingZeros (cs : List Char) : List Char :=
  (cs.reverse.dropWhile (· == '0')).reverse

theorem takeWhile_zero_eq_replicate (cs : List Char) :
    cs.reverse.takeWhile (· == '0') = List.replicate (trailingZeros cs) '0' := by
  rw [List.eq_replicate_iff]
  refine ⟨rfl, fun b hb => ?_⟩
  have hall := List.all_takeWhile (p := (· == '0')) (l := cs.reverse)
  rw [List.all_eq_true] at hall
  simpa using hall b hb

theorem eq_dropTrailingZeros_append (cs : List Char) :
    cs = dropTrailingZeros cs ++ List.replicate (trailingZeros cs) '0' := by
  calc cs = (cs.reverse.takeWhile (· == '0') ++ cs.reverse.dropWhile (· == '0')).reverse := by
        rw [List.takeWhile_append_dropWhile, List.reverse_reverse]
    _ = dropTrailingZeros cs ++ List.replicate (trailingZeros cs) '0' := by
        rw [List.reverse_append, takeWhile_zero_eq_replicate, List.reverse_replicate]
        rfl

theorem value_eq_dropTrailingZeros (cs : List Char) :
    value cs = value (dropTrailingZeros cs) * 10 ^ trailingZeros cs := by
  conv_lhs => rw [eq_dropTrailingZeros_append cs]
  exact value_append_zeros _ _

theorem IsDigits.dropTrailingZeros {cs : List Char} (h : IsDigits cs) :
    IsDigits (Decimal.dropTrailingZeros cs) := by
  intro c hc
  apply h c
  rw [eq_dropTrailingZeros_append cs]
  exact List.mem_append_left _ hc

theorem length_dropTrailingZeros (cs : List Char) :
    (dropTrailingZeros cs).length + trailingZeros cs = cs.length := by
  conv_rhs => rw [eq_dropTrailingZeros_append cs]
  rw [List.length_append, List.length_replicate]

end Decimal
