import Mathlib

/-!
# Support — JavaScript built-ins

The built-ins of the language the modelled code calls, as they compute.

`Number(n)` for a bigint `n` is the IEEE-754 double nearest to `n`, ties to even.  A double has
a 53-bit significand, so every integer of magnitude below `2 ^ 53` is one exactly and `Number`
is the identity there; above, `n` is rounded to a multiple of `2 ^ (log2 n - 52)`.  The result
is an integer-valued double and is written here as the integer it denotes.  Magnitudes past the
largest double, which `Number` turns into an infinity, are not represented: the rounding goes on
at the same 53 bits.  `Math.round` of a quotient of naturals, the one fraction the modelled code
rounds, is `roundDiv`.

`String.prototype.trim` strips the code points of the WhiteSpace and LineTerminator classes
from both ends, and `length` counts UTF-16 code units, two for a code point above U+FFFF; both
are written over the string's code points.  `toLowerCase` is kept to ASCII letters,
`startsWith` compares code points, and `split` is written for a one-character separator.

* `trim_of_forall`, `count_trim`: `trim` leaves a string of no white space as it is, and a
  character it never strips as often as it was.
* `length_split`, `split_append`: a split has one piece more than the separators, and a piece
  free of the separator, followed by one, is split off whole.

* `Number_of_natAbs_lt`: `Number` is exact below `2 ^ 53`.
* `Number_nonneg`: `Number` keeps the sign of a non-negative bigint.
-/

namespace Js

/-- The double nearest to a natural number, ties to even, as the integer it denotes. -/
def roundNat (n : Nat) : Nat :=
  if n < 2 ^ 53 then n
  else
    -- `n / 2 ^ e` has 53 bits; `r` is what the rounding drops
    let e := Nat.log2 n - 52
    let q := n / 2 ^ e
    let r := n % 2 ^ e
    let half := 2 ^ (e - 1)
    (if half < r ∨ (r = half ∧ q % 2 = 1) then q + 1 else q) * 2 ^ e

/-- `Number(n)` for a bigint `n`. -/
def Number (n : Int) : Int :=
  if n < 0 then -(roundNat n.natAbs : Int) else (roundNat n.natAbs : Int)

/-- `Math.round(a / b)` for naturals `a` and `b > 0`: the nearest integer, halves rounded up. -/
def roundDiv (a b : Nat) : Nat :=
  (2 * a + b) / (2 * b)

theorem roundNat_of_lt {n : Nat} (h : n < 2 ^ 53) : roundNat n = n := by
  unfold roundNat
  rw [if_pos h]

/-- `Number` is exact on the integers a double represents: every magnitude below `2 ^ 53`. -/
theorem Number_of_natAbs_lt {n : Int} (h : n.natAbs < 2 ^ 53) : Number n = n := by
  unfold Number
  rw [roundNat_of_lt h]
  split <;> omega

theorem Number_of_nonneg_of_lt {n : Int} (h₀ : 0 ≤ n) (h : n < 2 ^ 53) : Number n = n :=
  Number_of_natAbs_lt (by omega)

theorem Number_nonneg {n : Int} (h : 0 ≤ n) : 0 ≤ Number n := by
  have hn : ¬ n < 0 := by omega
  simp only [Number, hn, if_false]
  exact Int.natCast_nonneg _

/-! ### Strings -/

/-- The code points `trim` strips: WhiteSpace (tab, vertical tab, form feed, space, no-break
space, the byte-order mark and the space separators) and LineTerminator. -/
def isTrimmed (c : Char) : Bool :=
  let n := c.toNat
  n == 0x9 || n == 0xA || n == 0xB || n == 0xC || n == 0xD || n == 0x20 || n == 0xA0 ||
    n == 0x1680 || (0x2000 ≤ n && n ≤ 0x200A) || n == 0x2028 || n == 0x2029 || n == 0x202F ||
    n == 0x205F || n == 0x3000 || n == 0xFEFF

/-- `s.trim()`. -/
def trim (s : String) : String :=
  String.ofList ((s.toList.dropWhile isTrimmed).reverse.dropWhile isTrimmed).reverse

/-- `s.toLowerCase()`, on the letters that have a one-letter lower case in ASCII. -/
def toLowerCase (s : String) : String :=
  String.ofList (s.toList.map Char.toLower)

/-- `s.length`: UTF-16 code units. -/
def length (s : String) : Nat :=
  (s.toList.map fun c => if c.toNat < 0x10000 then 1 else 2).sum

/-- `s.startsWith(p)`. -/
def startsWith (s p : String) : Bool :=
  p.toList.isPrefixOf s.toList

/-- `s.split(sep)` for a one-character separator: the pieces between the separators, empty ones
included, so that `"".split(sep)` is `[""]`. -/
def split (s : String) (sep : Char) : List String :=
  (s.toList.splitOn sep).map String.ofList

section Lists

variable {α : Type}

theorem count_dropWhile [BEq α] [LawfulBEq α] {p : α → Bool} {c : α} (hc : p c = false) :
    ∀ l : List α, (l.dropWhile p).count c = l.count c
  | [] => rfl
  | a :: l => by
    by_cases ha : p a = true
    · have hne : a ≠ c := by
        rintro rfl
        rw [hc] at ha
        exact Bool.false_ne_true ha
      rw [List.dropWhile_cons_of_pos ha, count_dropWhile hc l, List.count_cons_of_ne hne]
    · rw [List.dropWhile_cons_of_neg ha]

theorem dropWhile_of_forall {p : α → Bool} {l : List α} (h : ∀ c ∈ l, p c = false) :
    l.dropWhile p = l := by
  cases l with
  | nil => rfl
  | cons a l => exact List.dropWhile_cons_of_neg (by rw [h a List.mem_cons_self]; decide)

theorem length_splitOnP (p : α → Bool) : ∀ l : List α, (l.splitOnP p).length = l.countP p + 1
  | [] => rfl
  | a :: l => by
    rw [List.splitOnP_cons_eq_if_modifyHead, List.countP_cons]
    by_cases ha : p a = true
    · rw [if_pos ha, if_pos ha, List.length_cons, length_splitOnP p l]
    · rw [if_neg ha, if_neg ha, List.length_modifyHead, length_splitOnP p l, Nat.add_zero]

end Lists

/-- No visible ASCII character, `!` to `~`, is white space. -/
theorem isTrimmed_of_visible_ascii {c : Char} (h₁ : 0x21 ≤ c.toNat) (h₂ : c.toNat ≤ 0x7E) :
    isTrimmed c = false := by
  simp only [isTrimmed, Bool.or_eq_false_iff, beq_eq_false_iff_ne, ne_eq, Bool.and_eq_false_iff,
    decide_eq_false_iff_not]
  omega

theorem trim_of_forall {s : String} (h : ∀ c ∈ s.toList, isTrimmed c = false) : trim s = s := by
  have h' : ∀ c ∈ s.toList.reverse, isTrimmed c = false := fun c hc => h c (List.mem_reverse.mp hc)
  rw [trim, dropWhile_of_forall h, dropWhile_of_forall h', List.reverse_reverse,
    String.ofList_toList]

theorem count_trim {c : Char} (hc : isTrimmed c = false) (s : String) :
    (trim s).toList.count c = s.toList.count c := by
  rw [trim, String.toList_ofList, List.count_reverse, count_dropWhile hc, List.count_reverse,
    count_dropWhile hc]

theorem length_split (s : String) (sep : Char) : (split s sep).length = s.toList.count sep + 1 := by
  rw [split, List.length_map, List.splitOn, length_splitOnP, List.count_eq_countP]

theorem split_of_not_mem {s : String} {sep : Char} (h : sep ∉ s.toList) : split s sep = [s] := by
  have h' : ∀ c ∈ s.toList, (c == sep) = false := by
    intro c hc
    exact beq_eq_false_iff_ne.mpr (fun hcs => h (hcs ▸ hc))
  rw [split, List.splitOn, List.splitOnP_eq_singleton h', List.map_singleton, String.ofList_toList]

theorem split_append {a b : String} {sep : Char} (h : sep ∉ a.toList) :
    split (a ++ String.singleton sep ++ b) sep = a :: split b sep := by
  have h' : ∀ c ∈ a.toList, (c == sep) = false := by
    intro c hc
    exact beq_eq_false_iff_ne.mpr (fun hcs => h (hcs ▸ hc))
  have hl : (a ++ String.singleton sep ++ b).toList = a.toList ++ sep :: b.toList := by
    rw [String.toList_append, String.toList_append, String.toList_singleton, List.append_assoc,
      List.singleton_append]
  rw [split, hl, List.splitOn, List.splitOnP_append_cons_of_forall_mem h' sep (beq_self_eq_true sep),
    List.map_cons, String.ofList_toList]
  rfl

end Js
