import Flash.Shared.Amounts
import Flash.Support.Decimal
import Flash.Support.Json
import Flash.Support.Rounding

/-!
# Shared — money amounts

`Money` of `bigint-money` (`domain/shared/bigint-money`, copied from that library) holds an
amount as a bigint times `10 ^ 20`.  The money-amount classes wrap one: `USDAmount` and
`JMDAmount` of `domain/shared/money`, and `USDTAmount` of `domain/shared/MoneyAmount.ts`, on a
second base class.  `toMoneyAmount` builds a USD or JMD amount from a string and a currency.

`format` writes the amount with its 20 decimals and drops the zeros it ends with;
`moneyValueToBigInt` reads a decimal string.

* `moneyValueToBigInt_format`: reading `format` back gives the value exactly, whatever it is;
* `toMoneyAmountFromJSON_toJson`, `smallestUnits_toJson`: so an instance's `toJson()` pair builds
  the same instance again.
-/

namespace Shared

/-- `WalletCurrency`'s strings. -/
def WalletCurrency.code : WalletCurrency → String
  | .usd => "USD"
  | .jmd => "JMD"
  | .btc => "BTC"
  | .usdt => "USDT"

/-- `Round`; `BANKERS` and `TRUNCATE` are other names of `HALF_TO_EVEN` and `TOWARDS_0`. -/
inductive Round
  | HALF_TO_EVEN
  | HALF_AWAY_FROM_0
  | HALF_TOWARDS_0
  | TOWARDS_0
  deriving DecidableEq, Repr

/-- `PRECISION_I`: the digits an amount keeps after the point. -/
def PRECISION_I : Nat := 20

/-- `PRECISION_M`: the factor of the internal values. -/
def PRECISION_M : Int := 10 ^ PRECISION_I

/-- `divide(a, b, round)`: the quotient of the magnitudes, rounded by `round`, with the sign put
back.  Every divisor of the model is a power of ten; for `0n` JavaScript throws. -/
def divide (a b : Int) (round : Round) : Int :=
  let aAbs := if a > 0 then a else -a
  let bAbs := if b > 0 then b else -b
  let result := aAbs.tdiv bAbs
  let rem := aAbs.tmod bAbs
  let result :=
    if rem * 2 > bAbs then
      match round with
      | .TOWARDS_0 => result
      | _ => result + 1
    else if rem * 2 = bAbs then
      match round with
      | .HALF_TO_EVEN => if result.tmod 2 = 1 then result + 1 else result
      | .HALF_AWAY_FROM_0 => result + 1
      | .TOWARDS_0 | .HALF_TOWARDS_0 => result
    else result
  if decide (a > 0) != decide (b > 0) then -result else result

/-- What `new Money(value, …)` is given: a string, a bigint, a number, or a value of another
type. -/
inductive MoneyValue
  | string (s : String)
  | bigint (n : Int)
  | number (n : Int)
  | other

/-- What `new Money` throws: a `TypeError` or an `UnsafeIntegerError`. -/
inductive MoneyError
  | typeError (message : String)
  | unsafeInteger (message : String)
  deriving DecidableEq, Repr

/-- The `message` of a thrown error. -/
def MoneyError.message : MoneyError → String
  | .typeError message => message
  | .unsafeInteger message => message

/-- The match of `([0-9]*)?(\.([0-9]*))?$`, after the sign: the digits of the whole part, and
those of the fraction when there is a point. -/
def matchUnsigned (rest : List Char) : Option (List Char × Option (List Char)) :=
  let wholePart := rest.takeWhile Char.isDigit
  match rest.dropWhile Char.isDigit with
  | [] => some (wholePart, none)
  | '.' :: fracPart =>
    if fracPart.all Char.isDigit then some (wholePart, some fracPart) else none
  | _ => none

/-- The match of `/^(-)?([0-9]*)?(\.([0-9]*))?$/`: whether there is a sign, then the digits. -/
def matchMoneyString (cs : List Char) : Option (Bool × List Char × Option (List Char)) :=
  match cs with
  | '-' :: rest => (matchUnsigned rest).map fun (wholePart, fracPart) => (true, wholePart, fracPart)
  | rest => (matchUnsigned rest).map fun (wholePart, fracPart) => (false, wholePart, fracPart)

/-- `moneyValueToBigInt(input, round)`: the value times `PRECISION_M`.  A fraction of more than 20
digits is rounded by `round`; `BigInt` of the empty string is `0n`. -/
def moneyValueToBigInt (input : MoneyValue) (round : Round) : Except MoneyError Int :=
  match input with
  | .string s =>
    match matchMoneyString s.toList with
    | none => .error (.typeError "Input string must follow the pattern (-)##.## or -##")
    | some (negative, wholePart, fracPart) =>
      let output : Int := (Decimal.value wholePart : Int) * PRECISION_M
      let output :=
        match fracPart with
        | none => output
        | some fracPart =>
          if fracPart.length ≤ PRECISION_I then
            output + (Decimal.value fracPart : Int) * 10 ^ (PRECISION_I - fracPart.length)
          else
            output + divide (Decimal.value fracPart) (10 ^ (fracPart.length - PRECISION_I)) round
      .ok (if negative then -output else output)
  | .bigint n => .ok (n * PRECISION_M)
  | .number n =>
    if n.natAbs ≤ 2 ^ 53 - 1 then .ok (n * PRECISION_M)
    else .error (.unsafeInteger ("The number " ++ toString n ++
      " is not a \"safe\" integer. It must be converted before passing it"))
  | .other => .error (.typeError "value must be a safe integer, bigint or string")

/-- `bigintToFixed(value, precision, round)`: the value over `PRECISION_M` with `precision`
decimals. -/
def bigintToFixed (value : Int) (precision : Nat) (round : Round) : String :=
  if precision = 0 then toString (divide value PRECISION_M round)
  else
    let wholePart := value.tdiv PRECISION_M
    let negative := decide (value < 0)
    let remainder := value.tmod PRECISION_M
    let remainder :=
      if precision > PRECISION_I then remainder * 10 ^ (precision - PRECISION_I)
      else divide remainder (10 ^ (PRECISION_I - precision)) round
    let remainder := if remainder < 0 then -remainder else remainder
    let remainderStr := Decimal.padStart (toString remainder).toList precision
    -- the remainder rounded up to a whole unit
    let (wholePart, remainderStr) :=
      if remainderStr.length > precision then
        (if negative then wholePart - 1 else wholePart + 1, List.replicate precision '0')
      else (wholePart, remainderStr)
    let wholePartStr :=
      if toString wholePart = "0" ∧ negative = true then "-0" else toString wholePart
    wholePartStr ++ "." ++ String.ofList remainderStr

/-- `s.replace(/\.?0+$/, "")`.  The first match is the run of zeros the string ends with, and
the point before the run if there is one. -/
def stripZeros (s : String) : String :=
  let r := s.toList.reverse
  if r.head? = some '0' then
    match r.dropWhile (· == '0') with
    | '.' :: rest => String.ofList rest.reverse
    | rest => String.ofList rest.reverse
  else s

/-- `Money`: a currency and the amount times `PRECISION_M`.  Every `Money` the model builds
rounds half to even. -/
structure Money where
  currency : String
  value : Int
  deriving DecidableEq, Repr

/-- `Money.toFixed(precision)`. -/
def Money.toFixed (m : Money) (precision : Nat) : String :=
  bigintToFixed m.value precision .HALF_TO_EVEN

/-- `Money.format()`: all 20 decimals, less the zeros they end with. -/
def Money.format (m : Money) : String :=
  stripZeros (m.toFixed PRECISION_I)

/-- `Money.toJSON()`. -/
def Money.toJSON (m : Money) : String × String :=
  (m.format, m.currency)

/-! ### The money-amount classes -/

/-- The classes of money amounts the modelled code builds. -/
inductive MoneyClass
  | USDAmount
  | JMDAmount
  | USDTAmount
  deriving DecidableEq, Repr

/-- The `currencyCode` each class gives its instances. -/
def MoneyClass.currencyCode : MoneyClass → WalletCurrency
  | .USDAmount => .usd
  | .JMDAmount => .jmd
  | .USDTAmount => .usdt

/-- An instance of a money-amount class: the class, and the value of its `money`, whose currency
is the class's. -/
structure MoneyAmount where
  cls : MoneyClass
  value : Int
  deriving DecidableEq, Repr

/-- `currencyCode`. -/
def MoneyAmount.currencyCode (a : MoneyAmount) : WalletCurrency :=
  a.cls.currencyCode

/-- `money`. -/
def MoneyAmount.money (a : MoneyAmount) : Money :=
  ⟨a.currencyCode.code, a.value⟩

/-- `toJson()`: `money.toJSON()`. -/
def MoneyAmount.toJson (a : MoneyAmount) : String × String :=
  a.money.toJSON

/-- `new C(amount)` of a class `C`: `new Money(amount, currencyCode, Round.HALF_TO_EVEN)`. -/
def MoneyAmount.construct (cls : MoneyClass) (amount : MoneyValue) :
    Except MoneyError MoneyAmount := do
  let value ← moneyValueToBigInt amount .HALF_TO_EVEN
  pure ⟨cls, value⟩

/-- `BigIntConversionError`, with the message of what was thrown. -/
structure BigIntConversionError where
  message : String
  deriving DecidableEq, Repr

/-- The static constructors' `try { return new C(amount) } catch …`. -/
def MoneyAmount.checkedConstruct (cls : MoneyClass) (amount : MoneyValue) :
    Except BigIntConversionError MoneyAmount :=
  (MoneyAmount.construct cls amount).mapError fun e => ⟨e.message⟩

/-- `USDAmount.cents(cents)`. -/
def USDAmount.cents (cents : MoneyValue) : Except BigIntConversionError MoneyAmount :=
  MoneyAmount.checkedConstruct .USDAmount cents

/-- `JMDAmount.cents(c)`. -/
def JMDAmount.cents (c : MoneyValue) : Except BigIntConversionError MoneyAmount :=
  MoneyAmount.checkedConstruct .JMDAmount c

/-- `USDTAmount.smallestUnits(units)`. -/
def USDTAmount.smallestUnits (units : MoneyValue) : Except BigIntConversionError MoneyAmount :=
  MoneyAmount.checkedConstruct .USDTAmount units

/-- What `toMoneyAmount` returns or throws instead of an amount. -/
inductive MoneyAmountError
  | bigIntConversion (e : BigIntConversionError)
  | unsupportedCurrency (message : String)
  | typeError (message : String)
  deriving DecidableEq, Repr

section ToMoneyAmount

variable (dateString : Option Int → String)

/-- `ToString` of a value of the model: a money amount has no `toString` of its own. -/
def moneyToStr : Js.Value MoneyAmount → String :=
  Js.Value.toStr dateString fun _ => "[object Object]"

/-- `amount.toString()`: `TypeError` on `null` and `undefined`. -/
def toStringMethod : Js.Value MoneyAmount → Except MoneyAmountError String
  | .undefined => .error (.typeError "Cannot read properties of undefined (reading 'toString')")
  | .null => .error (.typeError "Cannot read properties of null (reading 'toString')")
  | v => .ok (moneyToStr dateString v)

/-- `toMoneyAmount(amount, currency)`, on the values it is handed at run time. -/
def toMoneyAmount (amount currency : Js.Value MoneyAmount) :
    Except MoneyAmountError MoneyAmount :=
  match currency with
  | .string "USD" => do
    let s ← toStringMethod dateString amount
    (USDAmount.cents (.string s)).mapError .bigIntConversion
  | .string "JMD" => do
    let s ← toStringMethod dateString amount
    (JMDAmount.cents (.string s)).mapError .bigIntConversion
  | _ => .error (.unsupportedCurrency ("Could not read currency: " ++ moneyToStr dateString currency))

/-- `toMoneyAmountFromJSON(val)`: `toMoneyAmount(val[0], val[1])`. -/
def toMoneyAmountFromJSON (val : Js.Value MoneyAmount × Js.Value MoneyAmount) :
    Except MoneyAmountError MoneyAmount :=
  toMoneyAmount dateString val.1 val.2

end ToMoneyAmount

/-! ### Writing a value and reading it back -/

section Decimals

open Decimal

theorem divide_one (a : Int) (round : Round) : divide a 1 round = a := by
  -- a magnitude over one leaves no remainder, so nothing to round, and the sign comes back
  have h₁ : ((1 : Int) > 0) = True := by decide
  have h₂ : ¬ ((0 : Int) > 1) := by decide
  have h₃ : ¬ ((0 : Int) = 1) := by decide
  unfold divide
  simp only [h₁, if_true, Int.tdiv_one, Int.tmod_one, Int.zero_mul, if_neg h₂, if_neg h₃]
  by_cases ha : a > 0
  · simp [ha]
  · simp [ha]

/-- The sign of a decimal string, as `(-)?` matches it. -/
abbrev signPart (negative : Bool) : List Char :=
  if negative then ['-'] else []

theorem toList_toString_int (w : Int) :
    (toString w).toList = signPart (decide (w < 0)) ++ Nat.toDigits 10 w.natAbs := by
  cases w with
  | ofNat n =>
    show (toString n).toList = _
    simp
  | negSucc n =>
    show ("-" ++ toString (n + 1)).toList = _
    simp [String.toList_append, signPart]

theorem toString_int_eq_zero_iff (w : Int) : toString w = "0" ↔ w = 0 := by
  constructor
  · intro h
    have hl := congrArg String.toList h
    rw [toList_toString_int] at hl
    by_cases hw : w < 0
    · rw [signPart, if_pos (decide_eq_true hw)] at hl
      cases hl
    · rw [signPart, if_neg (by simpa using hw), List.nil_append] at hl
      have hv := congrArg Decimal.value hl
      rw [Decimal.value_toDigits] at hv
      have h0 : Decimal.value "0".toList = 0 := by decide
      omega
  · rintro rfl
    rfl

theorem PRECISION_M_eq : PRECISION_M = 100000000000000000000 := rfl

/-- The truncated whole part has the value's sign. -/
theorem tdiv_sign (v : Int) :
    (v < 0 → v.tdiv PRECISION_M ≤ 0) ∧ (0 ≤ v → 0 ≤ v.tdiv PRECISION_M) := by
  have h := Int.tmod_add_tdiv_mul v PRECISION_M
  have h₁ := Int.tmod_lt_of_pos v (show (0 : Int) < PRECISION_M by decide)
  have h₂ := Int.lt_tmod_of_pos v (show (0 : Int) < PRECISION_M by decide)
  rw [PRECISION_M_eq] at h h₁ h₂ ⊢
  constructor
  · intro hv
    have := Rounding.tmod_nonpos (100000000000000000000 : Int) hv.le
    omega
  · intro hv
    have := Int.tmod_nonneg (100000000000000000000 : Int) hv
    omega

/-- The whole part as `bigintToFixed` writes it: `-0` for a negative value above `-1`. -/
theorem toList_wholePartStr (v : Int) :
    (if toString (v.tdiv PRECISION_M) = "0" ∧ decide (v < 0) = true then "-0"
      else toString (v.tdiv PRECISION_M)).toList =
      signPart (decide (v < 0)) ++ Nat.toDigits 10 (v.tdiv PRECISION_M).natAbs := by
  obtain ⟨hneg, hpos⟩ := tdiv_sign v
  by_cases hv : v < 0
  · by_cases hw : v.tdiv PRECISION_M = 0
    · rw [if_pos ⟨(toString_int_eq_zero_iff _).mpr hw, decide_eq_true hv⟩, hw]
      simp [signPart, hv]
    · have hw' : v.tdiv PRECISION_M < 0 := by
        have := hneg hv
        omega
      rw [if_neg (fun h => hw ((toString_int_eq_zero_iff _).mp h.1)), toList_toString_int]
      simp [signPart, hv, hw']
  · have hw : ¬ v.tdiv PRECISION_M < 0 := by
      have := hpos (by omega)
      omega
    rw [if_neg (fun h => hv (of_decide_eq_true h.2)), toList_toString_int]
    simp [signPart, hv, hw]

/-- `toFixed(20)` writes the sign, the digits of the whole part, a point, and the remainder's
digits padded to twenty. -/
theorem toList_bigintToFixed_twenty (v : Int) :
    (bigintToFixed v PRECISION_I .HALF_TO_EVEN).toList =
      signPart (decide (v < 0)) ++ Nat.toDigits 10 (v.tdiv PRECISION_M).natAbs ++
        '.' :: padStart (Nat.toDigits 10 (v.tmod PRECISION_M).natAbs) PRECISION_I := by
  have hr : (v.tmod PRECISION_M).natAbs < 10 ^ PRECISION_I := by
    rw [Int.natAbs_tmod]
    exact Nat.mod_lt _ (by decide)
  have hlen : (Nat.toDigits 10 (v.tmod PRECISION_M).natAbs).length ≤ PRECISION_I :=
    (Nat.length_toDigits_le_iff (by decide) (by decide)).mpr hr
  have hpad := length_padStart hlen
  have habs : (if v.tmod PRECISION_M < 0 then -v.tmod PRECISION_M else v.tmod PRECISION_M) =
      ((v.tmod PRECISION_M).natAbs : Int) := by omega
  have htoStr : (toString ((v.tmod PRECISION_M).natAbs : Int)).toList =
      Nat.toDigits 10 (v.tmod PRECISION_M).natAbs := by
    show (toString (v.tmod PRECISION_M).natAbs).toList = _
    simp
  -- twenty decimals: no rounding of the remainder, and it never carries into the whole part
  unfold bigintToFixed
  simp only [show PRECISION_I ≠ 0 by decide, if_false, show ¬ PRECISION_I > PRECISION_I by decide,
    Nat.sub_self, show (10 : Int) ^ (0 : Nat) = 1 from rfl, divide_one, habs, htoStr, hpad]
  rw [String.toList_append, String.toList_append, toList_wholePartStr, String.toList_ofList]
  simp

theorem reverse_point {W R : List Char} :
    (W ++ '.' :: R).reverse = R.reverse ++ '.' :: W.reverse := by
  simp

theorem eq_false_of_dropWhile_eq_cons {α : Type} {p : α → Bool} :
    ∀ {l : List α} {c : α} {D : List α}, l.dropWhile p = c :: D → p c = false
  | [], _, _, h => by cases h
  | a :: l, c, D, h => by
    by_cases ha : p a = true
    · rw [List.dropWhile_cons_of_pos ha] at h
      exact eq_false_of_dropWhile_eq_cons h
    · rw [List.dropWhile_cons_of_neg ha] at h
      cases h
      simpa using ha

/-- Decimals that are all zeros go, and the point with them. -/
theorem stripZeros_of_zeros {s : String} {W : List Char} {n : Nat}
    (hs : s.toList = W ++ '.' :: List.replicate (n + 1) '0') : stripZeros s = String.ofList W := by
  have hr : s.toList.reverse = List.replicate (n + 1) '0' ++ '.' :: W.reverse := by
    rw [hs, reverse_point, List.reverse_replicate]
  have hhead : (List.replicate (n + 1) '0' ++ '.' :: W.reverse).head? = some '0' := rfl
  have hdrop : (List.replicate (n + 1) '0' ++ '.' :: W.reverse).dropWhile (· == '0') =
      '.' :: W.reverse := by
    rw [List.dropWhile_append_of_pos (fun a ha => by rw [List.eq_of_mem_replicate ha]; rfl)]
    rfl
  unfold stripZeros
  simp only [hr, hhead, if_true, hdrop, List.reverse_reverse]

/-- Decimals that are not all zeros lose only the zeros they end with. -/
theorem stripZeros_of_ne_zero {s : String} {W F : List Char} (hF : IsDigits F)
    (hne : dropTrailingZeros F ≠ []) (hs : s.toList = W ++ '.' :: F) :
    stripZeros s = String.ofList (W ++ '.' :: dropTrailingZeros F) := by
  have hr : s.toList.reverse = F.reverse ++ '.' :: W.reverse := by rw [hs, reverse_point]
  obtain ⟨c, D, hD⟩ : ∃ c D, F.reverse.dropWhile (· == '0') = c :: D := by
    cases h : F.reverse.dropWhile (· == '0') with
    | nil => exact absurd (by rw [dropTrailingZeros, h]; rfl) hne
    | cons c D => exact ⟨c, D, rfl⟩
  -- the digit the run of zeros stops at is neither a zero nor the point
  have hcdot : c ≠ '.' := by
    have hmem : c ∈ F := by
      have : c ∈ F.reverse.dropWhile (· == '0') := by
        rw [hD]
        exact List.mem_cons_self
      exact List.mem_reverse.mp (List.dropWhile_sublist _ |>.subset this)
    intro h
    have := hF c hmem
    rw [h] at this
    exact absurd this (by decide)
  have hdtz : dropTrailingZeros F = (c :: D).reverse := by rw [dropTrailingZeros, hD]
  have hdrop : (F.reverse ++ '.' :: W.reverse).dropWhile (· == '0') =
      c :: (D ++ '.' :: W.reverse) := by
    rw [List.dropWhile_append, hD]
    rfl
  unfold stripZeros
  by_cases hz : (F.reverse ++ '.' :: W.reverse).head? = some '0'
  · simp only [hr, hz, if_true, hdrop]
    split
    · rename_i h
      cases h
      exact absurd rfl hcdot
    · rw [hdtz]
      simp
  · -- no zero at the end: nothing is stripped, and `F` ends with no zero either
    simp only [hr, hz, if_false]
    have hF' : F.reverse = c :: D := by
      cases hFr : F.reverse with
      | nil =>
        rw [hFr] at hD
        cases hD
      | cons a l =>
        have ha : ¬ (a == '0') = true := by
          rw [hFr] at hz
          simpa using hz
        rw [hFr, List.dropWhile_cons_of_neg (p := (· == '0')) ha] at hD
        exact hD
    rw [← String.ofList_toList (s := s), hs, hdtz, ← hF', List.reverse_reverse]

theorem matchUnsigned_whole {ds : List Char} (hds : IsDigits ds) :
    matchUnsigned ds = some (ds, none) := by
  have ht : ds.takeWhile Char.isDigit = ds := by
    have h : (ds ++ []).takeWhile Char.isDigit = ds ++ ([] : List Char).takeWhile Char.isDigit :=
      List.takeWhile_append_of_pos hds
    simpa using h
  have hd : ds.dropWhile Char.isDigit = [] := by
    have h : (ds ++ []).dropWhile Char.isDigit = ([] : List Char).dropWhile Char.isDigit :=
      List.dropWhile_append_of_pos hds
    simpa using h
  simp only [matchUnsigned, ht, hd]

theorem matchUnsigned_point {ds fs : List Char} (hds : IsDigits ds) (hfs : IsDigits fs) :
    matchUnsigned (ds ++ '.' :: fs) = some (ds, some fs) := by
  have hdot : Char.isDigit '.' = false := by decide
  have ht : (ds ++ '.' :: fs).takeWhile Char.isDigit = ds := by
    rw [List.takeWhile_append_of_pos hds, List.takeWhile_cons_of_neg (by rw [hdot]; decide),
      List.append_nil]
  have hd : (ds ++ '.' :: fs).dropWhile Char.isDigit = '.' :: fs := by
    rw [List.dropWhile_append_of_pos hds, List.dropWhile_cons_of_neg (by rw [hdot]; decide)]
  have hall : fs.all Char.isDigit = true := List.all_eq_true.mpr hfs
  simp only [matchUnsigned, ht, hd, hall, if_true]

/-- The sign is read off first, when what follows does not start with another `-`. -/
theorem matchMoneyString_signPart (negative : Bool) {rest : List Char}
    (hrest : ∀ l, rest ≠ '-' :: l) :
    matchMoneyString (signPart negative ++ rest) =
      (matchUnsigned rest).map fun (wholePart, fracPart) => (negative, wholePart, fracPart) := by
  cases negative with
  | true => rfl
  | false =>
    simp only [signPart, Bool.false_eq_true, if_false, List.nil_append]
    unfold matchMoneyString
    split
    · rename_i l
      exact absurd rfl (hrest l)
    · rfl

theorem not_minus_of_isDigits {ds rest : List Char} (hds : IsDigits ds)
    (hrest : ∀ l, rest ≠ '-' :: l) : ∀ l, ds ++ rest ≠ '-' :: l := by
  intro l h
  cases ds with
  | nil => exact hrest l h
  | cons d ds =>
    cases h
    exact absurd (hds '-' List.mem_cons_self) (by decide)

/-- `|v|` is the whole part's magnitude times `PRECISION_M` plus the remainder's, and `v` has
its own sign. -/
theorem eq_signed_magnitude (v : Int) :
    v = if decide (v < 0) then
        -((v.tdiv PRECISION_M).natAbs * PRECISION_M + ((v.tmod PRECISION_M).natAbs : Int))
      else (v.tdiv PRECISION_M).natAbs * PRECISION_M + ((v.tmod PRECISION_M).natAbs : Int) := by
  obtain ⟨hneg, hpos⟩ := tdiv_sign v
  have h := Int.tmod_add_tdiv_mul v PRECISION_M
  rw [PRECISION_M_eq] at h hneg hpos ⊢
  by_cases hv : v < 0
  · have h₁ := Rounding.tmod_nonpos (100000000000000000000 : Int) hv.le
    have h₂ := hneg hv
    rw [if_pos (decide_eq_true hv)]
    omega
  · have h₁ := Int.tmod_nonneg (100000000000000000000 : Int) (by omega : 0 ≤ v)
    have h₂ := hpos (by omega)
    rw [if_neg (by simpa using hv)]
    omega

/-- Reading back what `format` writes gives the value exactly. -/
theorem moneyValueToBigInt_format (m : Money) :
    moneyValueToBigInt (.string m.format) .HALF_TO_EVEN = .ok m.value := by
  set v := m.value with hv
  set W := signPart (decide (v < 0)) ++ Nat.toDigits 10 (v.tdiv PRECISION_M).natAbs with hW
  set F := padStart (Nat.toDigits 10 (v.tmod PRECISION_M).natAbs) PRECISION_I with hFdef
  have hfixed : (m.toFixed PRECISION_I).toList = W ++ '.' :: F :=
    toList_bigintToFixed_twenty v
  have hF : IsDigits F := (isDigits_toDigits _).padStart _
  have hFv : value F = (v.tmod PRECISION_M).natAbs := by
    rw [hFdef, value_padStart, value_toDigits]
  have hFlen : F.length = PRECISION_I := by
    apply length_padStart
    apply (Nat.length_toDigits_le_iff (by decide) (by decide)).mpr
    rw [Int.natAbs_tmod]
    exact Nat.mod_lt _ (by decide)
  have hWnot : ∀ l, Nat.toDigits 10 (v.tdiv PRECISION_M).natAbs ≠ '-' :: l := by
    simpa using not_minus_of_isDigits (isDigits_toDigits (v.tdiv PRECISION_M).natAbs)
      (fun l (h : ([] : List Char) = '-' :: l) => by cases h)
  have hsigned := eq_signed_magnitude v
  by_cases hr0 : (v.tmod PRECISION_M).natAbs = 0
  · -- all twenty decimals are zeros: `format` writes the whole part alone
    have hFz : F = List.replicate (19 + 1) '0' := by
      rw [hFdef, hr0]
      rfl
    rw [Money.format, stripZeros_of_zeros (hfixed.trans (by rw [hFz]))]
    unfold moneyValueToBigInt
    dsimp only
    rw [String.toList_ofList, hW, matchMoneyString_signPart _ hWnot,
      matchUnsigned_whole (isDigits_toDigits _)]
    simp only [Option.map_some, value_toDigits]
    rw [hr0, Int.natCast_zero, Int.add_zero] at hsigned
    exact congrArg Except.ok hsigned.symm
  · -- the decimals lose the zeros they end with, which is a factor of ten each
    have hne : dropTrailingZeros F ≠ [] := by
      intro h
      have := value_eq_dropTrailingZeros F
      rw [h, hFv] at this
      exact hr0 (by simpa using this)
    have hdl := length_dropTrailingZeros F
    have hlen : (dropTrailingZeros F).length ≤ PRECISION_I := by omega
    have hfrac : (value (dropTrailingZeros F) : Int) * 10 ^ (PRECISION_I - (dropTrailingZeros F).length) =
        (v.tmod PRECISION_M).natAbs := by
      rw [show PRECISION_I - (dropTrailingZeros F).length = trailingZeros F by omega, ← hFv,
        value_eq_dropTrailingZeros F]
      push_cast
      rfl
    rw [Money.format, stripZeros_of_ne_zero hF hne hfixed]
    unfold moneyValueToBigInt
    dsimp only
    rw [String.toList_ofList, hW, List.append_assoc,
      matchMoneyString_signPart _ (not_minus_of_isDigits (isDigits_toDigits _) (fun _ h => by cases h)),
      matchUnsigned_point (isDigits_toDigits _) hF.dropTrailingZeros]
    simp only [Option.map_some, value_toDigits, if_pos hlen, hfrac]
    exact congrArg Except.ok hsigned.symm

end Decimals

/-! ### Money amounts from their JSON pair -/

theorem checkedConstruct_format (cls : MoneyClass) (m : Money) :
    MoneyAmount.checkedConstruct cls (.string m.format) = .ok ⟨cls, m.value⟩ := by
  unfold MoneyAmount.checkedConstruct MoneyAmount.construct
  rw [moneyValueToBigInt_format]
  rfl

theorem toJson_fst (a : MoneyAmount) : a.toJson.1 = a.money.format := by
  simp only [MoneyAmount.toJson, Money.toJSON]

theorem toJson_snd (a : MoneyAmount) : a.toJson.2 = a.currencyCode.code := by
  simp only [MoneyAmount.toJson, Money.toJSON, MoneyAmount.money]

theorem toStringMethod_string (dateString : Option Int → String) (s : String) :
    toStringMethod dateString (.string s) = .ok s := by
  simp only [toStringMethod, moneyToStr, Js.Value.toStr]

theorem toMoneyAmount_USD (dateString : Option Int → String) (amount : Js.Value MoneyAmount) :
    toMoneyAmount dateString amount (.string "USD") = (do
      let s ← toStringMethod dateString amount
      (USDAmount.cents (.string s)).mapError .bigIntConversion) := by
  simp only [toMoneyAmount]

theorem toMoneyAmount_JMD (dateString : Option Int → String) (amount : Js.Value MoneyAmount) :
    toMoneyAmount dateString amount (.string "JMD") = (do
      let s ← toStringMethod dateString amount
      (JMDAmount.cents (.string s)).mapError .bigIntConversion) := by
  simp only [toMoneyAmount]

/-- A USD or JMD amount's `toJson()` pair gives it back through `toMoneyAmountFromJSON`: the
pair names its currency, and the class of that currency is the amount's. -/
theorem toMoneyAmountFromJSON_toJson (dateString : Option Int → String) {a : MoneyAmount}
    (h : a.cls ≠ .USDTAmount) :
    toMoneyAmountFromJSON dateString (.string a.toJson.1, .string a.toJson.2) = .ok a := by
  obtain ⟨cls, value⟩ := a
  rw [toMoneyAmountFromJSON, toJson_fst, toJson_snd]
  -- the formatted text is never evaluated: only its read-back value matters
  generalize hm : MoneyAmount.money ⟨cls, value⟩ = m
  have hv : m.value = value := by rw [← hm]; rfl
  cases cls with
  | USDAmount =>
    rw [show (MoneyAmount.currencyCode ⟨.USDAmount, value⟩).code = "USD" from rfl,
      toMoneyAmount_USD, toStringMethod_string]
    simp only [bind, Except.bind, USDAmount.cents, checkedConstruct_format, hv]
    rfl
  | JMDAmount =>
    rw [show (MoneyAmount.currencyCode ⟨.JMDAmount, value⟩).code = "JMD" from rfl,
      toMoneyAmount_JMD, toStringMethod_string]
    simp only [bind, Except.bind, JMDAmount.cents, checkedConstruct_format, hv]
    rfl
  | USDTAmount => exact absurd rfl h

/-- A USDT amount's `toJson()` amount gives it back through `USDTAmount.smallestUnits`. -/
theorem smallestUnits_toJson {a : MoneyAmount} (h : a.cls = .USDTAmount) :
    USDTAmount.smallestUnits (.string a.toJson.1) = .ok a := by
  obtain ⟨cls, value⟩ := a
  subst h
  rw [toJson_fst, USDTAmount.smallestUnits, checkedConstruct_format]
  rfl

end Shared
