import Flash.Bitcoin.Lightning
import Flash.Shared.Money
import Flash.Support.Js

/-!
# Offers — cashout details through Redis

Between a cashout offer and its execution, the offer's `CashoutDetails` (`app/offers/types.ts`)
wait in Redis: `Redis.add` (`app/offers/storage/Redis.ts`) stores `OffersSerde.serialize` of them
under `offers:<id>`, and `Redis.get` reads them back with `OffersSerde.deserialize`
(`app/offers/storage/OffersSerde.ts`).

`serialize` is `JSON.stringify` with a replacer that writes a money amount as its `toJson()` pair
and a bigint as its decimal string.  `deserialize` is `JSON.parse` with a reviver that reads a
string under `expiresAt` as a `Date`, and an array under `amount`, `serviceFee` or `exchangeRate`
(in any case) as a money amount: a USDT one when the pair names `USDT`, one of
`toMoneyAmountFromJSON` otherwise.

* `serializeProperty_replacer`: given fuel for its depth, `serialize` writes `written v`.
* `internalize_written`: reading `written v` back gives `stored v` for every value whose amounts
  and dates sit where the reviver revives them, and nothing else does (`storable`).  A bigint
  comes back as its decimal string, and a member that was `undefined` is gone.
* The details `CashoutManager.createOffer` builds are such a value (`storable_toJs`).  Read back
  field by field (`CashoutDetails.ofJs`), they are the same details exactly when the invoice has
  no `paymentAmount`.  A `paymentAmount`'s `amount` comes back a string.
-/

namespace Offers

open Js Shared Lightning

/-- A JavaScript value of the offers' data: its instances are money amounts. -/
abbrev JsValue := Value MoneyAmount

/-! ### The serde -/

/-- The replacer of `OffersSerde.serialize`: a money amount, of either base class, is written as
its `toJson()` pair, and a bigint as its `toString()`. -/
def replacer (_key : String) (value : JsValue) : JsValue :=
  match value with
  | .inst a => .array [.string a.toJson.1, .string a.toJson.2]
  | .bigint n => .string (toString n)
  | v => v

/-- The keys, lower-cased, under which the reviver reads an array as a money amount. -/
def moneyKeys : List String := ["amount", "servicefee", "exchangerate"]

/-- What `new Money(value[0], …)` is handed. -/
def moneyValue : JsValue → MoneyValue
  | .string s => .string s
  | .bigint n => .bigint n
  | .number n => .number n
  | _ => .other

/-- The money amount the reviver makes of an array `value`: `USDTAmount.smallestUnits(value[0])`
when `value[1] === "USDT"`, `toMoneyAmountFromJSON(value)` otherwise.  An error is thrown. -/
def reviveAmount (dateString : Option Int → String) (value : List JsValue) :
    Except MoneyAmountError MoneyAmount :=
  match value.getD 1 .undefined with
  | .string "USDT" =>
    (USDTAmount.smallestUnits (moneyValue (value.getD 0 .undefined))).mapError .bigIntConversion
  | _ => toMoneyAmountFromJSON dateString (value.getD 0 .undefined, value.getD 1 .undefined)

/-- The reviver of `OffersSerde.deserialize`.  Its first test needs a string and its second an
array, so the two are split by the value's kind. -/
def reviver (codec : DateCodec) (key : String) (value : JsValue) :
    Except MoneyAmountError JsValue :=
  match value with
  | .string s => if key = "expiresAt" then .ok (.date (codec.parse s)) else .ok value
  | .array elements =>
    if moneyKeys.contains (toLowerCase key) then .inst <$> reviveAmount codec.toString elements
    else .ok value
  | _ => .ok value

/-- `OffersSerde.serialize(data)`: the JSON text, as its tree, or `none` where `JSON.stringify`
returns `undefined`.  The replacer writes every amount as its pair, so an amount's own properties
are never read.  The fuel covers the value's depth and the pair an amount is written as. -/
def OffersSerde.serialize (codec : DateCodec) (data : JsValue) :
    Except StringifyError (Option Json) :=
  serializeProperty codec (fun _ => []) replacer (data.depth + 2) "" data

/-- `OffersSerde.deserialize(json)`. -/
def OffersSerde.deserialize (codec : DateCodec) (json : Json) : Except MoneyAmountError JsValue :=
  internalize (reviver codec) "" json

/-! ### What is written -/

mutual

/-- The JSON `serialize` writes of a value: a `Date` by its ISO string (`null` when invalid), an
amount by its pair, a bigint by its decimal string; `none` for `undefined`. -/
def written (codec : DateCodec) : JsValue → Option Json
  | .undefined => none
  | .null => some .null
  | .bool b => some (.bool b)
  | .number n => some (.number n)
  | .string s => some (.string s)
  | .bigint n => some (.string (toString n))
  | .array elements => some (.array (writtenElements codec elements))
  | .object members => some (.object (writtenMembers codec members))
  | .date (some t) => some (.string (codec.toISOString t))
  | .date none => some .null
  | .inst a => some (.array [.string a.toJson.1, .string a.toJson.2])

/-- The elements as written: `undefined` ones as `null`. -/
def writtenElements (codec : DateCodec) : List JsValue → List Json
  | [] => []
  | x :: xs => (written codec x).getD .null :: writtenElements codec xs

/-- The members as written: `undefined` ones left out. -/
def writtenMembers (codec : DateCodec) : List (String × JsValue) → List (String × Json)
  | [] => []
  | (k, x) :: xs =>
    match written codec x with
    | none => writtenMembers codec xs
    | some j => (k, j) :: writtenMembers codec xs

end

section Serialize

variable (codec : DateCodec)

mutual

/-- With fuel beyond its depth and the amount pairs, the serializer writes `written v`. -/
theorem serializeProperty_replacer : ∀ (v : JsValue) (fuel : Nat) (key : String),
    v.depth + 2 ≤ fuel →
      serializeProperty codec (fun _ => []) replacer fuel key v = .ok (written codec v)
  -- a leaf is written as it is, or as the string the date or the replacer makes of it
  | .undefined, _ + 1, _, _ | .null, _ + 1, _, _ | .bool _, _ + 1, _, _ | .number _, _ + 1, _, _
  | .string _, _ + 1, _, _ | .bigint _, _ + 1, _, _ | .date (some _), _ + 1, _, _
  | .date none, _ + 1, _, _ => by
    simp only [serializeProperty, Value.toJSON, replacer, written]
  | .array es, fuel + 1, _, h => by
    have hes := serializeElements_replacer es fuel 0 (by simp only [Value.depth] at h; omega)
    simp only [serializeProperty, Value.toJSON, replacer, hes, written]
    rfl
  | .object ms, fuel + 1, _, h => by
    have hms := serializeMembers_replacer ms fuel (by simp only [Value.depth] at h; omega)
    simp only [serializeProperty, Value.toJSON, replacer, hms, written]
    rfl
  | .inst a, fuel + 2, _, _ => by
    simp only [serializeProperty, Value.toJSON, replacer, written, serializeElements]
    rfl

theorem serializeElements_replacer : ∀ (es : List JsValue) (fuel i : Nat),
    depthElements es + 2 ≤ fuel →
      serializeElements (serializeProperty codec (fun _ => []) replacer fuel) i es =
        .ok (writtenElements codec es)
  | [], _, _, _ => rfl
  | x :: xs, fuel, i, h => by
    simp only [depthElements] at h
    have hx := serializeProperty_replacer x fuel (toString i) (by omega)
    have hxs := serializeElements_replacer xs fuel (i + 1) (by omega)
    simp only [serializeElements, hx, hxs, writtenElements]
    rfl

theorem serializeMembers_replacer : ∀ (ms : List (String × JsValue)) (fuel : Nat),
    depthMembers ms + 2 ≤ fuel →
      serializeMembers (serializeProperty codec (fun _ => []) replacer fuel) ms =
        .ok (writtenMembers codec ms)
  | [], _, _ => rfl
  | (k, x) :: xs, fuel, h => by
    simp only [depthMembers] at h
    have hx := serializeProperty_replacer x fuel k (by omega)
    have hxs := serializeMembers_replacer xs fuel (by omega)
    simp only [serializeMembers, hx, hxs, writtenMembers]
    cases written codec x <;> rfl

end

theorem serialize_eq_written (v : JsValue) :
    OffersSerde.serialize codec v = .ok (written codec v) :=
  serializeProperty_replacer codec v _ "" (Nat.le_refl _)

end Serialize

/-! ### What is read back -/

/-- How the reviver treats a key: as `expiresAt`, as a money key, or neither. -/
inductive KeyKind
  | expiresAt
  | money
  | other
  deriving DecidableEq, Repr

/-- The kind of a key, by the reviver's two tests. -/
def keyKind (key : String) : KeyKind :=
  if key = "expiresAt" then .expiresAt
  else if moneyKeys.contains (toLowerCase key) then .money
  else .other

mutual

/-- Whether the round trip gives a value back as `stored` under a key of kind `kind`: an amount
only under a money key, a `Date` only under `expiresAt` and valid, no string or bigint under
`expiresAt` and no array under a money key, which the reviver would take for a date or an
amount. -/
def storable : KeyKind → JsValue → Bool
  | _, .undefined | _, .null | _, .bool _ | _, .number _ => true
  | kind, .string _ | kind, .bigint _ => kind != .expiresAt
  | kind, .array elements => kind != .money && storableElements elements
  | _, .object members => storableMembers members
  | kind, .date (some t) => kind == .expiresAt && decide (t.natAbs ≤ maxTimeValue)
  | _, .date none => false
  | kind, .inst _ => kind == .money

/-- Elements, under the keys `"0"`, `"1"`, …, which are of neither kind. -/
def storableElements : List JsValue → Bool
  | [] => true
  | x :: xs => storable .other x && storableElements xs

/-- Members, each under its own key. -/
def storableMembers : List (String × JsValue) → Bool
  | [] => true
  | (k, x) :: xs => storable (keyKind k) x && storableMembers xs

end

mutual

/-- What the round trip gives back of a storable value: a bigint becomes its decimal string, an
`undefined` element `null`, and an `undefined` member is dropped. -/
def stored : JsValue → JsValue
  | .bigint n => .string (toString n)
  | .array elements => .array (storedElements elements)
  | .object members => .object (storedMembers members)
  | v => v

/-- The elements given back. -/
def storedElements : List JsValue → List JsValue
  | [] => []
  | x :: xs => (if x.isUndefined then .null else stored x) :: storedElements xs

/-- The members given back. -/
def storedMembers : List (String × JsValue) → List (String × JsValue)
  | [] => []
  | (k, x) :: xs => if x.isUndefined then storedMembers xs else (k, stored x) :: storedMembers xs

end

theorem isUndefined_stored (v : JsValue) : (stored v).isUndefined = v.isUndefined := by
  cases v <;> rfl

theorem isUndefined_of_written_eq_none {codec : DateCodec} {v : JsValue}
    (h : written codec v = none) : v.isUndefined = true := by
  cases v with
  | undefined => rfl
  | date t => cases t <;> cases h
  | _ => cases h

theorem isUndefined_eq_false_of_written {codec : DateCodec} {v : JsValue} {j : Json}
    (h : written codec v = some j) : v.isUndefined = false := by
  cases v <;> first | rfl | cases h

theorem ne_expiresAt_of_keyKind {key : String} (h : keyKind key ≠ .expiresAt) :
    key ≠ "expiresAt" := by
  rintro rfl
  exact h rfl

theorem keyKind_eq_expiresAt {key : String} (h : keyKind key = .expiresAt) : key = "expiresAt" := by
  unfold keyKind at h
  split at h
  · assumption
  · split at h <;> cases h

theorem keyKind_eq_money {key : String} (h : keyKind key = .money) :
    key ≠ "expiresAt" ∧ moneyKeys.contains (toLowerCase key) = true := by
  unfold keyKind at h
  split at h
  · cases h
  · split at h
    · exact ⟨by assumption, by assumption⟩
    · cases h

theorem contains_moneyKeys_of_ne_money {key : String} (h : keyKind key ≠ .money) :
    moneyKeys.contains (toLowerCase key) = false := by
  by_cases he : key = "expiresAt"
  · subst he
    decide
  · cases hc : moneyKeys.contains (toLowerCase key)
    · rfl
    · exact absurd (by simp only [keyKind, if_neg he, hc, if_true]) h

theorem toLower_of_isDigit {c : Char} (h : c.isDigit = true) : c.toLower = c := by
  simp only [Char.isDigit, Bool.and_eq_true, decide_eq_true_eq] at h
  simp only [Char.toLower]
  rw [dif_neg]
  intro hu
  exact absurd (UInt32.le_trans hu.1 h.2) (by decide)

/-- An element's key `toString i` is of neither kind: it is made of digits, and the reviver's
keys have letters. -/
theorem keyKind_index (i : Nat) : keyKind (toString i) = .other := by
  have hd : ∀ c ∈ (toString i).toList, c.isDigit = true := by
    intro c hc
    simp only [toString, Nat.toList_repr] at hc
    exact Nat.isDigit_of_mem_toDigits (by decide) (by decide) hc
  have hlit : ∀ (s : String) (c : Char), c ∈ s.toList → c.isDigit = false → toString i ≠ s := by
    rintro s c hc hcd rfl
    rw [hd c hc] at hcd
    cases hcd
  have hlower : toLowerCase (toString i) = toString i := by
    have hmap : (toString i).toList.map Char.toLower = (toString i).toList := by
      conv_rhs => rw [← List.map_id (toString i).toList]
      exact List.map_congr_left fun c hc => toLower_of_isDigit (hd c hc)
    rw [toLowerCase, hmap, String.ofList_toList]
  unfold keyKind
  rw [if_neg (hlit _ 'e' (by decide) (by decide)), hlower, if_neg]
  intro hc
  simp only [moneyKeys, List.contains_cons, List.contains_nil, Bool.or_false, Bool.or_eq_true,
    beq_iff_eq] at hc
  rcases hc with h | h | h
  · exact hlit _ 'a' (by decide) (by decide) h
  · exact hlit _ 's' (by decide) (by decide) h
  · exact hlit _ 'e' (by decide) (by decide) h

/-- The reviver gives back the amount whose pair it reads: the pair names the amount's currency,
and the reviver's constructor for that currency reads the amount's value back. -/
theorem reviveAmount_toJson (dateString : Option Int → String) (a : MoneyAmount) :
    reviveAmount dateString [.string a.toJson.1, .string a.toJson.2] = .ok a := by
  obtain ⟨cls, value⟩ := a
  have hfrom := fun h => toMoneyAmountFromJSON_toJson dateString (a := ⟨cls, value⟩) h
  generalize ha₁ : (MoneyAmount.toJson ⟨cls, value⟩).1 = s at hfrom ⊢
  rw [toJson_snd] at hfrom ⊢
  cases cls with
  | USDTAmount =>
    have hUSDT := smallestUnits_toJson (a := ⟨.USDTAmount, value⟩) rfl
    rw [ha₁] at hUSDT
    simp only [reviveAmount, MoneyAmount.currencyCode, MoneyClass.currencyCode, WalletCurrency.code,
      List.getD_cons_succ, List.getD_cons_zero, moneyValue, hUSDT]
    rfl
  | USDAmount =>
    simp only [reviveAmount, MoneyAmount.currencyCode, MoneyClass.currencyCode, WalletCurrency.code,
      List.getD_cons_succ, List.getD_cons_zero] at hfrom ⊢
    exact hfrom (by decide)
  | JMDAmount =>
    simp only [reviveAmount, MoneyAmount.currencyCode, MoneyClass.currencyCode, WalletCurrency.code,
      List.getD_cons_succ, List.getD_cons_zero] at hfrom ⊢
    exact hfrom (by decide)

section Parse

variable (codec : DateCodec)

theorem internalize_string {key : String} (h : key ≠ "expiresAt") (s : String) :
    internalize (reviver codec) key (.string s) = .ok (.string s) := by
  simp only [internalize, reviver, if_neg h]

mutual

/-- Reading back what is written of a storable value gives `stored v`.  The induction follows
the value; the reviver leaves every part alone but the amounts, each of which it reads back from
its pair, and the date under `expiresAt`, which `Date.parse` reads back from its ISO string. -/
theorem internalize_written : ∀ (v : JsValue) (key : String), storable (keyKind key) v = true →
    ∀ j, written codec v = some j → internalize (reviver codec) key j = .ok (stored v)
  | .undefined, _, _, _, hj => by cases hj
  | .null, _, _, _, hj | .bool _, _, _, _, hj | .number _, _, _, _, hj => by
    cases hj
    rfl
  | .string s, key, h, _, hj | .bigint _, key, h, _, hj => by
    cases hj
    simp only [storable, bne_iff_ne, ne_eq] at h
    exact internalize_string codec (ne_expiresAt_of_keyKind h) _
  | .array es, key, h, _, hj => by
    cases hj
    simp only [storable, Bool.and_eq_true, bne_iff_ne, ne_eq] at h
    have hes := internalizeElements_written es 0 h.2
    simp only [internalize, hes, reviver, contains_moneyKeys_of_ne_money h.1]
    rfl
  | .object ms, key, h, _, hj => by
    cases hj
    have hms := internalizeMembers_written ms h
    simp only [internalize, hms, reviver]
    rfl
  | .date (some t), key, h, _, hj => by
    cases hj
    simp only [storable, Bool.and_eq_true, beq_iff_eq, decide_eq_true_eq] at h
    rw [keyKind_eq_expiresAt h.1]
    simp only [internalize, reviver, codec.parse_toISOString t h.2]
    rfl
  | .date none, _, h, _, _ => by cases h
  | .inst a, key, h, _, hj => by
    cases hj
    simp only [storable, beq_iff_eq] at h
    have hpair : internalizeElements (reviver codec) 0 [.string a.toJson.1, .string a.toJson.2] =
        .ok [.string a.toJson.1, .string a.toJson.2] :=
      internalizeElements_cons (internalize_string codec (by decide) _)
        (internalizeElements_cons (internalize_string codec (by decide) _) rfl)
    simp only [internalize, hpair, bind, Except.bind, reviver, (keyKind_eq_money h).2, if_true,
      reviveAmount_toJson]
    rfl

theorem internalizeElements_written : ∀ (es : List JsValue) (i : Nat),
    storableElements es = true →
      internalizeElements (reviver codec) i (writtenElements codec es) = .ok (storedElements es)
  | [], _, _ => rfl
  | x :: xs, i, h => by
    simp only [storableElements, Bool.and_eq_true] at h
    have hxs := internalizeElements_written xs (i + 1) h.2
    simp only [writtenElements, storedElements]
    cases hx : written codec x with
    | none =>
      -- an `undefined` element is written `null`, and `null` is read back
      rw [if_pos (isUndefined_of_written_eq_none hx)]
      exact internalizeElements_cons rfl hxs
    | some j =>
      have hx' := internalize_written x (toString i) (by rw [keyKind_index]; exact h.1) j hx
      rw [if_neg (by simp [isUndefined_eq_false_of_written hx])]
      exact internalizeElements_cons hx' hxs

theorem internalizeMembers_written : ∀ (ms : List (String × JsValue)),
    storableMembers ms = true →
      internalizeMembers (reviver codec) (writtenMembers codec ms) = .ok (storedMembers ms)
  | [], _ => rfl
  | (k, x) :: xs, h => by
    simp only [storableMembers, Bool.and_eq_true] at h
    have hxs := internalizeMembers_written xs h.2
    simp only [writtenMembers, storedMembers]
    cases hx : written codec x with
    | none =>
      rw [if_pos (isUndefined_of_written_eq_none hx)]
      exact hxs
    | some j =>
      have hu := isUndefined_eq_false_of_written hx
      rw [if_neg (by simp [hu])]
      exact internalizeMembers_cons (internalize_written x k h.1 j hx)
        (by rw [isUndefined_stored, hu]) hxs

end

/-- The round trip of a storable value: it is written as JSON, and read back as `stored v`. -/
theorem deserialize_serialize (v : JsValue) (hv : storable .other v = true)
    (hu : v.isUndefined = false) :
    ∃ j, OffersSerde.serialize codec v = .ok (some j) ∧
      OffersSerde.deserialize codec j = .ok (stored v) := by
  cases hj : written codec v with
  | none => rw [isUndefined_of_written_eq_none hj] at hu; cases hu
  | some j =>
    refine ⟨j, by rw [serialize_eq_written, hj], ?_⟩
    exact internalize_written codec v "" (by rw [show keyKind "" = .other by decide]; exact hv) j hj

end Parse

/-! ### The cashout details -/

/-- `payment` of `CashoutDetails`: the amount is in USD before the account's cash-wallet cutover,
in USDT after. -/
structure CashoutPayment where
  userAcct : String
  flashAcct : String
  invoice : LnInvoice
  amount : MoneyAmount
  amount_cls : amount.cls = .USDAmount ∨ amount.cls = .USDTAmount

/-- `payout` of `CashoutDetails`: `createOffer` sets `exchangeRate` for a JMD payout only. -/
structure CashoutPayout where
  bankAccountId : String
  amount : MoneyAmount
  serviceFee : MoneyAmount
  exchangeRate : Option MoneyAmount
  amount_cls : amount.cls = .USDAmount ∨ amount.cls = .JMDAmount
  serviceFee_cls : serviceFee.cls = .USDAmount
  exchangeRate_cls : ∀ r ∈ exchangeRate, r.cls = .JMDAmount

/-- `CashoutDetails`. -/
structure CashoutDetails where
  payment : CashoutPayment
  payout : CashoutPayout

section Write

variable {α : Type}

/-- A field that may be missing: `undefined` when it is. -/
def optionalJs (write : α → JsValue) : Option α → JsValue
  | none => .undefined
  | some a => write a

/-- A field that may be `null`. -/
def nullableJs (write : α → JsValue) : Option α → JsValue
  | none => .null
  | some a => write a

end Write

/-- A `Hop` as `decodeInvoice` builds it from a route: a field the route lacks is `undefined`. -/
def hopJs (h : Hop) : JsValue :=
  .object [("baseFeeMTokens", optionalJs .string h.baseFeeMTokens),
    ("channel", optionalJs .string h.channel),
    ("cltvDelta", optionalJs .number h.cltvDelta),
    ("feeRate", optionalJs .number h.feeRate),
    ("nodePubkey", .string h.nodePubkey)]

/-- A feature as the `invoices` library gives it, under its own keys. -/
def featureJs (f : LnInvoiceFeature) : JsValue :=
  .object [("bit", .number f.bit), ("is_required", .bool f.isRequired), ("type", .string f.type)]

/-- `paymentAmountFromNumber`'s `{ amount, currency }`: the amount is a bigint. -/
def btcPaymentAmountJs (p : BtcPaymentAmount) : JsValue :=
  .object [("amount", .bigint p.amount), ("currency", .string "BTC")]

/-- The object `decodeInvoice` returns, its keys in the order it writes them. -/
def invoiceJs (i : LnInvoice) : JsValue :=
  .object [("amount", nullableJs .number i.amount),
    ("paymentAmount", nullableJs btcPaymentAmountJs i.paymentAmount),
    ("paymentSecret", nullableJs .string i.paymentSecret),
    ("expiresAt", .date (some i.expiresAt)),
    ("isExpired", .bool i.isExpired),
    ("routeHints", .array (i.routeHints.map fun route => .array (route.map hopJs))),
    ("cltvDelta", nullableJs .number i.cltvDelta),
    ("paymentRequest", .string i.paymentRequest),
    ("description", .string i.description),
    ("paymentHash", .string i.paymentHash),
    ("destination", .string i.destination),
    ("milliSatsAmount", .number i.milliSatsAmount),
    ("features", .array (i.features.map featureJs))]

/-- The `payment` object `createOffer` builds. -/
def CashoutPayment.toJs (p : CashoutPayment) : JsValue :=
  .object [("userAcct", .string p.userAcct), ("flashAcct", .string p.flashAcct),
    ("invoice", invoiceJs p.invoice), ("amount", .inst p.amount)]

/-- The `payout` object `createOffer` builds: with `exchangeRate` last for a JMD payout, without
the key otherwise. -/
def CashoutPayout.toJs (p : CashoutPayout) : JsValue :=
  .object ([("bankAccountId", .string p.bankAccountId), ("amount", .inst p.amount),
    ("serviceFee", .inst p.serviceFee)] ++
    (p.exchangeRate.map fun r => ("exchangeRate", .inst r)).toList)

/-- The details `createOffer` hands `ValidOffer.from` and `Storage.add`. -/
def CashoutDetails.toJs (d : CashoutDetails) : JsValue :=
  .object [("payment", d.payment.toJs), ("payout", d.payout.toJs)]

/-! ### Reading the details field by field -/

section Read

variable {α : Type}

def readString : JsValue → Option String
  | .string s => some s
  | _ => none

def readNumber : JsValue → Option Int
  | .number n => some n
  | _ => none

def readBool : JsValue → Option Bool
  | .bool b => some b
  | _ => none

def readBigint : JsValue → Option Int
  | .bigint n => some n
  | _ => none

/-- A valid `Date`'s time value. -/
def readDate : JsValue → Option Int
  | .date (some t) => some t
  | _ => none

def readAmount : JsValue → Option MoneyAmount
  | .inst a => some a
  | _ => none

/-- A field that may be missing, as `read` reads it when it is there. -/
def readOptional (read : JsValue → Option α) : JsValue → Option (Option α)
  | .undefined => some none
  | v => some <$> read v

/-- A field that may be `null`. -/
def readNullable (read : JsValue → Option α) : JsValue → Option (Option α)
  | .null => some none
  | v => some <$> read v

/-- An array, each element as `read` reads it. -/
def readArray (read : JsValue → Option α) : JsValue → Option (List α)
  | .array elements => elements.mapM read
  | _ => none

end Read

def readHop (v : JsValue) : Option Hop := do
  let baseFeeMTokens ← readOptional readString (v.member "baseFeeMTokens")
  let channel ← readOptional readString (v.member "channel")
  let cltvDelta ← readOptional readNumber (v.member "cltvDelta")
  let feeRate ← readOptional readNumber (v.member "feeRate")
  let nodePubkey ← readString (v.member "nodePubkey")
  pure ⟨baseFeeMTokens, channel, cltvDelta, feeRate, nodePubkey⟩

def readFeature (v : JsValue) : Option LnInvoiceFeature := do
  let bit ← readNumber (v.member "bit")
  let isRequired ← readBool (v.member "is_required")
  let type ← readString (v.member "type")
  pure ⟨bit, isRequired, type⟩

/-- A `BtcPaymentAmount`: a bigint amount, in BTC. -/
def readBtcPaymentAmount (v : JsValue) : Option BtcPaymentAmount := do
  let amount ← readBigint (v.member "amount")
  let currency ← readString (v.member "currency")
  if currency = "BTC" then pure ⟨amount⟩ else none

def readInvoice (v : JsValue) : Option LnInvoice := do
  let amount ← readNullable readNumber (v.member "amount")
  let paymentAmount ← readNullable readBtcPaymentAmount (v.member "paymentAmount")
  let paymentSecret ← readNullable readString (v.member "paymentSecret")
  let expiresAt ← readDate (v.member "expiresAt")
  let isExpired ← readBool (v.member "isExpired")
  let routeHints ← readArray (readArray readHop) (v.member "routeHints")
  let cltvDelta ← readNullable readNumber (v.member "cltvDelta")
  let paymentRequest ← readString (v.member "paymentRequest")
  let description ← readString (v.member "description")
  let paymentHash ← readString (v.member "paymentHash")
  let destination ← readString (v.member "destination")
  let milliSatsAmount ← readNumber (v.member "milliSatsAmount")
  let features ← readArray readFeature (v.member "features")
  pure ⟨destination, paymentHash, paymentRequest, milliSatsAmount, description, cltvDelta, amount,
    paymentAmount, routeHints, paymentSecret, features, expiresAt, isExpired⟩

def readPayment (v : JsValue) : Option CashoutPayment := do
  let userAcct ← readString (v.member "userAcct")
  let flashAcct ← readString (v.member "flashAcct")
  let invoice ← readInvoice (v.member "invoice")
  let amount ← readAmount (v.member "amount")
  if h : amount.cls = .USDAmount ∨ amount.cls = .USDTAmount then
    pure ⟨userAcct, flashAcct, invoice, amount, h⟩
  else none

def readPayout (v : JsValue) : Option CashoutPayout := do
  let bankAccountId ← readString (v.member "bankAccountId")
  let amount ← readAmount (v.member "amount")
  let serviceFee ← readAmount (v.member "serviceFee")
  let exchangeRate ← readOptional readAmount (v.member "exchangeRate")
  if h : (amount.cls = .USDAmount ∨ amount.cls = .JMDAmount) ∧ serviceFee.cls = .USDAmount ∧
      ∀ r ∈ exchangeRate, r.cls = .JMDAmount then
    pure ⟨bankAccountId, amount, serviceFee, exchangeRate, h.1, h.2.1, h.2.2⟩
  else none

/-- The details, read field by field as their types have them: each field of its runtime type,
each amount of its classes. -/
def CashoutDetails.ofJs (v : JsValue) : Option CashoutDetails := do
  let payment ← readPayment (v.member "payment")
  let payout ← readPayout (v.member "payout")
  pure ⟨payment, payout⟩

/-! ### The details read back -/

@[simp] theorem stored_object (ms : List (String × JsValue)) :
    stored (.object ms) = .object (storedMembers ms) := by
  simp only [stored]

theorem member_of_not_mem {ms : List (String × JsValue)} {k : String}
    (h : k ∉ ms.map Prod.fst) : (Value.object ms).member k = .undefined := by
  induction ms with
  | nil => rfl
  | cons m ms ih =>
    obtain ⟨k', x⟩ := m
    simp only [List.map_cons, List.mem_cons, not_or] at h
    simp only [Value.member, List.lookup, beq_false_of_ne h.1] at ih ⊢
    exact ih h.2

theorem member_nil (k : String) : (Value.object ([] : List (String × JsValue))).member k =
    .undefined := rfl

theorem member_cons (k k' : String) (x : JsValue) (ms : List (String × JsValue)) :
    (Value.object ((k', x) :: ms)).member k =
      if k = k' then x else (Value.object ms).member k := by
  by_cases hk : k = k'
  · subst hk
    simp only [Value.member, List.lookup, beq_self_eq_true, if_true, Option.getD_some]
  · simp only [Value.member, List.lookup, beq_false_of_ne hk, if_neg hk]

/-- Reading a member of what is given back of an object gives back what the member holds, when
no key is written twice: the member dropped for `undefined` reads `undefined` again. -/
theorem member_stored_object {ms : List (String × JsValue)} (h : (ms.map Prod.fst).Nodup)
    (k : String) : (stored (.object ms)).member k = stored ((Value.object ms).member k) := by
  induction ms with
  | nil => rfl
  | cons m ms ih =>
    obtain ⟨k', x⟩ := m
    simp only [List.map_cons, List.nodup_cons] at h
    have ih' := ih h.2
    rw [stored_object] at ih'
    rw [stored_object, storedMembers, member_cons]
    by_cases hu : x.isUndefined = true
    · rw [if_pos hu, ih']
      by_cases hk : k = k'
      · subst hk
        rw [member_of_not_mem h.1, if_pos rfl]
        cases x <;> first | rfl | cases hu
      · rw [if_neg hk]
    · rw [if_neg hu, member_cons]
      by_cases hk : k = k' <;> simp only [hk, if_true, if_false, ih']


theorem readOptional_of_isUndefined {α : Type} (read : JsValue → Option α) {v : JsValue}
    (h : v.isUndefined = false) : readOptional read v = some <$> read v := by
  cases v <;> first | rfl | cases h

/-- Given back, an optional field reads as it was written, when what is written of a value is
never `undefined`. -/
theorem readOptional_stored {α : Type} {read : JsValue → Option α} {write : α → JsValue}
    (hw : ∀ a, read (stored (write a)) = some a) (hu : ∀ a, (write a).isUndefined = false) :
    ∀ o, readOptional read (stored (optionalJs write o)) = some o
  | none => rfl
  | some a => by
    rw [optionalJs, readOptional_of_isUndefined read (by rw [isUndefined_stored, hu]), hw]
    rfl


/-- A value of the readers' own kind is given back as it is. -/
@[simp] theorem stored_undefined : stored (.undefined : JsValue) = .undefined := rfl
@[simp] theorem stored_string (s : String) : stored (.string s) = .string s := rfl
@[simp] theorem stored_number (n : Int) : stored (.number n) = .number n := rfl
@[simp] theorem stored_bool (b : Bool) : stored (.bool b) = .bool b := rfl
@[simp] theorem stored_date (t : Option Int) : stored (.date t) = .date t := rfl
@[simp] theorem stored_inst (a : MoneyAmount) : stored (.inst a) = .inst a := rfl
@[simp] theorem stored_bigint (n : Int) : stored (.bigint n) = .string (toString n) := rfl

@[simp] theorem stored_array (es : List JsValue) :
    stored (.array es) = .array (storedElements es) := by
  simp only [stored]

theorem storedElements_map {α : Type} {write : α → JsValue}
    (hu : ∀ a, (write a).isUndefined = false) :
    ∀ l : List α, storedElements (l.map write) = l.map fun a => stored (write a)
  | [] => rfl
  | a :: l => by
    simp only [List.map_cons, storedElements, hu, Bool.false_eq_true, if_false,
      storedElements_map hu l]

/-- Given back, an array reads as it was written, when its elements do and none is
`undefined`. -/
theorem readArray_stored {α : Type} {read : JsValue → Option α} {write : α → JsValue}
    (hw : ∀ a, read (stored (write a)) = some a) (hu : ∀ a, (write a).isUndefined = false)
    (l : List α) : readArray read (stored (.array (l.map write))) = some l := by
  rw [stored_array, storedElements_map hu, readArray]
  induction l with
  | nil => rfl
  | cons a l ih => simp only [List.map_cons, List.mapM_cons, hw, ih]; rfl

theorem readNullable_of_ne_null {α : Type} (read : JsValue → Option α) {v : JsValue}
    (h : v ≠ .null) : readNullable read v = some <$> read v := by
  cases v <;> first | rfl | exact absurd rfl h

theorem readNullable_stored {α : Type} {read : JsValue → Option α} {write : α → JsValue}
    (hw : ∀ a, read (stored (write a)) = some a) (hn : ∀ a, stored (write a) ≠ .null) :
    ∀ o, readNullable read (stored (nullableJs write o)) = some o
  | none => rfl
  | some a => by
    rw [nullableJs, readNullable_of_ne_null read (hn a), hw]
    rfl

theorem readHop_stored (h : Hop) : readHop (stored (hopJs h)) = some h := by
  have hs : ∀ o, readOptional readString (stored (optionalJs .string o)) = some o :=
    readOptional_stored (fun _ => rfl) (fun _ => rfl)
  have hn : ∀ o, readOptional readNumber (stored (optionalJs .number o)) = some o :=
    readOptional_stored (fun _ => rfl) (fun _ => rfl)
  simp (disch := simp) only [readHop, hopJs, member_stored_object, member_cons, String.reduceEq,
    ↓reduceIte, hs, hn]
  rfl

theorem readFeature_stored (f : LnInvoiceFeature) : readFeature (stored (featureJs f)) = some f := by
  simp (disch := simp) only [readFeature, featureJs, member_stored_object, member_cons,
    String.reduceEq, ↓reduceIte, stored_number, stored_bool, stored_string]
  rfl

/-- A payment amount reads as written, its amount a bigint. -/
theorem readBtcPaymentAmount_btcPaymentAmountJs (p : BtcPaymentAmount) :
    readBtcPaymentAmount (btcPaymentAmountJs p) = some p := by
  simp only [readBtcPaymentAmount, btcPaymentAmountJs, member_cons, String.reduceEq, ↓reduceIte]
  rfl

/-- Given back, a payment amount no longer reads: its amount is a string. -/
theorem readBtcPaymentAmount_stored (p : BtcPaymentAmount) :
    readBtcPaymentAmount (stored (btcPaymentAmountJs p)) = none := by
  simp (disch := simp) only [readBtcPaymentAmount, btcPaymentAmountJs, member_stored_object,
    member_cons, String.reduceEq, ↓reduceIte, stored_bigint]
  rfl

/-- Given back, an invoice reads as it was written exactly when it has no payment amount. -/
theorem readInvoice_stored (i : LnInvoice) :
    readInvoice (stored (invoiceJs i)) = if i.paymentAmount = none then some i else none := by
  have hnum : ∀ o, readNullable readNumber (stored (nullableJs .number o)) = some o :=
    readNullable_stored (fun _ => rfl) (fun _ h => by cases h)
  have hstr : ∀ o, readNullable readString (stored (nullableJs .string o)) = some o :=
    readNullable_stored (fun _ => rfl) (fun _ h => by cases h)
  have hroute : ∀ route : List Hop, readArray readHop (stored (.array (route.map hopJs))) =
      some route :=
    readArray_stored readHop_stored (fun _ => rfl)
  have hroutes := readArray_stored hroute (fun _ => rfl) i.routeHints
  have hfeatures := readArray_stored readFeature_stored (fun _ => rfl) i.features
  simp (disch := simp) only [readInvoice, invoiceJs, member_stored_object, member_cons,
    String.reduceEq, ↓reduceIte, hnum, hstr, hroutes, hfeatures]
  obtain ⟨_, _, _, _, _, _, _, paymentAmount, _, _, _, _, _⟩ := i
  cases paymentAmount with
  | none => rfl
  | some p =>
    -- the payment amount is the one field that no longer reads
    rw [nullableJs, readNullable_of_ne_null _ (by simp [btcPaymentAmountJs]),
      readBtcPaymentAmount_stored]
    rfl

theorem readPayment_stored (p : CashoutPayment) :
    readPayment (stored p.toJs) = if p.invoice.paymentAmount = none then some p else none := by
  simp (disch := simp) only [readPayment, CashoutPayment.toJs, member_stored_object, member_cons,
    String.reduceEq, ↓reduceIte, readInvoice_stored, stored_string, stored_inst, readString,
    readAmount, Option.bind_eq_bind, Option.bind_some]
  by_cases h : p.invoice.paymentAmount = none
  · simp only [h, if_true, Option.bind_some, dif_pos p.amount_cls]
    rfl
  · simp only [h, if_false]
    rfl

theorem readPayout_stored (p : CashoutPayout) : readPayout (stored p.toJs) = some p := by
  obtain ⟨_, _, _, exchangeRate, amount_cls, serviceFee_cls, exchangeRate_cls⟩ := p
  cases exchangeRate <;>
  simp (disch := simp) only [readPayout, CashoutPayout.toJs, Option.map, Option.toList,
    List.cons_append, List.nil_append, member_stored_object, member_cons, member_nil,
    String.reduceEq, ↓reduceIte, stored_undefined, stored_string, stored_inst, readString,
    readAmount, readOptional,
    Option.map_eq_map, Option.bind_eq_bind, Option.bind_some,
    dif_pos (⟨amount_cls, serviceFee_cls, exchangeRate_cls⟩ : _ ∧ _ ∧ _)] <;>
  rfl

/-- Given back and read field by field, the details are the details again exactly when the
invoice has no payment amount. -/
theorem ofJs_stored (d : CashoutDetails) :
    CashoutDetails.ofJs (stored d.toJs) =
      if d.payment.invoice.paymentAmount = none then some d else none := by
  simp (disch := simp) only [CashoutDetails.ofJs, CashoutDetails.toJs, member_stored_object,
    member_cons, String.reduceEq, ↓reduceIte, readPayment_stored, readPayout_stored]
  by_cases h : d.payment.invoice.paymentAmount = none
  · simp only [h, if_true]
    rfl
  · simp only [h, if_false]
    rfl

/-! ### The details are storable -/

section Storable

variable {α : Type} {kind : KeyKind} {write : α → JsValue}

theorem storable_optionalJs (hw : ∀ a, storable kind (write a) = true) :
    ∀ o, storable kind (optionalJs write o) = true
  | none => rfl
  | some a => hw a

theorem storable_nullableJs (hw : ∀ a, storable kind (write a) = true) :
    ∀ o, storable kind (nullableJs write o) = true
  | none => rfl
  | some a => hw a

theorem storableElements_map (hw : ∀ a, storable .other (write a) = true) :
    ∀ l : List α, storableElements (l.map write) = true
  | [] => rfl
  | a :: l => by
    simp only [List.map_cons, storableElements, hw, storableElements_map hw l, Bool.and_self]

end Storable

theorem storable_hopJs (h : Hop) : storable .other (hopJs h) = true := by
  have hs : ∀ o, storable .other (optionalJs Value.string o) = true :=
    storable_optionalJs fun _ => rfl
  have hn : ∀ o, storable .other (optionalJs Value.number o) = true :=
    storable_optionalJs fun _ => rfl
  have hk : keyKind "baseFeeMTokens" = .other ∧ keyKind "channel" = .other ∧
      keyKind "cltvDelta" = .other ∧ keyKind "feeRate" = .other ∧
      keyKind "nodePubkey" = .other := by decide
  simp only [hopJs, storable, storableMembers, hk, hs, hn]
  rfl

theorem storable_featureJs (f : LnInvoiceFeature) : storable .other (featureJs f) = true := by
  have hk : keyKind "bit" = .other ∧ keyKind "is_required" = .other ∧
      keyKind "type" = .other := by decide
  simp only [featureJs, storable, storableMembers, hk]
  rfl

/-- An invoice is storable when its `Date` is valid: a payment amount's bigint, under a money
key, is no array, and each hop and feature has keys of neither kind. -/
theorem storable_invoiceJs (i : LnInvoice) (h : i.expiresAt.natAbs ≤ maxTimeValue) :
    storable .other (invoiceJs i) = true := by
  have hk : keyKind "amount" = .money ∧ keyKind "paymentAmount" = .other ∧
      keyKind "paymentSecret" = .other ∧ keyKind "expiresAt" = .expiresAt ∧
      keyKind "isExpired" = .other ∧ keyKind "routeHints" = .other ∧
      keyKind "cltvDelta" = .other ∧ keyKind "paymentRequest" = .other ∧
      keyKind "description" = .other ∧ keyKind "paymentHash" = .other ∧
      keyKind "destination" = .other ∧ keyKind "milliSatsAmount" = .other ∧
      keyKind "features" = .other ∧ keyKind "currency" = .other := by decide
  have hamount : ∀ o, storable .money (nullableJs Value.number o) = true :=
    storable_nullableJs fun _ => rfl
  have hnum : ∀ o, storable .other (nullableJs Value.number o) = true :=
    storable_nullableJs fun _ => rfl
  have hstr : ∀ o, storable .other (nullableJs Value.string o) = true :=
    storable_nullableJs fun _ => rfl
  have hpay : ∀ o, storable .other (nullableJs btcPaymentAmountJs o) = true :=
    storable_nullableJs fun _ => by
      simp only [btcPaymentAmountJs, storable, storableMembers, hk]
      rfl
  have hroute : ∀ route : List Hop, storable .other (.array (route.map hopJs)) = true := fun _ => by
    simp only [storable, storableElements_map storable_hopJs]
    rfl
  simp only [invoiceJs, storable, storableMembers, hk, hamount, hnum, hstr, hpay,
    storableElements_map hroute, storableElements_map storable_featureJs, h, decide_true]
  rfl

/-- The details are storable when the invoice's `Date` is valid: each amount sits under a money
key, and under nothing else. -/
theorem storable_toJs (d : CashoutDetails) (h : d.payment.invoice.expiresAt.natAbs ≤ maxTimeValue) :
    storable .other d.toJs = true := by
  have hk : keyKind "payment" = .other ∧ keyKind "payout" = .other ∧
      keyKind "userAcct" = .other ∧ keyKind "flashAcct" = .other ∧ keyKind "invoice" = .other ∧
      keyKind "amount" = .money ∧ keyKind "bankAccountId" = .other ∧
      keyKind "serviceFee" = .money ∧ keyKind "exchangeRate" = .money := by decide
  have hpayout : storable .other d.payout.toJs = true := by
    cases hr : d.payout.exchangeRate <;>
    simp only [CashoutPayout.toJs, hr, Option.map, Option.toList, List.cons_append,
      List.nil_append, storable, storableMembers, hk] <;>
    rfl
  simp only [CashoutDetails.toJs, CashoutPayment.toJs, storable, storableMembers, hk,
    storable_invoiceJs _ h, hpayout]
  rfl

/-! ### Redis -/

/-- The cache as the offers use it: the JSON text under each key, `undefined` where there is
none.  What the cache service does to the text on its way is left out: it gives back what it was
given. -/
abbrev RedisStore := String → Option Json

/-- `PersistedOffer`: an offer's id and its details. -/
structure PersistedOffer where
  id : String
  details : JsValue

/-- What `Redis.add` and `Redis.get` throw or return instead of an offer. -/
inductive StorageError
  | stringify (e : StringifyError)
  | offerNotFound
  | repository (e : MoneyAmountError)

/-- The key of an offer in the cache. -/
def offerKey (id : String) : String := "offers:" ++ id

/-- `Redis.add(o)` with the id `randomUUID()` drew: the details' text is set under the offer's key.
`JSON.stringify` throws out of `add`. -/
def Redis.add (codec : DateCodec) (store : RedisStore) (id : String) (details : JsValue) :
    Except StorageError (RedisStore × PersistedOffer) :=
  match OffersSerde.serialize codec details with
  | .error e => .error (.stringify e)
  | .ok text => .ok (Function.update store (offerKey id) text, ⟨id, details⟩)

/-- `Redis.get(id)`: `OfferNotFound` for a key with nothing under it; what `deserialize` throws is
caught and passed on as a repository error. -/
def Redis.get (codec : DateCodec) (store : RedisStore) (id : String) :
    Except StorageError PersistedOffer :=
  match store (offerKey id) with
  | none => .error .offerNotFound
  | some text =>
    match OffersSerde.deserialize codec text with
    | .error e => .error (.repository e)
    | .ok details => .ok ⟨id, details⟩

/-- What `Redis.get` reads of an offer `Redis.add` stored is `stored` of its details. -/
theorem get_add (codec : DateCodec) (store : RedisStore) (id : String) (v : JsValue)
    (hv : storable .other v = true) (hu : v.isUndefined = false) :
    ∃ store', Redis.add codec store id v = .ok (store', ⟨id, v⟩) ∧
      Redis.get codec store' id = .ok ⟨id, stored v⟩ := by
  obtain ⟨j, hs, hd⟩ := deserialize_serialize codec v hv hu
  refine ⟨Function.update store (offerKey id) (some j), ?_, ?_⟩
  · simp only [Redis.add, hs]
  · simp only [Redis.get, Function.update_self, hd]

/-! ### Cashout details through Redis -/

/-- A cashout's details come back from storage as `stored` of them: each amount with its class
and value, the invoice's `Date` equal, every bigint as its decimal string.  Read field by field
they are the details again exactly when the invoice has no payment amount. -/
theorem offer_round_trip (codec : DateCodec) (d : CashoutDetails)
    (hexp : d.payment.invoice.expiresAt.natAbs ≤ maxTimeValue) :
    (∃ j, OffersSerde.serialize codec d.toJs = .ok (some j) ∧
        OffersSerde.deserialize codec j = .ok (stored d.toJs)) ∧
      (CashoutDetails.ofJs (stored d.toJs) = some d ↔ d.payment.invoice.paymentAmount = none) ∧
      ∀ store id, ∃ store', Redis.add codec store id d.toJs = .ok (store', ⟨id, d.toJs⟩) ∧
        Redis.get codec store' id = .ok ⟨id, stored d.toJs⟩ := by
  have hv := storable_toJs d hexp
  refine ⟨deserialize_serialize codec d.toJs hv rfl, ?_,
    fun store id => get_add codec store id d.toJs hv rfl⟩
  rw [ofJs_stored]
  by_cases h : d.payment.invoice.paymentAmount = none
  · simp only [h, if_true]
  · simp only [h, if_false, reduceCtorEq]

/-- A `Date` codec that writes a time value in decimal, to run the model on.  The round trip
needs of ISO 8601's layout only that `Date.parse` reads back what `toISOString` writes. -/
def decimalDateCodec : DateCodec where
  toISOString t := toString t
  parse s :=
    match s.toList with
    | '-' :: digits => some (-(Decimal.value digits : Int))
    | digits => some (Decimal.value digits : Int)
  toString
    | some t => toString t
    | none => "Invalid Date"
  parse_toISOString t _ := by
    rw [toList_toString_int]
    by_cases ht : t < 0
    · simp only [ht, decide_true, signPart, if_true, List.cons_append, List.nil_append,
        Decimal.value_toDigits]
      congr 1
      omega
    · simp only [ht, decide_false, signPart, Bool.false_eq_true, if_false, List.nil_append]
      split
      · rename_i digits h
        have hne := not_minus_of_isDigits (Decimal.isDigits_toDigits t.natAbs)
          (fun l (h : ([] : List Char) = '-' :: l) => by cases h) digits
        rw [List.append_nil] at hne
        exact absurd h hne
      · rw [Decimal.value_toDigits]
        congr 1
        omega

/-- An invoice as `decodeInvoice` reads one for 12 000 sats, with a route hint of two hops. -/
def sampleInvoice : LnInvoice where
  destination := "02eec7245d6b7d2ccb30380bfbe2a3648cd7a942653f5aa340edcea1f283686619"
  paymentHash := "5f1a6ecf2c6e5ec0a8bf3a8e0fc21d1a0b3d7a8b9e3c2f1d4a5b6c7d8e9f0a1b"
  paymentRequest := "lnbc120u1pjexample"
  milliSatsAmount := 12000000
  description := "User withdraw to bank"
  cltvDelta := some 40
  amount := some 12000
  paymentAmount := some ⟨12000⟩
  routeHints := [[⟨none, none, none, none, "02b2"⟩, ⟨some "1000", some "1x2x3", some 40, some 1, "03c3"⟩]]
  paymentSecret := some "9a1c"
  features := [⟨9, false, "var_onion_optin"⟩]
  expiresAt := 1767225600000
  isExpired := false

/-- A USDT cashout to a JMD bank account, as `createOffer` builds it. -/
def sampleCashout : CashoutDetails where
  payment :=
    { userAcct := "usdt-wallet", flashAcct := "bank-owner-usdt-wallet", invoice := sampleInvoice,
      amount := ⟨.USDTAmount, 10000000 * PRECISION_M⟩, amount_cls := Or.inr rfl }
  payout :=
    { bankAccountId := "ncb-savings", amount := ⟨.JMDAmount, 150000 * PRECISION_M⟩,
      serviceFee := ⟨.USDAmount, 20 * PRECISION_M⟩, exchangeRate := some ⟨.JMDAmount, 15500 * PRECISION_M⟩,
      amount_cls := Or.inr rfl, serviceFee_cls := rfl, exchangeRate_cls := fun _ h => by cases h; rfl }

/-- The invoice's payment amount is written as a bigint, and comes back as its decimal string:
the details read back are no longer the details. -/
theorem payment_amount_comes_back_a_string :
    readBigint ((((sampleCashout.toJs.member "payment").member "invoice").member
        "paymentAmount").member "amount") = some 12000 ∧
      ∃ v, (∃ j, OffersSerde.serialize decimalDateCodec sampleCashout.toJs = .ok (some j) ∧
          OffersSerde.deserialize decimalDateCodec j = .ok v) ∧
        readString ((((v.member "payment").member "invoice").member "paymentAmount").member
          "amount") = some "12000" ∧
        CashoutDetails.ofJs v = none := by
  refine ⟨by decide, stored sampleCashout.toJs,
    deserialize_serialize decimalDateCodec _ (storable_toJs _ (by decide)) rfl, by decide, ?_⟩
  rw [ofJs_stored, if_neg (by decide)]

/-- The cashout with an invoice without an amount. -/
def amountlessCashout : CashoutDetails :=
  { sampleCashout with
    payment := { sampleCashout.payment with
      invoice := { sampleInvoice with amount := none, paymentAmount := none, milliSatsAmount := 0 } } }

theorem offer_round_trip_of_amountless_invoice :
    CashoutDetails.ofJs (stored amountlessCashout.toJs) = some amountlessCashout :=
  (offer_round_trip decimalDateCodec amountlessCashout (by decide)).2.1.mpr rfl

/-! ### Storing what was read back -/

mutual

/-- What is given back of a storable value is storable under the same kind of key: a bigint's
string is as storable as the bigint, and what is dropped or turned `null` is storable anywhere. -/
theorem storable_stored : ∀ (kind : KeyKind) (v : JsValue), storable kind v = true →
    storable kind (stored v) = true
  | _, .undefined, h | _, .null, h | _, .bool _, h | _, .number _, h | _, .string _, h
  | _, .bigint _, h | _, .date _, h | _, .inst _, h => h
  | _, .array es, h => by
    simp only [storable, Bool.and_eq_true] at h
    simp only [stored_array, storable, Bool.and_eq_true]
    exact ⟨h.1, storableElements_stored es h.2⟩
  | _, .object ms, h => by
    rw [stored_object]
    exact storableMembers_stored ms h

theorem storableElements_stored : ∀ es : List JsValue, storableElements es = true →
    storableElements (storedElements es) = true
  | [], _ => rfl
  | x :: xs, h => by
    simp only [storableElements, Bool.and_eq_true] at h
    simp only [storedElements, storableElements, Bool.and_eq_true]
    refine ⟨?_, storableElements_stored xs h.2⟩
    split
    · rfl
    · exact storable_stored .other x h.1

theorem storableMembers_stored : ∀ ms : List (String × JsValue), storableMembers ms = true →
    storableMembers (storedMembers ms) = true
  | [], _ => rfl
  | (k, x) :: xs, h => by
    simp only [storableMembers, Bool.and_eq_true] at h
    simp only [storedMembers]
    split
    · exact storableMembers_stored xs h.2
    · simp only [storableMembers, Bool.and_eq_true]
      exact ⟨storable_stored (keyKind k) x h.1, storableMembers_stored xs h.2⟩

end

mutual

/-- Giving back is idempotent: what it gives back has no bigint, no `undefined` element and no
`undefined` member left. -/
theorem stored_stored : ∀ v : JsValue, stored (stored v) = stored v
  | .array es => by rw [stored_array, stored_array, storedElements_storedElements]
  | .object ms => by rw [stored_object, stored_object, storedMembers_storedMembers]
  | .undefined | .null | .bool _ | .number _ | .string _ | .bigint _ | .date _ | .inst _ => rfl

theorem storedElements_storedElements : ∀ es : List JsValue,
    storedElements (storedElements es) = storedElements es
  | [] => rfl
  | x :: xs => by
    simp only [storedElements, storedElements_storedElements xs]
    cases hu : x.isUndefined
    · simp only [Bool.false_eq_true, if_false, isUndefined_stored, hu, stored_stored x]
    · rfl

theorem storedMembers_storedMembers : ∀ ms : List (String × JsValue),
    storedMembers (storedMembers ms) = storedMembers ms
  | [] => rfl
  | (k, x) :: xs => by
    simp only [storedMembers]
    cases hu : x.isUndefined
    · simp only [Bool.false_eq_true, if_false, storedMembers, isUndefined_stored, hu,
        stored_stored x, storedMembers_storedMembers xs]
    · simp only [if_true, storedMembers_storedMembers xs]

end

/-- Details read back from storage and stored again are read back unchanged: a second round
trip through Redis is the identity on what the first one gave back. -/
theorem round_trip_of_stored (codec : DateCodec) (store : RedisStore) (id : String) (v : JsValue)
    (hv : storable .other v = true) (hu : v.isUndefined = false) :
    ∃ store', Redis.add codec store id (stored v) = .ok (store', ⟨id, stored v⟩) ∧
      Redis.get codec store' id = .ok ⟨id, stored v⟩ := by
  have h := get_add codec store id (stored v) (storable_stored .other v hv)
    (by rw [isUndefined_stored, hu])
  rwa [stored_stored] at h

/-- A cashout stored, read back, and stored again. -/
theorem round_trip_of_stored_sample :
    storable .other sampleCashout.toJs = true ∧
      ∃ store', Redis.add decimalDateCodec (fun _ => none) "offer-1" (stored sampleCashout.toJs) =
          .ok (store', ⟨"offer-1", stored sampleCashout.toJs⟩) ∧
        Redis.get decimalDateCodec store' "offer-1" = .ok ⟨"offer-1", stored sampleCashout.toJs⟩ :=
  ⟨by decide, round_trip_of_stored decimalDateCodec (fun _ => none) "offer-1" sampleCashout.toJs
    (by decide) rfl⟩

end Offers
