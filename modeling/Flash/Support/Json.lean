import Mathlib

/-!
# Support — JSON with a replacer and a reviver

`JSON.stringify(value, replacer)` and `JSON.parse(text, reviver)` of ECMA-262 (25.5), over the
JavaScript values a program hands them: primitives, arrays, plain objects, `Date`s and instances
of the program's classes `I`.

The text between the two is a `Json` tree: printing one and reading it back are inverse (ECMA-404),
and neither is written here.  Numbers are integral, as every number of the modelled data is.  An
object's members keep the order they were written in; JavaScript lists integer-like keys first,
which no modelled key is.

* `serializeProperty` is `SerializeJSONProperty`: a `Date`'s `toJSON`, then the replacer, then the
  value by its kind.  It recurses into what the replacer returns, which need not be part of the
  value it was given, so it runs on fuel; `outOfFuel` is the model's, never JavaScript's.
* `internalize` is `InternalizeJSONProperty`: the children first, then the reviver, bottom-up;
  a member revived to `undefined` is deleted.
* `Value.toStr` is `ToString`, for the values a reviver meets.
-/

namespace Js

/-- A JSON value, as `JSON.stringify` writes it and `JSON.parse` reads it. -/
inductive Json
  | null
  | bool (b : Bool)
  | number (n : Int)
  | string (s : String)
  | array (elements : List Json)
  | object (members : List (String × Json))

/-- A JavaScript value: the primitives, arrays and plain objects (a member may hold `undefined`),
a `Date` by its time value (`none` for an invalid date), and an instance of one of the program's
classes. -/
inductive Value (I : Type)
  | undefined
  | null
  | bool (b : Bool)
  | number (n : Int)
  | string (s : String)
  | bigint (n : Int)
  | array (elements : List (Value I))
  | object (members : List (String × Value I))
  | date (t : Option Int)
  | inst (i : I)

/-- The largest distance from the epoch, in milliseconds, of a valid time value (`TimeClip`). -/
def maxTimeValue : Nat := 8640000000000000

/-- What `Date` does for the modelled code.  Its one law is ECMA-262's: `Date.parse` reads back
what `toISOString` writes, for every valid time value. -/
structure DateCodec where
  /-- `Date.prototype.toISOString`. -/
  toISOString : Int → String
  /-- `new Date(string)`: the time value read, `none` for an invalid date. -/
  parse : String → Option Int
  /-- `Date.prototype.toString`, whose format the implementation chooses. -/
  toString : Option Int → String
  parse_toISOString : ∀ t : Int, t.natAbs ≤ maxTimeValue → parse (toISOString t) = some t

variable {I : Type}

/-- Whether a value is `undefined`. -/
def Value.isUndefined : Value I → Bool
  | .undefined => true
  | _ => false

mutual

/-- How deep arrays and objects nest in a value. -/
def Value.depth : Value I → Nat
  | .array elements => depthElements elements + 1
  | .object members => depthMembers members + 1
  | _ => 0

/-- The greatest depth of the elements. -/
def depthElements : List (Value I) → Nat
  | [] => 0
  | x :: xs => max x.depth (depthElements xs)

/-- The greatest depth of the members' values. -/
def depthMembers : List (String × Value I) → Nat
  | [] => 0
  | (_, x) :: xs => max x.depth (depthMembers xs)

end

/-- The value of `holder[key]` for an object `holder`: its member's, or `undefined`. -/
def Value.member (holder : Value I) (key : String) : Value I :=
  match holder with
  | .object members => (members.lookup key).getD .undefined
  | _ => .undefined

/-! ### `JSON.stringify` -/

/-- Why `JSON.stringify` stops. -/
inductive StringifyError
  | typeError (message : String)
  | outOfFuel
  deriving DecidableEq, Repr

section Stringify

variable {ε : Type}

/-- `SerializeJSONArray`'s loop, given how one property is serialized: an element that is
`undefined` is written `null`. -/
def serializeElements (serialize : String → Value I → Except ε (Option Json)) :
    Nat → List (Value I) → Except ε (List Json)
  | _, [] => .ok []
  | i, x :: xs => do
    let j ← serialize (toString i) x
    let js ← serializeElements serialize (i + 1) xs
    pure (j.getD .null :: js)

/-- `SerializeJSONObject`'s loop: a member that is `undefined` is left out. -/
def serializeMembers (serialize : String → Value I → Except ε (Option Json)) :
    List (String × Value I) → Except ε (List (String × Json))
  | [] => .ok []
  | (k, x) :: members => do
    let j ← serialize k x
    let js ← serializeMembers serialize members
    pure (match j with
      | none => js
      | some j => (k, j) :: js)

variable (codec : DateCodec) (ownProperties : I → List (String × Value I))
  (replacer : String → Value I → Value I)

/-- The value after its own `toJSON`: a `Date`'s is its ISO string, or `null` when invalid; no
other modelled value has one. -/
def Value.toJSON : Value I → Value I
  | .date (some t) => .string (codec.toISOString t)
  | .date none => .null
  | v => v

/-- `SerializeJSONProperty(state, key, holder)` for `holder[key] = value`, on `fuel`: `none` when
the result is `undefined`.  An instance the replacer leaves is written as its own enumerable
properties, and a `Date` it returns has none. -/
def serializeProperty : Nat → String → Value I → Except StringifyError (Option Json)
  | 0, _, _ => .error .outOfFuel
  | fuel + 1, key, value =>
    match replacer key (value.toJSON codec) with
    | .undefined => .ok none
    | .null => .ok (some .null)
    | .bool b => .ok (some (.bool b))
    | .number n => .ok (some (.number n))
    | .string s => .ok (some (.string s))
    | .bigint _ => .error (.typeError "Do not know how to serialize a BigInt")
    | .array elements => do
      let js ← serializeElements (serializeProperty fuel) 0 elements
      pure (some (.array js))
    | .object members => do
      let js ← serializeMembers (serializeProperty fuel) members
      pure (some (.object js))
    | .date _ => .ok (some (.object []))
    | .inst i => do
      let js ← serializeMembers (serializeProperty fuel) (ownProperties i)
      pure (some (.object js))

end Stringify

/-! ### `JSON.parse` -/

section Parse

variable {ε : Type} (reviver : String → Value I → Except ε (Value I))

mutual

/-- `InternalizeJSONProperty(holder, key, reviver)` for the parsed `holder[key]`: its elements or
members first, then the reviver on it. -/
def internalize : String → Json → Except ε (Value I)
  | key, .null => reviver key .null
  | key, .bool b => reviver key (.bool b)
  | key, .number n => reviver key (.number n)
  | key, .string s => reviver key (.string s)
  | key, .array elements => do
    let vs ← internalizeElements 0 elements
    reviver key (.array vs)
  | key, .object members => do
    let ms ← internalizeMembers members
    reviver key (.object ms)

/-- The elements, in order, under the keys `"0"`, `"1"`, …; one revived to `undefined` is deleted,
a hole that reads as `undefined`. -/
def internalizeElements : Nat → List Json → Except ε (List (Value I))
  | _, [] => .ok []
  | i, j :: js => do
    let v ← internalize (toString i) j
    let vs ← internalizeElements (i + 1) js
    pure (v :: vs)

/-- The members, in order; one revived to `undefined` is deleted. -/
def internalizeMembers : List (String × Json) → Except ε (List (String × Value I))
  | [] => .ok []
  | (k, j) :: js => do
    let v ← internalize k j
    let ms ← internalizeMembers js
    pure (match v with
      | .undefined => ms
      | v => (k, v) :: ms)

end

variable {reviver}

theorem internalizeElements_cons {i : Nat} {j : Json} {js : List Json} {v : Value I}
    {vs : List (Value I)} (hv : internalize reviver (toString i) j = .ok v)
    (hvs : internalizeElements reviver (i + 1) js = .ok vs) :
    internalizeElements reviver i (j :: js) = .ok (v :: vs) := by
  simp only [internalizeElements, hv, hvs]
  rfl

/-- A member whose revived value is not `undefined` is kept, under its key. -/
theorem internalizeMembers_cons {k : String} {j : Json} {js : List (String × Json)} {v : Value I}
    {ms : List (String × Value I)} (hv : internalize reviver k j = .ok v)
    (hu : v.isUndefined = false) (hms : internalizeMembers reviver js = .ok ms) :
    internalizeMembers reviver ((k, j) :: js) = .ok ((k, v) :: ms) := by
  simp only [internalizeMembers, hv, hms]
  cases v <;> first | rfl | cases hu

end Parse

/-! ### `ToString` -/

section ToStr

/-- An element as `join` writes it, given its `ToString`: empty for `null` and `undefined`. -/
def elementString : Value I → String → String
  | .undefined, _ => ""
  | .null, _ => ""
  | _, s => s

variable (dateString : Option Int → String) (instString : I → String)

mutual

/-- `ToString(v)`, as a template literal or `String(v)` gives it: an array is its elements joined
by commas, `null` and `undefined` ones empty; a plain object is `[object Object]`. -/
def Value.toStr : Value I → String
  | .undefined => "undefined"
  | .null => "null"
  | .bool b => if b then "true" else "false"
  | .number n => toString n
  | .string s => s
  | .bigint n => toString n
  | .array elements => joinElements elements
  | .object _ => "[object Object]"
  | .date t => dateString t
  | .inst i => instString i

/-- `Array.prototype.join(",")` of the elements. -/
def joinElements : List (Value I) → String
  | [] => ""
  | [x] => elementString x x.toStr
  | x :: xs => elementString x x.toStr ++ "," ++ joinElements xs

end

end ToStr

end Js
