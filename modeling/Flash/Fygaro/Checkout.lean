import Flash.Support.Js

/-!
# Fygaro — the checkout reference

The `custom_reference` of a signed Fygaro checkout (`services/fygaro/checkout.ts`): the string
that says whose wallet a payment credits.  `buildCustomReference` writes `<username>|<intentId>`,
or `|<intentId>` when that would pass Fygaro's ceiling of 40 UTF-8 bytes, or the bare username
when no intent is bound.  `parseCustomReference` reads it back.

A username is one `UsernameRegex` of `domain/accounts` accepts: 3 to 50 letters, digits and
underscores, not starting with `1`, `3`, `bc1` or `lnbc1`.  Its letters are the Unicode class
`\p{L}`, a table not written here.  It is a parameter `isLetter`, and the results that need it
assume only what Unicode says of that class: no letter is white space or `|` (`LettersPlain`).

* `isSegment`: a piece the reference carries unchanged (no white space, no separator).  Every
  accepted username is one (`isSegment_of_usernameRegex`).
* `parseCustomReference_single`, `parseCustomReference_pair`: reading back a bare segment, and
  two segments around the separator.
* `intentId_eq_none_of_count_ne_one`: a reference carries an intent only if it has exactly one
  separator.
* `custom_reference_round_trip`: the reference fits the ceiling and reads back to what was
  written, without the username when it was dropped.
-/

namespace Fygaro

/-- `FYGARO_REFERENCE_SEPARATOR`. -/
def FYGARO_REFERENCE_SEPARATOR : Char := '|'

/-- `FYGARO_CUSTOM_REFERENCE_MAX_LENGTH`, counted in UTF-8 bytes by `buildCustomReference`. -/
def FYGARO_CUSTOM_REFERENCE_MAX_LENGTH : Nat := 40

/-- `FygaroCustomReference`. -/
structure FygaroCustomReference where
  username : Option String
  intentId : Option String
  deriving DecidableEq, Repr

/-- `buildCustomReference({ username, intentId })`.  An `intentId` of `""` is falsy, like an
absent one; `Buffer.byteLength(_, "utf8")` is `utf8ByteSize`. -/
def buildCustomReference (username : String) (intentId : Option String) : String :=
  match intentId with
  | none => username
  | some intentId =>
    if intentId = "" then username
    else
      let withUsername := username ++ String.singleton FYGARO_REFERENCE_SEPARATOR ++ intentId
      if withUsername.utf8ByteSize ≤ FYGARO_CUSTOM_REFERENCE_MAX_LENGTH then withUsername
      else String.singleton FYGARO_REFERENCE_SEPARATOR ++ intentId

/-- `parseCustomReference(raw)`, with `raw` `undefined` or `null` as `none`.  The split has at
least one part, so `parts[0]` is never the default. -/
def parseCustomReference (raw : Option String) : Option FygaroCustomReference :=
  let trimmed := Js.trim (raw.getD "")
  if trimmed = "" then none
  else
    let parts := Js.split trimmed FYGARO_REFERENCE_SEPARATOR
    let username := Js.trim (parts.headD "")
    if parts.length ≠ 2 then
      if username = "" then none else some ⟨some username, none⟩
    else
      let intentId := Js.trim (parts.getD 1 "")
      if username = "" then
        if intentId = "" then none else some ⟨none, some intentId⟩
      else if intentId = "" then some ⟨some username, none⟩
      else some ⟨some username, some intentId⟩

/-! ### Usernames -/

section Username

variable (isLetter : Char → Bool)

/-- A character of `[\p{L}0-9_]`. -/
def isUsernameChar (c : Char) : Bool :=
  isLetter c || ('0' ≤ c && c ≤ '9') || c == '_'

/-- `UsernameRegex`, `/^(?!^(1|3|bc1|lnbc1))[\p{L}0-9_]{3,50}$/iu`, as a test: the flag `u` counts
code points, and `i` makes the excluded prefixes blind to case. -/
def UsernameRegex (username : String) : Bool :=
  !(["1", "3", "bc1", "lnbc1"].any fun p => Js.startsWith (Js.toLowerCase username) p) &&
    username.toList.all (isUsernameChar isLetter) &&
    3 ≤ username.toList.length && username.toList.length ≤ 50

/-- What the reference needs of `\p{L}`, and Unicode gives: no letter is white space or the
separator. -/
def LettersPlain : Prop :=
  ∀ c, isLetter c = true → Js.isTrimmed c = false ∧ c ≠ FYGARO_REFERENCE_SEPARATOR

end Username

/-- A piece of a reference that it carries unchanged: no character `trim` strips, and no
separator. -/
def isSegment (s : String) : Bool :=
  s.toList.all fun c => !Js.isTrimmed c && c != FYGARO_REFERENCE_SEPARATOR

section Segments

variable {s u i : String}

theorem isSegment_iff :
    isSegment s = true ↔ ∀ c ∈ s.toList, Js.isTrimmed c = false ∧ c ≠ FYGARO_REFERENCE_SEPARATOR := by
  simp [isSegment]

theorem trim_of_isSegment (h : isSegment s = true) : Js.trim s = s :=
  Js.trim_of_forall fun c hc => ((isSegment_iff.mp h) c hc).1

theorem separator_not_mem_of_isSegment (h : isSegment s = true) :
    FYGARO_REFERENCE_SEPARATOR ∉ s.toList :=
  fun hc => ((isSegment_iff.mp h) _ hc).2 rfl

theorem isTrimmed_separator : Js.isTrimmed FYGARO_REFERENCE_SEPARATOR = false := by decide

/-- Two segments joined by the separator have no white space to trim. -/
theorem trim_joined (hu : isSegment u = true) (hi : isSegment i = true) :
    Js.trim (u ++ String.singleton FYGARO_REFERENCE_SEPARATOR ++ i) =
      u ++ String.singleton FYGARO_REFERENCE_SEPARATOR ++ i := by
  apply Js.trim_of_forall
  intro c hc
  simp only [String.toList_append, String.toList_singleton, List.mem_append,
    List.mem_singleton] at hc
  rcases hc with (hc | rfl) | hc
  · exact ((isSegment_iff.mp hu) c hc).1
  · exact isTrimmed_separator
  · exact ((isSegment_iff.mp hi) c hc).1

theorem joined_ne_empty : u ++ String.singleton FYGARO_REFERENCE_SEPARATOR ++ i ≠ "" := by
  intro h
  have h' := congrArg String.toList h
  simp [String.toList_append] at h'

end Segments

/-- Every accepted username is a segment, and not empty. -/
theorem isSegment_of_usernameRegex {isLetter : Char → Bool} (hL : LettersPlain isLetter)
    {username : String} (h : UsernameRegex isLetter username = true) :
    isSegment username = true ∧ username ≠ "" := by
  simp only [UsernameRegex, Bool.and_eq_true, decide_eq_true_eq, List.all_eq_true] at h
  obtain ⟨⟨⟨-, hchars⟩, hlen⟩, -⟩ := h
  constructor
  · rw [isSegment_iff]
    intro c hc
    have hcu := hchars c hc
    simp only [isUsernameChar, Bool.or_eq_true, Bool.and_eq_true, decide_eq_true_eq,
      beq_iff_eq] at hcu
    -- a letter by what Unicode says of letters; a digit or `_` as visible ASCII other than `|`
    rcases hcu with (hletter | ⟨h₁, h₂⟩) | rfl
    · exact hL c hletter
    · have h₁' : 48 ≤ c.toNat := h₁
      have h₂' : c.toNat ≤ 57 := h₂
      refine ⟨Js.isTrimmed_of_visible_ascii (by omega) (by omega), ?_⟩
      rintro rfl
      exact absurd h₂' (by decide)
    · decide
  · rintro rfl
    exact absurd hlen (by decide)

/-- The ASCII letters of `Char.isAlpha`, like the letters of `\p{L}`, hold no white space and no
separator. -/
theorem lettersPlain_isAlpha : LettersPlain Char.isAlpha := by
  intro c h
  have h' : (65 ≤ c.toNat ∧ c.toNat ≤ 90) ∨ (97 ≤ c.toNat ∧ c.toNat ≤ 122) := by
    simp only [Char.isAlpha, Char.isUpper, Char.isLower, Bool.or_eq_true, Bool.and_eq_true,
      decide_eq_true_eq] at h
    exact h
  refine ⟨Js.isTrimmed_of_visible_ascii (by omega) (by omega), ?_⟩
  rintro rfl
  revert h'
  decide

/-! ### Reading a reference back -/

/-- A segment alone reads back as a username. -/
theorem parseCustomReference_single {s : String} (hs : isSegment s = true) (hne : s ≠ "") :
    parseCustomReference (some s) = some ⟨some s, none⟩ := by
  have hsplit : Js.split s FYGARO_REFERENCE_SEPARATOR = [s] :=
    Js.split_of_not_mem (separator_not_mem_of_isSegment hs)
  simp only [parseCustomReference, Option.getD_some, trim_of_isSegment hs, hsplit, if_neg hne,
    List.headD_cons, List.length_singleton]
  rw [if_pos (by decide : (1 : Nat) ≠ 2)]

/-- Two segments around the separator read back as a username and an intent, the username
absent when its segment is empty. -/
theorem parseCustomReference_pair {u i : String} (hu : isSegment u = true)
    (hi : isSegment i = true) (hine : i ≠ "") :
    parseCustomReference (some (u ++ String.singleton FYGARO_REFERENCE_SEPARATOR ++ i)) =
      if u = "" then some ⟨none, some i⟩ else some ⟨some u, some i⟩ := by
  have hsplit : Js.split (u ++ String.singleton FYGARO_REFERENCE_SEPARATOR ++ i)
      FYGARO_REFERENCE_SEPARATOR = [u, i] := by
    rw [Js.split_append (separator_not_mem_of_isSegment hu),
      Js.split_of_not_mem (separator_not_mem_of_isSegment hi)]
  simp only [parseCustomReference, Option.getD_some, trim_joined hu hi, if_neg joined_ne_empty,
    hsplit, List.headD_cons, List.length_cons, List.length_nil, List.getD_cons_succ,
    List.getD_cons_zero, trim_of_isSegment hu, trim_of_isSegment hi, if_neg hine]
  by_cases hue : u = ""
  · rw [if_pos hue, if_pos hue]
    rfl
  · rw [if_neg hue, if_neg hue]
    rfl

/-- Without exactly one separator a reference carries no intent: the split has not two parts. -/
theorem intentId_eq_none_of_count_ne_one {raw : Option String} {r : FygaroCustomReference}
    (hcount : (raw.getD "").toList.count FYGARO_REFERENCE_SEPARATOR ≠ 1)
    (hr : parseCustomReference raw = some r) : r.intentId = none := by
  have hparts : (Js.split (Js.trim (raw.getD "")) FYGARO_REFERENCE_SEPARATOR).length ≠ 2 := by
    rw [Js.length_split, Js.count_trim isTrimmed_separator]
    omega
  simp only [parseCustomReference, hparts, if_true, ne_eq, not_false_eq_true] at hr
  split at hr
  · cases hr
  · split at hr
    · cases hr
    · cases hr
      rfl

/-! ### Writing a reference -/

section Build

variable {username intentId : String}

theorem buildCustomReference_of_le (hine : intentId ≠ "")
    (h : (username ++ String.singleton FYGARO_REFERENCE_SEPARATOR ++ intentId).utf8ByteSize ≤
      FYGARO_CUSTOM_REFERENCE_MAX_LENGTH) :
    buildCustomReference username (some intentId) =
      username ++ String.singleton FYGARO_REFERENCE_SEPARATOR ++ intentId := by
  simp only [buildCustomReference, if_neg hine, if_pos h]

theorem buildCustomReference_of_not_le (hine : intentId ≠ "")
    (h : ¬ (username ++ String.singleton FYGARO_REFERENCE_SEPARATOR ++ intentId).utf8ByteSize ≤
      FYGARO_CUSTOM_REFERENCE_MAX_LENGTH) :
    buildCustomReference username (some intentId) =
      String.singleton FYGARO_REFERENCE_SEPARATOR ++ intentId := by
  simp only [buildCustomReference, if_neg hine, if_neg h]

/-- With an intent of at most 39 bytes the reference fits the ceiling: `|<intentId>` does
whenever `<username>|<intentId>` does not. -/
theorem utf8ByteSize_buildCustomReference_le (hine : intentId ≠ "")
    (hlen : intentId.utf8ByteSize ≤ FYGARO_CUSTOM_REFERENCE_MAX_LENGTH - 1) :
    (buildCustomReference username (some intentId)).utf8ByteSize ≤
      FYGARO_CUSTOM_REFERENCE_MAX_LENGTH := by
  by_cases h : (username ++ String.singleton FYGARO_REFERENCE_SEPARATOR ++ intentId).utf8ByteSize ≤
      FYGARO_CUSTOM_REFERENCE_MAX_LENGTH
  · rw [buildCustomReference_of_le hine h]
    exact h
  · have hsep : (String.singleton FYGARO_REFERENCE_SEPARATOR).utf8ByteSize = 1 := by decide
    rw [buildCustomReference_of_not_le hine h, String.utf8ByteSize_append, hsep]
    have hmax : FYGARO_CUSTOM_REFERENCE_MAX_LENGTH = 40 := rfl
    omega

end Build

/-- The reference of an accepted username and an intent of at most 39 bytes, free of white space
and of the separator, fits the ceiling and reads back to both, or to the intent alone when the
username had to be dropped; a bare username reads back as itself; and no reference without
exactly one separator yields an intent. -/
theorem custom_reference_round_trip (isLetter : Char → Bool) (hL : LettersPlain isLetter)
    (username intentId : String) (hu : UsernameRegex isLetter username = true)
    (hi : isSegment intentId = true) (hine : intentId ≠ "") (hlen : intentId.utf8ByteSize ≤ 39) :
    (buildCustomReference username (some intentId)).utf8ByteSize ≤
        FYGARO_CUSTOM_REFERENCE_MAX_LENGTH ∧
      parseCustomReference (some (buildCustomReference username (some intentId))) =
        (if (username ++ String.singleton FYGARO_REFERENCE_SEPARATOR ++ intentId).utf8ByteSize ≤
            FYGARO_CUSTOM_REFERENCE_MAX_LENGTH then some ⟨some username, some intentId⟩
          else some ⟨none, some intentId⟩) ∧
      parseCustomReference (some (buildCustomReference username none)) =
        some ⟨some username, none⟩ ∧
      ∀ raw : Option String, (raw.getD "").toList.count FYGARO_REFERENCE_SEPARATOR ≠ 1 →
        ∀ r, parseCustomReference raw = some r → r.intentId = none := by
  obtain ⟨hus, hune⟩ := isSegment_of_usernameRegex hL hu
  refine ⟨utf8ByteSize_buildCustomReference_le hine hlen, ?_, ?_, ?_⟩
  · by_cases h : (username ++ String.singleton FYGARO_REFERENCE_SEPARATOR ++ intentId).utf8ByteSize ≤
        FYGARO_CUSTOM_REFERENCE_MAX_LENGTH
    · -- the username fits: both segments come back
      rw [if_pos h, buildCustomReference_of_le hine h, parseCustomReference_pair hus hi hine,
        if_neg hune]
    · -- `|<intentId>` is the empty segment, the separator and the intent
      rw [if_neg h, buildCustomReference_of_not_le hine h]
      have hempty : isSegment "" = true := rfl
      have hpair := parseCustomReference_pair hempty hi hine
      rw [if_pos rfl, String.empty_append] at hpair
      exact hpair
  · exact parseCustomReference_single hus hune
  · intro raw hcount r hr
    exact intentId_eq_none_of_count_ne_one hcount hr

/-- `alice` with a 16-character intent id, as `newIntentId` mints them, reads back whole. -/
theorem custom_reference_round_trip_for_alice :
    parseCustomReference (some (buildCustomReference "alice" (some "Q2hlY2tvdXQtMTIz"))) =
      some ⟨some "alice", some "Q2hlY2tvdXQtMTIz"⟩ :=
  (custom_reference_round_trip Char.isAlpha lettersPlain_isAlpha "alice" "Q2hlY2tvdXQtMTIz"
    (by decide) (by decide) (by decide) (by decide)).2.1.trans (by decide)

end Fygaro
