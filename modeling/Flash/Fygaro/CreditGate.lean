import Flash.Support.Js

/-!
# Fygaro — the credit gate

`services/fygaro/webhook-server/fees.ts`.  `computeFygaroFees` turns the gross of a card top-up
into the net to credit, and `evaluateCreditGate` decides whether the top-up is credited
automatically or only recorded.  The webhook runs the gate once the card has been charged, and
`authorizeFygaroTopup` runs the same function before the customer is sent to pay, with the
account's outstanding holds added to the history.

* `evaluateCreditGate_eq_credit_iff`: the gate credits exactly when every stop passes, with
  `computeFygaroFees`'s fees.
* `evaluateCreditGate_credit_of_prior_le`: the gate is antitone in the history — a top-up it
  credits against one trailing-24h gross it credits against every smaller one.  A yes before the
  charge is a yes after it exactly when the webhook's history is no more than the spent total
  counted before.
* `evaluateCreditGate_probe`: a stop the gate finds with no history is the stop it finds with
  every history, which is what lets the pre-charge probe refuse before ERPNext is read.

Settings hold every dollar figure in cents and every percentage in hundredths of a percent, so
the source's `Math.round(x * 100)` of a dollar figure is the field itself; a fee discount is a
whole percentage.
-/

namespace Fygaro

/-- `FygaroSettings`, the fields the gate reads.  `dailyTopupLimits` is the cap of each account
level that has one. -/
structure FygaroSettings where
  processorFeePercent : Nat
  processorFeeFixed : Nat
  flashMarginPercent : Nat
  flashMarginFixed : Nat
  autoCreditLimit : Nat
  minimumTopup : Nat
  autoCreditEnabled : Bool
  dailyTopupLimits : List (Nat × Nat)
  deriving DecidableEq, Repr

/-- `FygaroFees`. -/
structure FygaroFees where
  grossCents : Nat
  processorFeeCents : Nat
  flashFeeCents : Nat
  netCents : Int
  deriving DecidableEq, Repr

/-- `computeFygaroFees`: each fee component is rounded to the cent before it is subtracted, and
the discount applies to the whole Flash fee. -/
def computeFygaroFees (grossCents : Nat) (settings : FygaroSettings)
    (flashFeeDiscountPercent : Nat) : FygaroFees :=
  let processorFeeCents :=
    Js.roundDiv (grossCents * settings.processorFeePercent) 10000 + settings.processorFeeFixed
  let fullFlashFeeCents :=
    Js.roundDiv (grossCents * settings.flashMarginPercent) 10000 + settings.flashMarginFixed
  -- an out-of-range discount is clamped to `[0, 100]`
  let discount := min 100 flashFeeDiscountPercent
  let flashFeeCents := Js.roundDiv (fullFlashFeeCents * (100 - discount)) 100
  { grossCents, processorFeeCents, flashFeeCents,
    netCents := (grossCents : Int) - processorFeeCents - flashFeeCents }

/-- `RecordOnlyReason`: why a payment was not credited automatically. -/
inductive RecordOnlyReason where
  | creditDisabled
  | settingsUnavailable
  | autoCreditDisabled
  | nonUsd
  | overLimit
  | noDailyLimitForLevel
  | historyUnavailable
  | dailyLimitExceeded
  | underMinimum
  | nonPositiveNet
  | intentMismatch
  deriving DecidableEq, Repr

/-- The reason as the code writes it. -/
def RecordOnlyReason.toString : RecordOnlyReason → String
  | creditDisabled => "credit-disabled"
  | settingsUnavailable => "settings-unavailable"
  | autoCreditDisabled => "auto-credit-disabled"
  | nonUsd => "non-usd"
  | overLimit => "over-limit"
  | noDailyLimitForLevel => "no-daily-limit-for-level"
  | historyUnavailable => "history-unavailable"
  | dailyLimitExceeded => "daily-limit-exceeded"
  | underMinimum => "under-minimum"
  | nonPositiveNet => "non-positive-net"
  | intentMismatch => "intent-mismatch"

/-- `CreditGate`: credit with these fees, or record only, for this reason. -/
inductive CreditGate where
  | credit (fees : FygaroFees)
  | recordOnly (reason : RecordOnlyReason)
  deriving DecidableEq, Repr

/-- The arguments of `evaluateCreditGate`.  `priorDayGrossCents` is the gross charged to the
account over the trailing 24 hours, `none` when the history could not be read. -/
structure CreditGateInput where
  creditEnabled : Bool
  currency : String
  settings : Option FygaroSettings
  grossCents : Nat
  level : Nat
  priorDayGrossCents : Option Nat
  flashFeeDiscountPercent : Nat
  deriving DecidableEq, Repr

/-- `evaluateCreditGate`: the stops in the order the code tries them; the first that fails names
the reason. -/
def evaluateCreditGate (g : CreditGateInput) : CreditGate :=
  if !g.creditEnabled then .recordOnly .creditDisabled else
  match g.settings with
  | none => .recordOnly .settingsUnavailable
  | some settings =>
      if !settings.autoCreditEnabled then .recordOnly .autoCreditDisabled
      else if g.currency ≠ "USD" then .recordOnly .nonUsd
      else if settings.autoCreditLimit < g.grossCents then .recordOnly .overLimit
      else match settings.dailyTopupLimits.lookup g.level with
        | none => .recordOnly .noDailyLimitForLevel
        | some dailyLimit =>
            match g.priorDayGrossCents with
            | none => .recordOnly .historyUnavailable
            | some prior =>
                if dailyLimit < g.grossCents + prior then .recordOnly .dailyLimitExceeded
                else
                  let fees := computeFygaroFees g.grossCents settings g.flashFeeDiscountPercent
                  if fees.netCents ≤ 0 then .recordOnly .nonPositiveNet
                  else if g.grossCents < settings.minimumTopup then .recordOnly .underMinimum
                  else .credit fees

/-! ### The gate in two stages

The stops before the history read nothing but the settings, the currency, the gross and the
level; the stops after it read the history only through the daily limit.  `evaluateCreditGate_eq`
cuts the gate there, so that what one stage decides is seen not to depend on the other. -/

/-- The stops before the history: the first that fails, or the settings and the daily limit of
the level when all pass. -/
def CreditGateInput.beforeHistory (g : CreditGateInput) :
    Except RecordOnlyReason (FygaroSettings × Nat) :=
  if !g.creditEnabled then .error .creditDisabled else
  match g.settings with
  | none => .error .settingsUnavailable
  | some settings =>
      if !settings.autoCreditEnabled then .error .autoCreditDisabled
      else if g.currency ≠ "USD" then .error .nonUsd
      else if settings.autoCreditLimit < g.grossCents then .error .overLimit
      else match settings.dailyTopupLimits.lookup g.level with
        | none => .error .noDailyLimitForLevel
        | some dailyLimit => .ok (settings, dailyLimit)

/-- The stops after the history, against a trailing-24h gross of `prior`. -/
def CreditGateInput.afterHistory (g : CreditGateInput) (settings : FygaroSettings)
    (dailyLimit prior : Nat) : CreditGate :=
  if dailyLimit < g.grossCents + prior then .recordOnly .dailyLimitExceeded
  else
    let fees := computeFygaroFees g.grossCents settings g.flashFeeDiscountPercent
    if fees.netCents ≤ 0 then .recordOnly .nonPositiveNet
    else if g.grossCents < settings.minimumTopup then .recordOnly .underMinimum
    else .credit fees

@[simp] theorem CreditGateInput.beforeHistory_withPrior (g : CreditGateInput)
    (prior : Option Nat) :
    ({ g with priorDayGrossCents := prior } : CreditGateInput).beforeHistory = g.beforeHistory :=
  rfl

@[simp] theorem CreditGateInput.afterHistory_withPrior (g : CreditGateInput)
    (prior : Option Nat) :
    ({ g with priorDayGrossCents := prior } : CreditGateInput).afterHistory = g.afterHistory :=
  rfl

theorem evaluateCreditGate_eq (g : CreditGateInput) :
    evaluateCreditGate g =
      match g.beforeHistory with
      | .error reason => .recordOnly reason
      | .ok (settings, dailyLimit) =>
          match g.priorDayGrossCents with
          | none => .recordOnly .historyUnavailable
          | some prior => g.afterHistory settings dailyLimit prior := by
  unfold evaluateCreditGate CreditGateInput.beforeHistory
  by_cases hc : (!g.creditEnabled) = true
  · simp only [hc, ↓reduceIte]
  · simp only [hc, ↓reduceIte, Bool.false_eq_true]
    cases g.settings with
    | none => rfl
    | some settings =>
        by_cases ha : (!settings.autoCreditEnabled) = true
        · simp only [if_pos ha]
        by_cases hu : g.currency ≠ "USD"
        · simp only [if_neg ha, if_pos hu]
        by_cases hl : settings.autoCreditLimit < g.grossCents
        · simp only [if_neg ha, if_neg hu, if_pos hl]
        simp only [if_neg ha, if_neg hu, if_neg hl]
        cases settings.dailyTopupLimits.lookup g.level with
        | none => rfl
        | some dailyLimit => rfl

/-! ### When the gate credits -/

/-- The stops after the history pass exactly when the top-up is within the daily limit, its net
is positive and it is at least the minimum. -/
theorem afterHistory_eq_credit_iff {g : CreditGateInput} {settings : FygaroSettings}
    {dailyLimit prior : Nat} {fees : FygaroFees} :
    g.afterHistory settings dailyLimit prior = .credit fees ↔
      g.grossCents + prior ≤ dailyLimit ∧
        0 < (computeFygaroFees g.grossCents settings g.flashFeeDiscountPercent).netCents ∧
        settings.minimumTopup ≤ g.grossCents ∧
        fees = computeFygaroFees g.grossCents settings g.flashFeeDiscountPercent := by
  unfold CreditGateInput.afterHistory
  by_cases hx : dailyLimit < g.grossCents + prior
  · simp only [if_pos hx, reduceCtorEq, false_iff]; rintro ⟨h, -⟩; omega
  by_cases hn : (computeFygaroFees g.grossCents settings g.flashFeeDiscountPercent).netCents ≤ 0
  · simp only [if_neg hx, if_pos hn, reduceCtorEq, false_iff]; rintro ⟨-, h, -⟩; omega
  by_cases hm : g.grossCents < settings.minimumTopup
  · simp only [if_neg hx, if_neg hn, if_pos hm, reduceCtorEq, false_iff]
    rintro ⟨-, -, h, -⟩; omega
  simp only [if_neg hx, if_neg hn, if_neg hm, CreditGate.credit.injEq]
  exact ⟨fun h => ⟨by omega, by omega, by omega, h.symm⟩, fun h => h.2.2.2.symm⟩

/-- The gate credits exactly when the stops before the history pass, the history was read, and
the stops after it pass. -/
theorem evaluateCreditGate_eq_credit_iff {g : CreditGateInput} {fees : FygaroFees} :
    evaluateCreditGate g = .credit fees ↔
      ∃ settings dailyLimit prior, g.beforeHistory = .ok (settings, dailyLimit) ∧
        g.priorDayGrossCents = some prior ∧
        g.afterHistory settings dailyLimit prior = .credit fees := by
  rw [evaluateCreditGate_eq]
  constructor
  · intro h
    cases hb : g.beforeHistory with
    | error reason => simp only [hb, reduceCtorEq] at h
    | ok sd =>
        obtain ⟨settings, dailyLimit⟩ := sd
        cases hp : g.priorDayGrossCents with
        | none => simp only [hb, hp, reduceCtorEq] at h
        | some prior =>
            simp only [hb, hp] at h
            exact ⟨settings, dailyLimit, prior, rfl, rfl, h⟩
  · rintro ⟨settings, dailyLimit, prior, hb, hp, h⟩
    simp only [hb, hp, h]

/-- The stops before the history pass only with the settings read and a daily limit for the
level. -/
theorem CreditGateInput.beforeHistory_eq_ok {g : CreditGateInput} {settings : FygaroSettings}
    {dailyLimit : Nat} (h : g.beforeHistory = .ok (settings, dailyLimit)) :
    g.settings = some settings ∧ settings.dailyTopupLimits.lookup g.level = some dailyLimit := by
  unfold CreditGateInput.beforeHistory at h
  by_cases hc : (!g.creditEnabled) = true
  · rw [if_pos hc] at h
    cases h
  rw [if_neg hc] at h
  cases hs : g.settings with
  | none =>
      rw [hs] at h
      cases h
  | some S =>
      rw [hs] at h
      dsimp only at h
      split_ifs at h
      revert h
      cases hl : S.dailyTopupLimits.lookup g.level with
      | none => intro h; cases h
      | some l => intro h; cases h; exact ⟨rfl, hl⟩

/-- **The gate is antitone in the history.**  A top-up the gate credits against a trailing-24h
gross of `prior` it credits, with the same fees, against any smaller gross. -/
theorem evaluateCreditGate_credit_of_prior_le {g : CreditGateInput} {prior prior' : Nat}
    {fees : FygaroFees} (h : evaluateCreditGate { g with priorDayGrossCents := some prior } =
      .credit fees) (hle : prior' ≤ prior) :
    evaluateCreditGate { g with priorDayGrossCents := some prior' } = .credit fees := by
  obtain ⟨settings, dailyLimit, p, hb, hp, ha⟩ := evaluateCreditGate_eq_credit_iff.mp h
  simp only [CreditGateInput.beforeHistory_withPrior, CreditGateInput.afterHistory_withPrior,
    Option.some.injEq] at hb hp ha
  subst hp
  obtain ⟨hx, hn, hm, hfees⟩ := afterHistory_eq_credit_iff.mp ha
  refine evaluateCreditGate_eq_credit_iff.mpr ⟨settings, dailyLimit, prior', by simpa using hb,
    rfl, ?_⟩
  simpa using afterHistory_eq_credit_iff.mpr ⟨by omega, hn, hm, hfees⟩

/-! ### The probe -/

/-- **The probe decides every stop before the history.**  Evaluated with no history, the gate
either stops for want of it, or stops where it stops against every history. -/
theorem evaluateCreditGate_probe {g : CreditGateInput} {reason : RecordOnlyReason}
    (h : evaluateCreditGate { g with priorDayGrossCents := none } = .recordOnly reason)
    (hr : reason ≠ .historyUnavailable) (prior : Option Nat) :
    evaluateCreditGate { g with priorDayGrossCents := prior } = .recordOnly reason := by
  rw [evaluateCreditGate_eq] at h ⊢
  simp only [CreditGateInput.beforeHistory_withPrior, CreditGateInput.afterHistory_withPrior]
    at h ⊢
  cases hb : g.beforeHistory with
  | error r => simpa [hb] using h
  | ok sd =>
      simp only [hb, CreditGate.recordOnly.injEq] at h
      exact absurd h.symm hr

end Fygaro
