import Mathlib
import Flash.Fygaro.Authorize
import Flash.Support.Phases

/-!
# Fygaro — the phases of an authorisation

A call of `authorizeFygaroTopup` waits on the account's stores at a dozen points: the settings,
the history, the prune and the read of the index, the discount, the hold's `ZADD`, `EXPIRE` and
the record's two writes, the re-read's prune and read, and the rollback's `ZREM`; or, for a
request that may be handed a link back, the intent record.  `AuthorizePhase` names each point
with what the call knows there, and `AuthorizePhase.result` is what remains of the call from it:
each is one of the continuations of `Fygaro.Authorize` applied to what the call knows.
`AuthorizePhase.follows` proves that the phases describe the program, so that what holds of the
phases of the threads of a run holds of the program.

* the services as one call each, with the value they make of its reply
  (`getFygaroSettings_eq` and the rest);
* `afterSettings_cases`, `afterDiscount_cases`, `afterReread_cases`: what each decision can do;
* `authorizeFygaroTopup_ownIndex`: a call touches no member of the index but its own hold and
  those expired by its time, and writes no row;
* `CheckoutPhase`: a client's request, the authorisation and then the hand-out of its link, and
  `CheckoutPhase.answer_after_feed`: a call that has answered keeps its answer.
-/

namespace Fygaro

open Threads

/-! ### The replies the services read -/

namespace TopupReply

/-- The settings `getFygaroSettings` makes of a reply. -/
def settingsOf : TopupReply → Option FygaroSettings
  | .settings v => v
  | _ => none

/-- The history `sumFygaroTopupGrossCentsLast24h` makes of a reply. -/
def grossOf : TopupReply → Option Nat
  | .grossCents v => some v
  | _ => none

/-- The discount `getFlashFeeDiscountPercent` makes of a reply. -/
def discountOf : TopupReply → Nat
  | .discount v => v
  | _ => 0

/-- The holds the read of the index makes of a reply: the members of a positive amount. -/
def reservationsOf : TopupReply → Option (List FygaroReservation)
  | .reservations flat => some (flat.filter (0 < ·.amountCents))
  | _ => none

/-- The record `readIntent` makes of a reply. -/
def intentOf : TopupReply → Option FygaroCheckoutIntent
  | .intent v => v
  | _ => none

end TopupReply

theorem getFygaroSettings_eq :
    getFygaroSettings = .call .getFygaroSettings fun r => .pure r.settingsOf := by
  simp only [getFygaroSettings, Prog.call.injEq, true_and]
  funext r
  cases r <;> rfl

theorem sumFygaroTopupGrossCentsLast24h_eq (nowMs : Nat) (ex : Option TransactionId) :
    sumFygaroTopupGrossCentsLast24h nowMs ex =
      .call (.sumFygaroTopupGrossCentsSince (nowMs - 24 * 60 * 60 * 1000) ex) fun r =>
        .pure r.grossOf := by
  simp only [sumFygaroTopupGrossCentsLast24h, Prog.call.injEq, true_and]
  funext r
  cases r <;> rfl

theorem getFlashFeeDiscountPercent_eq :
    getFlashFeeDiscountPercent = .call .getFlashFeeDiscountPercent fun r => .pure r.discountOf := by
  simp only [getFlashFeeDiscountPercent, Prog.call.injEq, true_and]
  funext r
  cases r <;> rfl

theorem readIntent_eq (intentId : IntentId) :
    readIntent intentId = .call (.getIntent intentId) fun r => .pure r.intentOf := by
  simp only [readIntent, Prog.call.injEq, true_and]
  funext r
  cases r <;> rfl

/-- The read of the index once its prune succeeded. -/
def rangeIndex : TopupProg (Option (List FygaroReservation)) :=
  .call .zrange fun
    | .reservations flat => .pure (some (flat.filter (0 < ·.amountCents)))
    | _ => .pure none

theorem rangeIndex_eq : rangeIndex = .call .zrange fun r => .pure r.reservationsOf := by
  simp only [rangeIndex, Prog.call.injEq, true_and]
  funext r
  cases r <;> rfl

theorem readOutstandingReservations_eq (nowMs : Nat) :
    readOutstandingReservations nowMs = .call (.zremrangebyscore nowMs) fun
      | .ok => rangeIndex
      | _ => .pure none := rfl

/-- The redemption claim of `saveIntent`, once the record is written. -/
def saveClaim (intent : FygaroCheckoutIntent) : TopupProg (Except SaveIntentError Unit) :=
  .call (.setClaim intent.intentId) fun _ => .pure (.ok ())

/-- The record of `saveIntent` and its claim, once the hold is written. -/
def saveRecord (intent : FygaroCheckoutIntent) : TopupProg (Except SaveIntentError Unit) :=
  .call (.setIntent intent) fun
    | .ok => saveClaim intent
    | _ => .pure (.error .record)

theorem saveIntent_eq (intent : FygaroCheckoutIntent) (ttlSeconds : Nat) :
    saveIntent intent ttlSeconds =
      .call (.zadd ⟨intent.intentId, intent.amountCents, intent.createdAtMs + ttlSeconds * 1000⟩)
        fun
          | .ok => .call .expire fun _ => saveRecord intent
          | _ => .pure (.error .reservationWrite) := rfl

/-- The hold a call places: its intent and amount, scored by the lifetime of its link. -/
def placedHold (ttlSeconds : Nat) (args : AuthorizeTopupArgs) : FygaroReservation :=
  ⟨args.intentId, args.amountCents, args.nowMs + ttlSeconds * 1000⟩

/-- The allowance the gate leaves a request that read the holds `reservations`:
`remaining ?? 0`. -/
def allowanceLeft (args : AuthorizeTopupArgs) (settings : Option FygaroSettings)
    (priorCents : Nat) (reservations : List FygaroReservation) : Nat :=
  ((AuthorizeFigures.ofSettings settings args.level).dailyLimitCents.map fun l =>
    ((l : Int) - (priorCents + (reservations.map (·.amountCents)).sum)).toNat).getD 0

/-- A fresh authorisation: a link minted by this call, not one handed back. -/
def AuthorizeTopupResult.fresh : AuthorizeTopupResult → Bool
  | .authorized _ _ reused => !reused
  | .refused _ => false

/-! ### What each decision can do -/

section Decisions

variable (ttlSeconds : Nat) (args : AuthorizeTopupArgs)

theorem afterSettings_cases (s : Option FygaroSettings) :
    afterSettings ttlSeconds args s = authorizeAfterProbe ttlSeconds args s ∨
      ∃ refusal, afterSettings ttlSeconds args s = .pure (.refused refusal) := by
  unfold afterSettings
  split
  · exact .inr ⟨_, rfl⟩
  · exact .inl rfl
  · exact .inr ⟨_, rfl⟩
  · exact .inl rfl

/-- After the discount: the gate credits and the hold is reserved; or the gate refuses and the
account's own holds may hand a link back; or the call is refused. -/
theorem afterDiscount_cases (s : Option FygaroSettings) (p : Nat) (rs : List FygaroReservation)
    (d : Nat) :
    (∃ fees, evaluateCreditGate (authorizeGateInput s args
        (some (p + (rs.map (·.amountCents)).sum)) d) = .credit fees ∧
      afterDiscount ttlSeconds args s p rs d =
        reserveAndReread ttlSeconds args (.ofSettings s args.level) p (allowanceLeft args s p rs)) ∨
    (∃ reason l, evaluateCreditGate (authorizeGateInput s args
        (some (p + (rs.map (·.amountCents)).sum)) d) = .recordOnly reason ∧
      (AuthorizeFigures.ofSettings s args.level).dailyLimitCents = some l ∧
      afterDiscount ttlSeconds args s p rs d =
        refuseOpenCheckout (.ofSettings s args.level) rs args.amountCents l
          (allowanceLeft args s p rs) args.nowMs) ∨
    ∃ refusal, afterDiscount ttlSeconds args s p rs d = .pure (.refused refusal) := by
  unfold afterDiscount
  dsimp only
  split
  · exact .inl ⟨_, ‹_›, rfl⟩
  · rename_i reason hgate
    split
    · rename_i l hl
      split_ifs
      · exact .inr (.inl ⟨_, l, hgate, hl, rfl⟩)
      · exact .inr (.inr ⟨_, rfl⟩)
    · exact .inr (.inr ⟨_, rfl⟩)

/-- After the re-read: the fresh link, or — over the limit — the rollback of the hold. -/
theorem afterReread_cases (f : AuthorizeFigures) (p al : Nat) (co : FygaroCheckout)
    (after : Option (List FygaroReservation)) :
    afterReread args f p al co after = .pure (.authorized co ((al : Int) - args.amountCents) false) ∨
      ∃ l rs, f.dailyLimitCents = some l ∧ after = some rs ∧
        l < p + (rs.map (·.amountCents)).sum ∧
        afterReread args f p al co after =
          (releaseIntentReservation args.intentId args.amountCents).bind fun _ =>
            .pure (rolledBackRefusal args l p (rs.map (·.amountCents)).sum) := by
  unfold afterReread
  cases hl : f.dailyLimitCents with
  | none => exact .inl rfl
  | some l =>
      cases after with
      | none => exact .inl rfl
      | some rs =>
          dsimp only
          split_ifs with hover
          · exact .inr ⟨l, rs, rfl, rfl, hover, rfl⟩
          · exact .inl rfl

/-- **The re-read's check.**  A call that read the holds `rs` again and ended with an answer, under
a daily limit `l`, found its history and those holds within the limit. -/
theorem afterReread_within_limit {f : AuthorizeFigures} {l : Nat} (hl : f.dailyLimitCents = some l)
    {p al : Nat} {co : FygaroCheckout} {rs : List FygaroReservation} {v : AuthorizeTopupResult}
    (h : afterReread args f p al co (some rs) = .pure v) :
    p + (rs.map (·.amountCents)).sum ≤ l := by
  unfold afterReread at h
  rw [hl] at h
  dsimp only at h
  split_ifs at h with hover
  · cases h
  · omega

end Decisions

/-! ### The phases -/

/-- The points at which a call of `authorizeFygaroTopup` waits, each with what the call knows
there: the settings, the history, the holds read before the gate and the discount; on the way to
a fresh link, the allowance the gate left; and the reply it waits on, once it has it. -/
inductive AuthorizePhase where
  | start
  | settingsRead (settings : Option FygaroSettings)
  | historyRead (settings : Option FygaroSettings) (priorCents : Option Nat)
  | ranging (settings : Option FygaroSettings) (priorCents : Nat)
  | reservationsRead (settings : Option FygaroSettings) (priorCents : Nat)
      (reservations : Option (List FygaroReservation))
  | discountRead (settings : Option FygaroSettings) (priorCents : Nat)
      (reservations : List FygaroReservation) (flashFeeDiscountPercent : Nat)
  | intentRead (refusal : AuthorizeTopupResult) (remainingAllowanceCents : Nat)
      (intent : Option FygaroCheckoutIntent)
  | expiring (settings : Option FygaroSettings) (priorCents allowanceCents : Nat)
  | recording (settings : Option FygaroSettings) (priorCents allowanceCents : Nat)
  | claiming (settings : Option FygaroSettings) (priorCents allowanceCents : Nat)
  | saved (settings : Option FygaroSettings) (priorCents allowanceCents : Nat)
      (outcome : Except SaveIntentError Unit)
  | reranging (settings : Option FygaroSettings) (priorCents allowanceCents : Nat)
  | reread (settings : Option FygaroSettings) (priorCents allowanceCents : Nat)
      (after : Option (List FygaroReservation))
  | done (result : AuthorizeTopupResult)

namespace AuthorizePhase

variable (ttlSeconds : Nat) (args : AuthorizeTopupArgs)

/-- What remains of the call at a phase. -/
def result : AuthorizePhase → TopupProg AuthorizeTopupResult
  | start => authorizeFygaroTopup (some ttlSeconds) args
  | settingsRead s => afterSettings ttlSeconds args s
  | historyRead s po => afterHistory ttlSeconds args s po
  | ranging s p => rangeIndex.bind (afterReservations ttlSeconds args s p)
  | reservationsRead s p rso => afterReservations ttlSeconds args s p rso
  | discountRead s p rs d => afterDiscount ttlSeconds args s p rs d
  | intentRead refusal rem io => afterReoffer refusal rem args.nowMs io
  | expiring s p al =>
      (Prog.call .expire fun _ => saveRecord (freshIntent args (freshCheckout ttlSeconds args))).bind
        (afterSave ttlSeconds args (.ofSettings s args.level) p al)
  | recording s p al =>
      (saveRecord (freshIntent args (freshCheckout ttlSeconds args))).bind
        (afterSave ttlSeconds args (.ofSettings s args.level) p al)
  | claiming s p al =>
      (saveClaim (freshIntent args (freshCheckout ttlSeconds args))).bind
        (afterSave ttlSeconds args (.ofSettings s args.level) p al)
  | saved s p al e => afterSave ttlSeconds args (.ofSettings s args.level) p al e
  | reranging s p al =>
      rangeIndex.bind
        (afterReread args (.ofSettings s args.level) p al (freshCheckout ttlSeconds args))
  | reread s p al after =>
      afterReread args (.ofSettings s args.level) p al (freshCheckout ttlSeconds args) after
  | done v => .pure v

/-- The phase a reply leads to.  A phase whose program has ended gets no reply; it is kept. -/
def next : AuthorizePhase → TopupReply → AuthorizePhase
  | start, r => settingsRead r.settingsOf
  | settingsRead s, r => historyRead s r.grossOf
  | historyRead s (some p), .ok => ranging s p
  | historyRead s (some p), _ => reservationsRead s p none
  | ranging s p, r => reservationsRead s p r.reservationsOf
  | reservationsRead s p (some rs), r => discountRead s p rs r.discountOf
  | discountRead s p rs d, r =>
      -- the decision of `afterDiscount`: the hold's `ZADD`, or the read of a same-amount record
      match evaluateCreditGate (authorizeGateInput s args
          (some (p + (rs.map (·.amountCents)).sum)) d),
        (AuthorizeFigures.ofSettings s args.level).dailyLimitCents, r with
      | .credit _, _, .ok => expiring s p (allowanceLeft args s p rs)
      | .credit _, _, _ => saved s p (allowanceLeft args s p rs) (.error .reservationWrite)
      | .recordOnly _, some l, r =>
          intentRead (openCheckoutRefusal (.ofSettings s args.level) rs l (allowanceLeft args s p rs))
            (allowanceLeft args s p rs) r.intentOf
      | .recordOnly _, none, _ => discountRead s p rs d
  | expiring s p al, _ => recording s p al
  | recording s p al, .ok => claiming s p al
  | recording s p al, _ => saved s p al (.error .record)
  | claiming s p al, _ => saved s p al (.ok ())
  | saved s p al _, .ok => reranging s p al
  | saved s p al _, _ => reread s p al none
  | reranging s p al, r => reread s p al r.reservationsOf
  | reread s p al after, _ =>
      match (AuthorizeFigures.ofSettings s args.level).dailyLimitCents, after with
      | some l, some rs => done (rolledBackRefusal args l p (rs.map (·.amountCents)).sum)
      | _, _ => reread s p al after
  | ph, _ => ph

/-- **The phases describe the call.**  At every phase where the call waits on an operation, the
reply continues it as the program of the phase that reply leads to. -/
theorem follows : Follows (result ttlSeconds args) (next args) := by
  intro ph op k h r
  cases ph with
  | start =>
      rw [result, authorizeFygaroTopup, getFygaroSettings_eq, Prog.call_bind] at h
      obtain ⟨rfl, rfl⟩ := Prog.call.inj h
      rfl
  | settingsRead s =>
      obtain heq | ⟨refusal, heq⟩ := afterSettings_cases ttlSeconds args s
      · rw [result, heq, authorizeAfterProbe, sumFygaroTopupGrossCentsLast24h_eq,
          Prog.call_bind] at h
        obtain ⟨rfl, rfl⟩ := Prog.call.inj h
        rfl
      · rw [result, heq] at h
        cases h
  | historyRead s po =>
      cases po with
      | none => cases h
      | some p =>
          rw [result, afterHistory, readOutstandingReservations_eq, Prog.call_bind] at h
          obtain ⟨rfl, rfl⟩ := Prog.call.inj h
          cases r <;> rfl
  | ranging s p =>
      rw [result, rangeIndex_eq, Prog.call_bind] at h
      obtain ⟨rfl, rfl⟩ := Prog.call.inj h
      rfl
  | reservationsRead s p rso =>
      cases rso with
      | none => cases h
      | some rs =>
          rw [result, afterReservations, authorizeAgainstSpent, getFlashFeeDiscountPercent_eq,
            Prog.call_bind] at h
          obtain ⟨rfl, rfl⟩ := Prog.call.inj h
          rfl
  | discountRead s p rs d =>
      obtain ⟨fees, hgate, heq⟩ | ⟨reason, l, hgate, hl, heq⟩ | ⟨refusal, heq⟩ :=
        afterDiscount_cases ttlSeconds args s p rs d
      · rw [result, heq, reserveAndReread, saveIntent_eq, Prog.call_bind] at h
        obtain ⟨rfl, rfl⟩ := Prog.call.inj h
        cases r <;> simp only [next, hgate] <;> rfl
      · rw [result, heq, refuseOpenCheckout] at h
        split at h
        · cases h
        · rw [readIntent_eq, Prog.call_bind] at h
          obtain ⟨rfl, rfl⟩ := Prog.call.inj h
          simp only [next, hgate, hl]
          rfl
      · rw [result, heq] at h
        cases h
  | intentRead refusal rem io =>
      rw [result, afterReoffer.eq_def] at h
      split at h
      · split at h <;> cases h
      · cases h
  | expiring s p al =>
      rw [result, Prog.call_bind] at h
      obtain ⟨rfl, rfl⟩ := Prog.call.inj h
      rfl
  | recording s p al =>
      rw [result, saveRecord, Prog.call_bind] at h
      obtain ⟨rfl, rfl⟩ := Prog.call.inj h
      cases r <;> rfl
  | claiming s p al =>
      rw [result, saveClaim, Prog.call_bind] at h
      obtain ⟨rfl, rfl⟩ := Prog.call.inj h
      rfl
  | saved s p al e =>
      -- a hold that could not be written ends the call; otherwise the re-read's prune
      by_cases he : e = .error .reservationWrite
      · subst he
        cases h
      · rw [result, afterSave.eq_2 _ _ _ _ _ _ he, readOutstandingReservations_eq,
          Prog.call_bind] at h
        obtain ⟨rfl, rfl⟩ := Prog.call.inj h
        cases r <;> rfl
  | reranging s p al =>
      rw [result, rangeIndex_eq, Prog.call_bind] at h
      obtain ⟨rfl, rfl⟩ := Prog.call.inj h
      rfl
  | reread s p al after =>
      obtain heq | ⟨l, rs, hl, rfl, -, heq⟩ := afterReread_cases args _ p al _ after
      · rw [result, heq] at h
        cases h
      · rw [result, heq, releaseIntentReservation, Prog.call_bind] at h
        obtain ⟨rfl, rfl⟩ := Prog.call.inj h
        simp only [next, hl]
        rfl
  | done v => cases h

/-- **Where a call answers with a fresh link.**  Only the re-read that passed its check mints
one; a phase that merely carries an answer carries one it was given. -/
theorem fresh_of_pure {ph : AuthorizePhase} {v : AuthorizeTopupResult}
    (h : result ttlSeconds args ph = .pure v) (hv : v.fresh = true) :
    (∃ s p al after, ph = reread s p al after) ∨ ph = done v ∨
      ∃ rem io, ph = intentRead v rem io := by
  cases ph with
  | start => cases h
  | settingsRead s =>
      obtain heq | ⟨refusal, heq⟩ := afterSettings_cases ttlSeconds args s
      · rw [result, heq, authorizeAfterProbe, sumFygaroTopupGrossCentsLast24h_eq,
          Prog.call_bind] at h
        cases h
      · rw [result, heq] at h
        cases h
        cases hv
  | historyRead s po =>
      cases po with
      | none => cases h; cases hv
      | some p => cases h
  | ranging s p => cases h
  | reservationsRead s p rso =>
      cases rso with
      | none => cases h; cases hv
      | some rs => cases h
  | discountRead s p rs d =>
      obtain ⟨fees, -, heq⟩ | ⟨reason, l, -, -, heq⟩ | ⟨refusal, heq⟩ :=
        afterDiscount_cases ttlSeconds args s p rs d
      · rw [result, heq] at h
        cases h
      · rw [result, heq, refuseOpenCheckout] at h
        split at h
        · cases h
          cases hv
        · cases h
      · rw [result, heq] at h
        cases h
        cases hv
  | intentRead refusal rem io =>
      -- a link handed back is no fresh one: what is fresh here is the refusal carried along
      rw [result, afterReoffer.eq_def] at h
      split at h
      · split at h
        · cases h
          cases hv
        · cases h
          exact .inr (.inr ⟨rem, _, rfl⟩)
      · cases h
        exact .inr (.inr ⟨rem, _, rfl⟩)
  | expiring s p al => cases h
  | recording s p al => cases h
  | claiming s p al => cases h
  | saved s p al e =>
      by_cases he : e = .error .reservationWrite
      · subst he
        cases h
        cases hv
      · rw [result, afterSave.eq_2 _ _ _ _ _ _ he, readOutstandingReservations_eq,
          Prog.call_bind] at h
        cases h
  | reranging s p al => cases h
  | reread s p al after => exact .inl ⟨s, p, al, after, rfl⟩
  | done v' =>
      cases h
      exact .inr (.inl rfl)

end AuthorizePhase

/-! ### What a call touches -/

/-- The operations a call of `args` may issue on the index and the rows: the `ZADD` and `ZREM`
of its own hold, the prune at its own time, and no upsert of a row. -/
def TopupOp.OwnIndexOp (args : AuthorizeTopupArgs) : TopupOp → Prop
  | .zadd e => e.intentId = args.intentId
  | .zrem m => m.2 = args.intentId
  | .zremrangebyscore maxMs => maxMs = args.nowMs
  | .upsertBridgeTransferRequest _ _ => False
  | _ => True

section OwnIndex

variable (ttlSeconds : Nat) (args : AuthorizeTopupArgs)

theorem readOutstandingReservations_ownIndex :
    Always (TopupOp.OwnIndexOp args) (readOutstandingReservations args.nowMs) := by
  rw [readOutstandingReservations_eq]
  refine .call rfl fun r => ?_
  split
  · rw [rangeIndex_eq]
    exact .call trivial fun _ => .pure _
  · exact .pure _

theorem afterReread_ownIndex (f : AuthorizeFigures) (p al : Nat) (co : FygaroCheckout)
    (after : Option (List FygaroReservation)) :
    Always (TopupOp.OwnIndexOp args) (afterReread args f p al co after) := by
  obtain heq | ⟨l, rs, _, _, _, heq⟩ := afterReread_cases args f p al co after
  · rw [heq]
    exact .pure _
  · rw [heq]
    refine Always.bind ?_ fun _ => .pure _
    exact .call rfl fun _ => .pure ()

theorem afterSave_ownIndex (f : AuthorizeFigures) (p al : Nat) (e : Except SaveIntentError Unit) :
    Always (TopupOp.OwnIndexOp args) (afterSave ttlSeconds args f p al e) := by
  by_cases he : e = .error .reservationWrite
  · subst he
    exact .pure _
  · rw [afterSave.eq_2 _ _ _ _ _ _ he]
    exact (readOutstandingReservations_ownIndex args).bind fun after =>
      afterReread_ownIndex args f p al _ after

theorem saveRecord_ownIndex (intent : FygaroCheckoutIntent) :
    Always (TopupOp.OwnIndexOp args) (saveRecord intent) := by
  refine .call trivial fun r => ?_
  split
  · exact .call trivial fun _ => .pure _
  · exact .pure _

theorem reserveAndReread_ownIndex (f : AuthorizeFigures) (p al : Nat) :
    Always (TopupOp.OwnIndexOp args) (reserveAndReread ttlSeconds args f p al) := by
  rw [reserveAndReread, saveIntent_eq]
  refine Always.bind (.call rfl fun r => ?_) (afterSave_ownIndex ttlSeconds args f p al)
  split
  · exact .call trivial fun _ => saveRecord_ownIndex args _
  · exact .pure _

theorem refuseOpenCheckout_ownIndex (f : AuthorizeFigures) (rs : List FygaroReservation)
    (amountCents l al nowMs : Nat) :
    Always (TopupOp.OwnIndexOp args) (refuseOpenCheckout f rs amountCents l al nowMs) := by
  unfold refuseOpenCheckout
  split
  · exact .pure _
  · rw [readIntent_eq]
    refine (Always.call trivial fun _ => .pure _).bind fun io => ?_
    rw [afterReoffer.eq_def]
    split
    · split <;> exact .pure _
    · exact .pure _

theorem afterDiscount_ownIndex (s : Option FygaroSettings) (p : Nat)
    (rs : List FygaroReservation) (d : Nat) :
    Always (TopupOp.OwnIndexOp args) (afterDiscount ttlSeconds args s p rs d) := by
  obtain ⟨_, _, heq⟩ | ⟨_, _, _, _, heq⟩ | ⟨_, heq⟩ := afterDiscount_cases ttlSeconds args s p rs d
  · rw [heq]
    exact reserveAndReread_ownIndex ttlSeconds args _ p _
  · rw [heq]
    exact refuseOpenCheckout_ownIndex args _ rs _ _ _ _
  · rw [heq]
    exact .pure _

theorem afterReservations_ownIndex (s : Option FygaroSettings) (p : Nat)
    (rso : Option (List FygaroReservation)) :
    Always (TopupOp.OwnIndexOp args) (afterReservations ttlSeconds args s p rso) := by
  cases rso with
  | none => exact .pure _
  | some rs =>
      rw [afterReservations, authorizeAgainstSpent, getFlashFeeDiscountPercent_eq]
      exact (Always.call trivial fun _ => .pure _).bind (afterDiscount_ownIndex ttlSeconds args s p rs)

theorem afterHistory_ownIndex (s : Option FygaroSettings) (po : Option Nat) :
    Always (TopupOp.OwnIndexOp args) (afterHistory ttlSeconds args s po) := by
  cases po with
  | none => exact .pure _
  | some p =>
      exact (readOutstandingReservations_ownIndex args).bind
        (afterReservations_ownIndex ttlSeconds args s p)

theorem afterSettings_ownIndex (s : Option FygaroSettings) :
    Always (TopupOp.OwnIndexOp args) (afterSettings ttlSeconds args s) := by
  obtain heq | ⟨_, heq⟩ := afterSettings_cases ttlSeconds args s
  · rw [heq, authorizeAfterProbe, sumFygaroTopupGrossCentsLast24h_eq]
    exact (Always.call trivial fun _ => .pure _).bind (afterHistory_ownIndex ttlSeconds args s)
  · rw [heq]
    exact .pure _

/-- **A call touches only its own hold.**  Of the index, a call of `authorizeFygaroTopup` writes
and removes only the member of its own intent, and prunes only what expired by its time; it
writes no row. -/
theorem authorizeFygaroTopup_ownIndex :
    Always (TopupOp.OwnIndexOp args) (authorizeFygaroTopup (some ttlSeconds) args) := by
  rw [authorizeFygaroTopup, getFygaroSettings_eq]
  exact (Always.call trivial fun _ => .pure _).bind (afterSettings_ownIndex ttlSeconds args)

/-- What remains of a call at any phase touches only its own hold. -/
theorem AuthorizePhase.result_ownIndex (ph : AuthorizePhase) :
    Always (TopupOp.OwnIndexOp args) (AuthorizePhase.result ttlSeconds args ph) := by
  cases ph with
  | start => exact authorizeFygaroTopup_ownIndex ttlSeconds args
  | settingsRead s => exact afterSettings_ownIndex ttlSeconds args s
  | historyRead s po => exact afterHistory_ownIndex ttlSeconds args s po
  | ranging s p =>
      rw [AuthorizePhase.result, rangeIndex_eq]
      exact (Always.call trivial fun _ => .pure _).bind (afterReservations_ownIndex ttlSeconds args s p)
  | reservationsRead s p rso => exact afterReservations_ownIndex ttlSeconds args s p rso
  | discountRead s p rs d => exact afterDiscount_ownIndex ttlSeconds args s p rs d
  | intentRead refusal rem io =>
      rw [AuthorizePhase.result, afterReoffer.eq_def]
      split
      · split <;> exact .pure _
      · exact .pure _
  | expiring s p al =>
      exact (Always.call trivial fun _ => saveRecord_ownIndex args _).bind
        (afterSave_ownIndex ttlSeconds args _ p al)
  | recording s p al =>
      exact (saveRecord_ownIndex args _).bind (afterSave_ownIndex ttlSeconds args _ p al)
  | claiming s p al =>
      exact (Always.call trivial fun _ => .pure _).bind (afterSave_ownIndex ttlSeconds args _ p al)
  | saved s p al e => exact afterSave_ownIndex ttlSeconds args _ p al e
  | reranging s p al =>
      rw [AuthorizePhase.result, rangeIndex_eq]
      exact (Always.call trivial fun _ => .pure _).bind (afterReread_ownIndex args _ p al _)
  | reread s p al after => exact afterReread_ownIndex args _ p al _ after
  | done v => exact .pure _

theorem handOutAuthorized_ownIndex (v : AuthorizeTopupResult) :
    Always (TopupOp.OwnIndexOp args) (handOutAuthorized v) := by
  cases v with
  | authorized co rem reused => exact .call trivial fun _ => .pure _
  | refused refusal => exact .pure _

end OwnIndex

/-! ### A client's request -/

/-- The hand-out of an answer, with whether the link has been handed out yet. -/
def handOutResult : AuthorizeTopupResult × Bool → TopupProg Unit
  | (v, false) => handOutAuthorized v
  | (_, true) => .pure ()

def handOutNext : AuthorizeTopupResult × Bool → TopupReply → AuthorizeTopupResult × Bool
  | (v, _), _ => (v, true)

theorem handOut_follows : Follows handOutResult handOutNext := by
  rintro ⟨v, _ | _⟩ op k h r
  · cases v with
    | authorized co rem reused =>
        obtain ⟨rfl, rfl⟩ := Prog.call.inj h
        rfl
    | refused refusal => cases h
  · cases h

/-- The phases of a client's request: the authorisation's, then its answer with whether the
link was handed out. -/
abbrev CheckoutPhase := AuthorizePhase ⊕ (AuthorizeTopupResult × Bool)

namespace CheckoutPhase

variable (ttlSeconds : Nat) (args : AuthorizeTopupArgs)

/-- What remains of the request at a phase. -/
def result : CheckoutPhase → TopupProg Unit :=
  bindResult (AuthorizePhase.result ttlSeconds args) handOutAuthorized handOutResult

def next : CheckoutPhase → TopupReply → CheckoutPhase :=
  bindNext (AuthorizePhase.result ttlSeconds args) (AuthorizePhase.next args) handOutNext
    fun v => (v, false)

theorem follows : Follows (result ttlSeconds args) (next ttlSeconds args) :=
  Follows.bind (AuthorizePhase.follows ttlSeconds args) handOut_follows fun _ => rfl

theorem result_start : result ttlSeconds args (.inl .start) = checkoutRequest (some ttlSeconds) args :=
  rfl

/-- What remains of a request at any phase touches only its own hold. -/
theorem result_ownIndex : ∀ ph, Always (TopupOp.OwnIndexOp args) (result ttlSeconds args ph)
  | .inl ph =>
      (AuthorizePhase.result_ownIndex ttlSeconds args ph).bind (handOutAuthorized_ownIndex args)
  | .inr (v, false) => handOutAuthorized_ownIndex args v
  | .inr (_, true) => .pure _

/-- The answer the call has given at a phase, once it has. -/
def answer : CheckoutPhase → Option AuthorizeTopupResult
  | .inl ph => (AuthorizePhase.result ttlSeconds args ph).feed []
  | .inr (v, _) => some v

/-- A call that has answered keeps its answer. -/
theorem answer_next {ph : CheckoutPhase} {v : AuthorizeTopupResult}
    (h : answer ttlSeconds args ph = some v) (r : TopupReply) :
    answer ttlSeconds args (next ttlSeconds args ph r) = some v := by
  rcases ph with ph | ⟨v', b⟩
  · cases hp : AuthorizePhase.result ttlSeconds args ph with
    | pure v' =>
        rw [answer, hp] at h
        cases h
        simp only [next, bindNext, hp, handOutNext, answer]
    | call op k =>
        rw [answer, hp] at h
        cases h
  · cases h
    rfl

theorem answer_after {ph : CheckoutPhase} {v : AuthorizeTopupResult}
    (h : answer ttlSeconds args ph = some v) :
    ∀ rs, answer ttlSeconds args (after (next ttlSeconds args) ph rs) = some v := by
  intro rs
  induction rs generalizing ph with
  | nil => exact h
  | cons r rs ih => exact ih (answer_next ttlSeconds args h r)

/-- **A call that has answered keeps its answer.**  When the replies `pre` to a request end its
authorisation with `v`, every later phase of the request has answered `v`. -/
theorem answer_after_feed {pre : List TopupReply} {v : AuthorizeTopupResult}
    (h : (authorizeFygaroTopup (some ttlSeconds) args).feed pre = some v) (rest : List TopupReply) :
    answer ttlSeconds args (after (next ttlSeconds args) (.inl .start) (pre ++ rest)) = some v := by
  have hend := (AuthorizePhase.follows ttlSeconds args).feed_eq pre .start h
  have hpre : after (next ttlSeconds args) (.inl .start) pre =
      .inl (after (AuthorizePhase.next args) .start pre) :=
    after_bindNext_inl (AuthorizePhase.follows ttlSeconds args) pre .start h
  rw [after_append, hpre]
  refine answer_after ttlSeconds args ?_ rest
  simp only [answer, hend]
  rfl

end CheckoutPhase

end Fygaro
