import Mathlib
import Flash.Fygaro.AuthorizePhases
import Flash.Fygaro.Webhook
import Flash.Support.Pool

/-!
# Fygaro — the daily allowance across concurrent authorisations

`authorizeFygaroTopup` reserves before it hands a link out: a request the gate passes writes its
hold into the account's index and reads the index again, and backs out when the history and the
holds it finds there exceed the daily limit.  Its comment says what this is for: two requests
that raced past the check both see each other's hold, so the allowance is never over-issued.

This module runs checkout requests of one account as threads of a `Pool`, in any interleaving
and with any outcome the world allows each call, and proves what the protocol guarantees:

* `fresh_authorizations_within_daily_limit`: when every prune and read of the index succeeds,
  the links the calls mint themselves, taken together with the account's history and the holds
  it already had, stay within the daily limit of its level, however the calls interleave.

The links a call hands *back* (`reused`) are not covered, and neither is a call whose re-read
fails, for a reason: a hold rolled back by one request is handed out by another
(`rolled_back_hold_handed_out_again`), and a re-read that fails skips the check
(`failed_reread_skips_daily_limit`); either way more than the daily limit is handed out.
-/

namespace Fygaro

open Threads

/-- A pool of checkout requests and deliveries against one account. -/
abbrev TopupPool := Pool TopupWorld TopupOp TopupReply

/-! ### A deployment whose index reads succeed -/

/-- The operations that leave the index as it is. -/
def TopupOp.keepsIndex : TopupOp → Bool
  | .zadd _ | .zrem _ | .zremrangebyscore _ => false
  | _ => true

namespace TopupWorld

/-- The world's answers when the prune and the read of the reservation index never fail. -/
def answerIndexReadsReliable (w : TopupWorld) : TopupOp → TopupReply → Option TopupWorld
  | .zremrangebyscore _, .failed _ => none
  | .zrange, .failed _ => none
  | op, r => w.answer op r

variable {w w' : TopupWorld} {op : TopupOp} {r : TopupReply}

theorem answer_of_answerIndexReadsReliable (h : w.answerIndexReadsReliable op r = some w') :
    w.answer op r = some w' := by
  unfold answerIndexReadsReliable at h
  split at h
  · cases h
  · cases h
  · exact h

/-- A prune that succeeds replies `OK`. -/
theorem reply_of_reliable_zremrangebyscore {maxMs : Nat}
    (h : w.answerIndexReadsReliable (.zremrangebyscore maxMs) r = some w') : r = .ok := by
  cases r with
  | ok => rfl
  | failed landed => cases h
  | _ => cases h

/-- A read of the index that succeeds returns the index. -/
theorem reply_of_reliable_zrange (h : w.answerIndexReadsReliable .zrange r = some w') :
    w' = w ∧ r = .reservations w.index := by
  have hr : w.read (.reservations w.index) r = some w' := answer_of_answerIndexReadsReliable h
  refine ⟨read_eq_some hr, ?_⟩
  unfold read at hr
  split_ifs at hr with hv
  rcases hv with hv | rfl
  · exact hv
  · cases h

/-! ### What an operation does to the index and the rows -/

/-- Every operation leaves the index as it was, or is a `ZADD`, a `ZREM` or a prune that changed
it as those commands do. -/
theorem answer_index_cases (h : w.answer op r = some w') :
    w'.index = w.index ∨ (∃ e, op = .zadd e ∧ w'.index = zadd w.index e) ∨
      (∃ m, op = .zrem m ∧ w'.index = zrem w.index m) ∨
      (∃ maxMs, op = .zremrangebyscore maxMs ∧ w'.index = zremrangebyscore w.index maxMs) := by
  rcases answer_eq_some h with rfl | rfl
  · exact .inl rfl
  · exact effect_index_cases w op

/-- Every operation leaves the rows as they were, or is an upsert. -/
theorem answer_rows_cases (h : w.answer op r = some w') :
    w'.rows = w.rows ∨ ∃ wr nowMs, op = .upsertBridgeTransferRequest wr nowMs := by
  rcases answer_eq_some h with rfl | rfl
  · exact .inl rfl
  · rcases effect_rows_cases w op with hrows | ⟨wr, nowMs, hop, -⟩
    · exact .inl hrows
    · exact .inr ⟨wr, nowMs, hop⟩

theorem answer_index_of_keepsIndex (hop : op.keepsIndex = true) (h : w.answer op r = some w') :
    w'.index = w.index := by
  rcases answer_index_cases h with hidx | ⟨e, rfl, -⟩ | ⟨m, rfl, -⟩ | ⟨maxMs, rfl, -⟩
  · exact hidx
  all_goals cases hop

theorem mem_zadd_of_ne {index : List FygaroReservation} {x e : FygaroReservation}
    (hx : x ∈ index) (hid : x.intentId ≠ e.intentId) : x ∈ zadd index e := by
  simp only [zadd, List.mem_orderedInsert, List.mem_filter, FygaroReservation.member]
  exact .inr ⟨hx, by simp [hid]⟩

/-- **The frame of a call.**  An operation of the call `args` keeps every member of the index
that is not of its intent and has not expired by its time. -/
theorem answer_index_frame {args : AuthorizeTopupArgs} (hop : op.OwnIndexOp args)
    (h : w.answer op r = some w') {x : FygaroReservation} (hx : x ∈ w.index)
    (hid : x.intentId ≠ args.intentId) (hexp : args.nowMs < x.expiresAtMs) : x ∈ w'.index := by
  rcases answer_index_cases h with hidx | ⟨e, rfl, hidx⟩ | ⟨m, rfl, hidx⟩ | ⟨maxMs, rfl, hidx⟩ <;>
    rw [hidx]
  · exact hx
  · exact mem_zadd_of_ne hx (hop ▸ hid)
  · have hm : m.2 = args.intentId := hop
    simp only [zrem, List.mem_filter, FygaroReservation.member]
    refine ⟨hx, ?_⟩
    obtain ⟨amount, id⟩ := m
    simp_all
  · have hmax : maxMs = args.nowMs := hop
    simp only [zremrangebyscore, List.mem_filter]
    exact ⟨hx, by simp [hmax, hexp]⟩

theorem answer_rows_of_ownIndex {args : AuthorizeTopupArgs} (hop : op.OwnIndexOp args)
    (h : w.answer op r = some w') : w'.rows = w.rows := by
  rcases answer_rows_cases h with hrows | ⟨wr, nowMs, rfl⟩
  · exact hrows
  · exact hop.elim

/-- A `ZADD` that succeeds puts its member in the index. -/
theorem mem_of_answer_zadd {e : FygaroReservation} (h : w.answer (.zadd e) .ok = some w') :
    e ∈ w'.index := by
  cases h
  simp [zadd, List.mem_orderedInsert]

/-- A prune keeps the members that outlive it. -/
theorem mem_of_answer_zremrangebyscore {maxMs : Nat} {x : FygaroReservation}
    (h : w.answer (.zremrangebyscore maxMs) r = some w') (hx : x ∈ w.index)
    (hexp : maxMs < x.expiresAtMs) : x ∈ w'.index := by
  rcases answer_index_cases h with hidx | ⟨e, he, -⟩ | ⟨m, hm, -⟩ | ⟨maxMs', hmax, hidx⟩
  · exact hidx ▸ hx
  · cases he
  · cases hm
  · cases hmax
    rw [hidx]
    simp only [zremrangebyscore, List.mem_filter]
    exact ⟨hx, by simp [hexp]⟩

/-- The settings read are the world's, or none. -/
theorem answer_getFygaroSettings (h : w.answer .getFygaroSettings r = some w') :
    w' = w ∧ ∀ S ∈ r.settingsOf, S = w.settings := by
  cases r with
  | settings v =>
      simp only [answer] at h
      split_ifs at h with hv
      cases h
      refine ⟨rfl, fun S hS => ?_⟩
      rcases hv with rfl | rfl
      · simpa [TopupReply.settingsOf] using hS.symm
      · simp [TopupReply.settingsOf] at hS
  | _ => cases h

/-- The history read is the world's, or none. -/
theorem answer_sumFygaroTopupGrossCentsSince {sinceMs : Nat} {ex : Option TransactionId}
    (h : w.answer (.sumFygaroTopupGrossCentsSince sinceMs ex) r = some w') :
    w' = w ∧ ∀ p ∈ r.grossOf, p = sumFygaroTopupGrossCentsSince w.rows sinceMs ex := by
  have hr : w.read (.grossCents (sumFygaroTopupGrossCentsSince w.rows sinceMs ex)) r = some w' := h
  refine ⟨read_eq_some hr, fun p hp => ?_⟩
  unfold read at hr
  split_ifs at hr with hv
  rcases hv with rfl | rfl
  · simpa [TopupReply.grossOf] using hp.symm
  · simp [TopupReply.grossOf] at hp

end TopupWorld

/-! ### What a call knows

A call's phase records what it read.  In a run against settings `S₀` and a history of `prior₀`
it read those or nothing; past the gate, the settings set a daily limit for its level; and from
its `ZADD` until it rolls back, its hold is in the index — `held`, in what follows. -/

/-- The trailing-24h gross a call at `nowMs` reads off the rows of `w`. -/
def priorDayGross (w : TopupWorld) (nowMs : Nat) : Nat :=
  sumFygaroTopupGrossCentsSince w.rows (nowMs - 24 * 60 * 60 * 1000) none

/-- Members of no amount add nothing: the holds the read of the index keeps sum to the index's. -/
theorem sum_filter_positive (l : List FygaroReservation) :
    ((l.filter (0 < ·.amountCents)).map (·.amountCents)).sum = (l.map (·.amountCents)).sum := by
  induction l with
  | nil => rfl
  | cons x l ih =>
      by_cases hx : 0 < x.amountCents
      · simp [hx, ih]
      · simp [hx, ih]
        omega

/-- A call past the gate: it read the settings `S₀` and the history `prior₀`, and the settings
set a daily limit for its level. -/
def Gated (S₀ : FygaroSettings) (prior₀ level : Nat) (s : Option FygaroSettings) (p : Nat) : Prop :=
  s = some S₀ ∧ p = prior₀ ∧ ∃ l, S₀.dailyTopupLimits.lookup level = some l

theorem gated_of_credit {S₀ : FygaroSettings} {prior₀ : Nat} {a : AuthorizeTopupArgs}
    {s : Option FygaroSettings} {p : Nat} {rs : List FygaroReservation} {d : Nat} {fees : FygaroFees}
    (hs : ∀ S ∈ s, S = S₀) (hp : p = prior₀)
    (hgate : evaluateCreditGate (authorizeGateInput s a
      (some (p + (rs.map (·.amountCents)).sum)) d) = .credit fees) :
    Gated S₀ prior₀ a.level s p := by
  obtain ⟨settings, dailyLimit, -, hb, -, -⟩ := evaluateCreditGate_eq_credit_iff.mp hgate
  obtain ⟨hset, hl⟩ := CreditGateInput.beforeHistory_eq_ok hb
  obtain rfl : settings = S₀ := hs settings hset
  exact ⟨hset, hp, dailyLimit, hl⟩

namespace AuthorizePhase

/-- What a call knows at a phase. -/
def Known (S₀ : FygaroSettings) (prior₀ level : Nat) (held : Prop) : AuthorizePhase → Prop
  | start => True
  | settingsRead s => ∀ S ∈ s, S = S₀
  | historyRead s po => (∀ S ∈ s, S = S₀) ∧ ∀ p ∈ po, p = prior₀
  | ranging s p | reservationsRead s p _ | discountRead s p _ _ => (∀ S ∈ s, S = S₀) ∧ p = prior₀
  | intentRead v _ _ => v.fresh = false
  | expiring s p _ | recording s p _ | claiming s p _ | reranging s p _ | reread s p _ _ =>
      Gated S₀ prior₀ level s p ∧ held
  | saved s p _ e => Gated S₀ prior₀ level s p ∧ (e ≠ .error .reservationWrite → held)
  | done v => v.fresh = false

theorem Known.mono {S₀ : FygaroSettings} {prior₀ level : Nat} {held held' : Prop}
    (hh : held → held') {ph : AuthorizePhase} (hk : ph.Known S₀ prior₀ level held) :
    ph.Known S₀ prior₀ level held' := by
  cases ph with
  | expiring => exact ⟨hk.1, hh hk.2⟩
  | recording => exact ⟨hk.1, hh hk.2⟩
  | claiming => exact ⟨hk.1, hh hk.2⟩
  | reranging => exact ⟨hk.1, hh hk.2⟩
  | reread => exact ⟨hk.1, hh hk.2⟩
  | saved => exact ⟨hk.1, fun he => hh (hk.2 he)⟩
  | _ => exact hk

section Step

variable {ttl : Nat} {a : AuthorizeTopupArgs} {S₀ : FygaroSettings} {prior₀ : Nat} {held : Prop}
  {w w' : TopupWorld} {op : TopupOp} {k : TopupReply → TopupProg AuthorizeTopupResult}
  {r : TopupReply}

/-- The step at the gate: past it the call is gated, and holds its hold once its `ZADD`
succeeded; short of it, the refusal a same-amount record may be handed back for is no fresh
link. -/
theorem Known.step_discountRead {s : Option FygaroSettings} {p : Nat}
    {rs : List FygaroReservation} {d : Nat}
    (hk : (discountRead s p rs d).Known S₀ prior₀ a.level held)
    (hcall : result ttl a (discountRead s p rs d) = .call op k) (hans : w.answer op r = some w') :
    (next a (discountRead s p rs d) r).Known S₀ prior₀ a.level (placedHold ttl a ∈ w'.index) := by
  obtain ⟨fees, hgate, heq⟩ | ⟨reason, l, hgate, hl, heq⟩ | ⟨refusal, heq⟩ :=
    afterDiscount_cases ttl a s p rs d
  · rw [result, heq, reserveAndReread, saveIntent_eq, Prog.call_bind] at hcall
    obtain ⟨rfl, -⟩ := Prog.call.inj hcall
    have hgated := gated_of_credit hk.1 hk.2 hgate
    by_cases hr : r = .ok
    · subst hr
      simp only [next, hgate]
      exact ⟨hgated, TopupWorld.mem_of_answer_zadd hans⟩
    · -- a `ZADD` that failed ends the call, whether or not it landed
      cases r <;> first
        | exact absurd rfl hr
        | (simp only [next, hgate]; exact ⟨hgated, fun h => absurd rfl h⟩)
  · rw [result, heq, refuseOpenCheckout] at hcall
    split at hcall
    · cases hcall
    · simp only [next, hgate, hl]
      rfl
  · rw [result, heq] at hcall
    cases hcall

/-- **What a step teaches a call.**  A call that waits on an operation and gets a reply the world
allows knows, at the phase it moves to, what it knew and what it read, and holds its hold from
its `ZADD` on. -/
theorem Known.step (httl : 0 < ttl) (hS : w.settings = S₀) (hP : priorDayGross w a.nowMs = prior₀)
    {ph : AuthorizePhase} (hk : ph.Known S₀ prior₀ a.level (placedHold ttl a ∈ w.index))
    (hcall : result ttl a ph = .call op k) (hans : w.answerIndexReadsReliable op r = some w') :
    (next a ph r).Known S₀ prior₀ a.level (placedHold ttl a ∈ w'.index) := by
  have hans' := TopupWorld.answer_of_answerIndexReadsReliable hans
  cases ph with
  | start =>
      rw [result, authorizeFygaroTopup, getFygaroSettings_eq, Prog.call_bind] at hcall
      obtain ⟨rfl, -⟩ := Prog.call.inj hcall
      exact hS ▸ (TopupWorld.answer_getFygaroSettings hans').2
  | settingsRead s =>
      obtain heq | ⟨_, heq⟩ := afterSettings_cases ttl a s
      · rw [result, heq, authorizeAfterProbe, sumFygaroTopupGrossCentsLast24h_eq,
          Prog.call_bind] at hcall
        obtain ⟨rfl, -⟩ := Prog.call.inj hcall
        have hp := (TopupWorld.answer_sumFygaroTopupGrossCentsSince hans').2
        exact ⟨hk, fun p hmem => (hp p hmem).trans hP⟩
      · rw [result, heq] at hcall
        cases hcall
  | historyRead s po =>
      cases po with
      | none => cases hcall
      | some p => cases r <;> exact ⟨hk.1, hk.2 p rfl⟩
  | ranging s p => exact hk
  | reservationsRead s p rso =>
      cases rso with
      | none => cases hcall
      | some rs => exact hk
  | discountRead s p rs d => exact Known.step_discountRead hk hcall hans'
  | intentRead v rem io =>
      rw [result, afterReoffer.eq_def] at hcall
      split at hcall
      · split at hcall <;> cases hcall
      · cases hcall
  | expiring s p al =>
      rw [result, Prog.call_bind] at hcall
      obtain ⟨rfl, -⟩ := Prog.call.inj hcall
      exact ⟨hk.1, TopupWorld.answer_index_of_keepsIndex rfl hans' ▸ hk.2⟩
  | recording s p al =>
      rw [result, saveRecord, Prog.call_bind] at hcall
      obtain ⟨rfl, -⟩ := Prog.call.inj hcall
      have hheld : placedHold ttl a ∈ w'.index :=
        TopupWorld.answer_index_of_keepsIndex rfl hans' ▸ hk.2
      cases r <;> first | exact ⟨hk.1, hheld⟩ | exact ⟨hk.1, fun _ => hheld⟩
  | claiming s p al =>
      rw [result, saveClaim, Prog.call_bind] at hcall
      obtain ⟨rfl, -⟩ := Prog.call.inj hcall
      exact ⟨hk.1, fun _ => TopupWorld.answer_index_of_keepsIndex rfl hans' ▸ hk.2⟩
  | saved s p al e =>
      by_cases he : e = .error .reservationWrite
      · subst he
        cases hcall
      · rw [result, afterSave.eq_2 _ _ _ _ _ _ he, readOutstandingReservations_eq,
          Prog.call_bind] at hcall
        obtain ⟨rfl, -⟩ := Prog.call.inj hcall
        obtain rfl := TopupWorld.reply_of_reliable_zremrangebyscore hans
        -- the call's own hold outlives the prune at its own time
        have hlive : a.nowMs < (placedHold ttl a).expiresAtMs := by
          simp only [placedHold]
          omega
        exact ⟨hk.1, TopupWorld.mem_of_answer_zremrangebyscore hans' (hk.2 he) hlive⟩
  | reranging s p al =>
      rw [result, rangeIndex_eq, Prog.call_bind] at hcall
      obtain ⟨rfl, -⟩ := Prog.call.inj hcall
      exact ⟨hk.1, TopupWorld.answer_index_of_keepsIndex rfl hans' ▸ hk.2⟩
  | reread s p al after =>
      obtain heq | ⟨l, rs, hl, rfl, -, heq⟩ := afterReread_cases a _ p al _ after
      · rw [result, heq] at hcall
        cases hcall
      · simp only [next, hl]
        rfl
  | done v => cases hcall

/-- **The only ways into the re-read.**  A step that leads a call to its re-read's phase is the
read of the index after the re-read's prune, or that prune when it failed. -/
theorem next_eq_reread {ph : AuthorizePhase} (hcall : result ttl a ph = .call op k)
    {s : Option FygaroSettings} {p al : Nat} {after : Option (List FygaroReservation)}
    (h : next a ph r = reread s p al after) :
    (ph = reranging s p al ∧ op = .zrange ∧ after = r.reservationsOf) ∨
      ((∃ e, ph = saved s p al e) ∧ op = .zremrangebyscore a.nowMs ∧ r ≠ .ok) := by
  cases ph with
  | historyRead s' po =>
      cases po with
      | none => cases h
      | some p' => cases r <;> cases h
  | reservationsRead s' p' rso =>
      cases rso with
      | none => cases h
      | some rs => cases h
  | discountRead s' p' rs d =>
      simp only [next] at h
      split at h <;> cases h
  | recording => cases r <;> cases h
  | saved s' p' al' e =>
      by_cases he : e = .error .reservationWrite
      · subst he
        cases hcall
      rw [result, afterSave.eq_2 _ _ _ _ _ _ he, readOutstandingReservations_eq,
        Prog.call_bind] at hcall
      obtain ⟨rfl, -⟩ := Prog.call.inj hcall
      by_cases hr : r = .ok
      · subst hr
        cases h
      · have hnext : next a (saved s' p' al' e) r = reread s' p' al' none := by
          cases r <;> first | exact absurd rfl hr | rfl
        rw [hnext] at h
        cases h
        exact .inr ⟨⟨e, rfl⟩, rfl, hr⟩
  | reranging s' p' al' =>
      rw [result, rangeIndex_eq, Prog.call_bind] at hcall
      obtain ⟨rfl, -⟩ := Prog.call.inj hcall
      cases h
      exact .inl ⟨rfl, rfl, rfl⟩
  | reread s' p' al' after' =>
      obtain heq | ⟨l, rs, hl, rfl, -, heq⟩ := afterReread_cases a _ p' al' _ after'
      · rw [result, heq] at hcall
        cases hcall
      · simp only [next, hl] at h
        cases h
  | _ => cases h

/-- **A fresh link is minted at the re-read.**  A step after which a call has answered with a
fresh link is the read of the index after its re-read's prune.  It leaves the world as it is, the
call's own hold is in the index it read, and that index, with the history, is within the daily
limit of the call's level. -/
theorem fresh_step (httl : 0 < ttl) (hS : w.settings = S₀) (hP : priorDayGross w a.nowMs = prior₀)
    {ph : AuthorizePhase} (hk : ph.Known S₀ prior₀ a.level (placedHold ttl a ∈ w.index))
    (hcall : result ttl a ph = .call op k) (hans : w.answerIndexReadsReliable op r = some w')
    {v : AuthorizeTopupResult} (hv : result ttl a (next a ph r) = .pure v)
    (hf : v.fresh = true) :
    w' = w ∧ placedHold ttl a ∈ w.index ∧ ∃ l, S₀.dailyTopupLimits.lookup a.level = some l ∧
      prior₀ + (w.index.map (·.amountCents)).sum ≤ l := by
  have hknext := Known.step httl hS hP hk hcall hans
  -- the phase reached answers fresh, so it is the re-read's: a carried answer is no fresh one
  obtain ⟨s, p, al, after, hreread⟩ : ∃ s p al after, next a ph r = reread s p al after := by
    rcases fresh_of_pure ttl a hv hf with hreread | hdone | ⟨rem, io, hint⟩
    · exact hreread
    · rw [hdone] at hknext
      exact absurd hknext (by simp [Known, hf])
    · rw [hint] at hknext
      exact absurd hknext (by simp [Known, hf])
  rcases next_eq_reread hcall hreread with ⟨rfl, rfl, hafter⟩ | ⟨-, rfl, hr⟩
  · obtain ⟨rfl, rfl⟩ := TopupWorld.reply_of_reliable_zrange hans
    obtain ⟨⟨rfl, rfl, l, hl⟩, hheld⟩ := hk
    have hlimit : (AuthorizeFigures.ofSettings (some S₀) a.level).dailyLimitCents = some l := by
      simp [AuthorizeFigures.ofSettings, hl]
    rw [hreread, result, hafter] at hv
    have hwithin := afterReread_within_limit a hlimit hv
    rw [sum_filter_positive] at hwithin
    exact ⟨rfl, hheld, l, hl, hwithin⟩
  · exact absurd (TopupWorld.reply_of_reliable_zremrangebyscore hans) hr

end Step

end AuthorizePhase

namespace CheckoutPhase

/-- What a request knows at a phase: what its call knows, and, once it has answered with a
fresh link, that its hold is in the index. -/
def Known (S₀ : FygaroSettings) (prior₀ level : Nat) (held : Prop) : CheckoutPhase → Prop
  | .inl ph => ph.Known S₀ prior₀ level held
  | .inr (v, _) => v.fresh = true → held

/-- The request's call has answered with a fresh link. -/
def FreshAt (ttlSeconds : Nat) (args : AuthorizeTopupArgs) (ph : CheckoutPhase) : Prop :=
  ∃ v, answer ttlSeconds args ph = some v ∧ v.fresh = true

section Step

variable {ttl : Nat} {a : AuthorizeTopupArgs} {S₀ : FygaroSettings} {prior₀ : Nat} {held : Prop}
  {w w' : TopupWorld} {op : TopupOp} {k : TopupReply → TopupProg Unit} {r : TopupReply}

theorem Known.mono {held' : Prop} (hh : held → held') {ph : CheckoutPhase}
    (hk : Known S₀ prior₀ a.level held ph) : Known S₀ prior₀ a.level held' ph := by
  rcases ph with ph | ⟨v, b⟩
  · exact AuthorizePhase.Known.mono hh hk
  · exact fun hf => hh (hk hf)

/-- A request whose call answered with a fresh link holds its hold. -/
theorem Known.held_of_fresh {ph : CheckoutPhase} (hk : Known S₀ prior₀ a.level held ph)
    (hfresh : FreshAt ttl a ph) : held := by
  obtain ⟨v, hv, hf⟩ := hfresh
  rcases ph with ph | ⟨v', b⟩
  · have hpure := Prog.eq_pure_of_feed_nil hv
    rcases AuthorizePhase.fresh_of_pure ttl a hpure hf with
      ⟨s, p, al, after, rfl⟩ | rfl | ⟨rem, io, rfl⟩
    · exact hk.2
    · exact absurd hk (by simp [Known, AuthorizePhase.Known, hf])
    · exact absurd hk (by simp [Known, AuthorizePhase.Known, hf])
  · cases hv
    exact hk hf

/-- **What a step teaches a request.**  The call's knowledge goes on with it; the hand-out of a
link leaves the index as it is. -/
theorem Known.step (httl : 0 < ttl) (hS : w.settings = S₀) (hP : priorDayGross w a.nowMs = prior₀)
    {ph : CheckoutPhase} (hk : Known S₀ prior₀ a.level (placedHold ttl a ∈ w.index) ph)
    (hcall : result ttl a ph = .call op k) (hans : w.answerIndexReadsReliable op r = some w') :
    Known S₀ prior₀ a.level (placedHold ttl a ∈ w'.index) (next ttl a ph r) := by
  have hans' := TopupWorld.answer_of_answerIndexReadsReliable hans
  rcases ph with ph | ⟨v, _ | _⟩
  · cases hp : AuthorizePhase.result ttl a ph with
    | pure v =>
        -- the call has answered: the step hands its link out
        have hheld : v.fresh = true → placedHold ttl a ∈ w.index := fun hf =>
          Known.held_of_fresh hk ⟨v, by rw [answer, hp]; rfl, hf⟩
        rw [result, bindResult, hp, Prog.pure_bind] at hcall
        cases v with
        | authorized co rem reused =>
            obtain ⟨rfl, -⟩ := Prog.call.inj hcall
            have hidx := TopupWorld.answer_index_of_keepsIndex rfl hans'
            simp only [next, bindNext, hp, handOutNext, Known]
            exact fun hf => hidx ▸ hheld hf
        | refused refusal => cases hcall
    | call op' k' =>
        rw [result, bindResult, hp, Prog.call_bind] at hcall
        obtain ⟨rfl, -⟩ := Prog.call.inj hcall
        simp only [next, bindNext, hp, Known]
        exact AuthorizePhase.Known.step httl hS hP hk hp hans
  · cases v with
    | authorized co rem reused =>
        obtain ⟨rfl, -⟩ := Prog.call.inj hcall
        exact fun hf => TopupWorld.answer_index_of_keepsIndex rfl hans' ▸ hk hf
    | refused refusal => cases hcall
  · cases hcall

/-- **A request's fresh link is minted at its re-read**, which covers its own hold and is within
the daily limit (`AuthorizePhase.fresh_step`). -/
theorem fresh_step (httl : 0 < ttl) (hS : w.settings = S₀) (hP : priorDayGross w a.nowMs = prior₀)
    {ph : CheckoutPhase} (hk : Known S₀ prior₀ a.level (placedHold ttl a ∈ w.index) ph)
    (hcall : result ttl a ph = .call op k) (hans : w.answerIndexReadsReliable op r = some w')
    (hbefore : ¬ FreshAt ttl a ph) (hafter : FreshAt ttl a (next ttl a ph r)) :
    w' = w ∧ placedHold ttl a ∈ w.index ∧ ∃ l, S₀.dailyTopupLimits.lookup a.level = some l ∧
      prior₀ + (w.index.map (·.amountCents)).sum ≤ l := by
  obtain ⟨v, hv, hf⟩ := hafter
  -- an answer is kept, so the call had not answered before the step
  have hnone : answer ttl a ph = none := by
    cases hph : answer ttl a ph with
    | none => rfl
    | some v' =>
        have hkept := answer_next ttl a hph r
        rw [hv] at hkept
        cases hkept
        exact absurd ⟨v, hph, hf⟩ hbefore
  rcases ph with ph | ⟨v', b⟩
  · cases hp : AuthorizePhase.result ttl a ph with
    | pure v' =>
        rw [answer, hp] at hnone
        cases hnone
    | call op' k' =>
        rw [result, bindResult, hp, Prog.call_bind] at hcall
        obtain ⟨rfl, -⟩ := Prog.call.inj hcall
        simp only [next, bindNext, hp] at hv
        exact AuthorizePhase.fresh_step httl hS hP hk hp hans (Prog.eq_pure_of_feed_nil hv) hf
  · cases hnone

end Step

end CheckoutPhase

/-! ### The allowance over whole runs -/

/-- The holds of `w` still live at `nowMs`. -/
def liveHolds (w : TopupWorld) (nowMs : Nat) : List FygaroReservation :=
  w.index.filter (nowMs < ·.expiresAtMs)

/-- Distinct members of a list sum to no more than the list. -/
theorem sum_amounts_le_of_subset {l₁ l₂ : List FygaroReservation} (hd : l₁.Nodup)
    (hs : ∀ x ∈ l₁, x ∈ l₂) : (l₁.map (·.amountCents)).sum ≤ (l₂.map (·.amountCents)).sum := by
  obtain ⟨l, hperm, hsub⟩ := List.subperm_of_subset hd hs
  calc (l₁.map (·.amountCents)).sum = (l.map (·.amountCents)).sum := ((hperm.map _).sum_eq).symm
    _ ≤ (l₂.map (·.amountCents)).sum := (hsub.map _).sum_le_sum fun _ _ => Nat.zero_le _

section Run

variable (ttl : Nat) (w₀ : TopupWorld) (nowMs level : Nat) (requests : List AuthorizeTopupArgs)

/-- The phase request `i` stands at after the replies `sched`. -/
def requestPhase (sched : List (Nat × TopupReply)) (i : Fin requests.length) : CheckoutPhase :=
  Pool.phaseOf (CheckoutPhase.next ttl) (fun _ => .inl .start) requests[i] sched i

/-- The invariant of a run of the checkout requests `requests` from `w₀`, after the replies
`sched`: the threads stand at their phases; the settings, the rows and the live holds are those of
`w₀`; each request knows what it read and holds its hold while it should; and any fresh links,
with the history and the live holds, are within the daily limit. -/
structure AllowanceInv (sched : List (Nat × TopupReply)) (c : TopupPool) : Prop where
  phases : Pool.PhasesAt (CheckoutPhase.result ttl) (CheckoutPhase.next ttl) (fun _ => .inl .start)
    requests sched c
  settings : c.world.settings = w₀.settings
  rows : c.world.rows = w₀.rows
  live : ∀ x ∈ liveHolds w₀ nowMs, x ∈ c.world.index
  known : ∀ i : Fin requests.length, CheckoutPhase.Known w₀.settings (priorDayGross w₀ nowMs)
    requests[i].level (placedHold ttl requests[i] ∈ c.world.index) (requestPhase ttl requests sched i)
  bound : ∀ F : List (Fin requests.length), F.Nodup →
    (∀ i ∈ F, CheckoutPhase.FreshAt ttl requests[i] (requestPhase ttl requests sched i)) → F ≠ [] →
    ∃ l, w₀.settings.dailyTopupLimits.lookup level = some l ∧
      priorDayGross w₀ nowMs + ((liveHolds w₀ nowMs).map (·.amountCents)).sum +
        (F.map fun i => requests[i].amountCents).sum ≤ l

theorem allowanceInv_start :
    AllowanceInv ttl w₀ nowMs level requests [] ⟨w₀, requests.map (checkoutRequest (some ttl))⟩ := by
  refine ⟨Pool.phasesAt_start _ _ _ requests w₀, rfl, rfl, fun x hx => List.mem_of_mem_filter hx,
    fun i => trivial, ?_⟩
  -- no call has answered before its first reply
  intro F hF hfresh hne
  obtain ⟨i, hi⟩ := List.exists_mem_of_ne_nil F hne
  obtain ⟨v, hv, -⟩ := hfresh i hi
  cases hv

theorem requestPhase_append (sched : List (Nat × TopupReply)) (m j : Fin requests.length)
    (r : TopupReply) :
    requestPhase ttl requests (sched ++ [((m : Nat), r)]) j =
      if m = j then CheckoutPhase.next ttl requests[j] (requestPhase ttl requests sched j) r
      else requestPhase ttl requests sched j := by
  simp only [requestPhase, Pool.phaseOf_append, Fin.val_inj]

variable {ttl w₀ nowMs level requests}

/-- **One step keeps the invariant.**  The request that moves learns what its step teaches it;
the others keep what they know, since no call touches another's hold or a live one; and a step
that mints a fresh link is a re-read, whose check covers every fresh link at once. -/
theorem AllowanceInv.step (httl : 0 < ttl)
    (hreq : ∀ a ∈ requests, a.nowMs = nowMs ∧ a.level = level)
    (hids : (requests.map (·.intentId)).Nodup)
    (hnew : ∀ a ∈ requests, ∀ x ∈ w₀.index, x.intentId ≠ a.intentId) (hnodup : w₀.index.Nodup)
    {sched : List (Nat × TopupReply)} {c c' : TopupPool} {i : Nat} {r : TopupReply}
    (hinv : AllowanceInv ttl w₀ nowMs level requests sched c)
    (h : Pool.step TopupWorld.answerIndexReadsReliable c i r = some c') :
    AllowanceInv ttl w₀ nowMs level requests (sched ++ [(i, r)]) c' := by
  obtain ⟨hi, op, k, hcall, hsem, hat⟩ :=
    Pool.phasesAt_step (fun x => CheckoutPhase.follows ttl x) hinv.phases h
  -- the request that moved, and the operation it issued
  let m : Fin requests.length := ⟨i, hi⟩
  have hcall' : CheckoutPhase.result ttl requests[m] (requestPhase ttl requests sched m) =
      .call op k := hcall
  have hans := TopupWorld.answer_of_answerIndexReadsReliable hsem
  have hown : op.OwnIndexOp requests[m] := by
    have hall := CheckoutPhase.result_ownIndex ttl requests[m] (requestPhase ttl requests sched m)
    rw [hcall'] at hall
    exact hall.head
  obtain ⟨hnow, hlevel⟩ := hreq requests[m] (List.getElem_mem _)
  have hS : c.world.settings = w₀.settings := hinv.settings
  have hP : priorDayGross c.world requests[m].nowMs = priorDayGross w₀ nowMs := by
    simp only [priorDayGross, hinv.rows, hnow]
  have hphase := fun j => requestPhase_append ttl requests sched m j r
  -- every member the mover does not own and that is live at its time stays in the index
  have hframe : ∀ x ∈ c.world.index, x.intentId ≠ requests[m].intentId → nowMs < x.expiresAtMs →
      x ∈ c'.world.index := fun x hx hid hexp =>
    TopupWorld.answer_index_frame hown hans hx hid (hnow ▸ hexp)
  have hother : ∀ j : Fin requests.length, m ≠ j →
      placedHold ttl requests[j] ∈ c.world.index → placedHold ttl requests[j] ∈ c'.world.index := by
    intro j hmj hj
    obtain ⟨hnowj, -⟩ := hreq requests[j] (List.getElem_mem _)
    refine hframe _ hj (fun hid => hmj (Pool.index_eq_of_key_eq hids hid.symm)) ?_
    simp only [placedHold, hnowj]
    omega
  refine ⟨hat, (TopupWorld.answer_settings hans).1.trans hS,
    (TopupWorld.answer_rows_of_ownIndex hown hans).trans hinv.rows, ?_, ?_, ?_⟩
  · intro x hx
    have hx₀ : x ∈ w₀.index := List.mem_of_mem_filter hx
    have hexp : nowMs < x.expiresAtMs := by simpa using (List.mem_filter.mp hx).2
    exact hframe x (hinv.live x hx) (hnew _ (List.getElem_mem _) x hx₀) hexp
  · intro j
    rw [hphase j]
    by_cases hmj : m = j
    · subst hmj
      rw [if_pos rfl]
      exact CheckoutPhase.Known.step httl hS hP (hinv.known m) hcall' hsem
    · rw [if_neg hmj]
      exact CheckoutPhase.Known.mono (hother j hmj) (hinv.known j)
  · intro F hF hfresh hne
    by_cases hcommit :
        m ∈ F ∧ ¬ CheckoutPhase.FreshAt ttl requests[m] (requestPhase ttl requests sched m)
    · -- the step mints the mover's link: its re-read read every fresh link's hold
      obtain ⟨hmF, hbefore⟩ := hcommit
      have hafter := hfresh m hmF
      rw [hphase m, if_pos rfl] at hafter
      obtain ⟨-, hheld, l, hl, hwithin⟩ :=
        CheckoutPhase.fresh_step httl hS hP (hinv.known m) hcall' hsem hbefore hafter
      refine ⟨l, hlevel ▸ hl, ?_⟩
      have hsub : ∀ x ∈ liveHolds w₀ nowMs ++ F.map (fun j => placedHold ttl requests[j]),
          x ∈ c.world.index := by
        intro x hx
        rcases List.mem_append.mp hx with hx | hx
        · exact hinv.live x hx
        · obtain ⟨j, hj, rfl⟩ := List.mem_map.mp hx
          by_cases hmj : m = j
          · subst hmj
            exact hheld
          · have hfj := hfresh j hj
            rw [hphase j, if_neg hmj] at hfj
            exact CheckoutPhase.Known.held_of_fresh (hinv.known j) hfj
      have hnd : (liveHolds w₀ nowMs ++ F.map (fun j => placedHold ttl requests[j])).Nodup := by
        refine List.nodup_append.mpr ⟨hnodup.filter _, hF.map fun j j' hjj' => ?_, ?_⟩
        · exact Pool.index_eq_of_key_eq hids (congrArg FygaroReservation.intentId hjj')
        · intro x hx y hy hxy
          obtain ⟨j, -, rfl⟩ := List.mem_map.mp hy
          exact hnew _ (List.getElem_mem _) x (List.mem_of_mem_filter hx) (congrArg (·.intentId) hxy)
      have hle := sum_amounts_le_of_subset hnd hsub
      simp only [List.map_append, List.sum_append, List.map_map] at hle
      have hamounts : (F.map ((·.amountCents) ∘ fun j => placedHold ttl requests[j])) =
          F.map fun j => requests[j].amountCents := rfl
      rw [hamounts] at hle
      omega
    · -- otherwise every request of `F` had its fresh link before the step
      refine hinv.bound F hF (fun j hj => ?_) hne
      by_cases hmj : m = j
      · subst hmj
        by_contra hnot
        exact hcommit ⟨hj, hnot⟩
      · have hfj := hfresh j hj
        rwa [hphase j, if_neg hmj] at hfj

end Run

/-- **Concurrent authorisations never over-issue the allowance.**  Run any checkout requests of
one account, all at `nowMs` and of its level `level`, each for an intent of its own that the
index does not hold, in any interleaving and with any outcome the world allows each call, except
that the prune and the read of the index succeed.  Then the links the calls minted themselves —
answers `authorized` with `reused = false` — stay, with the account's trailing-24h gross and the
holds it had live, within the daily limit of its level. -/
theorem fresh_authorizations_within_daily_limit {ttl : Nat} (httl : 0 < ttl) {w : TopupWorld}
    {nowMs level : Nat} {requests : List AuthorizeTopupArgs}
    (hreq : ∀ a ∈ requests, a.nowMs = nowMs ∧ a.level = level)
    (hids : (requests.map (·.intentId)).Nodup)
    (hnew : ∀ a ∈ requests, ∀ x ∈ w.index, x.intentId ≠ a.intentId) (hnodup : w.index.Nodup)
    {sched : List (Nat × TopupReply)} {c : TopupPool}
    (hrun : Pool.run TopupWorld.answerIndexReadsReliable
      ⟨w, requests.map (checkoutRequest (some ttl))⟩ sched = some c)
    (F : List (Fin requests.length)) (hF : F.Nodup) (hne : F ≠ [])
    (hauth : ∀ i ∈ F, ∃ pre co rem, pre <+: Pool.repliesTo sched i ∧
      (authorizeFygaroTopup (some ttl) requests[i]).feed pre = some (.authorized co rem false)) :
    ∃ l, w.settings.dailyTopupLimits.lookup level = some l ∧
      sumFygaroTopupGrossCentsSince w.rows (nowMs - 24 * 60 * 60 * 1000) none +
        ((w.index.filter (nowMs < ·.expiresAtMs)).map (·.amountCents)).sum +
        (F.map fun i => requests[i].amountCents).sum ≤ l := by
  have hinv : AllowanceInv ttl w nowMs level requests ([] ++ sched) c :=
    Pool.run_inv_hist (fun _ _ _ _ _ hI hs => hI.step httl hreq hids hnew hnodup hs)
      (allowanceInv_start ttl w nowMs level requests) hrun
  rw [List.nil_append] at hinv
  refine hinv.bound F hF (fun i hi => ?_) hne
  -- a call that has answered keeps its answer to the end of the run
  obtain ⟨pre, co, rem, ⟨rest, hrest⟩, hfeed⟩ := hauth i hi
  refine ⟨.authorized co rem false, ?_, rfl⟩
  rw [requestPhase, Pool.phaseOf, ← hrest]
  exact CheckoutPhase.answer_after_feed ttl requests[i] hfeed rest

/-! ### Two requests at the limit -/

/-- Settings of a deployment: a processor fee of 3.5% and 30¢, a Flash margin of 2%, a single
payment of at most $100 and at least $5, and a daily limit of $100 at level 1. -/
def sampleSettings : FygaroSettings :=
  { processorFeePercent := 350, processorFeeFixed := 30, flashMarginPercent := 200,
    flashMarginFixed := 0, autoCreditLimit := 10000, minimumTopup := 500,
    autoCreditEnabled := true, dailyTopupLimits := [(1, 10000)] }

/-- An account with nothing paid and nothing held. -/
def sampleWorld : TopupWorld :=
  { settings := sampleSettings, discount := 0, index := [], intents := [], claims := [], rows := [],
    credits := [], idempotencyKeys := [], paymentLocks := [], checkouts := [] }

def sampleNow : Nat := 1767225600000

def requestA : AuthorizeTopupArgs := ⟨1, 5000, sampleNow, "A"⟩
def requestB : AuthorizeTopupArgs := ⟨1, 5000, sampleNow, "B"⟩

/-- Both requests read the history and the empty index; then each reserves and reads the index
again, the second seeing both holds. -/
def twoRequestsReplies : List (Nat × TopupReply) :=
  [(0, .settings (some sampleSettings)), (0, .grossCents 0), (0, .ok), (0, .reservations []),
   (0, .discount 0),
   (1, .settings (some sampleSettings)), (1, .grossCents 0), (1, .ok), (1, .reservations []),
   (1, .discount 0),
   (0, .ok), (0, .ok), (0, .ok), (0, .ok), (0, .ok), (0, .reservations [placedHold 900 requestA]),
   (1, .ok), (1, .ok), (1, .ok), (1, .ok), (1, .ok),
   (1, .reservations [placedHold 900 requestA, placedHold 900 requestB])]

/-- Two $50 requests that race to a $100 limit both mint their links, at the limit. -/
theorem two_requests_at_daily_limit :
    ∃ l, sampleSettings.dailyTopupLimits.lookup 1 = some l ∧
      sumFygaroTopupGrossCentsSince sampleWorld.rows (sampleNow - 24 * 60 * 60 * 1000) none +
        ((sampleWorld.index.filter (sampleNow < ·.expiresAtMs)).map (·.amountCents)).sum +
        (([⟨0, by decide⟩, ⟨1, by decide⟩] : List (Fin [requestA, requestB].length)).map
          fun i => [requestA, requestB][i].amountCents).sum ≤ l := by
  have hrun : (Pool.run TopupWorld.answerIndexReadsReliable
      ⟨sampleWorld, [requestA, requestB].map (checkoutRequest (some 900))⟩
      twoRequestsReplies).isSome = true := by
    decide +kernel
  refine fresh_authorizations_within_daily_limit (by decide) (by decide) (by decide) (by decide)
    List.nodup_nil (Option.some_get hrun).symm _ (by decide) (by simp) ?_
  intro i hi
  simp only [List.mem_cons, List.not_mem_nil, or_false] at hi
  rcases hi with rfl | rfl
  · exact ⟨Pool.repliesTo twoRequestsReplies 0, freshCheckout 900 requestA, 5000,
      List.prefix_refl _, by decide⟩
  · exact ⟨Pool.repliesTo twoRequestsReplies 1, freshCheckout 900 requestB, 5000,
      List.prefix_refl _, by decide⟩

/-! ### Where the guarantee stops

Runs are written with the environment's choices, the replies computed from the world. -/

/-- What the environment decides at a call: it succeeds, it fails, or — a write — it fails
after it landed. -/
inductive TopupChoice where
  | ok
  | fail
  | failLanded
  deriving DecidableEq, Repr

/-- The failure a choice makes of a write. -/
def TopupChoice.writeReply : TopupChoice → TopupReply
  | .ok => .ok
  | .fail => .failed false
  | .failLanded => .failed true

/-- The reply the world gives to a call under the environment's choice. -/
def TopupWorld.oracle (w : TopupWorld) : TopupOp → TopupChoice → TopupReply
  | .getFygaroSettings, .ok => .settings (some w.settings)
  | .getFygaroSettings, _ => .settings none
  | .sumFygaroTopupGrossCentsSince sinceMs ex, .ok =>
      .grossCents (sumFygaroTopupGrossCentsSince w.rows sinceMs ex)
  | .getFlashFeeDiscountPercent, .ok => .discount w.discount
  | .getFlashFeeDiscountPercent, _ => .discount 0
  | .findBridgeTransferRequest id, .ok => .row (w.rows.find? (·.requestId = id))
  | .zrange, .ok => .reservations w.index
  | .getIntent id, .ok => .intent (w.intents.find? (·.intentId = id))
  | .consumeClaim id, .ok => .acquired (decide (id ∈ w.claims))
  | .lockIdempotencyKey t, .ok => .acquired (decide (t ∉ w.idempotencyKeys))
  | .lockIdempotencyKey _, _ => .acquired false
  | .lockPaymentIdempotencyKey t, .ok => .acquired (decide (t ∉ w.paymentLocks))
  | .creditFygaroTopup _ _, .ok => .ok
  | .handOut _, _ => .ok
  -- a read or a send that fails, and a write as the choice has it
  | .sumFygaroTopupGrossCentsSince _ _, _ | .findBridgeTransferRequest _, _ | .zrange, _
    | .getIntent _, _ | .lockPaymentIdempotencyKey _, _ | .creditFygaroTopup _ _, _ =>
      .failed false
  | _, choice => choice.writeReply

/-- A run of the pool driven by the environment's choices. -/
def topupRunBy (c : TopupPool) (sched : List (Nat × TopupChoice)) : Option TopupPool :=
  Pool.runBy TopupWorld.answer TopupWorld.oracle c sched

def requestFull : AuthorizeTopupArgs := ⟨1, 10000, sampleNow, "F"⟩

/-- The total of the links handed out in a run. -/
def handedOutCents (c : TopupPool) : Nat :=
  (c.world.checkouts.map (·.url.amountCents)).sum

def requestC : AuthorizeTopupArgs := ⟨1, 5000, sampleNow, "C"⟩

/-- A run that hands out $150 of links goes past the $100 limit of `sampleSettings`. -/
theorem past_daily_limit_of_run {c₀ : TopupPool} {sched : List (Nat × TopupChoice)}
    {ids : List String}
    (h : (topupRunBy c₀ sched).map
      (fun c => (c.world.checkouts.map (·.intentId), handedOutCents c)) = some (ids, 15000)) :
    ∃ c, topupRunBy c₀ sched = some c ∧ c.world.checkouts.map (·.intentId) = ids ∧
      ∃ l, sampleWorld.settings.dailyTopupLimits.lookup 1 = some l ∧ l < handedOutCents c := by
  obtain ⟨c, hc, hout⟩ := Option.map_eq_some_iff.mp h
  obtain ⟨hids, hcents⟩ := Prod.mk.inj hout
  exact ⟨c, hc, hids, 10000, rfl, by omega⟩

/-- `F` asks for the whole $100 and `A` for $50, and both read an empty index.  `F` reserves,
re-reads and hands its link out; `A` reserves and its re-read finds $150, so it will roll back;
before its `ZREM`, `C` asks for $50. -/
def rolledBackHoldSchedule : List (Nat × TopupChoice) :=
  List.replicate 4 (0, .ok) ++ List.replicate 4 (1, .ok) ++ List.replicate 8 (0, .ok) ++
    List.replicate 7 (1, .ok) ++ List.replicate 7 (2, .ok) ++ [(1, .ok)]

/-- **A hold being rolled back is handed out again.**  `C` finds `A`'s hold of exactly its
amount and is handed `A`'s link back, though `A` is about to give it up: $150 of links are out
against the $100 limit, every call succeeding. -/
theorem rolled_back_hold_handed_out_again :
    ∃ c, topupRunBy ⟨sampleWorld, [checkoutRequest (some 900) requestFull,
        checkoutRequest (some 900) requestA, checkoutRequest (some 900) requestC]⟩
        rolledBackHoldSchedule = some c ∧
      c.world.checkouts.map (·.intentId) = ["F", "A"] ∧
      ∃ l, sampleWorld.settings.dailyTopupLimits.lookup 1 = some l ∧ l < handedOutCents c :=
  past_daily_limit_of_run (by decide +kernel)

/-- `A` reads an empty index; `F` then reserves the whole $100 and hands its link out; `A`
passes the gate on what it read and reserves, and the prune of its re-read fails. -/
def failedRereadSchedule : List (Nat × TopupChoice) :=
  List.replicate 4 (0, .ok) ++ List.replicate 12 (1, .ok) ++ List.replicate 5 (0, .ok) ++
    [(0, .fail), (0, .ok)]

/-- **A re-read that fails skips the check.**  `A`'s link is handed out unchecked after `F`
took the whole allowance: $150 of links are out against the $100 limit. -/
theorem failed_reread_skips_daily_limit :
    ∃ c, topupRunBy ⟨sampleWorld, [checkoutRequest (some 900) requestA,
        checkoutRequest (some 900) requestFull]⟩ failedRereadSchedule = some c ∧
      c.world.checkouts.map (·.intentId) = ["F", "A"] ∧
      ∃ l, sampleWorld.settings.dailyTopupLimits.lookup 1 = some l ∧ l < handedOutCents c :=
  past_daily_limit_of_run (by decide +kernel)

end Fygaro
