import Mathlib

/-!
# Fygaro — the outcome stamped on a checkout intent

`services/fygaro/checkout-intent-store.ts`.  A checkout intent's record carries one outcome:
what the customer's status screen says about the payment.  Each webhook delivery stamps an
outcome, and `mergeIntentOutcome` decides what the record carries afterwards, or that the stamp
is dropped.  `applyStamp` is what a stamp does to the record, and `foldOutcome` the record after
a sequence of stamps.

Above the record sits its state alone: `stateStep` is the state machine the states follow, and
`applyStamp_state` says the merge refines it.  Its laws are the ordering rules of the merge:

* `foldState_credited`: once `credited`, the state stays `credited`;
* `foldState_none`: from no outcome, the final state is `credited` exactly when a `credited`
  stamp was applied, else the state of the last stamp that is not `received`, else `received`;
* `applyStamp_received`: a `received` stamp changes only a record with no outcome;
* `applyStamp_net_isSome`: a credited record keeps a net unless a `credited` stamp without a net
  names a transaction other than the record's (`foldOutcome_net_isSome` over a sequence), and
  `credited_net_lent_to_no_other_payment` is that exception.
-/

namespace Fygaro

/-- `FygaroTopupOutcomeState`. -/
inductive FygaroTopupOutcomeState where
  | received
  | credited
  | heldForReview
  | failed
  deriving DecidableEq, Repr

/-- `FygaroTopupOutcome`. -/
structure FygaroTopupOutcome where
  state : FygaroTopupOutcomeState
  reason : Option String := none
  netAmountCents : Option Nat := none
  detailCents : Option Nat := none
  transactionId : Option String := none
  atMs : Nat
  deriving DecidableEq, Repr

open FygaroTopupOutcomeState

/-! ### The merge -/

/-- The stamp is about a different payment from the record: both name a transaction, and they
differ. -/
def differentPayment (existing incoming : FygaroTopupOutcome) : Prop :=
  existing.transactionId.isSome ∧ incoming.transactionId.isSome ∧
    existing.transactionId ≠ incoming.transactionId

instance (existing incoming : FygaroTopupOutcome) :
    Decidable (differentPayment existing incoming) := by
  unfold differentPayment
  infer_instance

/-- `mergeIntentOutcome`: the outcome the record carries once `incoming` is applied to
`existing`, or `none` when the stamp is dropped. -/
def mergeIntentOutcome (existing : Option FygaroTopupOutcome) (incoming : FygaroTopupOutcome) :
    Option FygaroTopupOutcome :=
  match existing with
  | none => some incoming
  | some existing =>
      if incoming.state = .received then none
      else if existing.state = .credited ∧ incoming.state ≠ .credited then none
      -- a confirmation of the same payment keeps the net a real credit recorded
      else if existing.state = .credited ∧ ¬ differentPayment existing incoming then
        some { incoming with
          netAmountCents := incoming.netAmountCents.or existing.netAmountCents }
      else some incoming

/-- What a stamp does to the record's outcome: the merge, or nothing when it is dropped. -/
def applyStamp (record : Option FygaroTopupOutcome) (stamp : FygaroTopupOutcome) :
    Option FygaroTopupOutcome :=
  (mergeIntentOutcome record stamp).or record

/-- The record's outcome after a sequence of stamps. -/
def foldOutcome (record : Option FygaroTopupOutcome) (stamps : List FygaroTopupOutcome) :
    Option FygaroTopupOutcome :=
  stamps.foldl applyStamp record

@[simp] theorem foldOutcome_nil (record : Option FygaroTopupOutcome) :
    foldOutcome record [] = record := rfl

@[simp] theorem foldOutcome_append_singleton (record : Option FygaroTopupOutcome)
    (stamps : List FygaroTopupOutcome) (stamp : FygaroTopupOutcome) :
    foldOutcome record (stamps ++ [stamp]) = applyStamp (foldOutcome record stamps) stamp := by
  simp [foldOutcome]

/-! ### The states alone -/

/-- What a stamp of state `incoming` does to the record's state: the first stamp sets it, a
`credited` state keeps it, a `received` stamp is dropped, and any other stamp replaces it. -/
def stateStep : Option FygaroTopupOutcomeState → FygaroTopupOutcomeState →
    Option FygaroTopupOutcomeState
  | none, incoming => some incoming
  | some .credited, _ => some .credited
  | some existing, .received => some existing
  | some _, incoming => some incoming

/-- The record's state after stamps of the given states. -/
def foldState (state : Option FygaroTopupOutcomeState) (states : List FygaroTopupOutcomeState) :
    Option FygaroTopupOutcomeState :=
  states.foldl stateStep state

theorem stateStep_some (existing incoming : FygaroTopupOutcomeState) :
    stateStep (some existing) incoming =
      if existing = .credited ∨ incoming = .received then some existing else some incoming := by
  cases existing <;> cases incoming <;> rfl

/-- The merge moves the record's state as `stateStep` says. -/
theorem applyStamp_state (record : Option FygaroTopupOutcome) (stamp : FygaroTopupOutcome) :
    (applyStamp record stamp).map (·.state) = stateStep (record.map (·.state)) stamp.state := by
  cases record with
  | none => rfl
  | some existing =>
      rw [Option.map_some, stateStep_some]
      by_cases hR : stamp.state = .received
      · -- a `received` stamp is dropped
        simp [applyStamp, mergeIntentOutcome, hR]
      by_cases hC : existing.state = .credited
      · -- a credited record drops any other stamp, and a `credited` one keeps the state
        by_cases hI : stamp.state = .credited
        · simp only [applyStamp, mergeIntentOutcome, hI, hC]
          split_ifs <;> simp [hI, hC]
        · simp [applyStamp, mergeIntentOutcome, hR, hC, hI]
      · -- any other stamp replaces the record
        simp [applyStamp, mergeIntentOutcome, hR, hC]

/-- The states of a sequence of stamps follow `foldState`. -/
theorem foldOutcome_state (record : Option FygaroTopupOutcome) (stamps : List FygaroTopupOutcome) :
    (foldOutcome record stamps).map (·.state) =
      foldState (record.map (·.state)) (stamps.map (·.state)) := by
  induction stamps generalizing record with
  | nil => rfl
  | cons stamp stamps ih =>
      simp only [foldOutcome, foldState, List.foldl_cons, List.map_cons] at ih ⊢
      rw [ih, applyStamp_state]

theorem stateStep_credited (incoming : FygaroTopupOutcomeState) :
    stateStep (some .credited) incoming = some .credited := rfl

/-- Once `credited`, the state stays `credited`. -/
theorem foldState_credited (states : List FygaroTopupOutcomeState) :
    foldState (some .credited) states = some .credited := by
  induction states with
  | nil => rfl
  | cons incoming states ih => exact ih

theorem stateStep_received (state : FygaroTopupOutcomeState) :
    stateStep (some state) .received = some state := by
  cases state <;> rfl

theorem stateStep_to_credited (state : Option FygaroTopupOutcomeState) :
    stateStep state .credited = some .credited := by
  rcases state with _ | ⟨_ | _ | _ | _⟩ <;> rfl

/-- A decision other than `credited` replaces every state but `credited`. -/
theorem stateStep_decision {state incoming : FygaroTopupOutcomeState}
    (hrec : incoming ≠ .received) :
    stateStep (some state) incoming = if state = .credited then some .credited else some incoming := by
  cases state <;> cases incoming <;> simp_all [stateStep]

/-- The state after a nonempty sequence of stamps from no outcome: `credited` when a stamp
was, else the state of the last stamp that is not `received`, else `received`. -/
def finalState (states : List FygaroTopupOutcomeState) : FygaroTopupOutcomeState :=
  if .credited ∈ states then .credited
  else ((states.filter (· ≠ .received)).getLast?).getD .received

theorem finalState_eq_credited_iff (states : List FygaroTopupOutcomeState) :
    finalState states = .credited ↔ .credited ∈ states := by
  unfold finalState
  by_cases hc : FygaroTopupOutcomeState.credited ∈ states
  · simp [hc]
  · simp only [hc, if_false, iff_false]
    -- the last decision is one of the states, so it is not `credited`
    cases hlast : (states.filter (· ≠ .received)).getLast? with
    | none => simp
    | some last =>
        have hmem : last ∈ states :=
          (List.mem_filter.mp (List.mem_of_getLast? hlast)).1
        intro heq
        simp only [Option.getD_some] at heq
        exact hc (heq ▸ hmem)

theorem finalState_append_received (states : List FygaroTopupOutcomeState) :
    finalState (states ++ [.received]) = finalState states := by
  simp [finalState, List.filter_append]

theorem finalState_append_decision (states : List FygaroTopupOutcomeState)
    {incoming : FygaroTopupOutcomeState} (hrec : incoming ≠ .received) :
    finalState (states ++ [incoming]) =
      if .credited ∈ states then .credited else incoming := by
  by_cases hc : FygaroTopupOutcomeState.credited ∈ states
  · simp [finalState, hc]
  · cases incoming <;> simp_all [finalState, List.filter_append]

theorem foldState_none {states : List FygaroTopupOutcomeState} (h : states ≠ []) :
    foldState none states = some (finalState states) := by
  induction states using List.reverseRecOn with
  | nil => exact absurd rfl h
  | append_singleton states incoming ih =>
      simp only [foldState, List.foldl_append, List.foldl_cons, List.foldl_nil] at ih ⊢
      by_cases hnil : states = []
      · subst hnil
        cases incoming <;> rfl
      rw [ih hnil]
      -- the last stamp is dropped, makes the state `credited`, or is a decision
      by_cases hrec : incoming = .received
      · subst hrec
        rw [stateStep_received, finalState_append_received]
      · rw [stateStep_decision hrec, finalState_append_decision states hrec]
        simp only [finalState_eq_credited_iff]
        split_ifs <;> rfl

/-! ### What a stamp cannot change -/

/-- A `received` stamp changes only a record with no outcome. -/
theorem applyStamp_received {record : FygaroTopupOutcome} {stamp : FygaroTopupOutcome}
    (h : stamp.state = .received) : applyStamp (some record) stamp = some record := by
  simp [applyStamp, mergeIntentOutcome, h]

/-- A credited record with a net keeps a net, unless the stamp is a `credited` stamp without a
net about a different payment. -/
theorem applyStamp_net_isSome {record : FygaroTopupOutcome} (stamp : FygaroTopupOutcome)
    (hstate : record.state = .credited) (hnet : record.netAmountCents.isSome) :
    (∃ merged, applyStamp (some record) stamp = some merged ∧ merged.state = .credited ∧
      merged.netAmountCents.isSome) ∨
    (stamp.state = .credited ∧ differentPayment record stamp ∧ stamp.netAmountCents = none) := by
  by_cases hrec : stamp.state = .received
  · exact .inl ⟨record, applyStamp_received hrec, hstate, hnet⟩
  by_cases hcred : stamp.state = .credited
  · by_cases hdiff : differentPayment record stamp
    · -- a credit of another payment replaces the record, net and all
      cases hs : stamp.netAmountCents with
      | none => exact .inr ⟨hcred, hdiff, rfl⟩
      | some n =>
          refine .inl ⟨stamp, ?_, hcred, by simp [hs]⟩
          simp [applyStamp, mergeIntentOutcome, hstate, hcred, hdiff]
    · refine .inl ⟨{ stamp with
        netAmountCents := stamp.netAmountCents.or record.netAmountCents }, ?_, hcred, ?_⟩
      · simp [applyStamp, mergeIntentOutcome, hstate, hcred, hdiff]
      · cases stamp.netAmountCents <;> simp [hnet]
  · exact .inl ⟨record, by simp [applyStamp, mergeIntentOutcome, hstate, hrec, hcred], hstate,
      hnet⟩

/-- A credited record that names the transaction `t` or none stays so, with its net, under a
stamp whose credits name `t` or no transaction: no such stamp is about a different payment. -/
theorem applyStamp_same_payment {record : FygaroTopupOutcome} {t : Option String}
    (stamp : FygaroTopupOutcome) (hstate : record.state = .credited)
    (hnet : record.netAmountCents.isSome)
    (htx : record.transactionId = none ∨ record.transactionId = t)
    (hstamp : stamp.state = .credited → stamp.transactionId = none ∨ stamp.transactionId = t) :
    ∃ merged, applyStamp (some record) stamp = some merged ∧ merged.state = .credited ∧
      merged.netAmountCents.isSome ∧ (merged.transactionId = none ∨ merged.transactionId = t) := by
  rcases applyStamp_net_isSome stamp hstate hnet with ⟨merged, hm, hms, hmn⟩ | ⟨hcred, hdiff, -⟩
  · refine ⟨merged, hm, hms, hmn, ?_⟩
    -- the record is kept, or the stamp is a credit and its transaction is the merged one's
    by_cases hcred : stamp.state = .credited
    · have hkeep : merged.transactionId = stamp.transactionId := by
        by_cases hdiff : differentPayment record stamp
        · simp [applyStamp, mergeIntentOutcome, hstate, hcred, hdiff] at hm
          rw [← hm]
        · simp [applyStamp, mergeIntentOutcome, hstate, hcred, hdiff] at hm
          rw [← hm]
      rw [hkeep]
      exact hstamp hcred
    · have hkeep : merged = record := by
        by_cases hrec : stamp.state = .received <;>
          simp_all [applyStamp, mergeIntentOutcome]
      rw [hkeep]
      exact htx
  · -- both name a transaction, each is `t`, so they do not differ
    obtain ⟨hsomeR, hsomeS, hne⟩ := hdiff
    rcases htx with hr | hr
    · simp [hr] at hsomeR
    rcases hstamp hcred with hs | hs
    · simp [hs] at hsomeS
    exact absurd (hr.trans hs.symm) hne

/-- Along stamps whose credits all name the record's transaction or none, a credited record
keeps a net. -/
theorem foldOutcome_net_isSome {record : FygaroTopupOutcome} {t : Option String}
    (stamps : List FygaroTopupOutcome) (hstate : record.state = .credited)
    (hnet : record.netAmountCents.isSome)
    (htx : record.transactionId = none ∨ record.transactionId = t)
    (hsame : ∀ stamp ∈ stamps, stamp.state = .credited →
      stamp.transactionId = none ∨ stamp.transactionId = t) :
    ∃ final, foldOutcome (some record) stamps = some final ∧ final.state = .credited ∧
      final.netAmountCents.isSome := by
  induction stamps generalizing record with
  | nil => exact ⟨record, rfl, hstate, hnet⟩
  | cons stamp stamps ih =>
      obtain ⟨merged, hm, hms, hmn, hmt⟩ :=
        applyStamp_same_payment stamp hstate hnet htx (hsame stamp (List.mem_cons_self ..))
      have hrest := ih hms hmn hmt fun s hs => hsame s (List.mem_cons_of_mem _ hs)
      simpa only [foldOutcome, List.foldl_cons, hm] using hrest

/-- A credit of `tx-1` that recorded its net. -/
def creditOfTx1 : FygaroTopupOutcome :=
  { state := .credited, netAmountCents := some 9421, transactionId := some "tx-1", atMs := 1 }

/-- A credit of `tx-2` stamped without a net. -/
def creditOfTx2 : FygaroTopupOutcome :=
  { state := .credited, transactionId := some "tx-2", atMs := 2 }

/-- The exception: after `creditOfTx1` the record is credited with a net; after `creditOfTx2`
too it is credited with none. -/
theorem credited_net_lent_to_no_other_payment :
    foldOutcome none [creditOfTx1] = some creditOfTx1 ∧
      foldOutcome none [creditOfTx1, creditOfTx2] = some creditOfTx2 ∧
      creditOfTx1.netAmountCents.isSome ∧ creditOfTx2.netAmountCents = none := by
  decide

end Fygaro
