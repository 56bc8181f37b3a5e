import Flash.CashWalletCutover.Runner

/-!
# Cash-wallet cutover — rollback requests racing the batches

A rollback request takes no lock: it moves the record to `rollback_started` from the status it
read.  `markMigrationFailed` is guarded by `lockedBy` alone, and the runner computes the status it
writes from the copy it locked.  So a forward batch whose step fails after a concurrent request
writes `failed` over `rollback_started`, and retry-failed, which sees an ordinary `failed` record
with no payment on it, resets it to `not_started`: `rollback_request_reset_to_not_started`.

The same guard lets a rollback batch overwrite a finished rollback.  The rollback batch lists
`rollback_started` records but locks without looking at the status; if another batch finishes
the rollback in between, the step refuses the `rolled_back` record and the runner marks it
`requires_operator_review`, a write `assertCanTransition` forbids (`rolled_back` has no edge out):
`rolled_back_marked_for_review`.
-/

namespace CashWalletCutover

open Threads

/-- Two forward batches, a rollback request and a retry-failed run. -/
def retryRaceActors : List CutoverActor :=
  List.replicate 2 (.forwardBatch 1 0) ++ [.requestRollback true false, .retryFailed true false]

open CutoverChoice in
/-- Up to the rollback request: the second batch holds the lock at `started` and is waiting on
the wallet service when the request lands. -/
def retryRaceRequest : List (Nat × CutoverChoice) :=
  [(0, ok), (0, ok), (0, ok), (0, ok),
   (1, ok), (1, ok),
   (2, ok), (2, ok)]

open CutoverChoice in
/-- After it: the service fails, the batch marks `failed`, retry-failed resets. -/
def retryRaceReset : List (Nat × CutoverChoice) :=
  [(1, fail), (1, ok),
   (3, ok), (3, ok)]

/-- A migration in `rollback_started` is later back at `not_started`. -/
theorem rollback_request_reset_to_not_started :
    ∃ c₁ c₂, Pool.Reachable World.answer (CutoverPool.start freshWorld retryRaceActors) c₁ ∧
      c₁.world.migration.status = .rollbackStarted ∧ Pool.Reachable World.answer c₁ c₂ ∧
      c₂.world.migration.status = .notStarted := by
  have h₁ : (cutoverRunBy (CutoverPool.start freshWorld retryRaceActors) retryRaceRequest).map
      (·.world.migration.status) = some .rollbackStarted := by
    decide
  have h₂ : (cutoverRunBy (CutoverPool.start freshWorld retryRaceActors)
      (retryRaceRequest ++ retryRaceReset)).map (·.world.migration.status) =
        some .notStarted := by
    decide
  obtain ⟨c₂, hc₂, hs₂⟩ := Option.map_eq_some_iff.mp h₂
  obtain ⟨c₁, hpre, hpost⟩ := cutoverRunBy_append hc₂
  rw [hpre] at h₁
  exact ⟨c₁, c₂, cutoverRunBy_reachable hpre, Option.some.inj h₁,
    cutoverRunBy_reachable hpost, hs₂⟩

/-- A rollback request and two rollback batches. -/
def reviewRaceActors : List CutoverActor :=
  [.requestRollback true false, .rollbackBatch 1 0, .rollbackBatch 2 0]

open CutoverChoice in
/-- Both batches list the record in `rollback_started`; the second locks it and rolls it back. -/
def reviewRaceRollback : List (Nat × CutoverChoice) :=
  [(0, ok), (0, ok),
   (1, ok), (2, ok),
   (2, ok), (2, ok), (2, ok), (2, ok), (2, ok)]

open CutoverChoice in
/-- The first batch locks the rolled-back record; its step refuses it and the batch marks it. -/
def reviewRaceMark : List (Nat × CutoverChoice) :=
  [(1, ok), (1, ok)]

/-- A `rolled_back` migration is overwritten with `requires_operator_review` by one write, an
edge the transition table does not have. -/
theorem rolled_back_marked_for_review :
    ∃ c₁ c₂, Pool.Reachable World.answer (CutoverPool.start freshWorld reviewRaceActors) c₁ ∧
      c₁.world.migration.status = .rolledBack ∧ (∃ i r, Pool.step World.answer c₁ i r = some c₂) ∧
      c₂.world.migration.status = .requiresOperatorReview ∧
      ¬ CanTransition .rolledBack .requiresOperatorReview := by
  have h₁ : (cutoverRunBy (CutoverPool.start freshWorld reviewRaceActors)
      (reviewRaceRollback ++ [(1, .ok)])).map (·.world.migration.status) = some .rolledBack := by
    decide
  have h₂ : (cutoverRunBy (CutoverPool.start freshWorld reviewRaceActors)
      (reviewRaceRollback ++ reviewRaceMark)).map (·.world.migration.status) =
        some .requiresOperatorReview := by
    decide
  obtain ⟨c₂, hc₂, hs₂⟩ := Option.map_eq_some_iff.mp h₂
  have hsplit : reviewRaceRollback ++ reviewRaceMark =
      (reviewRaceRollback ++ [(1, .ok)]) ++ [(1, .ok)] := rfl
  rw [hsplit] at hc₂
  obtain ⟨c₁, hpre, hpost⟩ := cutoverRunBy_append hc₂
  rw [hpre] at h₁
  obtain ⟨r, hstep⟩ := Pool.runBy_single hpost
  exact ⟨c₁, c₂, cutoverRunBy_reachable hpre, Option.some.inj h₁, ⟨1, r, hstep⟩, hs₂,
    by decide⟩

end CashWalletCutover
