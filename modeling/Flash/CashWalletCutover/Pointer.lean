import Flash.CashWalletCutover.Runner

/-!
# Cash-wallet cutover — the default-wallet pointer across a rollback

The rollback restores the account's default wallet only when `previousDefaultWalletId` is on the
record, and the one write of that field is the forward flip's own `transitionMigration`.  A flip
that succeeds at IBEX's side of the account but whose write fails leaves the pointer on the USDT
wallet with nothing recorded; `balance_read` is not one of the statuses whose failures go to
operator review, so the record lands in `failed`, from which a rollback may be requested and
completed.

`rollback_leaves_pointer_on_usdt` is that run from a fresh migration of a zero balance: the
zero-balance flip of `balance_read` moves the pointer, its write fails, the migration is marked
`failed`, rolled back, and ends `rolled_back` with the account still defaulting to USDT.
-/

namespace CashWalletCutover

open Threads

/-- Four forward batches (the fourth flips the pointer), a rollback request and a rollback
batch. -/
def pointerActors : List CutoverActor :=
  List.replicate 4 (.forwardBatch 1 0) ++ [.requestRollback true false, .rollbackBatch 3 0]

open CutoverChoice in
/-- The schedule of `rollback_leaves_pointer_on_usdt`. -/
def pointerSchedule : List (Nat × CutoverChoice) :=
  -- not_started → started → provisioned → balance_read, with a balance of 0 cents
  [(0, ok), (0, ok), (0, ok), (0, ok),
   (1, ok), (1, ok), (1, ok), (1, ok), (1, ok),
   (2, ok), (2, ok), (2, value 0), (2, ok), (2, ok), (2, ok),
   -- the flip reads the legacy default and points the account at USDT; its write fails
   (3, ok), (3, ok), (3, ok), (3, ok), (3, fail), (3, ok),
   -- `failed` → `rollback_started`
   (4, ok), (4, ok),
   -- nothing recorded to restore, no funds moved: straight to `rolled_back`
   (5, ok), (5, ok), (5, ok), (5, ok), (5, ok), (5, ok)]

/-- From a fresh migration, a run ends `rolled_back` with the account's default wallet still the
USDT wallet, not the legacy wallet it defaulted to before the migration. -/
theorem rollback_leaves_pointer_on_usdt :
    ∃ c, Pool.Reachable World.answer (CutoverPool.start freshWorld pointerActors) c ∧
      c.world.migration.status = .rolledBack ∧
      c.world.defaultWalletId = freshWorld.migration.destinationUsdtWalletId ∧
      c.world.defaultWalletId ≠ freshWorld.defaultWalletId := by
  have h : (cutoverRunBy (CutoverPool.start freshWorld pointerActors) pointerSchedule).map
      (fun c => (c.world.migration.status, c.world.defaultWalletId)) =
        some (.rolledBack, freshWorld.migration.destinationUsdtWalletId) := by
    decide
  obtain ⟨c, hc, hpair⟩ := Option.map_eq_some_iff.mp h
  simp only [Prod.mk.injEq] at hpair
  obtain ⟨hstatus, hdefault⟩ := hpair
  refine ⟨c, cutoverRunBy_reachable hc, hstatus, hdefault, ?_⟩
  rw [hdefault]
  decide

end CashWalletCutover
