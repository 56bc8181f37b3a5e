import Flash.CashWalletCutover.Rollback

/-!
# Cash-wallet cutover — the batch runner and the actors

`runCashWalletMigrationBatch` (`runner.ts`) locks each listed migration, runs the executor on
the locked copy, and on an error marks the migration with the failure status computed from the
*locked copy's* status; on success it releases the lock.  The forward batch
(`runPrimaryCashWalletCutoverBatch`) lists the non-terminal migrations and runs
`executeCashWalletMigrationStep`; the rollback batch (`runPrimaryCashWalletRollbackBatch`) lists
`rollback_started` migrations, runs the rollback step and marks every failure
`requires_operator_review`.

`CutoverActor` names the programs that may run against one migration, with their parameters;
`CutoverActor.prog` is the program.  A pool of such actors, scheduled in any order with any
outcome of every call, is the system the run-level results are about.
-/

namespace CashWalletCutover

open Threads CashWalletMigrationStatus

/-- `CashWalletMigrationBatchResult`. -/
structure CashWalletMigrationBatchResult where
  attempted : Nat := 0
  advanced : Nat := 0
  failed : Nat := 0
  skipped : Nat := 0
  deriving DecidableEq, Repr

/-- The body of the runner's loop for one listed migration; `none` is the early `return` of a
failed `markMigrationFailed`. -/
def runBatchEntry (workerId : WorkerId) (lockStaleBefore : Nat)
    (executor : CashWalletMigration → CutoverProg StepResult)
    (failureStatus : CashWalletMigrationStatus → CashWalletMigrationStatus)
    (result : CashWalletMigrationBatchResult) :
    CutoverProg (Except CashWalletCutoverError CashWalletMigrationBatchResult) := do
  let result := { result with attempted := result.attempted + 1 }
  match ← migrationsRepo.acquireMigrationLock workerId lockStaleBefore with
  | .error _ => return .ok { result with skipped := result.skipped + 1 }
  | .ok locked =>
      match ← executor locked with
      | .error _ =>
          let result := { result with failed := result.failed + 1 }
          match ← migrationsRepo.markMigrationFailed workerId (failureStatus locked.status) with
          | .error e => return .error e
          | .ok _ => return .ok result
      | .ok _ =>
          let _ ← migrationsRepo.releaseMigrationLock workerId
          return .ok { result with advanced := result.advanced + 1 }

/-- `runCashWalletMigrationBatch` over the listed migrations. -/
def runCashWalletMigrationBatch (workerId : WorkerId) (lockStaleBefore : Nat)
    (listed : CashWalletMigration → Bool)
    (executor : CashWalletMigration → CutoverProg StepResult)
    (failureStatus : CashWalletMigrationStatus → CashWalletMigrationStatus) :
    CutoverProg (Except CashWalletCutoverError CashWalletMigrationBatchResult) := do
  match ← migrationsRepo.findMigration with
  | .error e => return .error e
  | .ok migration =>
      if listed migration then
        runBatchEntry workerId lockStaleBefore executor failureStatus {}
      else return .ok {}

/-- `runPrimaryCashWalletCutoverBatch`: the forward batch. -/
def runPrimaryCashWalletCutoverBatch (workerId : WorkerId) (lockStaleBefore : Nat) :
    CutoverProg (Except CashWalletCutoverError CashWalletMigrationBatchResult) :=
  runCashWalletMigrationBatch workerId lockStaleBefore
    (fun m => m.status ∉ terminalStatuses) executeCashWalletMigrationStep
    failureStatusForMigration

/-- `runPrimaryCashWalletRollbackBatch`: the rollback batch. -/
def runPrimaryCashWalletRollbackBatch (workerId : WorkerId) (lockStaleBefore : Nat) :
    CutoverProg (Except CashWalletCutoverError CashWalletMigrationBatchResult) :=
  runCashWalletMigrationBatch workerId lockStaleBefore
    (fun m => m.status = .rollbackStarted) executeCashWalletMigrationRollbackStep
    (fun _ => .requiresOperatorReview)

/-! ### The actors -/

/-- The programs that run against a migration, with their parameters. -/
inductive CutoverActor where
  | forwardBatch (workerId : WorkerId) (lockStaleBefore : Nat)
  | rollbackBatch (workerId : WorkerId) (lockStaleBefore : Nat)
  | retryFailed (singleAccount dryRun : Bool)
  | requestRollback (singleAccount dryRun : Bool)
  deriving DecidableEq, Repr

/-- The actor's program, its result discarded. -/
def CutoverActor.prog : CutoverActor → CutoverProg Unit
  | .forwardBatch w t => discard (runPrimaryCashWalletCutoverBatch w t)
  | .rollbackBatch w t => discard (runPrimaryCashWalletRollbackBatch w t)
  | .retryFailed s d => discard (retryFailedCashWalletMigrations s d)
  | .requestRollback s d => discard (requestPrimaryCashWalletRollback s d)
where
  discard {α : Type} (p : CutoverProg α) : CutoverProg Unit := p.bind fun _ => .pure ()

/-- A pool of cutover actors against a world. -/
abbrev CutoverPool := Pool World CutoverOp CutoverReply

/-- The pool running `actors` against `w`. -/
def CutoverPool.start (w : World) (actors : List CutoverActor) : CutoverPool :=
  ⟨w, actors.map CutoverActor.prog⟩

/-- A schedule's run of the cutover system. -/
def cutoverRun (c : CutoverPool) (sched : List (Nat × CutoverReply)) : Option CutoverPool :=
  Pool.run World.answer c sched

/-! ### Concrete runs -/

/-- What the environment decides at a call: it succeeds, it fails, or it returns a value. -/
inductive CutoverChoice where
  | ok
  | fail
  | value (n : Nat)
  deriving DecidableEq, Repr

/-- The reply of a guarded write that did not fail. -/
def writeReply (matched : Option CashWalletMigration) (message : String) : CutoverReply :=
  match matched with
  | some m => .migration m
  | none => .error (.couldNotUpdate message)

/-- The reply the world gives to a call under the environment's choice. -/
def World.oracle (w : World) : CutoverOp → CutoverChoice → CutoverReply
  | .findMigration, .fail => .error .repository
  | .findMigration, _ => .migration w.migration
  | .transitionMigration _, .fail => .error .repository
  | .transitionMigration a, _ =>
      writeReply (CashWalletCutoverRepository.transitionMigration w.migration a)
        "Could not transition cash wallet migration"
  | .acquireMigrationLock _ _, .fail => .error .repository
  | .acquireMigrationLock workerId staleBefore, _ =>
      writeReply
        (CashWalletCutoverRepository.acquireMigrationLock w.migration workerId staleBefore w.clock)
        "Could not acquire cash wallet migration lock"
  | .releaseMigrationLock _, .fail => .error .repository
  | .releaseMigrationLock workerId, _ =>
      writeReply (CashWalletCutoverRepository.releaseMigrationLock w.migration workerId)
        "Could not release cash wallet migration lock"
  | .markMigrationFailed _ _, .fail => .error .repository
  | .markMigrationFailed workerId status, _ =>
      writeReply (CashWalletCutoverRepository.markMigrationFailed w.migration workerId status)
        "Could not mark cash wallet migration failed"
  | .findAccountDefaultWalletId, .fail => .error .repository
  | .findAccountDefaultWalletId, _ => .wallet w.defaultWalletId
  | .updateDefaultWalletId _, .fail => .error .service
  | .updateDefaultWalletId _, _ => .done
  | .now, .value t => .time t
  | .now, _ => .time w.clock
  | .readSourceBalanceUsdCents, .fail => .error .service
  | .readSourceBalanceUsdCents, .value n => .cents ⟨n, []⟩
  | .readSourceBalanceUsdCents, .ok => .cents ⟨0, []⟩
  | .readDestinationBalanceUsdtMicros, .fail => .error .service
  | .readDestinationBalanceUsdtMicros, .value n => .micros n
  | .readDestinationBalanceUsdtMicros, .ok => .micros 0
  | .readDestinationSpendableUsdtMicros, .fail => .error .service
  | .readDestinationSpendableUsdtMicros, .value n => .micros n
  | .readDestinationSpendableUsdtMicros, .ok => .micros 0
  | .readFeeAmountUsdtMicros, .fail => .error .service
  | .readFeeAmountUsdtMicros, .value n => .micros n
  | .readFeeAmountUsdtMicros, .ok => .micros 0
  | .createNoAmountInvoice _ _, .fail => .error .service
  | .createNoAmountInvoice _ memo, _ =>
      .invoice ⟨w.nextId, w.clock + cutoverIbexInvoiceExpirationMs, memo⟩
  | .createInvoice _ _ _, .fail => .error .service
  | .createInvoice _ _ memo, _ =>
      .invoice ⟨w.nextId, w.clock + cutoverIbexInvoiceExpirationMs, memo⟩
  | .payInvoice _, .fail => .error .service
  | .payInvoice _, _ => .transaction w.nextId
  | .getTreasuryWalletId, .fail => .error .service
  | .getTreasuryWalletId, _ => .wallet w.treasuryWalletId
  | .ensureDestinationWallet, .fail => .error .service
  | .ensureDestinationWallet, _ => .done
  | .verifyBalanceMove, .fail => .error .service
  | .verifyBalanceMove, _ => .done
  | .verifyLegacyWalletZero, .fail => .error .service
  | .verifyLegacyWalletZero, _ => .done

/-- A run of the cutover system driven by the environment's choices. -/
def cutoverRunBy (c : CutoverPool) (sched : List (Nat × CutoverChoice)) : Option CutoverPool :=
  Pool.runBy World.answer World.oracle c sched

theorem cutoverRunBy_reachable {c c' : CutoverPool} {sched : List (Nat × CutoverChoice)}
    (h : cutoverRunBy c sched = some c') : Pool.Reachable World.answer c c' :=
  Pool.runBy_reachable h

/-- A run driven by choices, cut in two: the pool where the first part ends. -/
theorem cutoverRunBy_append {c c₂ : CutoverPool} {xs ys : List (Nat × CutoverChoice)}
    (h : cutoverRunBy c (xs ++ ys) = some c₂) :
    ∃ c₁, cutoverRunBy c xs = some c₁ ∧ cutoverRunBy c₁ ys = some c₂ := by
  unfold cutoverRunBy at h ⊢
  rw [Pool.runBy_append] at h
  cases h₁ : Pool.runBy World.answer World.oracle c xs with
  | none => rw [h₁] at h; cases h
  | some c₁ => rw [h₁] at h; exact ⟨c₁, rfl, h⟩

/-- A migration as `upsertMigration` creates it: account 1, from legacy wallet 10 to USDT wallet
11, the account defaulting to the legacy wallet, the treasury being wallet 12. -/
def freshWorld : World where
  migration := { accountId := 1, legacyUsdWalletId := 10, destinationUsdtWalletId := 11 }
  defaultWalletId := 10
  treasuryWalletId := 12
  clock := 0
  nextId := 100
  payments := []

end CashWalletCutover
