import Flash.CashWalletCutover.Runner

/-!
# Cash-wallet cutover — payments issued twice

The four payments of a migration (the legacy → USDT balance move, the treasury fee
reimbursement, the rollback's reverse move and its treasury top-up) are told apart by the memo
of the invoice they pay.  `World.PaidAtMostOnce` says each was issued at most once.

It does not hold of every run.  The lock a forward batch takes is only a hint: once it is stale
another worker takes it over while its holder is still running, and nothing the holder does
afterwards checks the lock.  `treasury_fee_reimbursement_paid_twice` is such a run from a fresh
migration: worker 1 pays the fee invoice and stalls before recording the payment; worker 2
takes the stale lock, finds the invoice about to expire, mints a new one and pays it too.
Worker 2's write wins, worker 1's write and its failure mark find nothing to update, and the
record shows one fee payment while the treasury has made two.
-/

namespace CashWalletCutover

open Threads

/-- The payments of one purpose that IBEX accepted. -/
def World.paymentsFor (w : World) (memo : InvoiceMemo) : List IssuedPayment :=
  w.payments.filter (·.paymentRequest.memo = memo)

/-- Each of the migration's payments was issued at most once. -/
def World.PaidAtMostOnce (w : World) : Prop :=
  ∀ memo, (w.paymentsFor memo).length ≤ 1

/-- Eight forward batches that take the migration to `fee_reimbursement_invoice_created`, then
worker 1, and worker 2 whose batch treats locks taken before time `100000` as stale. -/
def staleLockActors : List CutoverActor :=
  List.replicate 9 (.forwardBatch 1 0) ++ [.forwardBatch 2 100000]

open CutoverChoice in
/-- The schedule of `treasury_fee_reimbursement_paid_twice`. -/
def staleLockSchedule : List (Nat × CutoverChoice) :=
  -- not_started → started → provisioned → balance_read (500 cents) → invoice_created
  [(0, ok), (0, ok), (0, ok), (0, ok),
   (1, ok), (1, ok), (1, ok), (1, ok), (1, ok),
   (2, ok), (2, ok), (2, value 500), (2, ok), (2, ok), (2, ok),
   (3, ok), (3, ok), (3, ok), (3, ok), (3, ok),
   -- the balance move is paid and recorded, sent, verified
   (4, ok), (4, ok), (4, ok), (4, ok), (4, ok), (4, ok),
   (5, ok), (5, ok), (5, ok), (5, ok),
   (6, ok), (6, ok), (6, ok), (6, ok), (6, ok),
   -- a fee of 5000 micros gets a no-amount invoice, expiring at 900000
   (7, ok), (7, ok), (7, value 5000), (7, ok), (7, ok), (7, ok),
   -- worker 1 locks at time 0, reads the clock at 600000 and pays the fee invoice
   (8, ok), (8, ok), (8, ok), (8, value 600000), (8, ok),
   -- worker 2 takes the stale lock; at 880000 the invoice is stale, so it mints and pays another
   (9, ok), (9, ok), (9, ok), (9, value 880000), (9, ok), (9, ok), (9, ok), (9, ok), (9, ok),
   -- worker 1's write finds the record moved on, and its failure mark finds no lock
   (8, ok), (8, ok)]

/-- From a fresh migration, a forward batch whose lock went stale and the batch that took it
over both pay the treasury's fee reimbursement. -/
theorem treasury_fee_reimbursement_paid_twice :
    ∃ c, Pool.Reachable World.answer (CutoverPool.start freshWorld staleLockActors) c ∧
      (c.world.paymentsFor .fee).length = 2 ∧ ¬ c.world.PaidAtMostOnce := by
  have h : (cutoverRunBy (CutoverPool.start freshWorld staleLockActors) staleLockSchedule).map
      (fun c => (c.world.paymentsFor .fee).length) = some 2 := by
    decide
  obtain ⟨c, hc, hlen⟩ := Option.map_eq_some_iff.mp h
  refine ⟨c, cutoverRunBy_reachable hc, hlen, fun hOnce => ?_⟩
  have hfee := hOnce .fee
  omega

end CashWalletCutover
