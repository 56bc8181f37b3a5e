import Flash.Bridge.Service

/-!
# Bridge — withdrawals over every run

Pools of any withdrawal calls — requests, concurrent initiations of one withdrawal, cancellations,
transfer webhooks in any order and any number, reconciliation runs — against the world of
`Flash.Bridge.Withdrawals`, every reply of which may be a failure.

* `BridgeCall.prog_permitted`: no call asks `updateWithdrawalStatus` for `pending`; so, by the
  rely rule, `withdrawal_statuses_advance`: over every run each withdrawal's status moves only
  along the life cycle, and `withdrawal_final_status_kept`: `cancelled`, `completed` and
  `failed` are never left.
* `initiateWithdrawal_unarmed` and `initiateWithdrawal_spends`: `initiateWithdrawal` sends only
  after winning the submit compare-and-set of the withdrawal it sends for, and sends once; the
  other calls never send.  So, by `Threads.Pool.run_licensed_at_most_once`,
  `crypto_send_at_most_once`: over every run each withdrawal's crypto send is made at most once,
  and never for a withdrawal that is cancelled then or afterwards.
* `send_lost_after_transfer_failure`: a send is lost track of.  A transfer webhook reporting the
  transfer `canceled` lands between the submit compare-and-set and the IBEX calls and fails the
  withdrawal; the send goes ahead and IBEX accepts it, `updateWithdrawalOnchainSend` finds no
  `submitted` row, and the reconciliation, which scans `usdt_sent` and `send_failed` rows only,
  neither sees the withdrawal nor records an orphan.
-/

namespace Bridge

open Threads

/-! ### What each program issues -/

/-- The withdrawal a crypto send is for. -/
def BridgeOp.sendTarget : BridgeOp → Option WithdrawalId
  | .sendCrypto withdrawalId .. => some withdrawalId
  | _ => none

/-- `op` is permitted, and if it is a crypto send, it is one for `target`. -/
def BridgeOp.IssuedFor (target : Option WithdrawalId) (op : BridgeOp) : Prop :=
  op.Permitted ∧ ∀ k, op.sendTarget = some k → some k = target

theorem BridgeOp.IssuedFor.not_sendsFor {target : Option WithdrawalId} {op : BridgeOp}
    {k : WithdrawalId} (h : op.IssuedFor target) (hk : target ≠ some k) :
    ¬ BridgeWorld.SendsFor k op := by
  intro hs
  cases op with
  | sendCrypto withdrawalId _ _ _ =>
      have hid : withdrawalId = k := hs
      subst hid
      exact hk (h.2 withdrawalId rfl).symm
  | _ => exact hs

/-- A permitted operation that is not a crypto send is issued for any target. -/
theorem BridgeOp.IssuedFor.of_quiet {target : Option WithdrawalId} {op : BridgeOp}
    (hp : op.Permitted) (hs : op.sendTarget = none) : op.IssuedFor target :=
  ⟨hp, fun _ h => by rw [hs] at h; cases h⟩

/-! Each call of a repository or an API is one operation, after which the program ends whatever
the reply: one lemma each.  Each program is then followed statement by statement: a sequence
issues what its parts do (`Always.exceptBind`), a guard what follows it (`Always.throwIf`), and a
`match` or an `if` what each of its branches does. -/

section Calls

variable {target : Option WithdrawalId}

theorem checkAccountLevel_issued (accountId : AccountId) :
    Always (BridgeOp.IssuedFor target) (checkAccountLevel accountId).run :=
  .call (.of_quiet trivial rfl) fun _ => by split <;> exact .pure _

theorem getCustomerStatus_issued (customerId : String) :
    Always (BridgeOp.IssuedFor target) (getCustomerStatus customerId).run :=
  .call (.of_quiet trivial rfl) fun _ => by split <;> exact .pure _

theorem syncExternalAccountsFromBridge_issued (accountId : AccountId) (customerId : String) :
    Always (BridgeOp.IssuedFor target) (syncExternalAccountsFromBridge accountId customerId).run :=
  .call (.of_quiet trivial rfl) fun _ => by split <;> exact .pure _

theorem findUsdtWallet_issued (accountId : AccountId) :
    Always (BridgeOp.IssuedFor target) (findUsdtWallet accountId).run :=
  .call (.of_quiet trivial rfl) fun _ => by split <;> exact .pure _

theorem getBalanceForWallet_issued (walletId : WalletId) :
    Always (BridgeOp.IssuedFor target) (getBalanceForWallet walletId).run :=
  .call (.of_quiet trivial rfl) fun _ => by split <;> exact .pure _

theorem findWithdrawalById_issued (id : WithdrawalId) :
    Always (BridgeOp.IssuedFor target) (BridgeAccountsRepo.findWithdrawalById id).run :=
  .call (.of_quiet trivial rfl) fun _ => .pure _

theorem findPendingWithdrawalWithoutTransfer_issued (accountId : AccountId)
    (externalAccountId : String) (amount : Nat) :
    Always (BridgeOp.IssuedFor target)
      (BridgeAccountsRepo.findPendingWithdrawalWithoutTransfer accountId externalAccountId
        amount).run :=
  .call (.of_quiet trivial rfl) fun _ => by split <;> exact .pure _

theorem createWithdrawal_issued (accountId : AccountId) (amount : Nat)
    (externalAccountId : String) :
    Always (BridgeOp.IssuedFor target)
      (BridgeAccountsRepo.createWithdrawal accountId amount externalAccountId).run := by
  refine .call (.of_quiet trivial rfl) fun _ => ?_
  split
  · exact .pure _
  · -- the unique index refused the row: the pending row of the tuple is read
    exact .call (.of_quiet trivial rfl) fun _ => by split <;> exact .pure _
  · exact .pure _
  · exact .pure _

theorem updateWithdrawalFeeEstimates_issued (id : WithdrawalId) :
    Always (BridgeOp.IssuedFor target) (BridgeAccountsRepo.updateWithdrawalFeeEstimates id).run :=
  .call (.of_quiet trivial rfl) fun _ => .pure _

/-- A guarded write other than a status update. -/
theorem guardedWrite_issued {w : WithdrawalWrite} (hw : w.Permitted) (message : String) :
    Always (BridgeOp.IssuedFor target) (BridgeAccountsRepo.guardedWrite w message).run :=
  .call (.of_quiet hw rfl) fun _ => .pure _

theorem updateWithdrawalStatus_issued (transferId : TransferId) {status : StatusUpdate}
    (hs : status ≠ .pending) :
    Always (BridgeOp.IssuedFor target)
      (BridgeAccountsRepo.updateWithdrawalStatus transferId status).run := by
  have hp : (BridgeOp.write (.updateWithdrawalStatus transferId status)).Permitted := by
    cases status with
    | pending => exact absurd rfl hs
    | completed | failed => trivial
  refine .call (.of_quiet hp rfl) fun _ => ?_
  split
  · exact .pure _
  · -- the write matched nothing: the transfer's row tells a replay from a refused move
    refine .call (.of_quiet trivial rfl) fun _ => ?_
    split
    · exact .pure _
    · split <;> exact .pure _
    · exact .pure _
    · exact .pure _
  · exact .pure _
  · exact .pure _

theorem findReconcilable_issued :
    Always (BridgeOp.IssuedFor target) BridgeAccountsRepo.findReconcilable.run :=
  .call (.of_quiet trivial rfl) fun _ => by split <;> exact .pure _

theorem createTransfer_issued (idempotencyKey : String) (amount : Nat) (externalAccountId : String) :
    Always (BridgeOp.IssuedFor target)
      (BridgeApiClient.createTransfer idempotencyKey amount externalAccountId).run :=
  .call (.of_quiet trivial rfl) fun _ => by split <;> exact .pure _

theorem getTransfer_issued (transferId : TransferId) :
    Always (BridgeOp.IssuedFor target) (BridgeApiClient.getTransfer transferId).run :=
  .call (.of_quiet trivial rfl) fun _ => by split <;> exact .pure _

theorem getCryptoSendRequirements_issued :
    Always (BridgeOp.IssuedFor target) IbexClient.getCryptoSendRequirements.run :=
  .call (.of_quiet trivial rfl) fun _ => by split <;> exact .pure _

theorem createCryptoSendInfo_issued (name requirementsId address : String) :
    Always (BridgeOp.IssuedFor target)
      (IbexClient.createCryptoSendInfo name requirementsId address).run :=
  .call (.of_quiet trivial rfl) fun _ => by split <;> exact .pure _

theorem upsertOrphan_issued (orphan : ReconciliationOrphan) :
    Always (BridgeOp.IssuedFor target) (upsertOrphan orphan) :=
  .call (.of_quiet trivial rfl) fun _ => .pure _

theorem updateWithdrawalTransferId_issued (id : WithdrawalId) (transferId : TransferId)
    (amount : Nat) (address : Option String) :
    Always (BridgeOp.IssuedFor target)
      (BridgeAccountsRepo.updateWithdrawalTransferId id transferId amount address).run :=
  guardedWrite_issued (by trivial) _

theorem markWithdrawalSendFailed_issued (id : WithdrawalId) (transferId : TransferId)
    (amount : Nat) (address : String) :
    Always (BridgeOp.IssuedFor target) (markWithdrawalSendFailed id transferId amount address) :=
  .call (.of_quiet trivial rfl) fun _ => .pure _

end Calls

/-- The crypto send for `withdrawalId` is issued for it. -/
theorem sendCrypto_issued (withdrawalId : WithdrawalId) (accountId : WalletId)
    (cryptoSendInfosId : String) (amount : Nat) :
    Always (BridgeOp.IssuedFor (some withdrawalId))
      (IbexClient.sendCrypto withdrawalId accountId cryptoSendInfosId amount).run :=
  .call ⟨trivial, fun _ h => h.symm⟩ fun _ => by split <;> exact .pure _

theorem reportingAs_always {P : BridgeOp → Prop} {α : Type} {e : BridgeError}
    {x : BridgeTry α} (hx : Always P x.run) : Always P (reportingAs e x).run := by
  refine hx.bind fun r => ?_
  cases r with
  | ok a => exact .pure _
  | error _ => exact .pure _

theorem markingFailure_always {P : BridgeOp → Prop} {α : Type} {mark : BridgeProg Unit}
    {x : BridgeTry α} (hm : Always P mark) (hx : Always P x.run) :
    Always P (markingFailure mark x).run := by
  refine hx.bind fun e => ?_
  cases e with
  | ok a => exact .pure _
  | error e => exact hm.bind fun _ => .pure _

theorem requireApprovedBridgeCustomer_issued (account : Account) :
    Always (BridgeOp.IssuedFor none) (requireApprovedBridgeCustomer account).run := by
  unfold requireApprovedBridgeCustomer
  split
  · -- a Bridge customer: its KYC status, then the three status guards
    refine Always.exceptBind (getCustomerStatus_issued _) fun kycStatus => ?_
    exact Always.throwIf (Always.throwIf (Always.throwIf (.pure _)))
  · exact Always.fail _

theorem prepareWithdrawal_issued (accountId : AccountId) (withdrawalId : WithdrawalId) :
    Always (BridgeOp.IssuedFor none) (prepareWithdrawal accountId withdrawalId).run := by
  unfold prepareWithdrawal
  refine Always.exceptBind (checkAccountLevel_issued _) fun account => ?_
  refine Always.exceptBind (requireApprovedBridgeCustomer_issued _) fun customerId => ?_
  refine Always.exceptBind (reportingAs_always (findWithdrawalById_issued _))
    fun pendingWithdrawal => ?_
  -- the owner and status guards, then the external account and its guard
  refine Always.throwIf (Always.throwIf ?_)
  refine Always.exceptBind (syncExternalAccountsFromBridge_issued _ _) fun externalAccounts => ?_
  refine Always.throwIf ?_
  refine Always.exceptBind (findUsdtWallet_issued _) fun usdtWallet => ?_
  cases usdtWallet with
  | none => exact Always.fail _
  | some usdtWallet =>
    -- the balance and its guard
    exact Always.exceptBind (getBalanceForWallet_issued _) fun balance =>
      Always.throwIf (.pure _)

theorem createWithdrawalTransfer_issued (pendingWithdrawal : BridgeWithdrawal) :
    Always (BridgeOp.IssuedFor none) (createWithdrawalTransfer pendingWithdrawal).run := by
  unfold createWithdrawalTransfer
  refine Always.exceptBind (createTransfer_issued _ _ _) fun transfer => ?_
  -- the deposit address, or no deposit instructions
  split
  · exact .pure _
  · exact Always.fail _

theorem sendWithdrawal_issued (pendingWithdrawal : BridgeWithdrawal) (usdtWallet : WalletId)
    (transfer : BridgeTransfer) (address : String) :
    Always (BridgeOp.IssuedFor (some pendingWithdrawal.id))
      (sendWithdrawal pendingWithdrawal usdtWallet transfer address).run := by
  unfold sendWithdrawal
  have hmark : Always (BridgeOp.IssuedFor (some pendingWithdrawal.id))
      (markWithdrawalSendFailed pendingWithdrawal.id transfer.id transfer.amount address) :=
    markWithdrawalSendFailed_issued _ _ _ _
  refine Always.exceptBind (markingFailure_always hmark getCryptoSendRequirements_issued)
    fun requirementsId => ?_
  refine Always.exceptBind (markingFailure_always hmark (createCryptoSendInfo_issued _ _ _))
    fun cryptoSendInfo => ?_
  cases cryptoSendInfo with
  | none => exact markingFailure_always hmark (Always.fail _)
  | some cryptoSendInfosId =>
    -- the send, then the record of its payout
    exact Always.exceptBind (markingFailure_always hmark (sendCrypto_issued _ _ _ _))
      fun _ => guardedWrite_issued (by trivial) _

theorem requestWithdrawal_issued (accountId : AccountId) (amount : Nat)
    (externalAccountId : String) :
    Always (BridgeOp.IssuedFor none) (requestWithdrawal accountId amount externalAccountId).run := by
  unfold requestWithdrawal
  refine Always.exceptBind (checkAccountLevel_issued _) fun account => ?_
  refine Always.exceptBind (requireApprovedBridgeCustomer_issued _) fun customerId => ?_
  refine Always.exceptBind (findUsdtWallet_issued _) fun usdtWallet => ?_
  cases usdtWallet with
  | none => exact Always.fail _
  | some usdtWallet =>
    -- the balance, the amount and balance guards, the external accounts and their guard
    refine Always.exceptBind (getBalanceForWallet_issued _) fun balance => ?_
    refine Always.throwIf (Always.throwIf ?_)
    refine Always.exceptBind (syncExternalAccountsFromBridge_issued _ _) fun externalAccounts => ?_
    refine Always.throwIf ?_
    -- the pending row of the tuple is reused, or a new one created
    refine Always.exceptBind (findPendingWithdrawalWithoutTransfer_issued _ _ _) fun existing => ?_
    cases existing with
    | some existing => exact updateWithdrawalFeeEstimates_issued _
    | none => exact createWithdrawal_issued _ _ _

theorem cancelWithdrawalRequest_issued (accountId : AccountId) (withdrawalId : WithdrawalId) :
    Always (BridgeOp.IssuedFor none) (cancelWithdrawalRequest accountId withdrawalId).run := by
  unfold cancelWithdrawalRequest
  refine Always.exceptBind (checkAccountLevel_issued _) fun _ => ?_
  refine Always.exceptBind (reportingAs_always (findWithdrawalById_issued _)) fun withdrawal => ?_
  -- the owner and transfer guards, then the compare-and-set
  exact Always.throwIf (Always.throwIf (reportingAs_always (guardedWrite_issued (by trivial) _)))

theorem completeTransfer_issued (transferId : TransferId) :
    Always (BridgeOp.IssuedFor none) (completeTransfer transferId) := by
  refine (updateWithdrawalStatus_issued transferId (by decide)).bind fun r => ?_
  cases r with
  | ok _ => exact .pure _
  | error e =>
    -- not ready, or a failure to update: a response each
    dsimp only
    split <;> exact .pure _

theorem failTransfer_issued (transferId : TransferId) :
    Always (BridgeOp.IssuedFor none) (failTransfer transferId) := by
  refine (updateWithdrawalStatus_issued transferId (by decide)).bind fun r => ?_
  cases r with
  | ok _ => exact .pure _
  | error e =>
    -- not ready, already terminal, or a failure to update: a response each
    dsimp only
    split_ifs <;> exact .pure _

theorem transferHandler_issued (payload : TransferEvent) :
    Always (BridgeOp.IssuedFor none) (transferHandler payload) := by
  unfold transferHandler
  split
  · -- a transient state is ignored; then completion, failure, or nothing
    split_ifs
    · exact .pure _
    · exact completeTransfer_issued _
    · exact failTransfer_issued _
    · exact .pure _
  · exact .pure _

theorem reconcileSendFailed_issued (summary : ReconcileSummary) (transferId : TransferId) :
    Always (BridgeOp.IssuedFor none) (reconcileSendFailed summary transferId) := by
  refine .call (.of_quiet trivial rfl) fun _ => ?_
  split
  · exact .pure _
  · -- the delete threw: the transfer is recorded as an orphan
    exact (upsertOrphan_issued _).bind fun _ => .pure _

theorem reconcileSent_issued (summary : ReconcileSummary) (transferId : TransferId) :
    Always (BridgeOp.IssuedFor none) (reconcileSent summary transferId).run := by
  unfold reconcileSent
  refine Always.exceptBind (getTransfer_issued _) fun state => ?_
  split
  · -- Bridge processed the payment: the withdrawal is completed
    refine (updateWithdrawalStatus_issued transferId (by decide)).bind fun r => ?_
    cases r with
    | ok _ => exact .pure _
    | error _ => exact .pure _
  · split
    · exact .pure _
    · -- Bridge failed the transfer after the send: an orphan
      exact (upsertOrphan_issued _).bind fun _ => .pure _

theorem reconcileWithdrawal_issued (summary : ReconcileSummary) (withdrawal : BridgeWithdrawal) :
    Always (BridgeOp.IssuedFor none) (reconcileWithdrawal summary withdrawal).run := by
  unfold reconcileWithdrawal
  split
  · exact .pure _
  · split_ifs
    · exact (reconcileSendFailed_issued _ _).bind fun _ => .pure _
    · exact reconcileSent_issued _ _

theorem reconcileBridgeAndIbexWithdrawals_issued :
    Always (BridgeOp.IssuedFor none) reconcileBridgeAndIbexWithdrawals.run :=
  Always.exceptBind findReconcilable_issued fun withdrawals =>
    Always.foldlM reconcileWithdrawal_issued withdrawals _

theorem BridgeOp.IssuedFor.permitted {target : Option WithdrawalId} {op : BridgeOp}
    (h : op.IssuedFor target) : op.Permitted :=
  h.1

theorem initiateWithdrawal_permitted (accountId : AccountId) (withdrawalId : WithdrawalId) :
    Always BridgeOp.Permitted (initiateWithdrawal accountId withdrawalId).run := by
  unfold initiateWithdrawal
  refine Always.exceptBind ((prepareWithdrawal_issued _ _).mono fun _ h => h.permitted)
    fun ⟨pendingWithdrawal, usdtWallet⟩ => ?_
  refine Always.exceptBind ((createWithdrawalTransfer_issued _).mono fun _ h => h.permitted)
    fun ⟨transfer, address⟩ => ?_
  have hsubmit : Always (BridgeOp.IssuedFor none) (BridgeAccountsRepo.updateWithdrawalTransferId
      pendingWithdrawal.id transfer.id transfer.amount (some address)).run :=
    updateWithdrawalTransferId_issued _ _ _ _
  exact Always.exceptBind (hsubmit.mono fun _ h => h.permitted)
    fun _ => (sendWithdrawal_issued _ _ _ _).mono fun _ h => h.permitted

/-- A call other than `initiateWithdrawal` makes no crypto send. -/
theorem BridgeCall.prog_issued (c : BridgeCall) (hc : ∀ a w, c ≠ .initiateWithdrawal a w) :
    Always (BridgeOp.IssuedFor none) c.prog := by
  cases c with
  | requestWithdrawal a m e => exact (requestWithdrawal_issued a m e).bind fun _ => .pure _
  | initiateWithdrawal a w => exact absurd rfl (hc a w)
  | cancelWithdrawalRequest a w => exact (cancelWithdrawalRequest_issued a w).bind fun _ => .pure _
  | transferWebhook payload => exact (transferHandler_issued payload).bind fun _ => .pure _
  | reconcile => exact reconcileBridgeAndIbexWithdrawals_issued.bind fun _ => .pure _

/-- **No call asks `updateWithdrawalStatus` for `pending`.** -/
theorem BridgeCall.prog_permitted (c : BridgeCall) : Always BridgeOp.Permitted c.prog := by
  cases c with
  | initiateWithdrawal a w => exact (initiateWithdrawal_permitted a w).bind fun _ => .pure _
  | _ => exact (BridgeCall.prog_issued _ fun _ _ h => by cases h).mono fun _ h => h.permitted

/-! ### The life cycle over whole runs -/

/-- Every call of a pool is permitted. -/
theorem BridgePool.start_permitted (w : BridgeWorld) (calls : List BridgeCall) :
    Pool.AllAlways BridgeOp.Permitted (BridgePool.start w calls) := by
  intro p hp
  obtain ⟨call, -, rfl⟩ := List.mem_map.mp hp
  exact call.prog_permitted

/-- **Statuses move only along the life cycle.**  Over every run of any calls from any world, each
withdrawal keeps its place and its id, and its status is reached from where it was by the moves
`pending → submitted | cancelled`, `submitted → usdt_sent | send_failed | completed | failed` and
`usdt_sent → completed | failed`. -/
theorem withdrawal_statuses_advance (w : BridgeWorld) (calls : List BridgeCall)
    (sched : List (Nat × BridgeReply)) (c : Pool BridgeWorld BridgeOp BridgeReply)
    (h : Pool.run BridgeWorld.answer (BridgePool.start w calls) sched = some c) :
    BridgeWorld.Advanced w.withdrawals c.world.withdrawals :=
  Pool.run_world (I := fun s => BridgeWorld.Advanced w.withdrawals s.withdrawals)
    (fun _ _ _ _ hp hI hs => hI.trans (BridgeWorld.answer_advanced hp hs))
    (BridgePool.start_permitted w calls) (BridgeWorld.Advanced.refl _) h

/-- **A final status is never left.**  Over every run of any calls from any world, a withdrawal
`cancelled`, `completed` or `failed` stays in its place with its id and its status. -/
theorem withdrawal_final_status_kept (w : BridgeWorld) (calls : List BridgeCall)
    (sched : List (Nat × BridgeReply)) (c : Pool BridgeWorld BridgeOp BridgeReply)
    (h : Pool.run BridgeWorld.answer (BridgePool.start w calls) sched = some c) {i : Nat}
    {d : BridgeWithdrawal} (hd : w.withdrawals[i]? = some d) (hfinal : d.status.IsFinal) :
    ∃ d', c.world.withdrawals[i]? = some d' ∧ d'.id = d.id ∧ d'.status = d.status := by
  -- each step moves the withdrawal at `i` along the life cycle, which leaves no final status
  refine Pool.run_world
    (I := fun s => ∃ d', s.withdrawals[i]? = some d' ∧ d'.id = d.id ∧ d'.status = d.status)
    (fun s _ _ s' hp hI hs => ?_) (BridgePool.start_permitted w calls) ⟨d, hd, rfl, rfl⟩ h
  obtain ⟨d', hd', hid, hstatus⟩ := hI
  obtain ⟨d'', hd'', hid', hreach⟩ := BridgeWorld.answer_advanced hp hs i d' hd'
  have hfinal' : d'.status.IsFinal := hstatus ▸ hfinal
  exact ⟨d'', hd'', hid'.trans hid,
    (WithdrawalStatus.eq_of_reach_final hfinal' hreach).trans hstatus⟩

/-! ### The crypto send over whole runs -/

open BridgeWorld (SendsFor Submits)

/-- An error of `orNotFound` unless the write returned a document. -/
theorem orNotFound_eq_ok {message : String} {r : BridgeReply} {d : BridgeWithdrawal}
    (h : BridgeAccountsRepo.orNotFound message r = .ok d) : r = .withdrawal (some d) := by
  unfold BridgeAccountsRepo.orNotFound at h
  split at h
  · cases h
    rfl
  all_goals cases h

/-- After the submit compare-and-set on `k`, only its won reply lets a program go on. -/
theorem submit_guards {β : Type} (k : WithdrawalId) (transferId : TransferId) (amount : Nat)
    (address : Option String) (f : BridgeWithdrawal → BridgeTry β) :
    ¬ Reaches (SendsFor k) (Submits k)
      (BridgeAccountsRepo.updateWithdrawalTransferId k transferId amount address >>= f).run := by
  refine Reaches.not_call (fun h => h) fun r hr => ?_
  show ¬ Reaches _ _ ((Prog.pure _).bind _)
  rw [Prog.pure_bind]
  cases hok : BridgeAccountsRepo.orNotFound "Withdrawal not found or already submitted" r with
  | error e => exact Reaches.not_pure _
  | ok d => exact absurd (by rw [orNotFound_eq_ok hok]; rfl) hr

/-- **`initiateWithdrawal` holds no licence to send**: every way to its crypto send for `k` goes
through a won submit compare-and-set on `k`. -/
theorem initiateWithdrawal_unarmed (accountId : AccountId) (withdrawalId : WithdrawalId)
    (k : WithdrawalId) :
    ¬ Reaches (SendsFor k) (Submits k) (initiateWithdrawal accountId withdrawalId).run := by
  have hquiet : ∀ {op : BridgeOp}, op.IssuedFor none → ¬ SendsFor k op :=
    fun h => h.not_sendsFor (by simp)
  unfold initiateWithdrawal
  refine Reaches.not_exceptBind (Reaches.not_of_always ((prepareWithdrawal_issued _ _).mono
    fun _ => hquiet)) fun ⟨pendingWithdrawal, usdtWallet⟩ => ?_
  refine Reaches.not_exceptBind (Reaches.not_of_always ((createWithdrawalTransfer_issued _).mono
    fun _ => hquiet)) fun ⟨transfer, address⟩ => ?_
  by_cases hk : k = pendingWithdrawal.id
  · -- the compare-and-set is on `k`: nothing follows unless it is won
    subst hk
    exact submit_guards _ _ _ _ _
  · -- the send that follows is for another withdrawal
    refine Reaches.not_of_always (Always.exceptBind ((updateWithdrawalTransferId_issued _ _ _ _).mono
      fun _ => hquiet) fun _ => (sendWithdrawal_issued _ _ _ _).mono fun _ h => ?_)
    exact h.not_sendsFor (by simpa using Ne.symm hk)

/-- **`sendWithdrawal` sends once**: nothing of it follows its crypto send but the records of the
send's outcome. -/
theorem sendWithdrawal_spends (pendingWithdrawal : BridgeWithdrawal) (usdtWallet : WalletId)
    (transfer : BridgeTransfer) (address : String) (k : WithdrawalId) :
    SpendsLicence (SendsFor k) (Submits k)
      (sendWithdrawal pendingWithdrawal usdtWallet transfer address).run := by
  have hquiet : ∀ {op : BridgeOp}, op.IssuedFor none → ¬ SendsFor k op :=
    fun h => h.not_sendsFor (by simp)
  by_cases hk : k = pendingWithdrawal.id
  · subst hk
    unfold sendWithdrawal
    have hmark : Always (BridgeOp.IssuedFor none)
        (markWithdrawalSendFailed pendingWithdrawal.id transfer.id transfer.amount address) :=
      markWithdrawalSendFailed_issued _ _ _ _
    have hquiet' : ∀ {α : Type} {p : BridgeProg α}, Always (BridgeOp.IssuedFor none) p →
        Always (fun op => ¬ SendsFor pendingWithdrawal.id op) p :=
      fun h => h.mono fun _ => hquiet
    -- the send requirements and the crypto send info come first, and send nothing
    refine SpendsLicence.exceptBind_of_always
      (hquiet' (markingFailure_always hmark getCryptoSendRequirements_issued))
      fun requirementsId => ?_
    refine SpendsLicence.exceptBind_of_always
      (hquiet' (markingFailure_always hmark (createCryptoSendInfo_issued _ _ _)))
      fun cryptoSendInfo => ?_
    cases cryptoSendInfo with
    | none => exact SpendsLicence.of_always (hquiet' (markingFailure_always hmark (Always.fail _)))
    | some cryptoSendInfosId =>
        -- the send, after which only its reply, the failure mark and the payout's record follow
        refine SpendsLicence.call_last fun _ => hquiet' ?_
        refine Always.bind (Always.bind ?_ fun e => ?_) fun e => ?_
        · beta_reduce
          split <;> exact .pure _
        · cases e with
          | ok _ => exact .pure _
          | error _ => exact hmark.bind fun _ => .pure _
        · cases e with
          | ok _ => exact guardedWrite_issued (by trivial) _
          | error _ => exact .pure _
  · exact SpendsLicence.of_always ((sendWithdrawal_issued _ _ _ _).mono
      fun _ h => h.not_sendsFor (by simpa using Ne.symm hk))

theorem initiateWithdrawal_spends (accountId : AccountId) (withdrawalId : WithdrawalId)
    (k : WithdrawalId) :
    SpendsLicence (SendsFor k) (Submits k) (initiateWithdrawal accountId withdrawalId).run := by
  have hquiet : ∀ {op : BridgeOp}, op.IssuedFor none → ¬ SendsFor k op :=
    fun h => h.not_sendsFor (by simp)
  unfold initiateWithdrawal
  refine SpendsLicence.exceptBind_of_always ((prepareWithdrawal_issued _ _).mono fun _ => hquiet)
    fun ⟨pendingWithdrawal, usdtWallet⟩ => ?_
  refine SpendsLicence.exceptBind_of_always ((createWithdrawalTransfer_issued _).mono
    fun _ => hquiet) fun ⟨transfer, address⟩ => ?_
  exact SpendsLicence.exceptBind_of_always ((updateWithdrawalTransferId_issued _ _ _ _).mono
    fun _ => hquiet) fun _ => sendWithdrawal_spends _ _ _ _ k

/-- No call starts with a licence to send. -/
theorem BridgeCall.prog_unarmed (c : BridgeCall) (k : WithdrawalId) :
    ¬ Reaches (SendsFor k) (Submits k) c.prog := by
  cases c with
  | initiateWithdrawal a w =>
      exact Reaches.not_bind (initiateWithdrawal_unarmed a w k) fun _ => Reaches.not_pure _
  | _ =>
      exact Reaches.not_of_always ((BridgeCall.prog_issued _ fun _ _ h => by cases h).mono
        fun _ h => h.not_sendsFor (by simp))

/-- Every call spends each licence it wins. -/
theorem BridgeCall.prog_spends (c : BridgeCall) (k : WithdrawalId) :
    SpendsLicence (SendsFor k) (Submits k) c.prog := by
  cases c with
  | initiateWithdrawal a w =>
      exact SpendsLicence.bind_always (initiateWithdrawal_spends a w k) fun _ => .pure _
  | _ =>
      exact SpendsLicence.of_always ((BridgeCall.prog_issued _ fun _ _ h => by cases h).mono
        fun _ h => h.not_sendsFor (by simp))

/-- **A withdrawal's crypto send is made at most once, and never for a cancelled withdrawal.**
Over every run of any calls, from a world whose ids are unique, where no cancelled withdrawal has
a transfer and no send was made yet: at most one `sendCrypto` was made for each withdrawal, and if
one was, the withdrawal is not cancelled — at the end of this run, and so at the end of every
longer one. -/
theorem crypto_send_at_most_once (w : BridgeWorld) (calls : List BridgeCall)
    (sched : List (Nat × BridgeReply)) (c : Pool BridgeWorld BridgeOp BridgeReply)
    (hw : BridgeWorld.StoreInv w) (hsends : w.sends = [])
    (h : Pool.run BridgeWorld.answer (BridgePool.start w calls) sched = some c) (k : WithdrawalId) :
    BridgeWorld.sendCount k c.world ≤ 1 ∧
      (0 < BridgeWorld.sendCount k c.world →
        ∀ d ∈ c.world.withdrawals, d.id = k → d.status ≠ .cancelled) := by
  have hstart : ∀ k, Pool.LicenceInv SendsFor Submits BridgeWorld.Unsubmitted
      BridgeWorld.sendCount k (BridgePool.start w calls) := fun k => by
    refine Pool.LicenceInv.start (by simp [BridgeWorld.sendCount, BridgePool.start, hsends])
      (fun p hp => ?_) (fun p hp => ?_)
    all_goals obtain ⟨call, -, rfl⟩ := List.mem_map.mp hp
    · exact call.prog_unarmed k
    · exact call.prog_spends k
  obtain ⟨hW, hk⟩ := Pool.run_licensed_at_most_once BridgeWorld.sendLicensing hw hstart h
  refine ⟨(hk k).1, fun hpos d hd hid hc => (hk k).2 hpos fun d' hd' hid' => ?_⟩
  -- a send closed `k`: its withdrawal has a transfer, which no cancelled withdrawal has
  have hsame : d' = d := List.inj_on_of_nodup_map hW.ids_nodup hd' hd (hid'.trans hid.symm)
  subst hsame
  exact hW.cancelled_untransferred d' hd hc

/-! ### A send lost after a transfer failure -/

/-- One account with a USDT wallet holding 1000, an external account, and a pending withdrawal
of 500 to it. -/
def lostSendWorld : BridgeWorld where
  accounts := fun a => if a = 1 then some ⟨1, some "cus-1"⟩ else none
  customerStatus := fun _ => "active"
  externalAccounts := fun a => if a = 1 then ["ext-1"] else []
  usdtWallet := fun a => if a = 1 then some 11 else none
  balance := fun _ => 1000
  withdrawals := [newWithdrawal 7 1 500 "ext-1"]
  transfers := []
  sends := []
  orphans := []

/-- The initiation of the withdrawal, Bridge's webhook reporting its transfer `canceled`, and a
reconciliation. -/
def lostSendCalls : List BridgeCall :=
  [.initiateWithdrawal 1 7,
    .transferWebhook ⟨some "transfer.updated.status_transitioned", some 70, some "canceled"⟩,
    .reconcile]

/-- The transfer Bridge creates for the withdrawal's key. -/
def lostSendTransfer : BridgeTransfer := ⟨70, deriveWithdrawalIdempotencyKey 7, 500, some "0xdeposit"⟩

/-- The withdrawal after the submit compare-and-set. -/
def submittedWithdrawal : BridgeWithdrawal :=
  { newWithdrawal 7 1 500 "ext-1" with
    status := .submitted, bridgeTransferId := some 70, bridgeDepositAddress := some "0xdeposit" }

/-- The initiation runs to its compare-and-set; the webhook fails the withdrawal; the initiation
makes its IBEX calls, all accepted, and its `updateWithdrawalOnchainSend` matches nothing; the
reconciliation scans nothing. -/
def lostSendSchedule : List (Nat × BridgeReply) :=
  [(0, .account (some ⟨1, some "cus-1"⟩)), (0, .customerStatus "active"),
    (0, .withdrawal (some (newWithdrawal 7 1 500 "ext-1"))), (0, .externalAccounts ["ext-1"]),
    (0, .usdtWallet (some 11)), (0, .balance 1000), (0, .transfer lostSendTransfer),
    (0, .withdrawal (some submittedWithdrawal)),
    (1, .withdrawal (some { submittedWithdrawal with status := .failed })),
    (0, .requirements "req-1"), (0, .sendInfo (some "info-1")),
    (0, .sendResult (some "payout-1")), (0, .withdrawal none),
    (2, .withdrawals [])]

/-- The run ends with IBEX's accepted send of the 500 for the withdrawal, the withdrawal `failed`
with no payout id, outside the reconciliation's scan, and no orphan recorded. -/
theorem send_lost_after_transfer_failure :
    ∃ c, Pool.run BridgeWorld.answer (BridgePool.start lostSendWorld lostSendCalls)
        lostSendSchedule = some c ∧
      c.world.sends = [⟨7, 11, "info-1", 500, true⟩] ∧
      c.world.withdrawals.map (fun d => (d.status, d.ibexPayoutId)) = [(.failed, none)] ∧
      c.world.withdrawals.filter WithdrawalFilter.reconcilable.matches = [] ∧
      c.world.orphans = [] :=
  ⟨_, rfl, by decide, by decide, by decide, by decide⟩

/-- The run moves the withdrawal along the life cycle only. -/
theorem lost_send_run_advances :
    ∃ c, Pool.run BridgeWorld.answer (BridgePool.start lostSendWorld lostSendCalls)
        lostSendSchedule = some c ∧
      BridgeWorld.Advanced lostSendWorld.withdrawals c.world.withdrawals :=
  ⟨_, rfl, withdrawal_statuses_advance lostSendWorld lostSendCalls lostSendSchedule _ rfl⟩

/-- The withdrawal once it failed. -/
def failedWithdrawal : BridgeWithdrawal :=
  { submittedWithdrawal with status := .failed }

/-- The same account, its withdrawal failed. -/
def lateCompletionWorld : BridgeWorld :=
  { lostSendWorld with withdrawals := [failedWithdrawal] }

/-- Bridge's late webhook reporting the transfer's payment processed. -/
def lateCompletionCalls : List BridgeCall :=
  [.transferWebhook ⟨some "transfer.updated.status_transitioned", some 70, some "payment_processed"⟩]

/-- The completion's guarded write matches nothing, and the transfer's row is read `failed`. -/
def lateCompletionSchedule : List (Nat × BridgeReply) :=
  [(0, .withdrawal none), (0, .withdrawal (some failedWithdrawal))]

/-- A late completion leaves the failed withdrawal failed. -/
theorem late_completion_keeps_failed :
    ∃ c, Pool.run BridgeWorld.answer (BridgePool.start lateCompletionWorld lateCompletionCalls)
        lateCompletionSchedule = some c ∧
      lateCompletionWorld.withdrawals[0]? = some failedWithdrawal ∧
      failedWithdrawal.status.IsFinal ∧
      ∃ d', c.world.withdrawals[0]? = some d' ∧ d'.id = failedWithdrawal.id ∧
        d'.status = failedWithdrawal.status :=
  ⟨_, rfl, rfl, .inr (.inr rfl), withdrawal_final_status_kept lateCompletionWorld
    lateCompletionCalls lateCompletionSchedule _ rfl rfl (.inr (.inr rfl))⟩

/-- The run sends for the withdrawal once, and it is not cancelled. -/
theorem lost_send_run_sends_once :
    ∃ c, Pool.run BridgeWorld.answer (BridgePool.start lostSendWorld lostSendCalls)
        lostSendSchedule = some c ∧
      BridgeWorld.sendCount 7 c.world ≤ 1 ∧
      (0 < BridgeWorld.sendCount 7 c.world →
        ∀ d ∈ c.world.withdrawals, d.id = 7 → d.status ≠ .cancelled) :=
  ⟨_, rfl, crypto_send_at_most_once lostSendWorld lostSendCalls lostSendSchedule _
    ⟨by decide, by decide⟩ rfl rfl 7⟩

end Bridge
