import Mathlib
import Flash.Support.Documents
import Flash.Support.Licence

/-!
# Bridge — the withdrawal collection and the services it talks to

The `BridgeWithdrawal` collection (`services/mongoose/bridge-accounts.ts`) with its guarded
`findOneAndUpdate` writes, Bridge's transfers (`createTransfer` is idempotent per idempotency
key), IBEX's crypto sends, and the reconciliation orphans, as a world answering the operations
the withdrawal code awaits.

* `WithdrawalWrite`: the five guarded writes — `updateWithdrawalTransferId`,
  `updateWithdrawalOnchainSend`, `updateWithdrawalSendFailed`, `cancelWithdrawal` and the
  `findOneAndUpdate` of `updateWithdrawalStatus` — each a filter and an update.
* `WithdrawalWrite.step_of_filter`: each moves the status of a document it matches along the
  withdrawal's life cycle `WithdrawalStatus.Step`, once `updateWithdrawalStatus` is not asked
  for `pending`.
* `BridgeWorld.answer_storeInv`: ids stay unique and a cancelled withdrawal never has a transfer.
* `BridgeWorld.answer_advanced`: every permitted operation leaves each withdrawal at its place,
  its status advanced along the life cycle.
* `BridgeWorld.sendLicensing`: winning the submit compare-and-set on a withdrawal is a licence
  for its crypto send in the sense of `Threads.Pool.Licensing`.

Fee fields, currencies, timestamps, failure reasons and IBEX transaction hashes are written by
the code but read by none of the functions modelled, and are left out; amounts are numbers of the
smallest unit rather than decimal strings.
-/

namespace Bridge

open Threads Documents

/-- Identifiers of the source's strings, as numbers. -/
abbrev AccountId := Nat
abbrev WithdrawalId := Nat
abbrev TransferId := Nat
abbrev WalletId := Nat

/-! ### Statuses -/

/-- `BridgeWithdrawal.status`. -/
inductive WithdrawalStatus where
  | pending
  | submitted
  | usdtSent
  | sendFailed
  | completed
  | failed
  | cancelled
  deriving DecidableEq, Repr

namespace WithdrawalStatus

/-- The string the collection stores. -/
def toString : WithdrawalStatus → String
  | pending => "pending"
  | submitted => "submitted"
  | usdtSent => "usdt_sent"
  | sendFailed => "send_failed"
  | completed => "completed"
  | failed => "failed"
  | cancelled => "cancelled"

/-- The moves of a withdrawal's life cycle: submitted or cancelled while pending; sent, failed to
send, completed or failed once submitted; completed or failed once sent. -/
inductive Step : WithdrawalStatus → WithdrawalStatus → Prop
  | submit : Step pending submitted
  | cancel : Step pending cancelled
  | send : Step submitted usdtSent
  | sendFail : Step submitted sendFailed
  | complete : Step submitted completed
  | fail : Step submitted failed
  | sentComplete : Step usdtSent completed
  | sentFail : Step usdtSent failed

/-- A status reached by moves of the life cycle. -/
def Reach : WithdrawalStatus → WithdrawalStatus → Prop := Relation.ReflTransGen Step

/-- `cancelled`, `completed` and `failed`. -/
def IsFinal (s : WithdrawalStatus) : Prop := s = cancelled ∨ s = completed ∨ s = failed

theorem not_final_of_step {s t : WithdrawalStatus} (h : Step s t) : ¬ IsFinal s := by
  cases h <;> simp [IsFinal]

/-- A final status is never left. -/
theorem eq_of_reach_final {s t : WithdrawalStatus} (hs : IsFinal s) (h : Reach s t) : t = s := by
  induction h with
  | refl => rfl
  | tail _ hstep ih =>
      subst ih
      exact absurd hs (not_final_of_step hstep)

end WithdrawalStatus

/-! ### Documents -/

/-- A `BridgeWithdrawal` document, of the fields the modelled code reads. -/
structure BridgeWithdrawal where
  id : WithdrawalId
  accountId : AccountId
  amount : Nat
  externalAccountId : String
  status : WithdrawalStatus
  bridgeTransferId : Option TransferId
  bridgeDepositAddress : Option String
  ibexPayoutId : Option String
  deriving DecidableEq, Repr

/-- The document `createWithdrawal` inserts: `pending`, with no transfer. -/
def newWithdrawal (id : WithdrawalId) (accountId : AccountId) (amount : Nat)
    (externalAccountId : String) : BridgeWithdrawal :=
  { id, accountId, amount, externalAccountId, status := .pending, bridgeTransferId := none,
    bridgeDepositAddress := none, ibexPayoutId := none }

/-- The filters of the reads. -/
inductive WithdrawalFilter where
  /-- `{ _id: id }`: `findWithdrawalById`. -/
  | id (id : WithdrawalId)
  /-- `{ accountId, externalAccountId, amount, bridgeTransferId: { $exists: false },
  status: "pending" }`: `findPendingWithdrawalWithoutTransfer`. -/
  | pendingWithoutTransfer (accountId : AccountId) (externalAccountId : String) (amount : Nat)
  /-- `{ accountId, externalAccountId, amount, currency, status: "pending" }`: the row the unique
  index refused a `createWithdrawal` for. -/
  | pendingTuple (accountId : AccountId) (externalAccountId : String) (amount : Nat)
  /-- `{ bridgeTransferId }`. -/
  | transferId (bridgeTransferId : TransferId)
  /-- `{ status: { $in: ["usdt_sent", "send_failed"] }, bridgeTransferId: { $exists: true } }`,
  the reconciliation's scan; its `updatedAt` window is left out, so the model scans more. -/
  | reconcilable
  deriving DecidableEq, Repr

/-- Whether a filter matches a document. -/
def WithdrawalFilter.matches : WithdrawalFilter → BridgeWithdrawal → Bool
  | .id withdrawalId, d => d.id == withdrawalId
  | .pendingWithoutTransfer accountId externalAccountId amount, d =>
      d.accountId == accountId && d.externalAccountId == externalAccountId &&
        d.amount == amount && d.bridgeTransferId.isNone && d.status == .pending
  | .pendingTuple accountId externalAccountId amount, d =>
      d.accountId == accountId && d.externalAccountId == externalAccountId &&
        d.amount == amount && d.status == .pending
  | .transferId bridgeTransferId, d => d.bridgeTransferId == some bridgeTransferId
  | .reconcilable, d =>
      (d.status == .usdtSent || d.status == .sendFailed) && d.bridgeTransferId.isSome

/-! ### Guarded writes -/

/-- The status `updateWithdrawalStatus` is asked to set. -/
inductive StatusUpdate where
  | pending
  | completed
  | failed
  deriving DecidableEq, Repr

def StatusUpdate.toStatus : StatusUpdate → WithdrawalStatus
  | pending => .pending
  | completed => .completed
  | failed => .failed

/-- The guarded writes of `bridge-accounts.ts`, each one `findOneAndUpdate`. -/
inductive WithdrawalWrite where
  | updateWithdrawalTransferId (id : WithdrawalId) (bridgeTransferId : TransferId) (amount : Nat)
      (bridgeDepositAddress : Option String)
  | updateWithdrawalOnchainSend (id : WithdrawalId) (ibexPayoutId : Option String)
  | updateWithdrawalSendFailed (id : WithdrawalId) (bridgeTransferId : TransferId) (amount : Nat)
      (bridgeDepositAddress : String)
  | cancelWithdrawal (accountId : AccountId) (withdrawalId : WithdrawalId)
  /-- The first call of `updateWithdrawalStatus`. -/
  | updateWithdrawalStatus (bridgeTransferId : TransferId) (status : StatusUpdate)
  deriving DecidableEq, Repr

namespace WithdrawalWrite

/-- The write's filter. -/
def filter : WithdrawalWrite → BridgeWithdrawal → Bool
  | updateWithdrawalTransferId id .., d =>
      d.id == id && d.status == .pending && d.bridgeTransferId.isNone
  | updateWithdrawalOnchainSend id _, d =>
      d.id == id && d.status == .submitted && d.ibexPayoutId.isNone
  | updateWithdrawalSendFailed id .., d =>
      d.id == id && d.status == .submitted && d.ibexPayoutId.isNone
  | cancelWithdrawal accountId withdrawalId, d =>
      d.id == withdrawalId && d.accountId == accountId && d.status == .pending &&
        d.bridgeTransferId.isNone
  | updateWithdrawalStatus bridgeTransferId _, d =>
      d.bridgeTransferId == some bridgeTransferId &&
        (d.status == .submitted || d.status == .usdtSent)

/-- The write's update; an optional field is set only when given. -/
def update : WithdrawalWrite → BridgeWithdrawal → BridgeWithdrawal
  | updateWithdrawalTransferId _ bridgeTransferId amount bridgeDepositAddress, d =>
      { d with bridgeTransferId := some bridgeTransferId, amount, status := .submitted,
               bridgeDepositAddress := bridgeDepositAddress.or d.bridgeDepositAddress }
  | updateWithdrawalOnchainSend _ ibexPayoutId, d =>
      { d with status := .usdtSent, ibexPayoutId := ibexPayoutId.or d.ibexPayoutId }
  | updateWithdrawalSendFailed _ bridgeTransferId amount bridgeDepositAddress, d =>
      { d with bridgeTransferId := some bridgeTransferId, amount,
               bridgeDepositAddress := some bridgeDepositAddress, status := .sendFailed }
  | cancelWithdrawal .., d => { d with status := .cancelled }
  | updateWithdrawalStatus _ status, d => { d with status := status.toStatus }

/-- The writes the code makes: `updateWithdrawalStatus` is never asked for `pending`. -/
def Permitted : WithdrawalWrite → Prop
  | updateWithdrawalStatus _ .pending => False
  | _ => True

@[simp] theorem update_id (w : WithdrawalWrite) (d : BridgeWithdrawal) : (w.update d).id = d.id := by
  cases w <;> rfl

/-- A permitted write moves a document it matches one step along the life cycle. -/
theorem step_of_filter {w : WithdrawalWrite} {d : BridgeWithdrawal} (hw : w.Permitted)
    (hf : w.filter d) : WithdrawalStatus.Step d.status (w.update d).status := by
  cases w with
  | updateWithdrawalTransferId =>
      simp only [filter, Bool.and_eq_true, beq_iff_eq] at hf
      simpa [update, hf.1.2] using WithdrawalStatus.Step.submit
  | updateWithdrawalOnchainSend =>
      simp only [filter, Bool.and_eq_true, beq_iff_eq] at hf
      simpa [update, hf.1.2] using WithdrawalStatus.Step.send
  | updateWithdrawalSendFailed =>
      simp only [filter, Bool.and_eq_true, beq_iff_eq] at hf
      simpa [update, hf.1.2] using WithdrawalStatus.Step.sendFail
  | cancelWithdrawal =>
      simp only [filter, Bool.and_eq_true, beq_iff_eq] at hf
      simpa [update, hf.1.2] using WithdrawalStatus.Step.cancel
  | updateWithdrawalStatus _ status =>
      simp only [filter, Bool.and_eq_true, Bool.or_eq_true, beq_iff_eq] at hf
      -- from `submitted` or `usdt_sent`, to `completed` or `failed`
      rcases hf.2 with hs | hs <;> cases status <;> simp_all [Permitted, update, StatusUpdate.toStatus] <;>
        constructor

/-- A transfer, once recorded, stays recorded. -/
theorem transferId_isSome {w : WithdrawalWrite} {d : BridgeWithdrawal}
    (h : d.bridgeTransferId.isSome) : (w.update d).bridgeTransferId.isSome := by
  cases w <;> simp_all [update]

/-- Only `cancelWithdrawal` cancels, and only a document with no transfer. -/
theorem untransferred_of_cancelled {w : WithdrawalWrite} {d : BridgeWithdrawal}
    (hf : w.filter d) (hc : (w.update d).status = .cancelled) : (w.update d).bridgeTransferId = none := by
  cases w with
  | cancelWithdrawal =>
      simp only [filter, Bool.and_eq_true, beq_iff_eq, Option.isNone_iff_eq_none] at hf
      exact hf.2
  | updateWithdrawalStatus _ status => cases status <;> simp [update, StatusUpdate.toStatus] at hc
  | _ => simp [update] at hc

/-- The submit compare-and-set matches only the withdrawal it names, while it has no transfer. -/
theorem filter_updateWithdrawalTransferId {id : WithdrawalId} {tid : TransferId} {amount : Nat}
    {addr : Option String} {d : BridgeWithdrawal}
    (hf : (updateWithdrawalTransferId id tid amount addr).filter d) :
    d.id = id ∧ d.bridgeTransferId = none := by
  simp only [filter, Bool.and_eq_true, beq_iff_eq, Option.isNone_iff_eq_none] at hf
  exact ⟨hf.1.1, hf.2⟩

end WithdrawalWrite

/-! ### The world -/

/-- An account, as `checkAccountLevel` and `requireApprovedBridgeCustomer` read it. -/
structure Account where
  level : Nat
  bridgeCustomerId : Option String
  deriving DecidableEq, Repr

/-- A Bridge transfer, as `createTransfer` returns it. -/
structure BridgeTransfer where
  id : TransferId
  idempotencyKey : String
  amount : Nat
  /-- `source_deposit_instructions.to_address`. -/
  depositAddress : Option String
  deriving DecidableEq, Repr

/-- A call of `IbexClient.sendCrypto`.  The withdrawal it pays out is the one its crypto send
info is named after (`bridge-withdrawal-<id>`). -/
structure CryptoSend where
  withdrawalId : WithdrawalId
  accountId : WalletId
  cryptoSendInfosId : String
  amount : Nat
  /-- IBEX accepted the send. -/
  accepted : Bool
  deriving DecidableEq, Repr

/-- A `BridgeReconciliationOrphan`. -/
structure ReconciliationOrphan where
  orphanKey : String
  orphanType : String
  transferId : TransferId
  deriving DecidableEq, Repr

/-- The collections and the services the withdrawal code reads and writes. -/
structure BridgeWorld where
  accounts : AccountId → Option Account
  /-- The KYC status Bridge reports for each customer. -/
  customerStatus : String → String
  /-- What `syncExternalAccountsFromBridge` returns: the ids of the account's verified external
  accounts that Bridge still lists as active. -/
  externalAccounts : AccountId → List String
  /-- The account's USDT checking wallet. -/
  usdtWallet : AccountId → Option WalletId
  balance : WalletId → Nat
  withdrawals : List BridgeWithdrawal
  transfers : List BridgeTransfer
  sends : List CryptoSend
  orphans : List ReconciliationOrphan

/-- What the withdrawal code awaits. -/
inductive BridgeOp where
  /-- `AccountsRepository().findById(accountId)`. -/
  | findAccount (accountId : AccountId)
  /-- `BridgeApiClient.getCustomer(customerId)`. -/
  | getCustomer (customerId : String)
  /-- `syncExternalAccountsFromBridge(accountId, customerId)`. -/
  | syncExternalAccounts (accountId : AccountId) (customerId : String)
  /-- `WalletsRepository().listByAccountId(accountId)`, of which the USDT checking wallet. -/
  | listWallets (accountId : AccountId)
  /-- `getBalanceForWallet({ walletId, currency: USDT })`. -/
  | getBalance (walletId : WalletId)
  /-- `BridgeWithdrawal.findOne(filter)`. -/
  | findOne (filter : WithdrawalFilter)
  /-- `BridgeWithdrawal.find(filter)`. -/
  | find (filter : WithdrawalFilter)
  /-- `BridgeWithdrawal.create(data)`, with `status: "pending"`. -/
  | createWithdrawal (accountId : AccountId) (amount : Nat) (externalAccountId : String)
  /-- `updateWithdrawalFeeEstimates`: `findByIdAndUpdate` of the fee fields only. -/
  | updateWithdrawalFeeEstimates (id : WithdrawalId)
  /-- A guarded write. -/
  | write (w : WithdrawalWrite)
  /-- `BridgeApiClient.createTransfer(customerId, body, idempotencyKey)`. -/
  | createTransfer (idempotencyKey : String) (amount : Nat) (externalAccountId : String)
  /-- `BridgeApiClient.deleteTransfer(transferId)`. -/
  | deleteTransfer (transferId : TransferId)
  /-- `BridgeApiClient.getTransfer(transferId)`. -/
  | getTransfer (transferId : TransferId)
  /-- `IbexClient.getCryptoSendRequirements`. -/
  | getCryptoSendRequirements
  /-- `IbexClient.createCryptoSendInfo({ name, requirementsId, data: { address } })`. -/
  | createCryptoSendInfo (name : String) (requirementsId : String) (address : String)
  /-- `IbexClient.sendCrypto({ accountId, cryptoSendInfosId, amount })`, for a withdrawal. -/
  | sendCrypto (withdrawalId : WithdrawalId) (accountId : WalletId) (cryptoSendInfosId : String)
      (amount : Nat)
  /-- `upsertBridgeReconciliationOrphan`. -/
  | upsertOrphan (orphan : ReconciliationOrphan)
  deriving DecidableEq, Repr

/-- The replies. -/
inductive BridgeReply where
  | account (found : Option Account)
  | customerStatus (status : String)
  | externalAccounts (ids : List String)
  | usdtWallet (found : Option WalletId)
  | balance (amount : Nat)
  /-- A document, or `null`. -/
  | withdrawal (found : Option BridgeWithdrawal)
  | withdrawals (found : List BridgeWithdrawal)
  /-- A write the unique index refused: `MongoServerError` code 11000. -/
  | duplicateKey
  | transfer (t : BridgeTransfer)
  | requirements (requirementsId : String)
  /-- The crypto send info, with its id if IBEX gave one. -/
  | sendInfo (id : Option String)
  /-- IBEX accepted the send; the payout id, if its response carries one. -/
  | sendResult (ibexPayoutId : Option String)
  | transferState (state : String)
  | done
  /-- A database call that failed, with `String(error)`. -/
  | repositoryError (message : String)
  /-- A Bridge call that threw, or an IBEX call that returned an error. -/
  | apiError (message : String)
  deriving DecidableEq, Repr

/-- The operations the code issues: `updateWithdrawalStatus` is never asked for `pending`. -/
def BridgeOp.Permitted : BridgeOp → Prop
  | .write w => w.Permitted
  | _ => True

namespace BridgeWorld

/-- The first document a filter matches. -/
def findOne (s : BridgeWorld) (filter : WithdrawalFilter) : Option BridgeWithdrawal :=
  s.withdrawals.find? filter.matches

/-- A read of the database: the value read, or a failure; nothing changes. -/
def read (s : BridgeWorld) (value : BridgeReply) : BridgeReply → Option BridgeWorld
  | .repositoryError _ => some s
  | r => if r = value then some s else none

/-- A call to a service outside: a reply of the kind `ok` accepts, or an error; nothing here
changes. -/
def external (s : BridgeWorld) (ok : BridgeReply → Bool) : BridgeReply → Option BridgeWorld
  | .apiError _ => some s
  | r => if ok r then some s else none

/-- `BridgeWithdrawal.create`: a fresh pending document, unless the unique index on pending
`(accountId, externalAccountId, amount, currency)` refuses it. -/
def createWithdrawal (s : BridgeWorld) (accountId : AccountId) (amount : Nat)
    (externalAccountId : String) : BridgeReply → Option BridgeWorld
  | .withdrawal (some d) =>
      if d = newWithdrawal d.id accountId amount externalAccountId ∧
          d.id ∉ s.withdrawals.map (·.id) ∧
          s.findOne (.pendingTuple accountId externalAccountId amount) = none
      then some { s with withdrawals := s.withdrawals ++ [d] } else none
  | .duplicateKey =>
      if (s.findOne (.pendingTuple accountId externalAccountId amount)).isSome then some s
      else none
  | .repositoryError _ => some s
  | _ => none

/-- A guarded write: the updated document and the collection when the filter matches, `null`
when it does not, or a failure. -/
def guardedWrite (s : BridgeWorld) (w : WithdrawalWrite) : BridgeReply → Option BridgeWorld
  | .withdrawal found =>
      match findOneAndUpdate w.filter w.update s.withdrawals with
      | some (u, ds) => if found = some u then some { s with withdrawals := ds } else none
      | none => if found = none then some s else none
  | .repositoryError _ => some s
  | _ => none

/-- `createTransfer`: the transfer already made under the key, or a fresh one for the amount. -/
def createTransfer (s : BridgeWorld) (idempotencyKey : String) (amount : Nat) :
    BridgeReply → Option BridgeWorld
  | .transfer t =>
      match s.transfers.find? (·.idempotencyKey == idempotencyKey) with
      | some made => if t = made then some s else none
      | none =>
          if t.idempotencyKey = idempotencyKey ∧ t.amount = amount ∧
              t.id ∉ s.transfers.map (·.id)
          then some { s with transfers := s.transfers ++ [t] } else none
  | .apiError _ => some s
  | _ => none

/-- `sendCrypto` is recorded whether IBEX accepts it or answers with an error. -/
def sendCrypto (s : BridgeWorld) (withdrawalId : WithdrawalId) (accountId : WalletId)
    (cryptoSendInfosId : String) (amount : Nat) : BridgeReply → Option BridgeWorld
  | .sendResult _ =>
      some { s with sends := s.sends ++ [⟨withdrawalId, accountId, cryptoSendInfosId, amount, true⟩] }
  | .apiError _ =>
      some { s with sends := s.sends ++ [⟨withdrawalId, accountId, cryptoSendInfosId, amount, false⟩] }
  | _ => none

/-- The upsert of an orphan by its key. -/
def upsertOrphan (s : BridgeWorld) (o : ReconciliationOrphan) : BridgeReply → Option BridgeWorld
  | .done =>
      some { s with orphans := o :: s.orphans.filter (·.orphanKey != o.orphanKey) }
  | .repositoryError _ => some s
  | _ => none

/-- The world's answers. -/
def answer (s : BridgeWorld) : BridgeOp → BridgeReply → Option BridgeWorld
  | .findAccount accountId => s.read (.account (s.accounts accountId))
  | .getCustomer customerId => s.external fun
      | .customerStatus st => st == s.customerStatus customerId
      | _ => false
  | .syncExternalAccounts accountId _ => s.read (.externalAccounts (s.externalAccounts accountId))
  | .listWallets accountId => s.read (.usdtWallet (s.usdtWallet accountId))
  | .getBalance walletId => s.read (.balance (s.balance walletId))
  | .findOne filter => s.read (.withdrawal (s.findOne filter))
  | .find filter => s.read (.withdrawals (s.withdrawals.filter filter.matches))
  | .createWithdrawal accountId amount externalAccountId =>
      s.createWithdrawal accountId amount externalAccountId
  | .updateWithdrawalFeeEstimates id => s.read (.withdrawal (s.findOne (.id id)))
  | .write w => s.guardedWrite w
  | .createTransfer idempotencyKey amount _ => s.createTransfer idempotencyKey amount
  | .deleteTransfer _ => s.external fun
      | .done => true
      | _ => false
  -- Bridge's view of a transfer's state is outside the model: any state may be reported
  | .getTransfer _ => s.external fun
      | .transferState _ => true
      | _ => false
  | .getCryptoSendRequirements => s.external fun
      | .requirements _ => true
      | _ => false
  | .createCryptoSendInfo .. => s.external fun
      | .sendInfo _ => true
      | _ => false
  | .sendCrypto withdrawalId accountId cryptoSendInfosId amount =>
      s.sendCrypto withdrawalId accountId cryptoSendInfosId amount
  | .upsertOrphan o => s.upsertOrphan o

/-! ### What an answer can do -/

variable {s s' : BridgeWorld} {op : BridgeOp} {r : BridgeReply}

theorem read_eq_some {value : BridgeReply} (h : s.read value r = some s') : s' = s := by
  unfold read at h
  split at h
  · exact (Option.some.inj h).symm
  · split at h
    · exact (Option.some.inj h).symm
    · cases h

theorem external_eq_some {ok : BridgeReply → Bool} (h : s.external ok r = some s') : s' = s := by
  unfold external at h
  split at h
  · exact (Option.some.inj h).symm
  · split at h
    · exact (Option.some.inj h).symm
    · cases h

theorem createWithdrawal_eq_some {accountId : AccountId} {amount : Nat} {externalAccountId : String}
    (h : s.createWithdrawal accountId amount externalAccountId r = some s') :
    s' = s ∨ ∃ d, d = newWithdrawal d.id accountId amount externalAccountId ∧
      d.id ∉ s.withdrawals.map (·.id) ∧ s' = { s with withdrawals := s.withdrawals ++ [d] } := by
  unfold createWithdrawal at h
  split at h
  · split at h
    · rename_i d hd
      exact .inr ⟨d, hd.1, hd.2.1, (Option.some.inj h).symm⟩
    · cases h
  · split at h
    · exact .inl (Option.some.inj h).symm
    · cases h
  · exact .inl (Option.some.inj h).symm
  · cases h

theorem guardedWrite_eq_some {w : WithdrawalWrite} (h : s.guardedWrite w r = some s') :
    (∃ u ds, r = .withdrawal (some u) ∧
      findOneAndUpdate w.filter w.update s.withdrawals = some (u, ds) ∧
      s' = { s with withdrawals := ds }) ∨ (s' = s ∧ ∀ u, r ≠ .withdrawal (some u)) := by
  unfold guardedWrite at h
  split at h
  · rename_i found
    split at h
    · rename_i u ds hw
      split at h
      · rename_i hfound
        exact .inl ⟨u, ds, by rw [hfound], hw, (Option.some.inj h).symm⟩
      · cases h
    · split at h
      · rename_i hfound
        exact .inr ⟨(Option.some.inj h).symm, by simp [hfound]⟩
      · cases h
  · exact .inr ⟨(Option.some.inj h).symm, by simp⟩
  · cases h

theorem createTransfer_withdrawals {key : String} {amount : Nat}
    (h : s.createTransfer key amount r = some s') : s'.withdrawals = s.withdrawals ∧ s'.sends = s.sends := by
  unfold createTransfer at h
  split at h
  · split at h
    · split at h
      · cases h; exact ⟨rfl, rfl⟩
      · cases h
    · split at h
      · cases h; exact ⟨rfl, rfl⟩
      · cases h
  · cases h; exact ⟨rfl, rfl⟩
  · cases h

theorem sendCrypto_eq_some {wid : WithdrawalId} {acc : WalletId} {info : String} {amount : Nat}
    (h : s.sendCrypto wid acc info amount r = some s') :
    ∃ accepted, s' = { s with sends := s.sends ++ [⟨wid, acc, info, amount, accepted⟩] } := by
  unfold sendCrypto at h
  split at h
  · exact ⟨true, (Option.some.inj h).symm⟩
  · exact ⟨false, (Option.some.inj h).symm⟩
  · cases h

theorem upsertOrphan_eq_some {o : ReconciliationOrphan} (h : s.upsertOrphan o r = some s') :
    s'.withdrawals = s.withdrawals ∧ s'.sends = s.sends := by
  unfold upsertOrphan at h
  split at h <;> cases h <;> exact ⟨rfl, rfl⟩

/-- How one document may change under an operation: not at all, or by the write the operation
is, when its filter matches. -/
def Evolves (op : BridgeOp) (d d' : BridgeWithdrawal) : Prop :=
  d' = d ∨ ∃ w, op = .write w ∧ w.filter d ∧ d' = w.update d

/-- **What an answer does to the collection**: every document stays at its place, changed only by
the write the operation is, and only `createWithdrawal` adds one, fresh and pending. -/
theorem answer_withdrawals (h : s.answer op r = some s') :
    ∃ ds added, s'.withdrawals = ds ++ added ∧ List.Forall₂ (Evolves op) s.withdrawals ds ∧
      (∀ d ∈ added, d.status = .pending ∧ d.bridgeTransferId = none ∧
        d.id ∉ s.withdrawals.map (·.id)) ∧ added.length ≤ 1 := by
  -- an answer that leaves the collection as it was
  have hsame : s'.withdrawals = s.withdrawals → ∃ ds added, s'.withdrawals = ds ++ added ∧
      List.Forall₂ (Evolves op) s.withdrawals ds ∧ (∀ d ∈ added, d.status = .pending ∧
        d.bridgeTransferId = none ∧ d.id ∉ s.withdrawals.map (·.id)) ∧ added.length ≤ 1 :=
    fun he => ⟨s.withdrawals, [], by simp [he], List.forall₂_same.mpr fun _ _ => .inl rfl,
      by simp, by simp⟩
  cases op with
  | createWithdrawal accountId amount externalAccountId =>
      rcases createWithdrawal_eq_some h with rfl | ⟨d, hd, hfresh, rfl⟩
      · exact hsame rfl
      · refine ⟨s.withdrawals, [d], rfl, List.forall₂_same.mpr fun _ _ => .inl rfl, ?_, by simp⟩
        intro d' hd'
        rw [List.mem_singleton.mp hd', hd]
        exact ⟨rfl, rfl, hd ▸ hfresh⟩
  | write w =>
      rcases guardedWrite_eq_some h with ⟨u, ds, -, hw, rfl⟩ | ⟨rfl, -⟩
      · refine ⟨ds, [], by simp, ?_, by simp, by simp⟩
        refine (findOneAndUpdate_forall₂ hw).imp fun d d' hdd => ?_
        rcases hdd with rfl | ⟨hf, rfl⟩
        · exact .inl rfl
        · exact .inr ⟨w, rfl, hf, rfl⟩
      · exact hsame rfl
  | createTransfer => exact hsame (createTransfer_withdrawals h).1
  | sendCrypto => obtain ⟨_, rfl⟩ := sendCrypto_eq_some h; exact hsame rfl
  | upsertOrphan => exact hsame (upsertOrphan_eq_some h).1
  | findAccount | syncExternalAccounts | listWallets | getBalance | findOne | find
    | updateWithdrawalFeeEstimates => exact hsame (by rw [read_eq_some h])
  | getCustomer | deleteTransfer | getTransfer | getCryptoSendRequirements
    | createCryptoSendInfo => exact hsame (by rw [external_eq_some h])

/-- **What an answer does to the sends**: only `sendCrypto` adds one, for its withdrawal. -/
theorem answer_sends (h : s.answer op r = some s') :
    s'.sends = s.sends ∨ ∃ wid acc info amount accepted, op = .sendCrypto wid acc info amount ∧
      s'.sends = s.sends ++ [⟨wid, acc, info, amount, accepted⟩] := by
  cases op with
  | sendCrypto wid acc info amount =>
      obtain ⟨accepted, rfl⟩ := sendCrypto_eq_some h
      exact .inr ⟨wid, acc, info, amount, accepted, rfl, rfl⟩
  | createWithdrawal =>
      rcases createWithdrawal_eq_some h with rfl | ⟨d, -, -, rfl⟩ <;> exact .inl rfl
  | write =>
      rcases guardedWrite_eq_some h with ⟨u, ds, -, -, rfl⟩ | ⟨rfl, -⟩ <;> exact .inl rfl
  | createTransfer => exact .inl (createTransfer_withdrawals h).2
  | upsertOrphan => exact .inl (upsertOrphan_eq_some h).2
  | findAccount | syncExternalAccounts | listWallets | getBalance | findOne | find
    | updateWithdrawalFeeEstimates => exact .inl (by rw [read_eq_some h])
  | getCustomer | deleteTransfer | getTransfer | getCryptoSendRequirements
    | createCryptoSendInfo => exact .inl (by rw [external_eq_some h])

theorem Evolves.id_eq {d d' : BridgeWithdrawal} (h : Evolves op d d') : d'.id = d.id := by
  rcases h with rfl | ⟨w, -, -, rfl⟩
  · rfl
  · exact w.update_id d

theorem map_id_of_evolves {ds ds' : List BridgeWithdrawal} (h : List.Forall₂ (Evolves op) ds ds') :
    ds'.map (·.id) = ds.map (·.id) := by
  induction h with
  | nil => rfl
  | cons hd _ ih => simp [hd.id_eq, ih]

/-! ### Invariants of the collection -/

/-- Ids are unique, and a cancelled withdrawal has no transfer. -/
structure StoreInv (s : BridgeWorld) : Prop where
  ids_nodup : (s.withdrawals.map (·.id)).Nodup
  cancelled_untransferred : ∀ d ∈ s.withdrawals, d.status = .cancelled → d.bridgeTransferId = none

/-- At most one document is added, with an id not yet taken. -/
theorem nodup_ids_append {ds added : List BridgeWithdrawal} (hds : (ds.map (·.id)).Nodup)
    (hfresh : ∀ d ∈ added, d.id ∉ ds.map (·.id)) (hlen : added.length ≤ 1) :
    ((ds ++ added).map (·.id)).Nodup := by
  rw [List.map_append]
  refine List.nodup_append.mpr ⟨hds, ?_, ?_⟩
  · match added, hlen with
    | [], _ => exact List.nodup_nil
    | [_], _ => simp
  · rintro a ha b hb rfl
    obtain ⟨d, hd, rfl⟩ := List.mem_map.mp hb
    exact hfresh d hd ha

theorem answer_storeInv (hI : StoreInv s) (h : s.answer op r = some s') : StoreInv s' := by
  obtain ⟨ds, added, hws, hev, hadded, hlen⟩ := answer_withdrawals h
  constructor
  · rw [hws]
    refine nodup_ids_append (by rw [map_id_of_evolves hev]; exact hI.ids_nodup) ?_ hlen
    intro d hd
    rw [map_id_of_evolves hev]
    exact (hadded d hd).2.2
  · intro d' hd' hc
    rw [hws] at hd'
    rcases List.mem_append.mp hd' with hd' | hd'
    · -- a document that was there: kept, or written by a write whose filter it matched
      obtain ⟨d, hd, hevo⟩ := exists_of_forall₂_right hev hd'
      rcases hevo with rfl | ⟨w, -, hf, rfl⟩
      · exact hI.cancelled_untransferred d' hd hc
      · exact w.untransferred_of_cancelled hf hc
    · simp [(hadded d' hd').1] at hc

/-! ### The life cycle over whole runs -/

/-- Each document of `ds` is still at its place in `ds'`, under its id, with a status reached
from its old one along the life cycle. -/
def Advanced (ds ds' : List BridgeWithdrawal) : Prop :=
  ∀ (i : Nat) (d : BridgeWithdrawal), ds[i]? = some d →
    ∃ d' : BridgeWithdrawal, ds'[i]? = some d' ∧ d'.id = d.id ∧
      WithdrawalStatus.Reach d.status d'.status

theorem Advanced.refl (ds : List BridgeWithdrawal) : Advanced ds ds :=
  fun _ d hd => ⟨d, hd, rfl, .refl⟩

theorem Advanced.trans {ds ds' ds'' : List BridgeWithdrawal} (h : Advanced ds ds')
    (h' : Advanced ds' ds'') : Advanced ds ds'' := by
  intro i d hd
  obtain ⟨d', hd', hid, hreach⟩ := h i d hd
  obtain ⟨d'', hd'', hid', hreach'⟩ := h' i d' hd'
  exact ⟨d'', hd'', hid'.trans hid, hreach.trans hreach'⟩

/-- A permitted operation advances every document. -/
theorem answer_advanced (hp : op.Permitted) (h : s.answer op r = some s') :
    Advanced s.withdrawals s'.withdrawals := by
  obtain ⟨ds, added, hws, hev, -, -⟩ := answer_withdrawals h
  intro i d hd
  obtain ⟨d', hd', hevo⟩ := getElem?_of_forall₂ hev hd
  have hlt : i < ds.length := (List.getElem?_eq_some_iff.mp hd').1
  refine ⟨d', by rw [hws, List.getElem?_append_left hlt, hd'], hevo.id_eq, ?_⟩
  rcases hevo with rfl | ⟨w, rfl, hf, rfl⟩
  · exact .refl
  · exact .single (w.step_of_filter hp hf)

/-! ### The crypto send's licence -/

/-- `sendCrypto` for the withdrawal `k`. -/
def SendsFor (k : WithdrawalId) : BridgeOp → Prop
  | .sendCrypto withdrawalId .. => withdrawalId = k
  | _ => False

/-- The submit compare-and-set on `k` matched: the licence to send for `k`. -/
def Submits (k : WithdrawalId) : BridgeOp → BridgeReply → Prop
  | .write (.updateWithdrawalTransferId id ..), .withdrawal (some _) => id = k
  | _, _ => False

/-- No document of `k` has a transfer. -/
def Unsubmitted (k : WithdrawalId) (s : BridgeWorld) : Prop :=
  ∀ d ∈ s.withdrawals, d.id = k → d.bridgeTransferId = none

/-- The crypto sends made for `k`. -/
def sendCount (k : WithdrawalId) (s : BridgeWorld) : Nat :=
  s.sends.countP (·.withdrawalId == k)

/-- The only answers that submit `k`: the transfer id written to `k`'s document, found. -/
theorem Submits.eq_write {k : WithdrawalId} (hg : Submits k op r) :
    ∃ tid amount addr u, op = .write (.updateWithdrawalTransferId k tid amount addr) ∧
      r = .withdrawal (some u) := by
  unfold Submits at hg
  split at hg
  · subst hg
    exact ⟨_, _, _, _, rfl, rfl⟩
  · exact hg.elim

/-- A won submit finds `k` open and closes it. -/
theorem submit_closes {k : WithdrawalId} (hI : StoreInv s) (h : s.answer op r = some s')
    (hg : Submits k op r) : Unsubmitted k s ∧ ¬ Unsubmitted k s' ∧ s'.sends = s.sends := by
  obtain ⟨tid, amount, addr, u, rfl, rfl⟩ := Submits.eq_write hg
  have hw : s.guardedWrite (.updateWithdrawalTransferId k tid amount addr) (.withdrawal (some u)) =
      some s' := h
  rcases guardedWrite_eq_some hw with ⟨u', ds, hu, hw, rfl⟩ | ⟨-, hne⟩
  · cases hu
    obtain ⟨d, hd, hf, rfl, hmem⟩ := findOneAndUpdate_mem hw
    obtain ⟨hid, hnone⟩ := WithdrawalWrite.filter_updateWithdrawalTransferId hf
    refine ⟨fun d' hd' hid' => ?_, fun hopen => ?_, rfl⟩
    · -- ids are unique, so `d` is the only document of `k`
      have : d' = d := List.inj_on_of_nodup_map hI.ids_nodup hd' hd (hid'.trans hid.symm)
      rw [this, hnone]
    · have := hopen _ hmem (by simp [hid])
      simp [WithdrawalWrite.update] at this
  · exact absurd rfl (hne u)

/-- A document of `k` that has a transfer keeps one. -/
theorem submitted_stays (h : s.answer op r = some s') {k : WithdrawalId}
    (hopen : Unsubmitted k s') : Unsubmitted k s := by
  obtain ⟨ds, added, hws, hev, -, -⟩ := answer_withdrawals h
  intro d hd hid
  obtain ⟨d', hd', hevo⟩ := exists_of_forall₂_left hev hd
  have hsome : d.bridgeTransferId.isSome → d'.bridgeTransferId.isSome := by
    rcases hevo with rfl | ⟨w, -, -, rfl⟩
    · exact id
    · exact WithdrawalWrite.transferId_isSome
  have hnone := hopen d' (by rw [hws]; exact List.mem_append_left _ hd') (hevo.id_eq.trans hid)
  cases hd' : d.bridgeTransferId with
  | none => rfl
  | some t => simp [hd', hnone] at hsome

theorem sendCount_answer {k : WithdrawalId} (h : s.answer op r = some s') :
    (SendsFor k op → sendCount k s' ≤ sendCount k s + 1) ∧
      (¬ SendsFor k op → sendCount k s' = sendCount k s) := by
  rcases answer_sends h with hsame | ⟨wid, acc, info, amount, accepted, rfl, hsends⟩
  · simp [sendCount, hsame]
  · simp only [sendCount, hsends, List.countP_append, List.countP_singleton, SendsFor]
    refine ⟨fun _ => by split <;> omega, fun hne => ?_⟩
    simp [hne]

/-- **The crypto send is licensed by the submit compare-and-set**: the world grants the licence
for `k` only while no document of `k` has a transfer, and then records one; only a send for `k`
counts for `k`. -/
theorem sendLicensing : Pool.Licensing answer SendsFor Submits Unsubmitted sendCount StoreInv where
  inv hI h := answer_storeInv hI h
  grant hI h hg := by
    obtain ⟨hopen, hclosed, hsends⟩ := submit_closes hI h hg
    exact ⟨hopen, hclosed, by simp [sendCount, hsends]⟩
  spend _ h hs := (sendCount_answer h).1 hs
  keep _ h hs := (sendCount_answer h).2 hs
  stays_closed _ h hopen := submitted_stays h hopen

end BridgeWorld

end Bridge
