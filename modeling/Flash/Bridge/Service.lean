import Flash.Bridge.Withdrawals
import Flash.Support.Js

/-!
# Bridge — the withdrawal code

`requestWithdrawal`, `initiateWithdrawal` and `cancelWithdrawalRequest` (`services/bridge/index.ts`),
the transfer webhook's `transferHandler` (`webhook-server/routes/transfer.ts`) and
`reconcileBridgeAndIbexWithdrawals` (`services/bridge/reconciliation.ts`), as programs against
the world of `Flash.Bridge.Withdrawals`.

`initiateWithdrawal` is cut where its argument is: `prepareWithdrawal` checks the withdrawal and
the funds, `createWithdrawalTransfer` creates the transfer, the submit compare-and-set
`updateWithdrawalTransferId` follows, and `sendWithdrawal` makes the IBEX calls.  No status is
read between the compare-and-set and the send.

Notifications, alerts, ERPNext audit rows and the webhook's processed-event lock write nothing the
modelled code reads and are left out; so are the fee estimate of a request and the mapping of a
request's errors.
-/

namespace Bridge

open Threads

/-- A program of the withdrawal code. -/
abbrev BridgeProg := Prog BridgeOp BridgeReply

/-- The errors the withdrawal code returns. -/
inductive BridgeError where
  | accountLevel
  | couldNotFindAccount
  | customerNotFound
  | kycOffboarded
  | kycRejected
  | kycPending
  | withdrawalNotFound
  | alreadyInitiated
  | insufficientFunds (message : String)
  | depositInstructionsMissing
  /-- A `RepositoryError`. -/
  | repository (message : String)
  /-- What a Bridge call threw, or an IBEX call returned. -/
  | api (message : String)
  /-- A plain `Error` or `BridgeError` with its message. -/
  | other (message : String)
  deriving DecidableEq, Repr

/-- `error.message`, as the code constructs each error. -/
def BridgeError.message : BridgeError → String
  | .accountLevel => "Bridge requires at least a Personal account (Level 1+)"
  | .couldNotFindAccount => ""
  | .customerNotFound => "Account has no Bridge customer ID. Complete KYC first."
  | .kycOffboarded => "Your account has been offboarded from Bridge. Please contact support."
  | .kycRejected => "KYC verification was rejected"
  | .kycPending => "KYC must be approved before withdrawal"
  | .withdrawalNotFound => "Withdrawal request not found"
  | .alreadyInitiated =>
      "Withdrawal has already been submitted to Bridge and cannot be cancelled"
  | .insufficientFunds message => message
  | .depositInstructionsMissing =>
      "Bridge did not return crypto deposit instructions for this withdrawal"
  | .repository message => message
  | .api message => message
  | .other message => message

/-- A program of the withdrawal code that may return an error. -/
abbrev BridgeTry := ExceptT BridgeError BridgeProg

/-- A reply no call of this kind gives. -/
def unexpectedReply : BridgeError := .other "Unexpected reply"

/-- `if (x instanceof Error) return new E()`: an error of `x` is reported as `e`. -/
def reportingAs {α : Type} (e : BridgeError) (x : BridgeTry α) : BridgeTry α :=
  ExceptT.mk <| x.run.bind fun
    | .ok a => .pure (.ok a)
    | .error _ => .pure (.error e)

/-! ### Calls -/

/-- `AccountsRepository().findById(accountId)`, then the level check of `checkAccountLevel`. -/
def checkAccountLevel (accountId : AccountId) : BridgeTry Account :=
  ExceptT.mk <| .call (.findAccount accountId) fun
    | .account (some account) => .pure (if account.level < 1 then .error .accountLevel else .ok account)
    | .account none => .pure (.error .couldNotFindAccount)
    | .repositoryError message => .pure (.error (.repository message))
    | _ => .pure (.error unexpectedReply)

/-- `BridgeApiClient.getCustomer(customerId)`, of which the KYC status. -/
def getCustomerStatus (customerId : String) : BridgeTry String :=
  ExceptT.mk <| .call (.getCustomer customerId) fun
    | .customerStatus status => .pure (.ok status)
    | .apiError message => .pure (.error (.api message))
    | _ => .pure (.error unexpectedReply)

/-- `requireApprovedBridgeCustomer`. -/
def requireApprovedBridgeCustomer (account : Account) : BridgeTry String := do
  let some customerId := account.bridgeCustomerId | throw .customerNotFound
  let kycStatus ← getCustomerStatus customerId
  if kycStatus = "offboarded" then throw .kycOffboarded
  if kycStatus = "rejected" then throw .kycRejected
  if kycStatus ≠ "active" ∧ kycStatus ≠ "approved" then throw .kycPending
  return customerId

/-- `syncExternalAccountsFromBridge(accountId, customerId)`: the ids of the verified external
accounts Bridge still lists. -/
def syncExternalAccountsFromBridge (accountId : AccountId) (customerId : String) :
    BridgeTry (List String) :=
  ExceptT.mk <| .call (.syncExternalAccounts accountId customerId) fun
    | .externalAccounts ids => .pure (.ok ids)
    | .repositoryError message => .pure (.error (.repository message))
    | _ => .pure (.error unexpectedReply)

/-- `WalletsRepository().listByAccountId(accountId)`, of which the USDT checking wallet. -/
def findUsdtWallet (accountId : AccountId) : BridgeTry (Option WalletId) :=
  ExceptT.mk <| .call (.listWallets accountId) fun
    | .usdtWallet found => .pure (.ok found)
    | .repositoryError message => .pure (.error (.repository message))
    | _ => .pure (.error unexpectedReply)

/-- `getBalanceForWallet({ walletId, currency: USDT })`. -/
def getBalanceForWallet (walletId : WalletId) : BridgeTry Nat :=
  ExceptT.mk <| .call (.getBalance walletId) fun
    | .balance amount => .pure (.ok amount)
    | .repositoryError message => .pure (.error (.repository message))
    | _ => .pure (.error unexpectedReply)

namespace BridgeAccountsRepo

/-- `BRIDGE_WITHDRAWAL_NOT_FOUND`. -/
def BRIDGE_WITHDRAWAL_NOT_FOUND : String := "Withdrawal not found"

/-- `record || new RepositoryError(message)`, or the error the call threw. -/
def orNotFound (message : String) : BridgeReply → Except BridgeError BridgeWithdrawal
  | .withdrawal (some d) => .ok d
  | .withdrawal none => .error (.repository message)
  | .repositoryError m => .error (.repository m)
  | _ => .error unexpectedReply

/-- `findWithdrawalById`. -/
def findWithdrawalById (id : WithdrawalId) : BridgeTry BridgeWithdrawal :=
  ExceptT.mk <| .call (.findOne (.id id)) fun r => .pure (orNotFound BRIDGE_WITHDRAWAL_NOT_FOUND r)

/-- `findPendingWithdrawalWithoutTransfer`: the row, or `null`. -/
def findPendingWithdrawalWithoutTransfer (accountId : AccountId) (externalAccountId : String)
    (amount : Nat) : BridgeTry (Option BridgeWithdrawal) :=
  ExceptT.mk <| .call (.findOne (.pendingWithoutTransfer accountId externalAccountId amount)) fun
    | .withdrawal found => .pure (.ok found)
    | .repositoryError message => .pure (.error (.repository message))
    | _ => .pure (.error unexpectedReply)

/-- `E11000 duplicate key error`, what `String(error)` of the unique index's refusal begins with. -/
def duplicateKeyError : String := "E11000 duplicate key error"

/-- `createWithdrawal`: on the unique index's refusal, the pending row that holds the tuple. -/
def createWithdrawal (accountId : AccountId) (amount : Nat) (externalAccountId : String) :
    BridgeTry BridgeWithdrawal :=
  ExceptT.mk <| .call (.createWithdrawal accountId amount externalAccountId) fun
    | .withdrawal (some d) => .pure (.ok d)
    | .duplicateKey => .call (.findOne (.pendingTuple accountId externalAccountId amount)) fun
        | .withdrawal (some d) => .pure (.ok d)
        | .repositoryError message => .pure (.error (.repository message))
        | _ => .pure (.error (.repository duplicateKeyError))
    | .repositoryError message => .pure (.error (.repository message))
    | _ => .pure (.error unexpectedReply)

/-- `updateWithdrawalFeeEstimates`. -/
def updateWithdrawalFeeEstimates (id : WithdrawalId) : BridgeTry BridgeWithdrawal :=
  ExceptT.mk <| .call (.updateWithdrawalFeeEstimates id) fun r =>
    .pure (orNotFound BRIDGE_WITHDRAWAL_NOT_FOUND r)

/-- A guarded write, and the message it gives when its filter matches nothing. -/
def guardedWrite (w : WithdrawalWrite) (message : String) : BridgeTry BridgeWithdrawal :=
  ExceptT.mk <| .call (.write w) fun r => .pure (orNotFound message r)

/-- `updateWithdrawalTransferId`. -/
def updateWithdrawalTransferId (id : WithdrawalId) (bridgeTransferId : TransferId) (amount : Nat)
    (bridgeDepositAddress : Option String) : BridgeTry BridgeWithdrawal :=
  guardedWrite (.updateWithdrawalTransferId id bridgeTransferId amount bridgeDepositAddress)
    "Withdrawal not found or already submitted"

/-- `updateWithdrawalOnchainSend`. -/
def updateWithdrawalOnchainSend (id : WithdrawalId) (ibexPayoutId : Option String) :
    BridgeTry BridgeWithdrawal :=
  guardedWrite (.updateWithdrawalOnchainSend id ibexPayoutId) "Withdrawal not found or already sent"

/-- `updateWithdrawalSendFailed`. -/
def updateWithdrawalSendFailed (id : WithdrawalId) (bridgeTransferId : TransferId) (amount : Nat)
    (bridgeDepositAddress : String) : BridgeTry BridgeWithdrawal :=
  guardedWrite (.updateWithdrawalSendFailed id bridgeTransferId amount bridgeDepositAddress)
    "Withdrawal not found or already sent"

/-- `cancelWithdrawal`. -/
def cancelWithdrawal (accountId : AccountId) (withdrawalId : WithdrawalId) :
    BridgeTry BridgeWithdrawal :=
  guardedWrite (.cancelWithdrawal accountId withdrawalId)
    "Withdrawal not found or cannot be cancelled"

/-- `updateWithdrawalStatus`: the guarded write; when it matches nothing, the row of the transfer
tells a replay of the same status from a refused move. -/
def updateWithdrawalStatus (bridgeTransferId : TransferId) (status : StatusUpdate) :
    BridgeTry BridgeWithdrawal :=
  ExceptT.mk <| .call (.write (.updateWithdrawalStatus bridgeTransferId status)) fun
    | .withdrawal (some d) => .pure (.ok d)
    | .withdrawal none => .call (.findOne (.transferId bridgeTransferId)) fun
        | .withdrawal none => .pure (.error (.repository BRIDGE_WITHDRAWAL_NOT_FOUND))
        | .withdrawal (some existing) =>
            if existing.status = status.toStatus then .pure (.ok existing)
            else .pure (.error (.repository ("Withdrawal already " ++ existing.status.toString ++
              ", cannot transition to " ++ status.toStatus.toString)))
        | .repositoryError message => .pure (.error (.repository message))
        | _ => .pure (.error unexpectedReply)
    | .repositoryError message => .pure (.error (.repository message))
    | _ => .pure (.error unexpectedReply)

/-- `BridgeWithdrawal.find(...)` of the reconciliation. -/
def findReconcilable : BridgeTry (List BridgeWithdrawal) :=
  ExceptT.mk <| .call (.find .reconcilable) fun
    | .withdrawals found => .pure (.ok found)
    | .repositoryError message => .pure (.error (.repository message))
    | _ => .pure (.error unexpectedReply)

end BridgeAccountsRepo

namespace BridgeApiClient

/-- `createTransfer(customerId, body, idempotencyKey)`. -/
def createTransfer (idempotencyKey : String) (amount : Nat) (externalAccountId : String) :
    BridgeTry BridgeTransfer :=
  ExceptT.mk <| .call (.createTransfer idempotencyKey amount externalAccountId) fun
    | .transfer t => .pure (.ok t)
    | .apiError message => .pure (.error (.api message))
    | _ => .pure (.error unexpectedReply)

/-- `getTransfer(transferId)`, of which the state. -/
def getTransfer (transferId : TransferId) : BridgeTry String :=
  ExceptT.mk <| .call (.getTransfer transferId) fun
    | .transferState state => .pure (.ok state)
    | .apiError message => .pure (.error (.api message))
    | _ => .pure (.error unexpectedReply)

end BridgeApiClient

namespace IbexClient

/-- `getCryptoSendRequirements({ network: "ethereum", currencyId })`, of which the id. -/
def getCryptoSendRequirements : BridgeTry String :=
  ExceptT.mk <| .call .getCryptoSendRequirements fun
    | .requirements requirementsId => .pure (.ok requirementsId)
    | .apiError message => .pure (.error (.api message))
    | _ => .pure (.error unexpectedReply)

/-- `createCryptoSendInfo(...)`, of which the id if any. -/
def createCryptoSendInfo (name : String) (requirementsId : String) (address : String) :
    BridgeTry (Option String) :=
  ExceptT.mk <| .call (.createCryptoSendInfo name requirementsId address) fun
    | .sendInfo id => .pure (.ok id)
    | .apiError message => .pure (.error (.api message))
    | _ => .pure (.error unexpectedReply)

/-- `sendCrypto(...)` for a withdrawal, of which the payout id its response carries, if any. -/
def sendCrypto (withdrawalId : WithdrawalId) (accountId : WalletId) (cryptoSendInfosId : String)
    (amount : Nat) : BridgeTry (Option String) :=
  ExceptT.mk <| .call (.sendCrypto withdrawalId accountId cryptoSendInfosId amount) fun
    | .sendResult ibexPayoutId => .pure (.ok ibexPayoutId)
    | .apiError message => .pure (.error (.api message))
    | _ => .pure (.error unexpectedReply)

end IbexClient

/-! ### Requesting and cancelling -/

/-- `requestWithdrawal`: the checks, then the pending row of the tuple if there is one, or a new
one. -/
def requestWithdrawal (accountId : AccountId) (amount : Nat) (externalAccountId : String) :
    BridgeTry BridgeWithdrawal := do
  let account ← checkAccountLevel accountId
  let customerId ← requireApprovedBridgeCustomer account
  let some usdtWallet ← findUsdtWallet accountId
    | throw (.insufficientFunds "No USDT wallet found on account")
  let balance ← getBalanceForWallet usdtWallet
  if amount = 0 then throw (.insufficientFunds "Invalid withdrawal amount")
  if balance < amount then
    throw (.insufficientFunds ("Insufficient USDT balance: available " ++ toString balance ++
      ", requested " ++ toString amount))
  let externalAccounts ← syncExternalAccountsFromBridge accountId customerId
  if externalAccountId ∉ externalAccounts then
    throw (.other "External account not found for this account")
  match ← BridgeAccountsRepo.findPendingWithdrawalWithoutTransfer accountId externalAccountId amount with
  | some existing => BridgeAccountsRepo.updateWithdrawalFeeEstimates existing.id
  | none => BridgeAccountsRepo.createWithdrawal accountId amount externalAccountId

/-- `cancelWithdrawalRequest`: the owner's withdrawal, if it has no transfer, is cancelled by the
compare-and-set `cancelWithdrawal`. -/
def cancelWithdrawalRequest (accountId : AccountId) (withdrawalId : WithdrawalId) :
    BridgeTry BridgeWithdrawal := do
  let _ ← checkAccountLevel accountId
  let withdrawal ← reportingAs .withdrawalNotFound (BridgeAccountsRepo.findWithdrawalById withdrawalId)
  if withdrawal.accountId ≠ accountId then throw .withdrawalNotFound
  if withdrawal.bridgeTransferId.isSome then throw .alreadyInitiated
  reportingAs .withdrawalNotFound (BridgeAccountsRepo.cancelWithdrawal accountId withdrawalId)

/-! ### Initiating -/

/-- `deriveWithdrawalIdempotencyKey`: the SHA-256 digest of `withdrawal:<rowId>`, kept as that
text. -/
def deriveWithdrawalIdempotencyKey (rowId : WithdrawalId) : String :=
  "withdrawal:" ++ toString rowId

/-- The checks of `initiateWithdrawal`: the caller's account and Bridge customer, the withdrawal's
owner and status, its external account, and the balance of the USDT wallet. -/
def prepareWithdrawal (accountId : AccountId) (withdrawalId : WithdrawalId) :
    BridgeTry (BridgeWithdrawal × WalletId) := do
  let account ← checkAccountLevel accountId
  let customerId ← requireApprovedBridgeCustomer account
  let pendingWithdrawal ←
    reportingAs .withdrawalNotFound (BridgeAccountsRepo.findWithdrawalById withdrawalId)
  if pendingWithdrawal.accountId ≠ accountId then throw .withdrawalNotFound
  if pendingWithdrawal.status ≠ .pending ∨ pendingWithdrawal.bridgeTransferId.isSome ∨
      pendingWithdrawal.ibexPayoutId.isSome then
    throw .alreadyInitiated
  let externalAccounts ← syncExternalAccountsFromBridge accountId customerId
  if pendingWithdrawal.externalAccountId ∉ externalAccounts then
    throw (.other "External account not found")
  let some usdtWallet ← findUsdtWallet accountId
    | throw (.insufficientFunds "No USDT wallet found on account")
  let balance ← getBalanceForWallet usdtWallet
  if balance < pendingWithdrawal.amount then
    throw (.insufficientFunds ("Insufficient USDT balance: available " ++ toString balance ++
      ", requested " ++ toString pendingWithdrawal.amount))
  return (pendingWithdrawal, usdtWallet)

/-- The transfer under the withdrawal's idempotency key, and its deposit address. -/
def createWithdrawalTransfer (pendingWithdrawal : BridgeWithdrawal) :
    BridgeTry (BridgeTransfer × String) := do
  let transfer ← BridgeApiClient.createTransfer (deriveWithdrawalIdempotencyKey pendingWithdrawal.id)
    pendingWithdrawal.amount pendingWithdrawal.externalAccountId
  let some bridgeDepositAddress := transfer.depositAddress | throw .depositInstructionsMissing
  return (transfer, bridgeDepositAddress)

/-- `markWithdrawalSendFailed`, whose result the caller does not look at. -/
def markWithdrawalSendFailed (withdrawalId : WithdrawalId) (transferId : TransferId) (amount : Nat)
    (bridgeDepositAddress : String) : BridgeProg Unit :=
  .call (.write (.updateWithdrawalSendFailed withdrawalId transferId amount bridgeDepositAddress))
    fun _ => .pure ()

/-- `if (x instanceof Error) { await markWithdrawalSendFailed(...); return x }`. -/
def markingFailure {α : Type} (mark : BridgeProg Unit) (x : BridgeTry α) : BridgeTry α :=
  ExceptT.mk <| x.run.bind fun
    | .ok a => .pure (.ok a)
    | .error e => mark.bind fun _ => .pure (.error e)

/-- The IBEX part of `initiateWithdrawal`: the send requirements, the crypto send info, the send,
and `updateWithdrawalOnchainSend`; an IBEX error marks the withdrawal `send_failed`. -/
def sendWithdrawal (pendingWithdrawal : BridgeWithdrawal) (usdtWallet : WalletId)
    (transfer : BridgeTransfer) (bridgeDepositAddress : String) : BridgeTry BridgeWithdrawal := do
  let markFailed := markWithdrawalSendFailed pendingWithdrawal.id transfer.id transfer.amount
    bridgeDepositAddress
  let requirementsId ← markingFailure markFailed IbexClient.getCryptoSendRequirements
  let cryptoSendInfo ← markingFailure markFailed
    (IbexClient.createCryptoSendInfo ("bridge-withdrawal-" ++ toString pendingWithdrawal.id)
      requirementsId bridgeDepositAddress)
  let some cryptoSendInfosId := cryptoSendInfo
    | markingFailure markFailed (throw (.other "IBEX crypto send info did not return id"))
  let ibexPayoutId ← markingFailure markFailed
    (IbexClient.sendCrypto pendingWithdrawal.id usdtWallet cryptoSendInfosId pendingWithdrawal.amount)
  BridgeAccountsRepo.updateWithdrawalOnchainSend pendingWithdrawal.id ibexPayoutId

/-- `initiateWithdrawal`. -/
def initiateWithdrawal (accountId : AccountId) (withdrawalId : WithdrawalId) :
    BridgeTry BridgeWithdrawal := do
  let (pendingWithdrawal, usdtWallet) ← prepareWithdrawal accountId withdrawalId
  let (transfer, bridgeDepositAddress) ← createWithdrawalTransfer pendingWithdrawal
  let _ ← BridgeAccountsRepo.updateWithdrawalTransferId pendingWithdrawal.id transfer.id
    transfer.amount (some bridgeDepositAddress)
  sendWithdrawal pendingWithdrawal usdtWallet transfer bridgeDepositAddress

/-! ### The transfer webhook -/

/-- `TERMINAL_FAILURE_STATES`, which the reconciliation repeats as
`WITHDRAWAL_TERMINAL_FAILURE_STATES`. -/
def TERMINAL_FAILURE_STATES : List String :=
  ["undeliverable", "returned", "refunded", "refund_failed", "missing_return_policy", "error",
    "canceled"]

/-- `TRANSIENT_STATES`. -/
def TRANSIENT_STATES : List String := ["refund_in_flight"]

/-- A transfer webhook's payload, as the handler normalises it: the event, the transfer's id and
its state. -/
structure TransferEvent where
  event : Option String
  transferId : Option TransferId
  state : Option String
  deriving DecidableEq, Repr

/-- An HTTP response: the status, and the body's `status` or `error`. -/
structure HandlerResponse where
  code : Nat
  body : String
  deriving DecidableEq, Repr

/-- The completion branch: `updateWithdrawalStatus(transferId, "completed")`. -/
def completeTransfer (transferId : TransferId) : BridgeProg HandlerResponse :=
  (BridgeAccountsRepo.updateWithdrawalStatus transferId .completed).run.bind fun
    | .ok _ => .pure ⟨200, "success"⟩
    | .error e =>
        if e.message = BridgeAccountsRepo.BRIDGE_WITHDRAWAL_NOT_FOUND then
          .pure ⟨503, "Withdrawal not ready"⟩
        else .pure ⟨500, "Failed to update status"⟩

/-- The failure branch: `updateWithdrawalStatus(transferId, "failed")`; a refused move is an
already-terminal withdrawal. -/
def failTransfer (transferId : TransferId) : BridgeProg HandlerResponse :=
  (BridgeAccountsRepo.updateWithdrawalStatus transferId .failed).run.bind fun
    | .ok _ => .pure ⟨200, "success"⟩
    | .error e =>
        if e.message = BridgeAccountsRepo.BRIDGE_WITHDRAWAL_NOT_FOUND then
          .pure ⟨503, "Withdrawal not ready"⟩
        else if Js.startsWith e.message "Withdrawal already " then .pure ⟨200, "already_terminal"⟩
        else .pure ⟨500, "Failed to update status"⟩

/-- `transferHandler`. -/
def transferHandler (payload : TransferEvent) : BridgeProg HandlerResponse :=
  match payload.transferId, payload.event with
  | some transferId, some event =>
      if payload.state.any (· ∈ TRANSIENT_STATES) then .pure ⟨200, "ignored_transient_state"⟩
      else if event = "transfer.completed" ∨ event = "transfer.payment_processed" ∨
          payload.state = some "payment_processed" then completeTransfer transferId
      else if payload.state.any (· ∈ TERMINAL_FAILURE_STATES) then failTransfer transferId
      else .pure ⟨200, "ignored"⟩
  | _, _ => .pure ⟨400, "Invalid payload"⟩

/-! ### Reconciliation -/

/-- The counts `reconcileBridgeAndIbexWithdrawals` reports. -/
structure ReconcileSummary where
  scannedWithdrawals : Nat
  cancelledSendFailedTransfers : Nat
  finalizedCompletedTransfers : Nat
  ibexSendWithoutBridgeSettlement : Nat
  bridgeTransferWithoutIbexSend : Nat
  deriving DecidableEq, Repr

/-- `toOrphanKey(prefix, value)`. -/
def toOrphanKey (pfx : String) (value : String) : String :=
  pfx ++ ":" ++ Js.toLowerCase value

/-- `upsertBridgeReconciliationOrphan`, whose result the caller does not look at. -/
def upsertOrphan (orphan : ReconciliationOrphan) : BridgeProg Unit :=
  .call (.upsertOrphan orphan) fun _ => .pure ()

/-- A `send_failed` withdrawal: its transfer is deleted, or recorded as an orphan when that
throws. -/
def reconcileSendFailed (summary : ReconcileSummary) (transferId : TransferId) :
    BridgeProg ReconcileSummary :=
  .call (.deleteTransfer transferId) fun
    | .done => .pure { summary with cancelledSendFailedTransfers := summary.cancelledSendFailedTransfers + 1 }
    | _ =>
        (upsertOrphan ⟨toOrphanKey "withdrawal-send-failed" (toString transferId),
          "bridge_transfer_without_ibex_send", transferId⟩).bind fun _ =>
        .pure { summary with bridgeTransferWithoutIbexSend := summary.bridgeTransferWithoutIbexSend + 1 }

/-- A `usdt_sent` withdrawal: completed if Bridge processed the payment, an orphan if Bridge
failed it. -/
def reconcileSent (summary : ReconcileSummary) (transferId : TransferId) :
    BridgeTry ReconcileSummary := do
  let state ← BridgeApiClient.getTransfer transferId
  if state = "payment_processed" then
    ExceptT.mk <| (BridgeAccountsRepo.updateWithdrawalStatus transferId .completed).run.bind fun
      | .ok _ => .pure (.ok { summary with
          finalizedCompletedTransfers := summary.finalizedCompletedTransfers + 1 })
      | .error _ => .pure (.ok summary)
  else if state ∉ TERMINAL_FAILURE_STATES then return summary
  else
    ExceptT.mk <| (upsertOrphan ⟨toOrphanKey "withdrawal-ibex-sent" (toString transferId),
      "ibex_send_without_bridge_settlement", transferId⟩).bind fun _ =>
      .pure (.ok { summary with
        ibexSendWithoutBridgeSettlement := summary.ibexSendWithoutBridgeSettlement + 1 })

/-- One withdrawal of the scan. -/
def reconcileWithdrawal (summary : ReconcileSummary) (withdrawal : BridgeWithdrawal) :
    BridgeTry ReconcileSummary :=
  match withdrawal.bridgeTransferId with
  | none => pure summary
  | some transferId =>
      if withdrawal.status = .sendFailed then
        ExceptT.mk <| (reconcileSendFailed summary transferId).bind fun s => .pure (.ok s)
      else reconcileSent summary transferId

/-- `reconcileBridgeAndIbexWithdrawals`. -/
def reconcileBridgeAndIbexWithdrawals : BridgeTry ReconcileSummary := do
  let withdrawals ← BridgeAccountsRepo.findReconcilable
  withdrawals.foldlM reconcileWithdrawal ⟨withdrawals.length, 0, 0, 0, 0⟩

/-! ### Entry points -/

/-- What runs against the withdrawal collection. -/
inductive BridgeCall where
  | requestWithdrawal (accountId : AccountId) (amount : Nat) (externalAccountId : String)
  | initiateWithdrawal (accountId : AccountId) (withdrawalId : WithdrawalId)
  | cancelWithdrawalRequest (accountId : AccountId) (withdrawalId : WithdrawalId)
  | transferWebhook (payload : TransferEvent)
  | reconcile
  deriving DecidableEq, Repr

/-- The program of a call, its result dropped. -/
def BridgeCall.prog : BridgeCall → BridgeProg Unit
  | .requestWithdrawal accountId amount externalAccountId =>
      (Bridge.requestWithdrawal accountId amount externalAccountId).run.bind fun _ => .pure ()
  | .initiateWithdrawal accountId withdrawalId =>
      (Bridge.initiateWithdrawal accountId withdrawalId).run.bind fun _ => .pure ()
  | .cancelWithdrawalRequest accountId withdrawalId =>
      (Bridge.cancelWithdrawalRequest accountId withdrawalId).run.bind fun _ => .pure ()
  | .transferWebhook payload => (transferHandler payload).bind fun _ => .pure ()
  | .reconcile => reconcileBridgeAndIbexWithdrawals.run.bind fun _ => .pure ()

/-- The pool of calls running against `w`. -/
def BridgePool.start (w : BridgeWorld) (calls : List BridgeCall) :
    Pool BridgeWorld BridgeOp BridgeReply :=
  ⟨w, calls.map BridgeCall.prog⟩

end Bridge
