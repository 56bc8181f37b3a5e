import Flash.Support.Pool
import Flash.Support.Js
import Flash.Shared.Amounts
import Flash.Payments.Idempotency

/-!
# Invites — the Invite collection and the services around it

The `Invite` collection of `services/mongoose/models/invite.ts` and what the invite code awaits
beside it: the accounts, users and wallets repositories, the referral-reward counter, the clock
and the intraledger send.  Each `await` is one `InviteOp`; `InviteWorld.answer` says which
replies the world can give and what it leaves behind.

* `document.save()` writes the fields the code modified by `_id`, whatever the stored document
  holds now: the last writer wins field by field.  Mongoose marks a field modified when the code
  assigns it a value other than the one the document was read with (`InvitePatch.modifiedFrom`).
  The unique partial index on `redeemedById` refuses a write that would make a second invite
  redeemed by one account (`duplicateKey`, code 11000).
* `findOneAndUpdate({_id, rewardStatus: {$exists: false}}, ...)` claims an invite's reward
  atomically.
* Any call to the database may instead throw, and change nothing.

The fields the modelled code writes but never reads (`redeemedAt`, `revokeReason`, `rewardSeq`,
`rewardAmountCents`, the reward timestamps, `rewardError`) are left out of the record; the code
that computes them stays where it reads the world.
-/

namespace Invite

open Threads Shared

abbrev AccountId := Nat
abbrev UserId := Nat
abbrev InviteId := Nat
abbrev WalletId := Nat

/-! ### Invites -/

/-- `InviteStatus`. -/
inductive InviteStatus where
  | pending
  | sent
  | accepted
  | expired
  deriving DecidableEq, Repr

/-- `InviteMethod`. -/
inductive InviteMethod where
  | email
  | sms
  | whatsapp
  deriving DecidableEq, Repr

/-- The states of an invite's referral reward, once claimed. -/
inductive RewardStatus where
  | processing
  | paid
  /-- "partial": one party paid. -/
  | partiallyPaid
  | failed
  | pending
  deriving DecidableEq, Repr

/-- An `InviteRecord`, with the fields the modelled code reads. -/
structure InviteRecord where
  id : InviteId
  contact : String
  method : InviteMethod
  tokenHash : String
  inviterId : AccountId
  status : InviteStatus := .pending
  createdAt : Nat
  expiresAt : Nat
  redeemedById : Option AccountId := none
  revokedAt : Option Nat := none
  rewardStatus : Option RewardStatus := none
  deriving DecidableEq, Repr

/-- The fields a write sets; `none` leaves a field as it is. -/
structure InvitePatch where
  status : Option InviteStatus := none
  expiresAt : Option Nat := none
  redeemedById : Option AccountId := none
  revokedAt : Option Nat := none
  deriving DecidableEq, Repr

/-- `$set` of a patch. -/
def InviteRecord.patched (r : InviteRecord) (p : InvitePatch) : InviteRecord :=
  { r with
    status := p.status.getD r.status
    expiresAt := p.expiresAt.getD r.expiresAt
    redeemedById := p.redeemedById.or r.redeemedById
    revokedAt := p.revokedAt.or r.revokedAt }

/-- The fields of `assigned` that mongoose marks modified on a document read as `read`: those
assigned a value other than the one read. -/
def InvitePatch.modifiedFrom (assigned : InvitePatch) (read : InviteRecord) : InvitePatch where
  status := assigned.status.filter (· != read.status)
  expiresAt := assigned.expiresAt.filter (· != read.expiresAt)
  redeemedById := assigned.redeemedById.filter (some · != read.redeemedById)
  revokedAt := assigned.revokedAt.filter (some · != read.revokedAt)

/-- The filters of the invite code's queries. -/
inductive InviteFilter where
  /-- `{tokenHash}`. -/
  | tokenHash (tokenHash : String)
  /-- `findById(inviteId)`. -/
  | id (inviteId : InviteId)
  /-- `{redeemedById, status: ACCEPTED}`. -/
  | redeemedAccepted (accountId : AccountId)
  /-- `{redeemedById, rewardStatus: {$exists: true}}`. -/
  | redeemedRewarded (accountId : AccountId)
  /-- `{redeemedById, status: ACCEPTED, rewardStatus: {$exists: false}}`. -/
  | redeemedUnrewarded (accountId : AccountId)
  deriving DecidableEq, Repr

/-- Whether an invite matches a filter. -/
def InviteFilter.matches : InviteFilter → InviteRecord → Bool
  | .tokenHash h, r => r.tokenHash == h
  | .id i, r => r.id == i
  | .redeemedAccepted a, r => r.redeemedById == some a && r.status == .accepted
  | .redeemedRewarded a, r => r.redeemedById == some a && r.rewardStatus.isSome
  | .redeemedUnrewarded a, r =>
      r.redeemedById == some a && r.status == .accepted && r.rewardStatus.isNone

/-- An invite after `save` of `patch` on invite `inviteId`. -/
def saveAt (inviteId : InviteId) (p : InvitePatch) (r : InviteRecord) : InviteRecord :=
  if r.id = inviteId then r.patched p else r

/-- An invite after the reward claim of invite `inviteId`. -/
def claimAt (inviteId : InviteId) (r : InviteRecord) : InviteRecord :=
  if r.id = inviteId ∧ r.rewardStatus = none then { r with rewardStatus := some .processing }
  else r

/-- An invite after `markReward` of invite `inviteId`. -/
def markAt (inviteId : InviteId) (s : RewardStatus) (r : InviteRecord) : InviteRecord :=
  if r.id = inviteId then { r with rewardStatus := some s } else r

/-! ### The world -/

/-- A wallet, as the reward code reads it. -/
structure Wallet where
  id : WalletId
  currency : WalletCurrency
  deriving DecidableEq, Repr

/-- An intraledger send of the reward: from the rewards wallet, to a party's wallet. -/
structure RewardSend where
  senderWalletId : WalletId
  recipientWalletId : WalletId
  amount : Nat
  memo : String
  deriving DecidableEq, Repr

/-- The collection, the repositories the invite code reads, and the sends it makes. -/
structure InviteWorld where
  invites : List InviteRecord
  /-- `createdAt` of each account. -/
  accountCreatedAt : AccountId → Option Nat
  /-- Each user's phone, for the users that exist. -/
  userPhone : UserId → Option (Option String)
  wallets : AccountId → List Wallet
  /-- The account that holds the `rewards` role. -/
  rewardsAccountId : Option AccountId
  /-- The referral-reward counter's `seq`. -/
  referralRewardSeq : Nat
  clock : Nat
  /-- The reward sends made. -/
  rewardSends : List RewardSend

/-- What the invite code awaits. -/
inductive InviteOp where
  /-- `InviteRepository.findOne(filter)` and `findById`. -/
  | findOne (filter : InviteFilter)
  /-- `InviteRepository.exists(filter)`. -/
  | existsMatch (filter : InviteFilter)
  /-- `invite.save()` of a document whose modified fields are `patch`. -/
  | save (inviteId : InviteId) (patch : InvitePatch)
  /-- `findOneAndUpdate({_id, rewardStatus: {$exists: false}},
  {$set: {rewardStatus: "processing"}})`. -/
  | claimReward (inviteId : InviteId)
  /-- `markReward`: `updateOne({_id}, {$set: update})`, of which the status is kept. -/
  | markReward (inviteId : InviteId) (rewardStatus : RewardStatus)
  /-- `accountsRepo.findById(accountId)`, of which `createdAt` is read. -/
  | findAccount (accountId : AccountId)
  /-- `usersRepo.findById(userId)`, of which the phone is read. -/
  | findUser (userId : UserId)
  /-- `new Date()`. -/
  | now
  /-- `nextReferralRewardSeq()`. -/
  | nextReferralRewardSeq
  /-- `AccountsRepository().findByRole("rewards")`. -/
  | findRewardsAccount
  /-- `WalletsRepository().listByAccountId(accountId)`. -/
  | listWallets (accountId : AccountId)
  /-- `intraledgerPaymentSendWalletIdForUsdWallet`. -/
  | intraledgerPaymentSend (send : RewardSend)
  deriving DecidableEq, Repr

/-- The replies. -/
inductive InviteReply where
  | invite (found : Option InviteRecord)
  | found (b : Bool)
  | claimed (invite : Option InviteRecord)
  | saved
  /-- A write the unique index refused: `MongoServerError` code 11000. -/
  | duplicateKey
  /-- A call to the database that threw. -/
  | thrown (message : String)
  | account (createdAt : Nat)
  | user (phone : Option String)
  | accountId (id : AccountId)
  | wallets (ws : List Wallet)
  /-- A repository call that returned an error. -/
  | repositoryError
  | time (t : Nat)
  | seq (n : Nat)
  | sent (status : Payments.PaymentSendStatus)
  /-- A send that returned an error. -/
  | sendError
  | done
  deriving DecidableEq, Repr

namespace InviteWorld

/-- The unique partial index lets invite `inviteId` be redeemed by `accountId`: no other invite
is. -/
def redeemerFree (w : InviteWorld) (inviteId : InviteId) (accountId : AccountId) : Bool :=
  w.invites.all fun r => r.id == inviteId || r.redeemedById != some accountId

/-- What the world replies.  A read returns what the collection holds; a write applies its
fields; the claim succeeds only while the reward is unclaimed; any database call may throw and
change nothing. -/
def answer (w : InviteWorld) : InviteOp → InviteReply → Option InviteWorld
  | .findOne f, .invite found => if found = w.invites.find? f.matches then some w else none
  | .existsMatch f, .found b => if b = w.invites.any f.matches then some w else none
  | .save inviteId p, .saved =>
      if w.invites.any (·.id == inviteId) && p.redeemedById.all (w.redeemerFree inviteId) then
        some { w with invites := w.invites.map (saveAt inviteId p) }
      else none
  | .save inviteId p, .duplicateKey =>
      if p.redeemedById.any (fun a => !w.redeemerFree inviteId a) then some w else none
  | .claimReward inviteId, .claimed found =>
      let claimable := w.invites.find? fun r => r.id == inviteId && r.rewardStatus.isNone
      if found = claimable.map ({ · with rewardStatus := some .processing }) then
        some { w with invites := w.invites.map (claimAt inviteId) }
      else none
  | .markReward inviteId s, .done => some { w with invites := w.invites.map (markAt inviteId s) }
  | .findOne _, .thrown _ | .existsMatch _, .thrown _ | .save _ _, .thrown _
  | .claimReward _, .thrown _ | .markReward _ _, .thrown _ | .nextReferralRewardSeq, .thrown _ =>
      some w
  | .findAccount a, .account t => if w.accountCreatedAt a = some t then some w else none
  | .findUser u, .user phone => if w.userPhone u = some phone then some w else none
  | .findRewardsAccount, .accountId a => if w.rewardsAccountId = some a then some w else none
  | .listWallets a, .wallets ws => if ws = w.wallets a then some w else none
  | .findAccount _, .repositoryError | .findUser _, .repositoryError
  | .findRewardsAccount, .repositoryError | .listWallets _, .repositoryError => some w
  | .now, .time t => if w.clock ≤ t then some { w with clock := t } else none
  | .nextReferralRewardSeq, .seq n =>
      if n = w.referralRewardSeq + 1 then some { w with referralRewardSeq := n } else none
  | .intraledgerPaymentSend s, .sent _ => some { w with rewardSends := w.rewardSends ++ [s] }
  | .intraledgerPaymentSend _, .sendError => some w
  | _, _ => none

end InviteWorld

/-- The invite code's programs. -/
abbrev InviteProg := Prog InviteOp InviteReply

/-- Concurrent invite code against one world. -/
abbrev InvitePool := Pool InviteWorld InviteOp InviteReply

end Invite
