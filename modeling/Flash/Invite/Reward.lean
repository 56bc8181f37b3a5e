import Flash.Invite.Redemption

/-!
# Invites — the referral reward

`awardReferralRewardOnKycApproval` (`app/invite/award-referral-reward.ts`), fired when an invited
account's KYC is approved, and again each time it is re-approved.  It skips an account that has
an invite claimed for a reward, finds an accepted unclaimed invite the account redeemed, claims
it atomically, takes a sequence number, and pays the tier's amount to the inviter and to the
invitee from the wallet of the `rewards` account.  Past the claim, a throw downgrades the claim
to `failed`, or `partial` when a party was paid.

* `referralRewardAmountCents_past_bounded_tiers`: a schedule with no unbounded last tier pays
  nothing past its bounds;
* `payoutRewardStatus_eq_paid_iff`, `payoutRewardStatus_eq_failed_iff`: the claim ends `paid`
  exactly when both parties were paid, `failed` exactly when neither was;
* `invitee_rewarded_twice_after_overwrite`: an account whose redemption of an invite was
  overwritten by a second redeemer redeems another invite and is paid the invitee reward a
  second time, while the invite's new redeemer is never paid.

The notifications and logs are left out.
-/

namespace Invite

open Threads Shared

/-! ### Tiers and outcomes -/

/-- `ReferralRewardTier`: `upToCount ≤ 0` marks the last, unbounded tier. -/
structure ReferralRewardTier where
  upToCount : Int
  amountCents : Int
  deriving DecidableEq, Repr

/-- The referral-reward configuration. -/
structure ReferralRewardConfig where
  enabled : Bool
  tiers : List ReferralRewardTier
  deriving DecidableEq, Repr

/-- `referralRewardAmountCents`: the amount of the first bounded tier that holds `seq`, else the
last tier's if it is unbounded, else nothing. -/
def referralRewardAmountCents (tiers : List ReferralRewardTier) (seq : Nat) : Int :=
  match tiers.find? fun tier => 0 < tier.upToCount && (seq : Int) ≤ tier.upToCount with
  | some tier => tier.amountCents
  | none =>
      match tiers.getLast? with
      | some last => if last.upToCount ≤ 0 then last.amountCents else 0
      | none => 0

/-- The fail-safe of the schedule: with every tier bounded, a sequence past every bound is paid
nothing. -/
theorem referralRewardAmountCents_past_bounded_tiers {tiers : List ReferralRewardTier} {seq : Nat}
    (hbounded : ∀ tier ∈ tiers, 0 < tier.upToCount)
    (hpast : ∀ tier ∈ tiers, tier.upToCount < seq) :
    referralRewardAmountCents tiers seq = 0 := by
  have hnone : (tiers.find? fun tier => 0 < tier.upToCount && (seq : Int) ≤ tier.upToCount) =
      none := by
    rw [List.find?_eq_none]
    intro tier htier
    have := hpast tier htier
    simp only [Bool.and_eq_true, decide_eq_true_eq, not_and]
    exact fun _ => Int.not_le.mpr this
  unfold referralRewardAmountCents
  rw [hnone]
  cases hlast : tiers.getLast? with
  | none => rfl
  | some last =>
      have hpos := hbounded last (List.mem_of_getLast? hlast)
      simp only
      rw [if_neg (by omega)]

/-- What paying one party gave. -/
inductive PartyPayResult where
  | paid
  | pending
  | failed
  deriving DecidableEq, Repr

/-- The claim's final status, from the two parties' results. -/
def payoutRewardStatus (inviterResult inviteeResult : PartyPayResult) : RewardStatus :=
  if inviterResult = .paid ∧ inviteeResult = .paid then .paid
  else if inviterResult = .failed ∧ inviteeResult = .failed then .failed
  else if inviterResult = .failed ∨ inviteeResult = .failed then .partiallyPaid
  else .pending

theorem payoutRewardStatus_eq_paid_iff (inviterResult inviteeResult : PartyPayResult) :
    payoutRewardStatus inviterResult inviteeResult = .paid ↔
      inviterResult = .paid ∧ inviteeResult = .paid := by
  cases inviterResult <;> cases inviteeResult <;> decide

theorem payoutRewardStatus_eq_failed_iff (inviterResult inviteeResult : PartyPayResult) :
    payoutRewardStatus inviterResult inviteeResult = .failed ↔
      inviterResult = .failed ∧ inviteeResult = .failed := by
  cases inviterResult <;> cases inviteeResult <;> decide

/-! ### The award -/

namespace InviteRepository

/-- The atomic claim: `findOneAndUpdate({_id, rewardStatus: {$exists: false}}, ...)`. -/
def claimReward (inviteId : InviteId) : InviteTry (Option InviteRecord) :=
  ExceptT.mk <| .call (.claimReward inviteId) fun
    | .claimed invite => .pure (.ok invite)
    | .thrown message => .pure (.error (.other message))
    | _ => .pure (.error unexpectedReply)

/-- `markReward`. -/
def markReward (inviteId : InviteId) (rewardStatus : RewardStatus) : InviteTry Unit :=
  ExceptT.mk <| .call (.markReward inviteId rewardStatus) fun
    | .done => .pure (.ok ())
    | .thrown message => .pure (.error (.other message))
    | _ => .pure (.error unexpectedReply)

end InviteRepository

/-- The payout past the claim, whose throws hand the parties' results so far to its `catch`. -/
abbrev PayoutTry := ExceptT (PartyPayResult × PartyPayResult) InviteProg

/-- `markReward` in the payout, with the results a throw would hand on. -/
def markRewardIn (inviteId : InviteId) (rewardStatus : RewardStatus)
    (results : PartyPayResult × PartyPayResult) : PayoutTry Unit :=
  ExceptT.mk <| .call (.markReward inviteId rewardStatus) fun
    | .done => .pure (.ok ())
    | _ => .pure (.error results)

/-- `nextReferralRewardSeq()` in the payout, before any party is paid. -/
def nextReferralRewardSeqIn : PayoutTry Nat :=
  ExceptT.mk <| .call .nextReferralRewardSeq fun
    | .seq n => .pure (.ok n)
    | _ => .pure (.error (.failed, .failed))

/-- The account holding the `rewards` role; an error is `none`. -/
def findRewardsAccount : InviteProg (Option AccountId) :=
  .call .findRewardsAccount fun
    | .accountId a => .pure (some a)
    | _ => .pure none

/-- `walletsFor`: an error reads as no wallets. -/
def walletsFor (accountId : AccountId) : InviteProg (List Wallet) :=
  .call (.listWallets accountId) fun
    | .wallets ws => .pure ws
    | _ => .pure []

/-- `payParty`: a send from the rewards wallet, `paid` on success, `pending` on a pending send. -/
def payParty (rewardsWallet : Wallet) (amountCents : Nat) (memo : String)
    (recipientWalletId : Option WalletId) : InviteProg PartyPayResult :=
  match recipientWalletId with
  | none => .pure .failed
  | some recipientWalletId =>
      .call (.intraledgerPaymentSend ⟨rewardsWallet.id, recipientWalletId, amountCents, memo⟩) fun
        | .sent .success => .pure .paid
        | .sent .pending => .pure .pending
        | _ => .pure .failed

/-- The inner `try` of the award: amount, funding wallet, the two payouts, the final mark. -/
def payReferralReward (config : ReferralRewardConfig) (accountId : AccountId)
    (invite : InviteRecord) : PayoutTry Unit := do
  let seq ← nextReferralRewardSeqIn
  let amountCents := referralRewardAmountCents config.tiers seq
  if amountCents ≤ 0 then
    markRewardIn invite.id .paid (.failed, .failed)
    return
  let inviterAccountId := invite.inviterId
  let inviteeAccountId := invite.redeemedById.getD accountId
  -- "rewards account not configured"
  let some rewardsAccountId ← (findRewardsAccount : InviteProg _)
    | markRewardIn invite.id .failed (.failed, .failed)
  let rewardsWallets ← (walletsFor rewardsAccountId : InviteProg _)
  -- "rewards account has no USDT or USD wallet"
  let some rewardsWallet := (rewardsWallets.find? (·.currency = .usdt)).or
      (rewardsWallets.find? (·.currency = .usd))
    | markRewardIn invite.id .failed (.failed, .failed)
  let payoutCurrency := rewardsWallet.currency
  let inviterWalletId := ((← (walletsFor inviterAccountId : InviteProg _)).find?
    (·.currency = payoutCurrency)).map (·.id)
  let inviteeWalletId := ((← (walletsFor inviteeAccountId : InviteProg _)).find?
    (·.currency = payoutCurrency)).map (·.id)
  let memo := "Flash referral reward (#" ++ toString seq ++ ")"
  -- each party is paid on its own, so one failure cannot undo the other
  let inviterResult ← (payParty rewardsWallet amountCents.toNat memo inviterWalletId : InviteProg _)
  let inviteeResult ← (payParty rewardsWallet amountCents.toNat memo inviteeWalletId : InviteProg _)
  markRewardIn invite.id (payoutRewardStatus inviterResult inviteeResult)
    (inviterResult, inviteeResult)

/-- The checks and the claim: one reward per invitee, an accepted unclaimed invite, the claim. -/
def claimReferralReward (config : ReferralRewardConfig) (accountId : AccountId) :
    InviteTry (Option InviteRecord) := do
  if !config.enabled then return none
  if ← InviteRepository.existsMatch (.redeemedRewarded accountId) then return none
  let some pending ← InviteRepository.findOne (.redeemedUnrewarded accountId) | return none
  InviteRepository.claimReward pending.id

/-- `awardReferralRewardOnKycApproval`.  The outer `try` ends the call on any throw. -/
def awardReferralRewardOnKycApproval (config : ReferralRewardConfig) (accountId : AccountId) :
    InviteProg Unit := do
  let .ok (some invite) ← (claimReferralReward config accountId).run | return
  match ← (payReferralReward config accountId invite).run with
  | .ok () => return
  | .error (inviterResult, inviteeResult) =>
      -- the inner catch downgrades the claim, keeping a paid party in sight
      let anyPartyPaid := inviterResult ≠ .failed ∨ inviteeResult ≠ .failed
      let _ ← (InviteRepository.markReward invite.id
        (if anyPartyPaid then .partiallyPaid else .failed)).run
      return

/-! ### An overwritten redemption rewarded twice -/

/-- The default schedule: 500 cents to the hundredth referral, 250 to the six-hundredth, then
100. -/
def defaultRewardConfig : ReferralRewardConfig :=
  ⟨true, [⟨100, 500⟩, ⟨600, 250⟩, ⟨0, 100⟩]⟩

/-- Invite 2, sent by email by account 11. -/
def secondEmailInvite : InviteRecord :=
  { id := 2, contact := "friend@example.com", method := .email,
    tokenHash := hashToken "fedcba9876543210fedcba9876543210fedcba98", inviterId := 11,
    createdAt := 0, expiresAt := 1000 }

/-- Both invites; the rewards account 1 holds USDT wallet 100, and every account `a` holds USDT
wallet `a + 100`. -/
def rewardWorld : InviteWorld :=
  { inviteWorld with
    invites := [emailInvite, secondEmailInvite]
    wallets := fun a => [⟨a + 100, .usdt⟩]
    rewardsAccountId := some 1 }

/-- The replies of an award for account 20 of invite `invite`, paid at sequence `seq`. -/
def awardReplies (invite : InviteRecord) (seq : Nat) : List InviteReply :=
  let accepted := { invite with status := .accepted, redeemedById := some 20 }
  [.found false, .invite (some accepted),
   .claimed (some { accepted with rewardStatus := some .processing }), .seq seq, .accountId 1,
   .wallets [⟨101, .usdt⟩], .wallets [⟨invite.inviterId + 100, .usdt⟩], .wallets [⟨120, .usdt⟩],
   .sent .success, .sent .success, .done]

/-- Account 30 reads invite 1; account 20 redeems it and is rewarded; account 30's redemption
saves over it; account 20 redeems invite 2 and, on a second KYC approval, is rewarded again. -/
def doubleRewardSchedule : List (Nat × InviteReply) :=
  [(1, .invite (some emailInvite))] ++
    (redemptionReplies emailInvite 100 ++ [InviteReply.saved]).map (0, ·) ++
    (awardReplies emailInvite 1).map (2, ·) ++
    ((redemptionReplies emailInvite 100).drop 1 ++ [InviteReply.saved]).map (1, ·) ++
    (redemptionReplies secondEmailInvite 100 ++ [InviteReply.saved]).map (3, ·) ++
    (awardReplies secondEmailInvite 2).map (4, ·)

/-- The actors of `doubleRewardSchedule`. -/
def doubleRewardActors : List (InviteProg Unit) :=
  [actor (redeemInvite inviteToken (some firstRedeemer)),
   actor (redeemInvite inviteToken (some secondRedeemer)),
   awardReferralRewardOnKycApproval defaultRewardConfig 20,
   actor (redeemInvite secondEmailInvite.tokenHash (some firstRedeemer)),
   awardReferralRewardOnKycApproval defaultRewardConfig 20]

/-- **An account is paid the invitee reward twice.**  Invite 1 ends redeemed by account 30 with
its reward claimed, account 20 holds invite 2, and account 20's wallet 120 was sent the invitee
reward for both invites. -/
theorem invitee_rewarded_twice_after_overwrite :
    (Pool.run InviteWorld.answer (InvitePool.start rewardWorld doubleRewardActors)
        doubleRewardSchedule).map
      (fun c => (c.world.invites.map fun r => (r.redeemedById, r.rewardStatus),
        (c.world.rewardSends.filter (·.recipientWalletId = 120)).length)) =
      some ([(some 30, some .paid), (some 20, some .paid)], 2) := by
  decide

end Invite
