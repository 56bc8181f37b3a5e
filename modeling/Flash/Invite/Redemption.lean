import Flash.Invite.Collection

/-!
# Invites — redemption and the admin operations

The `redeemInvite` mutation (`graphql/public/root/mutation/redeem-invite.ts`) and the admin
`revokeInvite` and `extendInvite` (`app/admin/invite.ts`), as `InviteProg`s.  Each reads the
invite, checks it, assigns fields of its copy and `save()`s the copy: the write sets the fields
whose value it changed, whatever the stored invite holds by then, so a check made on the copy
does not guard the write.

* `accepted_invite_overwritten`: an accepted invite is turned `EXPIRED` by a revoke, `PENDING` by
  an extension of an invite read `SENT`, and `EXPIRED` by another redeemer's expiry flip, each of
  which read it before it was accepted; and two redeemers of one invite both succeed, the invite
  ending redeemed by the second.

A database call that throws is caught by the code's `try` and reported with its message; the
notification sent after a redemption is fire-and-forget and left out.
-/

namespace Invite

open Threads

/-! ### Calls of the invite code -/

/-- What a database call throws: the unique index's refusal, or another error. -/
inductive MongoError where
  /-- `MongoServerError` with code 11000. -/
  | duplicateKey
  | other (message : String)
  deriving DecidableEq, Repr

/-- `error.message`. -/
def MongoError.message : MongoError → String
  | .duplicateKey => "E11000 duplicate key error"
  | .other message => message

/-- A program of the invite code that may throw a database error. -/
abbrev InviteTry := ExceptT MongoError InviteProg

/-- A reply no database call gives here. -/
def unexpectedReply : MongoError := .other "Unknown error occurred"

namespace InviteRepository

/-- `findOne(filter)`, `findById(inviteId)`. -/
def findOne (filter : InviteFilter) : InviteTry (Option InviteRecord) :=
  ExceptT.mk <| .call (.findOne filter) fun
    | .invite found => .pure (.ok found)
    | .thrown message => .pure (.error (.other message))
    | _ => .pure (.error unexpectedReply)

/-- `exists(filter)`. -/
def existsMatch (filter : InviteFilter) : InviteTry Bool :=
  ExceptT.mk <| .call (.existsMatch filter) fun
    | .found b => .pure (.ok b)
    | .thrown message => .pure (.error (.other message))
    | _ => .pure (.error unexpectedReply)

/-- `invite.save()` of the copy `invite` read, to which the code assigned `assigned`: the
fields whose value changed. -/
def save (invite : InviteRecord) (assigned : InvitePatch) : InviteTry Unit :=
  ExceptT.mk <| .call (.save invite.id (assigned.modifiedFrom invite)) fun
    | .saved => .pure (.ok ())
    | .duplicateKey => .pure (.error .duplicateKey)
    | .thrown message => .pure (.error (.other message))
    | _ => .pure (.error unexpectedReply)

end InviteRepository

/-- `new Date()`, `Date.now()`. -/
def clockNow : InviteTry Nat :=
  ExceptT.mk <| .call .now fun
    | .time t => .pure (.ok t)
    | _ => .pure (.ok 0)

/-- `accountsRepo.findById(accountId)`, of which `createdAt`; an error is `none`. -/
def findAccountCreatedAt (accountId : AccountId) : InviteTry (Option Nat) :=
  ExceptT.mk <| .call (.findAccount accountId) fun
    | .account createdAt => .pure (.ok (some createdAt))
    | _ => .pure (.ok none)

/-- `usersRepo.findById(userId)`, of which the phone; an error is `none`. -/
def findUserPhone (userId : UserId) : InviteTry (Option (Option String)) :=
  ExceptT.mk <| .call (.findUser userId) fun
    | .user phone => .pure (.ok (some phone))
    | _ => .pure (.ok none)

/-! ### Redemption -/

/-- `INVITE_TOKEN_LENGTH`. -/
def INVITE_TOKEN_LENGTH : Nat := 40

/-- `NEW_USER_INVITE_WINDOW_HOURS`. -/
def NEW_USER_INVITE_WINDOW_HOURS : Nat := 24

/-- A character of `/^[a-f0-9]+$/i`. -/
def isHexDigit (c : Char) : Bool :=
  c.isDigit || ('a' ≤ c.toLower && c.toLower ≤ 'f')

/-- `checkedToInviteToken`. -/
def checkedToInviteToken (token : String) : Except String String :=
  if token = "" ∨ Js.length token ≠ INVITE_TOKEN_LENGTH then
    .error "Invalid invitation token length"
  else if !token.toList.all isHexDigit then .error "Invalid invitation token format"
  else .ok token

/-- `hashToken`: the SHA-256 digest, kept as the token. -/
def hashToken (token : String) : String := token

/-- `RedeemInvitePayload`. -/
structure RedeemInvitePayload where
  success : Bool
  errors : List String
  deriving DecidableEq, Repr

/-- The authenticated caller of a mutation: its user and its account. -/
structure Caller where
  userId : UserId
  accountId : AccountId
  deriving DecidableEq, Repr

/-- `{ success: false, errors: [message] }`. -/
def redeemFailure (message : String) : RedeemInvitePayload := ⟨false, [message]⟩

/-- The `try` block of `redeemInvite`: look the invite up, check it and the caller, and save it
accepted. -/
def redeemInviteChecked (token : String) (caller : Caller) : InviteTry RedeemInvitePayload := do
  let tokenHash := hashToken token
  let some invite ← InviteRepository.findOne (.tokenHash tokenHash)
    | return redeemFailure "Invalid or expired invitation"
  -- the accepted check comes before the expiry flip, so a replay never overwrites `ACCEPTED`
  if invite.status = .accepted then
    return redeemFailure "This invitation has already been used"
  if invite.expiresAt < (← clockNow) then
    InviteRepository.save invite { status := some .expired }
    return redeemFailure "This invitation has expired"
  if invite.status = .expired ∨ invite.revokedAt.isSome then
    return redeemFailure "This invitation is no longer valid"
  if invite.inviterId = caller.accountId then
    return redeemFailure "You cannot redeem your own invitation"
  if ← InviteRepository.existsMatch (.redeemedAccepted caller.accountId) then
    return redeemFailure "You have already redeemed an invitation"
  let some createdAt ← findAccountCreatedAt caller.accountId
    | return redeemFailure "Failed to validate account"
  let accountAge := (← clockNow) - createdAt
  if NEW_USER_INVITE_WINDOW_HOURS * 60 * 60 * 1000 < accountAge then
    return redeemFailure "This invitation is for new users only"
  let some phone ← findUserPhone caller.userId
    | return redeemFailure "Failed to validate user"
  let inviteContact := Js.toLowerCase invite.contact
  let userPhone := phone.map Js.toLowerCase
  -- an email invite is not checked against the caller
  if invite.method = .sms ∨ invite.method = .whatsapp then
    if userPhone.all (· = "") ∨ userPhone ≠ some inviteContact then
      return redeemFailure "This invitation was sent to a different phone number"
  try
    InviteRepository.save invite
      { status := some .accepted, redeemedById := some caller.accountId }
  catch saveError =>
    if saveError = .duplicateKey then
      return redeemFailure "You have already redeemed an invitation"
    throw saveError
  return ⟨true, []⟩

/-- The `redeemInvite` resolver. -/
def redeemInvite (token : String) (caller : Option Caller) : InviteProg RedeemInvitePayload := do
  if let .error message := checkedToInviteToken token then
    return redeemFailure message
  let some caller := caller
    | return redeemFailure "Authentication required to redeem invitation"
  match ← (redeemInviteChecked token caller).run with
  | .ok payload => return payload
  | .error e => return redeemFailure e.message

/-! ### The admin operations -/

/-- What the admin operations return on success. -/
structure InviteSummary where
  id : InviteId
  contact : String
  method : InviteMethod
  status : InviteStatus
  inviterAccountId : AccountId
  createdAt : Nat
  expiresAt : Nat
  deriving DecidableEq, Repr

/-- The summary of an invite copy. -/
def InviteRecord.summary (r : InviteRecord) : InviteSummary :=
  ⟨r.id, r.contact, r.method, r.status, r.inviterId, r.createdAt, r.expiresAt⟩

/-- The errors of the admin operations. -/
inductive InviteAdminError where
  | couldNotFind (message : String)
  | inviteAlreadyAccepted (message : String)
  | invalidExpirationDate (message : String)
  | unknownRepository (message : String)
  deriving DecidableEq, Repr

/-- The `try` block of `revokeInvite`. -/
def revokeInviteChecked (inviteId : InviteId) :
    InviteTry (Except InviteAdminError InviteSummary) := do
  let some invite ← InviteRepository.findOne (.id inviteId)
    | return .error (.couldNotFind ("Invite not found: " ++ toString inviteId))
  if invite.status = .accepted then
    return .error (.inviteAlreadyAccepted "Cannot revoke an already accepted invite")
  let patch : InvitePatch := { status := some .expired, revokedAt := some (← clockNow) }
  InviteRepository.save invite patch
  return .ok (invite.patched patch).summary

/-- `revokeInvite`. -/
def revokeInvite (inviteId : InviteId) : InviteProg (Except InviteAdminError InviteSummary) := do
  match ← (revokeInviteChecked inviteId).run with
  | .ok result => return result
  | .error e => return .error (.unknownRepository e.message)

/-- The `try` block of `extendInvite`. -/
def extendInviteChecked (inviteId : InviteId) (newExpiresAt : Nat) :
    InviteTry (Except InviteAdminError InviteSummary) := do
  let some invite ← InviteRepository.findOne (.id inviteId)
    | return .error (.couldNotFind ("Invite not found: " ++ toString inviteId))
  if invite.status = .accepted then
    return .error (.inviteAlreadyAccepted "Cannot extend an already accepted invite")
  if newExpiresAt ≤ (← clockNow) then
    return .error (.invalidExpirationDate "New expiration date must be in the future")
  -- the status is reset in case it was expired
  let patch : InvitePatch := { expiresAt := some newExpiresAt, status := some .pending }
  InviteRepository.save invite patch
  return .ok (invite.patched patch).summary

/-- `extendInvite`. -/
def extendInvite (inviteId : InviteId) (newExpiresAt : Nat) :
    InviteProg (Except InviteAdminError InviteSummary) := do
  match ← (extendInviteChecked inviteId newExpiresAt).run with
  | .ok result => return result
  | .error e => return .error (.unknownRepository e.message)

/-! ### Racing writes on one invite -/

/-- A program run as one actor of a pool, its value dropped. -/
def actor {α : Type} (p : InviteProg α) : InviteProg Unit :=
  p.bind fun _ => .pure ()

/-- The actors against `w`. -/
def InvitePool.start (w : InviteWorld) (actors : List (InviteProg Unit)) : InvitePool :=
  ⟨w, actors⟩

/-- An invite token. -/
def inviteToken : String := "0123456789abcdef0123456789abcdef01234567"

/-- Invite 1, sent by email by account 10, valid until time 1000. -/
def emailInvite : InviteRecord :=
  { id := 1, contact := "friend@example.com", method := .email, tokenHash := hashToken inviteToken,
    inviterId := 10, createdAt := 0, expiresAt := 1000 }

/-- The same invite once its email went out. -/
def sentInvite : InviteRecord :=
  { emailInvite with status := .sent }

/-- New accounts 20 and 30 (users 21 and 31), and the invite. -/
def inviteWorld : InviteWorld where
  invites := [emailInvite]
  accountCreatedAt := fun a => if a = 20 ∨ a = 30 then some 0 else none
  userPhone := fun u => if u = 21 ∨ u = 31 then some (some "+18765550100") else none
  wallets := fun _ => []
  rewardsAccountId := none
  referralRewardSeq := 0
  clock := 0
  rewardSends := []

/-- The world with the invite sent. -/
def sentInviteWorld : InviteWorld :=
  { inviteWorld with invites := [sentInvite] }

/-- The redeemers. -/
def firstRedeemer : Caller := ⟨21, 20⟩

def secondRedeemer : Caller := ⟨31, 30⟩

/-- The replies of a redemption of `invite` that passes every check at time `t`, up to its
save. -/
def redemptionReplies (invite : InviteRecord) (t : Nat) : List InviteReply :=
  [.invite (some invite), .time t, .found false, .account 0, .time t, .user (some "+18765550100")]

/-- The status and redeemer of each invite. -/
def InviteWorld.redemptions (w : InviteWorld) : List (InviteStatus × Option AccountId) :=
  w.invites.map fun r => (r.status, r.redeemedById)

/-- An admin operation reads `invite` (thread 1), the redemption runs and saves (thread 0), and
the admin operation saves. -/
def adminAfterRedemption (invite : InviteRecord) : List (Nat × InviteReply) :=
  [(1, .invite (some invite))] ++ (redemptionReplies invite 100 ++ [InviteReply.saved]).map (0, ·) ++
    [(1, .time 200), (1, .saved)]

/-- A second redeemer reads the invite, the first redeems it at time 100, and the second finds
it expired at time 2000 and saves it so. -/
def expiryFlipAfterRedemption : List (Nat × InviteReply) :=
  [(1, .invite (some emailInvite))] ++ (redemptionReplies emailInvite 100 ++ [InviteReply.saved]).map (0, ·) ++
    [(1, .time 2000), (1, .saved)]

/-- Both redeemers pass their checks; the first saves, then the second. -/
def twoRedemptions : List (Nat × InviteReply) :=
  (redemptionReplies emailInvite 100).map (0, ·) ++ (redemptionReplies emailInvite 100).map (1, ·) ++
    [(0, .saved), (1, .saved)]

/-- **An accepted invite is overwritten.**  A revoke, an extension of an invite read `SENT`, or
another redeemer's expiry flip that read the invite before it was accepted saves the status it
changed after the redemption succeeded: the invite ends `EXPIRED` or `PENDING` with the
redeemer still set.  Two redeemers of one invite both succeed, and the invite ends redeemed by
the second. -/
theorem accepted_invite_overwritten :
    Prog.feed (redeemInvite inviteToken (some firstRedeemer))
        (Pool.repliesTo (adminAfterRedemption emailInvite) 0) = some ⟨true, []⟩ ∧
    (Pool.run InviteWorld.answer
        (InvitePool.start inviteWorld
          [actor (redeemInvite inviteToken (some firstRedeemer)), actor (revokeInvite 1)])
        (adminAfterRedemption emailInvite)).map (·.world.redemptions) =
      some [(.expired, some 20)] ∧
    Prog.feed (redeemInvite inviteToken (some firstRedeemer))
        (Pool.repliesTo (adminAfterRedemption sentInvite) 0) = some ⟨true, []⟩ ∧
    (Pool.run InviteWorld.answer
        (InvitePool.start sentInviteWorld
          [actor (redeemInvite inviteToken (some firstRedeemer)), actor (extendInvite 1 5000)])
        (adminAfterRedemption sentInvite)).map (·.world.redemptions) =
      some [(.pending, some 20)] ∧
    (Pool.run InviteWorld.answer
        (InvitePool.start inviteWorld
          [actor (redeemInvite inviteToken (some firstRedeemer)),
           actor (redeemInvite inviteToken (some secondRedeemer))])
        expiryFlipAfterRedemption).map (·.world.redemptions) = some [(.expired, some 20)] ∧
    Prog.feed (redeemInvite inviteToken (some firstRedeemer))
        (Pool.repliesTo twoRedemptions 0) = some ⟨true, []⟩ ∧
    Prog.feed (redeemInvite inviteToken (some secondRedeemer))
        (Pool.repliesTo twoRedemptions 1) = some ⟨true, []⟩ ∧
    (Pool.run InviteWorld.answer
        (InvitePool.start inviteWorld
          [actor (redeemInvite inviteToken (some firstRedeemer)),
           actor (redeemInvite inviteToken (some secondRedeemer))])
        twoRedemptions).map (·.world.redemptions) = some [(.accepted, some 30)] := by
  decide

end Invite
