import Mathlib
import Flash.Support.Pool
import Flash.Support.Js

/-!
# Payments — idempotent payment sends

`withPaymentIdempotency` (`app/payments/idempotency.ts`) wraps a payment send so that a request
repeated under the same client key returns the first result instead of paying again.  It reads
the result cached under the scoped key; on a miss it takes the key's redlock, reads again, runs
the send, and caches a definitive outcome for 24 h.  Concurrent calls run against one Redis:
its cache, its lock resources, and the sends they make.

A call with a valid key stands at a `CallPhase`; its program there is `CallPhase.prog`, and a
reply moves it to `CallPhase.next` (`prog_eq_call`), so a pool of calls of one scoped key is a
machine over phases and the world (`poolAt_step`).  The results are about every interleaving:

* `execute_calls_never_overlap`: at most one call at a time waits on its send, since only the
  lock's holder sends and the lock has one holder (`MutexInv`);
* `cached_send_not_executed_again_with_reliable_reads`: once the key holds a result, no call
  sends again and the result stays, provided a read of a present key returns it (`CachedInv`);
* `transient_read_sends_cached_payment_again`: both reads take a failed read of a present key
  for a miss, and a second call sends the cached payment again.

The key's expiry is left out: the results are about runs within the TTL.  The lock's own
expiry and its extension are left out too: the lock is held until its holder releases it.  The
SHA-256 digest of the request fingerprint is kept as the fingerprint itself.
-/

namespace Payments

open Threads

/-! ### Results and the cached envelope -/

/-- `PaymentSendStatus`. -/
inductive PaymentSendStatus where
  | success
  | failure
  | pending
  | alreadyPaid
  deriving DecidableEq, Repr

/-- The errors `redlock` returns when it does not run the callback. -/
inductive LockServiceError where
  /-- `ResourceAttemptsLockServiceError`: the lock was taken by another holder on every try. -/
  | resourceAttempts
  /-- `UnknownLockServiceError`. -/
  | unknown
  deriving DecidableEq, Repr

/-- The `ApplicationError`s a wrapped send returns. -/
inductive ApplicationError where
  | invalidIdempotencyKey (idempotencyKey : String)
  | idempotencyKeyReuse
  | lockService (e : LockServiceError)
  /-- An error the send itself returned: a validation error or a failed payment. -/
  | send
  deriving DecidableEq, Repr

/-- `PaymentSendResult`: a definitive status, or an error. -/
inductive PaymentSendResult where
  | status (s : PaymentSendStatus)
  | error (e : ApplicationError)
  deriving DecidableEq, Repr

/-- `CachedPaymentSend`: the cached result, bound to the request that produced it. -/
structure CachedPaymentSend where
  fingerprint : String
  result : PaymentSendStatus
  deriving DecidableEq, Repr

/-- `IDEMPOTENCY_TTL_SECS`. -/
def IDEMPOTENCY_TTL_SECS : Nat := 24 * 60 * 60

/-- `MAX_KEY_LENGTH`. -/
def MAX_KEY_LENGTH : Nat := 256

/-- `cacheKeyFor`. -/
def cacheKeyFor (scopedKey : String) : String := "payment-idempotency:" ++ scopedKey

/-- `getPaymentIdempotencyKeyLockResource`. -/
def getPaymentIdempotencyKeyLockResource (path : String) : String :=
  "locks:payment-idempotency:" ++ path

/-- `fingerprintOf`, with the digest kept as the fingerprint. -/
def fingerprintOf (requestFingerprint : String) : String := requestFingerprint

/-- `resolveCached`: replay on a fingerprint match, reject on a mismatch. -/
def resolveCached (fingerprint : String) (entry : CachedPaymentSend) : PaymentSendResult :=
  if entry.fingerprint = fingerprint then .status entry.result else .error .idempotencyKeyReuse

/-! ### Redis and the send -/

/-- Redis as the calls see it, and the sends made. -/
structure IdempotencyWorld where
  /-- The cached envelopes, by key. -/
  cache : String → Option CachedPaymentSend
  /-- The lock resources held. -/
  locks : String → Bool
  /-- The sends made so far. -/
  executions : Nat

/-- The empty cache, no lock held, no send made. -/
def IdempotencyWorld.empty : IdempotencyWorld := ⟨fun _ => none, fun _ => false, 0⟩

/-- What the calls await. -/
inductive IdempotencyOp where
  /-- `cache.get({key})`. -/
  | cacheGet (key : String)
  /-- `cache.set({key, value, ttlSecs})`. -/
  | cacheSet (key : String) (value : CachedPaymentSend) (ttlSecs : Nat)
  /-- `redlockClient.using([path], ...)` taking the lock. -/
  | lockAcquire (path : String)
  /-- Its release, once the callback has returned. -/
  | lockRelease (path : String)
  /-- `execute()`, the wrapped send. -/
  | execute
  deriving DecidableEq, Repr

/-- The replies. -/
inductive IdempotencyReply where
  | value (entry : CachedPaymentSend)
  /-- A `CacheServiceError`: a miss (`CacheUndefinedError`) or a failed call. -/
  | cacheError
  | ok
  | acquired
  /-- The lock was not taken: an `ExecutionError` (its attempts ran out) or another error. -/
  | lockFailed (executionError : Bool)
  | sent (result : PaymentSendResult)
  deriving DecidableEq, Repr

namespace IdempotencyWorld

/-- What the world replies.  A read of a present key returns its value, or fails when
`readsMayFail`; a read of an absent key fails.  A write may fail and change nothing.  The lock
is taken only when free, and taking it may always fail.  A send returns any result. -/
def answer (readsMayFail : Bool) (w : IdempotencyWorld) :
    IdempotencyOp → IdempotencyReply → Option IdempotencyWorld
  | .cacheGet key, .value entry => if w.cache key = some entry then some w else none
  | .cacheGet key, .cacheError => if readsMayFail || (w.cache key).isNone then some w else none
  | .cacheSet key value _, .ok => some { w with cache := Function.update w.cache key (some value) }
  | .cacheSet _ _ _, .cacheError => some w
  | .lockAcquire path, .acquired =>
      if w.locks path then none else some { w with locks := Function.update w.locks path true }
  | .lockAcquire _, .lockFailed _ => some w
  | .lockRelease path, .ok => some { w with locks := Function.update w.locks path false }
  | .execute, .sent _ => some { w with executions := w.executions + 1 }
  | _, _ => none

variable {readsMayFail : Bool} {w w' : IdempotencyWorld} {r : IdempotencyReply}

theorem answer_cacheGet {key : String} (h : answer readsMayFail w (.cacheGet key) r = some w') :
    w' = w ∧ ((∃ entry, r = .value entry ∧ w.cache key = some entry) ∨
      (r = .cacheError ∧ (readsMayFail = true ∨ w.cache key = none))) := by
  cases r with
  | value entry =>
      simp only [answer] at h
      split at h
      · rename_i hentry
        cases h
        exact ⟨rfl, .inl ⟨entry, rfl, hentry⟩⟩
      · cases h
  | cacheError =>
      simp only [answer] at h
      split at h
      · rename_i hread
        cases h
        refine ⟨rfl, .inr ⟨rfl, ?_⟩⟩
        simpa [Option.isNone_iff_eq_none] using hread
      · cases h
  | _ => simp [answer] at h

theorem answer_cacheSet {key : String} {value : CachedPaymentSend} {ttlSecs : Nat}
    (h : answer readsMayFail w (.cacheSet key value ttlSecs) r = some w') :
    (r = .ok ∧ w' = { w with cache := Function.update w.cache key (some value) }) ∨
      (r = .cacheError ∧ w' = w) := by
  cases r <;> simp [answer] at h
  · exact .inr ⟨rfl, h.symm⟩
  · exact .inl ⟨rfl, h.symm⟩

theorem answer_lockAcquire {path : String} (h : answer readsMayFail w (.lockAcquire path) r = some w') :
    (r = .acquired ∧ w.locks path = false ∧
      w' = { w with locks := Function.update w.locks path true }) ∨
    ((∃ executionError, r = .lockFailed executionError) ∧ w' = w) := by
  cases r with
  | acquired =>
      simp only [answer] at h
      split at h
      · cases h
      · rename_i hfree
        cases h
        exact .inl ⟨rfl, by simpa using hfree, rfl⟩
  | lockFailed executionError =>
      simp only [answer] at h
      cases h
      exact .inr ⟨⟨executionError, rfl⟩, rfl⟩
  | _ => simp [answer] at h

theorem answer_lockRelease {path : String} (h : answer readsMayFail w (.lockRelease path) r = some w') :
    r = .ok ∧ w' = { w with locks := Function.update w.locks path false } := by
  cases r <;> simp [answer] at h
  exact ⟨rfl, h.symm⟩

theorem answer_execute (h : answer readsMayFail w .execute r = some w') :
    (∃ result, r = .sent result) ∧ w' = { w with executions := w.executions + 1 } := by
  cases r <;> simp [answer] at h
  exact ⟨⟨_, rfl⟩, h.symm⟩

end IdempotencyWorld

/-! ### The calls -/

/-- The programs of the calls. -/
abbrev IdempotencyProg := Prog IdempotencyOp IdempotencyReply

/-- `await execute()`. -/
def execute : IdempotencyProg PaymentSendResult :=
  .call .execute fun
    | .sent outcome => .pure outcome
    | _ => .pure (.error .send)

/-- After the send: a definitive outcome is cached, and the outcome is returned whether or not
the write went through (a failed write is only reported). -/
def persistOutcome (cacheKey fingerprint : String) :
    PaymentSendResult → IdempotencyProg PaymentSendResult
  | .status s =>
      .call (.cacheSet cacheKey ⟨fingerprint, s⟩ IDEMPOTENCY_TTL_SECS) fun _ => .pure (.status s)
  | .error e => .pure (.error e)

/-- The callback run under the lock: read again, then send and persist. -/
def inLock (cacheKey fingerprint : String) : IdempotencyProg PaymentSendResult :=
  .call (.cacheGet cacheKey) fun
    | .value cachedInLock => .pure (resolveCached fingerprint cachedInLock)
    | _ => execute.bind (persistOutcome cacheKey fingerprint)

/-- `redlock({path, asyncFn})` with no signal: `redlockClient.using` takes the lock, runs the
callback and releases the lock; an `ExecutionError` is `ResourceAttemptsLockServiceError`, any
other error `UnknownLockServiceError`. -/
def redlock {α : Type} (path : String) (asyncFn : IdempotencyProg α) :
    IdempotencyProg (Except LockServiceError α) :=
  .call (.lockAcquire path) fun
    | .acquired => asyncFn.bind fun ret => .call (.lockRelease path) fun _ => .pure (.ok ret)
    | .lockFailed true => .pure (.error .resourceAttempts)
    | _ => .pure (.error .unknown)

/-- `lockPaymentIdempotencyKey`. -/
def lockPaymentIdempotencyKey {α : Type} (idempotencyKey : String) (asyncFn : IdempotencyProg α) :
    IdempotencyProg (Except LockServiceError α) :=
  redlock (getPaymentIdempotencyKeyLockResource idempotencyKey) asyncFn

/-- Step 2 of a keyed call: the callback under the lock, or the lock's error. -/
def lockedSend (scopedKey fingerprint : String) : IdempotencyProg PaymentSendResult :=
  (lockPaymentIdempotencyKey scopedKey (inLock (cacheKeyFor scopedKey) fingerprint)).bind fun
    | .ok result => .pure result
    | .error e => .pure (.error (.lockService e))

/-- A keyed call, after its key checks: the fast-path read, then step 2 on a miss. -/
def withScopedKey (scopedKey fingerprint : String) : IdempotencyProg PaymentSendResult :=
  .call (.cacheGet (cacheKeyFor scopedKey)) fun
    | .value cached => .pure (resolveCached fingerprint cached)
    | _ => lockedSend scopedKey fingerprint

/-- The arguments of `withPaymentIdempotency` other than the send. -/
structure PaymentIdempotencyArgs where
  idempotencyKey : Option String
  senderWalletId : String
  requestFingerprint : String
  deriving DecidableEq, Repr

/-- `withPaymentIdempotency`.  No key, the empty key (`!idempotencyKey`) and a blank key run the
send unchanged; an over-long key is rejected. -/
def withPaymentIdempotency (args : PaymentIdempotencyArgs) : IdempotencyProg PaymentSendResult :=
  match args.idempotencyKey with
  | none => execute
  | some idempotencyKey =>
      if idempotencyKey = "" then execute
      else
        let trimmedKey := Js.trim idempotencyKey
        if Js.length trimmedKey = 0 then execute
        else if MAX_KEY_LENGTH < Js.length trimmedKey then
          .pure (.error (.invalidIdempotencyKey idempotencyKey))
        else withScopedKey (args.senderWalletId ++ ":" ++ trimmedKey)
          (fingerprintOf args.requestFingerprint)

/-- The scoped key a call dedupes on: present exactly when its key is given, is not blank once
trimmed, and is at most `MAX_KEY_LENGTH` long. -/
def PaymentIdempotencyArgs.scopedKey (args : PaymentIdempotencyArgs) : Option String :=
  args.idempotencyKey.bind fun k =>
    if Js.length (Js.trim k) = 0 ∨ MAX_KEY_LENGTH < Js.length (Js.trim k) then none
    else some (args.senderWalletId ++ ":" ++ Js.trim k)

/-- A call with a valid key is the keyed call of its scoped key. -/
theorem withPaymentIdempotency_of_scopedKey {args : PaymentIdempotencyArgs} {sk : String}
    (h : args.scopedKey = some sk) :
    withPaymentIdempotency args = withScopedKey sk (fingerprintOf args.requestFingerprint) := by
  obtain ⟨key, senderWalletId, requestFingerprint⟩ := args
  cases key with
  | none => cases h
  | some k =>
      simp only [PaymentIdempotencyArgs.scopedKey, Option.bind_some] at h
      split at h
      · cases h
      · rename_i hvalid
        cases h
        -- the empty key trims to a blank one, which the scoped key rules out
        have hk : k ≠ "" := by
          rintro rfl
          exact hvalid (.inl rfl)
        simp only [withPaymentIdempotency, hk, if_false]
        rw [if_neg (fun h0 => hvalid (.inl h0)), if_neg (fun hlong => hvalid (.inr hlong))]

/-! ### Where a call stands -/

/-- The points at which a keyed call waits. -/
inductive CallPhase where
  /-- The fast-path read. -/
  | fastPath
  /-- Taking the lock, after a fast-path miss. -/
  | acquiring
  /-- The read under the lock. -/
  | recheck
  /-- The send is running. -/
  | executing
  /-- Persisting the send's outcome. -/
  | persisting (outcome : PaymentSendResult)
  /-- The callback has returned and the lock is released. -/
  | releasing
  | done
  deriving DecidableEq, Repr

namespace CallPhase

/-- The call holds the lock. -/
def holdsLock : CallPhase → Bool
  | .recheck | .executing | .persisting _ | .releasing => true
  | _ => false

/-- The call's send is running, or has returned and its outcome is not cached yet. -/
def sending : CallPhase → Bool
  | .executing | .persisting _ => true
  | _ => false

theorem holdsLock_of_sending {ph : CallPhase} (h : ph.sending = true) : ph.holdsLock = true := by
  cases ph <;> simp_all [sending, holdsLock]

/-- The phase after a reply, by the branches of the source. -/
def next : CallPhase → IdempotencyReply → CallPhase
  | .fastPath, .value _ => .done
  | .fastPath, _ => .acquiring
  | .acquiring, .acquired => .recheck
  | .acquiring, _ => .done
  | .recheck, .value _ => .releasing
  | .recheck, _ => .executing
  | .executing, .sent outcome => .persisting outcome
  | .executing, _ => .persisting (.error .send)
  | .persisting (.status _), _ => .releasing
  | .persisting (.error _), _ => .done
  | .releasing, _ => .done
  | .done, _ => .done

/-- What a call waits on at each phase. -/
def op (scopedKey fingerprint : String) : CallPhase → Option IdempotencyOp
  | .fastPath | .recheck => some (.cacheGet (cacheKeyFor scopedKey))
  | .acquiring => some (.lockAcquire (getPaymentIdempotencyKeyLockResource scopedKey))
  | .executing => some .execute
  | .persisting (.status s) =>
      some (.cacheSet (cacheKeyFor scopedKey) ⟨fingerprint, s⟩ IDEMPOTENCY_TTL_SECS)
  | .persisting (.error _) | .releasing =>
      some (.lockRelease (getPaymentIdempotencyKeyLockResource scopedKey))
  | .done => none

/-- The release of the lock, the rest of the call being done. -/
def releaseLock (path : String) : IdempotencyProg Unit :=
  .call (.lockRelease path) fun _ => .pure ()

/-- The program of a keyed call at each phase, its value dropped. -/
def prog (scopedKey fingerprint : String) : CallPhase → IdempotencyProg Unit
  | .fastPath => (withScopedKey scopedKey fingerprint).bind fun _ => .pure ()
  | .acquiring => (lockedSend scopedKey fingerprint).bind fun _ => .pure ()
  | .recheck => (inLock (cacheKeyFor scopedKey) fingerprint).bind fun _ =>
      releaseLock (getPaymentIdempotencyKeyLockResource scopedKey)
  | .executing => (execute.bind (persistOutcome (cacheKeyFor scopedKey) fingerprint)).bind fun _ =>
      releaseLock (getPaymentIdempotencyKeyLockResource scopedKey)
  | .persisting outcome => (persistOutcome (cacheKeyFor scopedKey) fingerprint outcome).bind
      fun _ => releaseLock (getPaymentIdempotencyKeyLockResource scopedKey)
  | .releasing => releaseLock (getPaymentIdempotencyKeyLockResource scopedKey)
  | .done => .pure ()

/-- **The programs refine the phases.**  A call waiting at a phase waits on that phase's
operation, and on any reply goes on as the program of the next phase. -/
theorem prog_eq_call {sk fp : String} {ph : CallPhase} {op : IdempotencyOp}
    {k : IdempotencyReply → IdempotencyProg Unit} (h : ph.prog sk fp = .call op k) :
    ph.op sk fp = some op ∧ ∀ r, k r = (ph.next r).prog sk fp := by
  cases ph with
  | fastPath =>
      simp only [prog, withScopedKey, Prog.call_bind, Prog.call.injEq] at h
      obtain ⟨rfl, rfl⟩ := h
      refine ⟨rfl, fun r => ?_⟩
      cases r <;> rfl
  | acquiring =>
      simp only [prog, lockedSend, lockPaymentIdempotencyKey, redlock, Prog.call_bind,
        Prog.call.injEq] at h
      obtain ⟨rfl, rfl⟩ := h
      refine ⟨rfl, fun r => ?_⟩
      -- on the lock taken, the rest of `redlock` and of the call reassociate onto the release
      cases r with
      | acquired => simp [next, prog, Prog.bind_assoc, releaseLock]
      | lockFailed executionError => cases executionError <;> rfl
      | _ => rfl
  | recheck =>
      simp only [prog, inLock, Prog.call_bind, Prog.call.injEq] at h
      obtain ⟨rfl, rfl⟩ := h
      refine ⟨rfl, fun r => ?_⟩
      cases r with
      | value entry => rfl
      | _ => simp [next, prog, Prog.bind_assoc]
  | executing =>
      simp only [prog, execute, Prog.call_bind, Prog.call.injEq] at h
      obtain ⟨rfl, rfl⟩ := h
      refine ⟨rfl, fun r => ?_⟩
      cases r <;> rfl
  | persisting outcome =>
      cases outcome with
      | status s =>
          simp only [prog, persistOutcome, Prog.call_bind, Prog.call.injEq] at h
          obtain ⟨rfl, rfl⟩ := h
          exact ⟨rfl, fun r => rfl⟩
      | error e =>
          simp only [prog, persistOutcome, Prog.pure_bind, releaseLock, Prog.call.injEq] at h
          obtain ⟨rfl, rfl⟩ := h
          exact ⟨rfl, fun r => rfl⟩
  | releasing =>
      simp only [prog, releaseLock, Prog.call.injEq] at h
      obtain ⟨rfl, rfl⟩ := h
      exact ⟨rfl, fun r => rfl⟩
  | done => cases h

/-- Only a call that is sending waits on the send. -/
theorem eq_executing_of_op {sk fp : String} {ph : CallPhase} (h : ph.op sk fp = some .execute) :
    ph = .executing := by
  cases ph with
  | persisting outcome => cases outcome <;> simp [op] at h
  | executing => rfl
  | _ => simp [op] at h

variable {m : Bool} {sk fp : String} {ph : CallPhase} {o : IdempotencyOp}
  {r : IdempotencyReply} {w w' : IdempotencyWorld}

/-- What one step of a call does to the lock: it takes the free lock, releases it, or leaves it
alone and keeps holding it or not. -/
theorem step_locks (hop : ph.op sk fp = some o) (hsem : w.answer m o r = some w') :
    ((ph.next r).holdsLock = ph.holdsLock ∧ w'.locks = w.locks) ∨
    (ph.holdsLock = false ∧ (ph.next r).holdsLock = true ∧
      w.locks (getPaymentIdempotencyKeyLockResource sk) = false ∧
      w'.locks = Function.update w.locks (getPaymentIdempotencyKeyLockResource sk) true) ∨
    (ph.holdsLock = true ∧ (ph.next r).holdsLock = false ∧
      w'.locks = Function.update w.locks (getPaymentIdempotencyKeyLockResource sk) false) := by
  cases ph with
  | fastPath | recheck =>
      simp only [op, Option.some.injEq] at hop
      subst hop
      obtain ⟨rfl, hr⟩ := IdempotencyWorld.answer_cacheGet hsem
      rcases hr with ⟨entry, rfl, -⟩ | ⟨rfl, -⟩ <;> simp [next, holdsLock]
  | acquiring =>
      simp only [op, Option.some.injEq] at hop
      subst hop
      rcases IdempotencyWorld.answer_lockAcquire hsem with ⟨rfl, hfree, rfl⟩ | ⟨⟨e, rfl⟩, rfl⟩
      · exact .inr (.inl ⟨rfl, rfl, hfree, rfl⟩)
      · simp [next, holdsLock]
  | executing =>
      simp only [op, Option.some.injEq] at hop
      subst hop
      obtain ⟨⟨result, rfl⟩, rfl⟩ := IdempotencyWorld.answer_execute hsem
      simp [next, holdsLock]
  | persisting outcome =>
      cases outcome with
      | status s =>
          simp only [op, Option.some.injEq] at hop
          subst hop
          rcases IdempotencyWorld.answer_cacheSet hsem with ⟨rfl, rfl⟩ | ⟨rfl, rfl⟩ <;>
            simp [next, holdsLock]
      | error e =>
          simp only [op, Option.some.injEq] at hop
          subst hop
          obtain ⟨rfl, rfl⟩ := IdempotencyWorld.answer_lockRelease hsem
          exact .inr (.inr ⟨rfl, rfl, rfl⟩)
  | releasing =>
      simp only [op, Option.some.injEq] at hop
      subst hop
      obtain ⟨rfl, rfl⟩ := IdempotencyWorld.answer_lockRelease hsem
      exact .inr (.inr ⟨rfl, rfl, rfl⟩)
  | done => cases hop

/-- What one step of a call does to the key's cached result and to the sends, when a read of a
present key returns it: a call starts sending only while the key is absent, and only a sending
call writes the key, after which it has stopped sending, or sends. -/
theorem step_cache (hop : ph.op sk fp = some o) (hsem : w.answer false o r = some w') :
    ((ph.next r).sending = true → ph.sending = true ∨ w.cache (cacheKeyFor sk) = none) ∧
    (w'.cache (cacheKeyFor sk) ≠ w.cache (cacheKeyFor sk) →
      ph.sending = true ∧ (ph.next r).sending = false) ∧
    (w'.executions ≠ w.executions → ph.sending = true) := by
  cases ph with
  | fastPath | recheck =>
      simp only [op, Option.some.injEq] at hop
      subst hop
      obtain ⟨rfl, hr⟩ := IdempotencyWorld.answer_cacheGet hsem
      -- a read under the lock that fails, on which the call sends, finds the key absent
      rcases hr with ⟨entry, rfl, -⟩ | ⟨rfl, hread⟩
      · simp [next, sending]
      · simp only [Bool.false_eq_true, false_or] at hread
        simp [hread]
  | acquiring =>
      simp only [op, Option.some.injEq] at hop
      subst hop
      rcases IdempotencyWorld.answer_lockAcquire hsem with ⟨rfl, -, rfl⟩ | ⟨⟨e, rfl⟩, rfl⟩ <;>
        simp [next, sending]
  | executing =>
      simp only [op, Option.some.injEq] at hop
      subst hop
      obtain ⟨-, rfl⟩ := IdempotencyWorld.answer_execute hsem
      simp [sending]
  | persisting outcome =>
      cases outcome with
      | status s =>
          simp only [op, Option.some.injEq] at hop
          subst hop
          rcases IdempotencyWorld.answer_cacheSet hsem with ⟨rfl, rfl⟩ | ⟨rfl, rfl⟩ <;>
            simp [next, sending]
      | error e =>
          simp only [op, Option.some.injEq] at hop
          subst hop
          obtain ⟨rfl, rfl⟩ := IdempotencyWorld.answer_lockRelease hsem
          simp [sending]
  | releasing =>
      simp only [op, Option.some.injEq] at hop
      subst hop
      obtain ⟨rfl, rfl⟩ := IdempotencyWorld.answer_lockRelease hsem
      simp [next, sending]
  | done => cases hop

end CallPhase

/-- A keyed call's fingerprint and phase. -/
structure CallState where
  fingerprint : String
  phase : CallPhase
  deriving DecidableEq, Repr

/-- The state after a reply. -/
def CallState.next (st : CallState) (r : IdempotencyReply) : CallState :=
  { st with phase := st.phase.next r }

/-! ### Concurrent calls of one key -/

/-- Concurrent calls against one Redis. -/
abbrev IdempotencyPool := Pool IdempotencyWorld IdempotencyOp IdempotencyReply

/-- The calls `calls`, against the world `w`; what each call returns is dropped. -/
def IdempotencyPool.start (w : IdempotencyWorld) (calls : List PaymentIdempotencyArgs) :
    IdempotencyPool :=
  ⟨w, calls.map fun args => (withPaymentIdempotency args).bind fun _ => .pure ()⟩

/-- The pool's threads are the calls of scoped key `sk` at `states`. -/
def PoolAt (sk : String) (states : List CallState) (c : IdempotencyPool) : Prop :=
  c.threads = states.map fun st => st.phase.prog sk st.fingerprint

theorem poolAt_start {sk : String} {calls : List PaymentIdempotencyArgs}
    (hscope : ∀ args ∈ calls, args.scopedKey = some sk) (w : IdempotencyWorld) :
    PoolAt sk (calls.map fun args => ⟨fingerprintOf args.requestFingerprint, .fastPath⟩)
      (IdempotencyPool.start w calls) := by
  simp only [PoolAt, IdempotencyPool.start, List.map_map]
  refine List.map_congr_left fun args hargs => ?_
  simp [CallPhase.prog, withPaymentIdempotency_of_scopedKey (hscope args hargs)]

/-- One step of the pool is one step of one call: it waits on its phase's operation, the world
answers it, and the call moves to its next phase. -/
theorem poolAt_step {m : Bool} {sk : String} {states : List CallState} {c c' : IdempotencyPool}
    {i : Nat} {r : IdempotencyReply} (hat : PoolAt sk states c)
    (h : Pool.step (IdempotencyWorld.answer m) c i r = some c') :
    ∃ hi : i < states.length, ∃ op, states[i].phase.op sk states[i].fingerprint = some op ∧
      c.world.answer m op r = some c'.world ∧ PoolAt sk (states.set i (states[i].next r)) c' := by
  obtain ⟨op, k, hthread, hsem, hthreads⟩ := Pool.step_eq_some h
  rw [hat, List.getElem?_map] at hthread
  obtain ⟨st, hst, hprog⟩ := Option.map_eq_some_iff.mp hthread
  obtain ⟨hi, rfl⟩ := List.getElem?_eq_some_iff.mp hst
  obtain ⟨hop, hk⟩ := CallPhase.prog_eq_call hprog
  refine ⟨hi, op, hop, hsem, ?_⟩
  rw [PoolAt, hthreads, hat, hk r, List.map_set]
  rfl

/-! ### Mutual exclusion -/

/-- At most one call holds the lock, and while one does the lock is taken. -/
def MutexInv (sk : String) (states : List CallState) (w : IdempotencyWorld) : Prop :=
  (∀ i j (hi : i < states.length) (hj : j < states.length),
    states[i].phase.holdsLock = true → states[j].phase.holdsLock = true → i = j) ∧
  ∀ st ∈ states, st.phase.holdsLock = true →
    w.locks (getPaymentIdempotencyKeyLockResource sk) = true

theorem mutexInv_start (sk : String) (calls : List PaymentIdempotencyArgs) (w : IdempotencyWorld) :
    MutexInv sk (calls.map fun args => ⟨fingerprintOf args.requestFingerprint, .fastPath⟩) w := by
  constructor
  · intro i j hi hj h
    simp [CallPhase.holdsLock] at h
  · intro st hst h
    obtain ⟨args, -, rfl⟩ := List.mem_map.mp hst
    simp [CallPhase.holdsLock] at h

/-- Setting call `i` to `x` keeps at most one holder, when `x` holding leaves no other holder. -/
theorem oneHolder_set {states : List CallState} {i : Nat} {x : CallState}
    (hone : ∀ j l (hj : j < states.length) (hl : l < states.length),
      states[j].phase.holdsLock = true → states[l].phase.holdsLock = true → j = l)
    (hx : x.phase.holdsLock = true →
      ∀ j (hj : j < states.length), j ≠ i → states[j].phase.holdsLock = false) :
    ∀ j l (hj : j < (states.set i x).length) (hl : l < (states.set i x).length),
      (states.set i x)[j].phase.holdsLock = true → (states.set i x)[l].phase.holdsLock = true →
        j = l := by
  intro j l hj hl hjh hlh
  rw [List.getElem_set] at hjh hlh
  split at hjh <;> split at hlh
  · subst_vars; rfl
  · rename_i hij hil
    subst hij
    simp [hx hjh l (by simpa using hl) (Ne.symm hil)] at hlh
  · rename_i hij hil
    subst hil
    simp [hx hlh j (by simpa using hj) (Ne.symm hij)] at hjh
  · exact hone j l _ _ hjh hlh

/-- One step keeps `MutexInv`: a call takes the lock only when it is free, so when no call
holds it, and the holder that releases it was the only one. -/
theorem mutexInv_step {m : Bool} {sk : String} {states : List CallState} {w w' : IdempotencyWorld}
    {i : Nat} (hi : i < states.length) {op : IdempotencyOp} {r : IdempotencyReply}
    (hinv : MutexInv sk states w)
    (hop : states[i].phase.op sk states[i].fingerprint = some op) (hsem : w.answer m op r = some w') :
    MutexInv sk (states.set i (states[i].next r)) w' := by
  obtain ⟨hone, hlocked⟩ := hinv
  rcases CallPhase.step_locks hop hsem with ⟨hsame, hlocks⟩ | ⟨-, -, hunlocked, hlocks⟩ |
      ⟨hheld, hreleases, hlocks⟩
  · -- the lock is untouched, and call `i` holds it after the step exactly when it did before
    have hkeeps : (states[i].next r).phase.holdsLock = states[i].phase.holdsLock := hsame
    refine ⟨oneHolder_set hone fun hx j hj hji => ?_, fun st hst hsth => ?_⟩
    · cases hj' : states[j].phase.holdsLock with
      | false => rfl
      | true => exact absurd (hone j i hj hi hj' (hkeeps ▸ hx)) hji
    · rw [hlocks]
      rcases List.mem_or_eq_of_mem_set hst with hst | rfl
      · exact hlocked st hst hsth
      · exact hlocked _ (List.getElem_mem hi) (hkeeps ▸ hsth)
  · -- the lock was free, so no call held it, and call `i` takes it
    have hnone : ∀ j (hj : j < states.length), states[j].phase.holdsLock = false := by
      intro j hj
      cases hj' : states[j].phase.holdsLock with
      | false => rfl
      | true => simpa [hunlocked] using hlocked _ (List.getElem_mem hj) hj'
    refine ⟨oneHolder_set hone fun _ j hj _ => hnone j hj, fun _ _ _ => ?_⟩
    rw [hlocks, Function.update_self]
  · -- call `i` held the lock, so no other call did, and it releases it
    have hdrops : (states[i].next r).phase.holdsLock = false := hreleases
    refine ⟨oneHolder_set hone fun hx => absurd hx (by simp [hdrops]), fun st hst hsth => ?_⟩
    obtain ⟨j, hj, rfl⟩ := List.getElem_of_mem hst
    rw [List.getElem_set] at hsth
    split at hsth
    · simp [hdrops] at hsth
    · rename_i hij
      exact absurd (hone i j hi (by simpa using hj) hheld hsth) hij

/-- Every run of calls of one scoped key keeps `MutexInv`. -/
theorem mutexInv_run {m : Bool} {sk : String} {calls : List PaymentIdempotencyArgs}
    (hscope : ∀ args ∈ calls, args.scopedKey = some sk) (w : IdempotencyWorld)
    {sched : List (Nat × IdempotencyReply)} {c : IdempotencyPool}
    (h : Pool.run (IdempotencyWorld.answer m) (IdempotencyPool.start w calls) sched = some c) :
    ∃ states, PoolAt sk states c ∧ MutexInv sk states c.world := by
  refine Pool.run_inv (I := fun c => ∃ states, PoolAt sk states c ∧ MutexInv sk states c.world)
    ?_ ⟨_, poolAt_start hscope w, mutexInv_start sk calls w⟩ h
  rintro c c' i r ⟨states, hat, hinv⟩ hstep
  obtain ⟨hi, op, hop, hsem, hat'⟩ := poolAt_step hat hstep
  exact ⟨_, hat', mutexInv_step hi hinv hop hsem⟩

/-- **No two sends of one key overlap.**  In every interleaving of calls sharing a scoped key,
whatever Redis and the lock reply, two calls waiting on their sends at once are the same call. -/
theorem execute_calls_never_overlap {m : Bool} {sk : String} {calls : List PaymentIdempotencyArgs}
    (hscope : ∀ args ∈ calls, args.scopedKey = some sk) (w : IdempotencyWorld)
    {sched : List (Nat × IdempotencyReply)} {c : IdempotencyPool}
    (h : Pool.run (IdempotencyWorld.answer m) (IdempotencyPool.start w calls) sched = some c)
    {i j : Nat} {ki kj : IdempotencyReply → IdempotencyProg Unit}
    (hi : c.threads[i]? = some (.call .execute ki)) (hj : c.threads[j]? = some (.call .execute kj)) :
    i = j := by
  obtain ⟨states, hat, hone, -⟩ := mutexInv_run hscope w h
  -- a call waiting on its send is executing, and so holds the lock
  have hexec : ∀ n k, c.threads[n]? = some (.call .execute k) →
      ∃ hn : n < states.length, states[n].phase.holdsLock = true := by
    intro n k hn
    rw [hat, List.getElem?_map] at hn
    obtain ⟨st, hst, hprog⟩ := Option.map_eq_some_iff.mp hn
    obtain ⟨hlt, rfl⟩ := List.getElem?_eq_some_iff.mp hst
    refine ⟨hlt, ?_⟩
    rw [CallPhase.eq_executing_of_op (CallPhase.prog_eq_call hprog).1]
    rfl
  obtain ⟨hi', hih⟩ := hexec i ki hi
  obtain ⟨hj', hjh⟩ := hexec j kj hj
  exact hone i j hi' hj' hih hjh

/-- A payment request made twice under one key. -/
def repeatedPayment : PaymentIdempotencyArgs :=
  ⟨some "key-1", "wallet-a", "pay-to-alice|100"⟩

theorem repeatedPayment_scopedKey :
    ∀ args ∈ [repeatedPayment, repeatedPayment], args.scopedKey = some "wallet-a:key-1" := by
  decide

/-- The first call misses and takes the lock; the second misses and finds the lock taken; the
first misses again under the lock and sends. -/
def busyKeySchedule : List (Nat × IdempotencyReply) :=
  [(0, .cacheError), (0, .acquired), (1, .cacheError), (1, .lockFailed true), (0, .cacheError)]

/-- While the first call sends, no other call does. -/
theorem one_send_while_key_busy :
    ∃ c, Pool.run (IdempotencyWorld.answer true)
        (IdempotencyPool.start .empty [repeatedPayment, repeatedPayment]) busyKeySchedule = some c ∧
      (∃ k, c.threads[0]? = some (.call .execute k)) ∧
      ∀ j k, c.threads[j]? = some (.call .execute k) → 0 = j :=
  ⟨_, rfl, ⟨_, rfl⟩, fun _ _ hj =>
    execute_calls_never_overlap repeatedPayment_scopedKey .empty
      (rfl : Pool.run (IdempotencyWorld.answer true)
        (IdempotencyPool.start .empty [repeatedPayment, repeatedPayment]) busyKeySchedule = _)
      rfl hj⟩

/-! ### A cached result is final, when reads are reliable -/

/-- Once the key holds a result, no call is sending. -/
def CachedInv (sk : String) (states : List CallState) (w : IdempotencyWorld) : Prop :=
  (w.cache (cacheKeyFor sk)).isSome = true → ∀ st ∈ states, st.phase.sending = false

/-- One step with reliable reads keeps `CachedInv`: a call starts sending only while the key is
absent, and the call that writes the key was the only one sending, since it held the lock. -/
theorem cachedInv_step {sk : String} {states : List CallState} {w w' : IdempotencyWorld}
    {i : Nat} (hi : i < states.length) {op : IdempotencyOp} {r : IdempotencyReply}
    (hmutex : MutexInv sk states w) (hinv : CachedInv sk states w)
    (hop : states[i].phase.op sk states[i].fingerprint = some op)
    (hsem : w.answer false op r = some w') :
    CachedInv sk (states.set i (states[i].next r)) w' := by
  obtain ⟨hstart, hwrite, -⟩ := CallPhase.step_cache hop hsem
  intro hcached st hst
  obtain ⟨j, hj, rfl⟩ := List.getElem_of_mem hst
  have hj' : j < states.length := by simpa using hj
  by_cases hsame : w'.cache (cacheKeyFor sk) = w.cache (cacheKeyFor sk)
  · -- the key held its result before the step, so no call was sending
    rw [hsame] at hcached
    have hnone : ∀ st ∈ states, st.phase.sending = false := hinv hcached
    by_cases hij : i = j
    · subst hij
      simp only [List.getElem_set_self, CallState.next]
      cases hnext : (states[i].phase.next r).sending with
      | false => rfl
      | true =>
          rcases hstart hnext with hsending | habsent
          · simp [hnone _ (List.getElem_mem hi)] at hsending
          · simp [habsent] at hcached
    · simp only [List.getElem_set, hij, if_false]
      exact hnone _ (List.getElem_mem hj')
  · -- call `i` wrote the key: it was sending, so it held the lock, and no other call did
    obtain ⟨hsending, hstops⟩ := hwrite hsame
    by_cases hij : i = j
    · subst hij
      simpa [CallState.next] using hstops
    · simp only [List.getElem_set, hij, if_false]
      cases hother : states[j].phase.sending with
      | false => rfl
      | true =>
          exact absurd (hmutex.1 i j hi hj' (CallPhase.holdsLock_of_sending hsending)
            (CallPhase.holdsLock_of_sending hother)) hij

/-- The invariants of runs with reliable reads, over the calls of scoped key `sk`. -/
def ReliableAt (sk : String) (c : IdempotencyPool) : Prop :=
  ∃ states, PoolAt sk states c ∧ MutexInv sk states c.world ∧ CachedInv sk states c.world

/-- One step with reliable reads keeps `ReliableAt`, and once the key holds a result the step
neither sends nor changes it. -/
theorem reliableAt_step {sk : String} {c c' : IdempotencyPool} {i : Nat} {r : IdempotencyReply}
    (hinv : ReliableAt sk c) (h : Pool.step (IdempotencyWorld.answer false) c i r = some c') :
    ReliableAt sk c' ∧ ((c.world.cache (cacheKeyFor sk)).isSome = true →
      c'.world.executions = c.world.executions ∧
        c'.world.cache (cacheKeyFor sk) = c.world.cache (cacheKeyFor sk)) := by
  obtain ⟨states, hat, hmutex, hcached⟩ := hinv
  obtain ⟨hi, op, hop, hsem, hat'⟩ := poolAt_step hat h
  refine ⟨⟨_, hat', mutexInv_step hi hmutex hop hsem, cachedInv_step hi hmutex hcached hop hsem⟩,
    fun hsome => ?_⟩
  -- the call that moved is not sending, so it neither sends nor writes the key
  have hidle : states[i].phase.sending = false := hcached hsome _ (List.getElem_mem hi)
  obtain ⟨-, hwrite, hsend⟩ := CallPhase.step_cache hop hsem
  refine ⟨?_, ?_⟩
  · by_contra hne
    simp [hsend hne] at hidle
  · by_contra hne
    simp [(hwrite hne).1] at hidle

theorem reliableAt_run {sk : String} {calls : List PaymentIdempotencyArgs}
    (hscope : ∀ args ∈ calls, args.scopedKey = some sk) (w : IdempotencyWorld)
    {sched : List (Nat × IdempotencyReply)} {c : IdempotencyPool}
    (h : Pool.run (IdempotencyWorld.answer false) (IdempotencyPool.start w calls) sched = some c) :
    ReliableAt sk c := by
  have hstart : ReliableAt sk (IdempotencyPool.start w calls) := by
    refine ⟨_, poolAt_start hscope w, mutexInv_start sk calls w, ?_⟩
    intro _ st hst
    obtain ⟨args, -, rfl⟩ := List.mem_map.mp hst
    rfl
  exact Pool.run_inv (fun _ _ _ _ hinv hstep => (reliableAt_step hinv hstep).1) hstart h

/-- **A cached send is not made again, when reads are reliable.**  In a run of calls sharing a
scoped key in which every read of a present key returns it, once the key holds a result no
later step sends, and the result stays. -/
theorem cached_send_not_executed_again_with_reliable_reads {sk : String}
    {calls : List PaymentIdempotencyArgs} (hscope : ∀ args ∈ calls, args.scopedKey = some sk)
    (w : IdempotencyWorld) {s₁ s₂ : List (Nat × IdempotencyReply)} {c₁ c₂ : IdempotencyPool}
    {entry : CachedPaymentSend}
    (h₁ : Pool.run (IdempotencyWorld.answer false) (IdempotencyPool.start w calls) s₁ = some c₁)
    (hcached : c₁.world.cache (cacheKeyFor sk) = some entry)
    (h₂ : Pool.run (IdempotencyWorld.answer false) c₁ s₂ = some c₂) :
    c₂.world.executions = c₁.world.executions ∧ c₂.world.cache (cacheKeyFor sk) = some entry := by
  -- carry the count of sends and the cached result along the second part of the run
  refine (Pool.run_inv (I := fun c => ReliableAt sk c ∧
      c.world.executions = c₁.world.executions ∧ c.world.cache (cacheKeyFor sk) = some entry)
    ?_ ⟨reliableAt_run hscope w h₁, rfl, hcached⟩ h₂).2
  rintro c c' i r ⟨hinv, hsends, hentry⟩ hstep
  obtain ⟨hinv', hkeep⟩ := reliableAt_step hinv hstep
  obtain ⟨hsends', hentry'⟩ := hkeep (by simp [hentry])
  exact ⟨hinv', hsends' ▸ hsends, hentry' ▸ hentry⟩

/-- The first call misses, takes the lock, misses again, sends, caches its success and releases
the lock. -/
def firstSend : List (Nat × IdempotencyReply) :=
  [(0, .cacheError), (0, .acquired), (0, .cacheError), (0, .sent (.status .success)), (0, .ok),
   (0, .ok)]

/-- The second call's fast-path read returns the cached success. -/
def replayFromCache : List (Nat × IdempotencyReply) :=
  [(1, .value ⟨"pay-to-alice|100", .success⟩)]

/-- After the first send is cached, the second call replays it and sends nothing. -/
theorem replay_after_cached_send :
    ∃ c₁ c₂, Pool.run (IdempotencyWorld.answer false)
        (IdempotencyPool.start .empty [repeatedPayment, repeatedPayment]) firstSend = some c₁ ∧
      Pool.run (IdempotencyWorld.answer false) c₁ replayFromCache = some c₂ ∧
      c₂.world.executions = c₁.world.executions ∧
      c₂.world.cache (cacheKeyFor "wallet-a:key-1") = some ⟨"pay-to-alice|100", .success⟩ :=
  ⟨_, _, rfl, rfl,
    cached_send_not_executed_again_with_reliable_reads repeatedPayment_scopedKey .empty
      (rfl : Pool.run (IdempotencyWorld.answer false)
        (IdempotencyPool.start .empty [repeatedPayment, repeatedPayment]) firstSend = _)
      rfl (rfl : Pool.run (IdempotencyWorld.answer false) _ replayFromCache = _)⟩

/-! ### A failed read of a cached key -/

/-- The second call's fast-path read fails, it takes the lock, its read under the lock fails,
and it sends. -/
def retryAfterFailedReads : List (Nat × IdempotencyReply) :=
  [(1, .cacheError), (1, .acquired), (1, .cacheError), (1, .sent (.status .success))]

/-- **A failed read sends a cached payment again.**  After the first call has sent and cached
its success, both reads of the second call fail while the key holds that success; the second
call takes them for misses and sends again.  With reads that return a present key the same
replies are no run. -/
theorem transient_read_sends_cached_payment_again :
    (Pool.run (IdempotencyWorld.answer true)
        (IdempotencyPool.start .empty [repeatedPayment, repeatedPayment]) firstSend).map
        (fun c => (c.world.cache (cacheKeyFor "wallet-a:key-1"), c.world.executions)) =
      some (some ⟨"pay-to-alice|100", .success⟩, 1) ∧
    (Pool.run (IdempotencyWorld.answer true)
        (IdempotencyPool.start .empty [repeatedPayment, repeatedPayment])
        (firstSend ++ retryAfterFailedReads)).map
        (fun c => (c.world.cache (cacheKeyFor "wallet-a:key-1"), c.world.executions)) =
      some (some ⟨"pay-to-alice|100", .success⟩, 2) ∧
    (Pool.run (IdempotencyWorld.answer false)
        (IdempotencyPool.start .empty [repeatedPayment, repeatedPayment])
        (firstSend ++ retryAfterFailedReads)).isNone = true := by
  decide

end Payments
