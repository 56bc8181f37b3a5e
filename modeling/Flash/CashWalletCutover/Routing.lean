import Flash.Support.Except
import Flash.Shared.Amounts
import Flash.CashWalletCutover.Migration

/-!
# Cash-wallet cutover — routing cash to the legacy or the USDT wallet

`guard.ts`, `presentation.ts`, `cashout-routing.ts` and `presentation-for-account.ts`.

`evaluateCashWalletCutoverGuard` decides, from the run's config and the account's migration
record, whether the account's cash is served by its legacy USD wallet or its USDT wallet, or
blocks the account while a migration is in flight or has failed.  Two resolvers feed it:
`resolveCashoutWalletSelection` picks the wallets of a cashout, and
`resolveCashWalletPresentationForAccount` the wallets a client is shown.  Both read the config,
read the migration record *only when the run is `in_progress`*, and run the guard on what they
read; every other state reaches the guard with no record.

`fundsRoute` says where the account's cash balance is for a record's status: on the legacy
wallet before the balance move and after a rollback, on the USDT wallet once the legacy wallet is
verified empty; undetermined in between.  It is the reference the routing results are compared
against.

* `resolveCashoutWalletSelection_route`, `resolveCashWalletPresentationForAccount_route`: a
  resolver's answer is the guard's on the record it read, with the wallets of that route.
* `resolvers_agree`: the two resolvers route an account to the same cash wallet.
* `evaluateCashWalletCutoverGuard_route_eq_fundsRoute_iff`: on the account's actual record the
  guard routes to where the funds are except in exactly three combinations.
-/

namespace CashWalletCutover

open CashWalletMigrationStatus Shared

/-! ### Config, routes and wallets -/

/-- `CashWalletCutoverState`. -/
inductive CashWalletCutoverState where
  | pre
  | inProgress
  | complete
  | rolledBack
  deriving DecidableEq, Repr

/-- `CashWalletCutoverConfig`, with the fields the resolvers read. -/
structure CashWalletCutoverConfig where
  state : CashWalletCutoverState
  cutoverVersion : Nat
  runId : Option String := none
  deriving DecidableEq, Repr

/-- `CashWalletCutoverRoute`. -/
inductive CashWalletCutoverRoute where
  | legacyUsd
  | usdt
  deriving DecidableEq, Repr

/-- `CashWalletCutoverPresentation`. -/
inductive CashWalletCutoverPresentation where
  | legacyUsd
  | legacyUsdCompat
  | usdt
  deriving DecidableEq, Repr

/-- The route a presentation settles on: the compatibility presentation shows the legacy wallet
to a client that cannot show USDT, and settles on USDT. -/
def CashWalletCutoverPresentation.route : CashWalletCutoverPresentation → CashWalletCutoverRoute
  | .legacyUsd => .legacyUsd
  | .legacyUsdCompat => .usdt
  | .usdt => .usdt

/-- A `Wallet`, with the fields the resolvers read. -/
structure Wallet where
  id : WalletId
  accountId : Nat
  currency : WalletCurrency
  deriving DecidableEq, Repr

/-- The currency of the wallet a route settles on. -/
def CashWalletCutoverRoute.currency : CashWalletCutoverRoute → WalletCurrency
  | .legacyUsd => .usd
  | .usdt => .usdt

/-! ### The guard -/

/-- `ACTIVE_STATUSES`: a migration between its first write and `legacy_zero_verified`, or a
rollback under way. -/
def activeStatuses : List CashWalletMigrationStatus :=
  [.started, .provisioned, .balanceRead, .invoiceCreated, .balanceMoveSending, .balanceMoveSent,
    .balanceMoveVerified, .feeReimbursementInvoiceCreated, .feeReimbursementSending,
    .feeReimbursed, .pointerFlipped, .rollbackStarted]

/-- `evaluateCashWalletCutoverGuard`. -/
def evaluateCashWalletCutoverGuard (cutover : CashWalletCutoverConfig)
    (migration : Option CashWalletMigration) :
    Except CashWalletCutoverError CashWalletCutoverRoute :=
  match cutover.state with
  | .pre => .ok .legacyUsd
  | .complete =>
      -- a single-account rollback after the global complete
      if (migration.map (·.status)) = some .rollbackStarted then .error .cutoverInProgress
      else if (migration.map (·.status)) = some .rolledBack then .ok .legacyUsd
      else .ok .usdt
  | .rolledBack =>
      match migration with
      | none => .ok .legacyUsd
      | some migration =>
          if migration.status = .notStarted ∨ migration.status = .rolledBack then .ok .legacyUsd
          else if migration.status = .skippedAlreadyMigrated then .ok .usdt
          else if migration.status = .rollbackStarted then .error .cutoverInProgress
          else .error (.migrationFailed "")
  | .inProgress =>
      match migration with
      | none => .ok .legacyUsd
      | some migration =>
          if migration.status = .notStarted then .ok .legacyUsd
          else if migration.status = .complete ∨ migration.status = .skippedAlreadyMigrated then
            .ok .usdt
          else if migration.status = .failed ∨ migration.status = .requiresOperatorReview then
            .error (.migrationFailed "")
          else if migration.status ∈ activeStatuses then .error .cutoverInProgress
          -- `legacy_zero_verified` and `rolled_back` fall through to here
          else .ok .legacyUsd

/-- `evaluateCashWalletCutoverPresentation`. -/
def evaluateCashWalletCutoverPresentation (cutover : CashWalletCutoverConfig)
    (migration : Option CashWalletMigration) (hasUsdtCashWalletSupport : Bool) :
    Except CashWalletCutoverError CashWalletCutoverPresentation := do
  match ← evaluateCashWalletCutoverGuard cutover migration with
  | .legacyUsd => return .legacyUsd
  | .usdt => return if hasUsdtCashWalletSupport then .usdt else .legacyUsdCompat

/-! ### The presentation -/

/-- `CashWalletPresentationResult`. -/
structure CashWalletPresentationResult where
  wallets : List Wallet
  defaultWalletId : WalletId
  legacyUsdWallet : Option Wallet
  activeSettlementWallet : Wallet
  deriving DecidableEq, Repr

/-- `resolveCashWalletPresentation`: the account's wallets with one cash wallet shown, and the
wallet cash settles on. -/
def resolveCashWalletPresentation (decision : CashWalletCutoverPresentation)
    (wallets : List Wallet) : Except CashWalletCutoverError CashWalletPresentationResult :=
  let legacyUsdWallet := wallets.find? (·.currency = .usd)
  let usdtWallet := wallets.find? (·.currency = .usdt)
  let nonCashWallets := wallets.filter (fun w => w.currency ≠ .usd ∧ w.currency ≠ .usdt)
  if decision = .usdt then
    match usdtWallet with
    | none => .error (.missingUsdtWallet "")
    | some usdtWallet =>
        .ok { wallets := nonCashWallets ++ [usdtWallet], defaultWalletId := usdtWallet.id
              legacyUsdWallet, activeSettlementWallet := usdtWallet }
  else
    match legacyUsdWallet with
    | none => .error .missingLegacyUsdWallet
    | some legacyUsdWallet =>
        if decision = .legacyUsdCompat then
          match usdtWallet with
          | none => .error (.missingUsdtWallet "")
          | some usdtWallet =>
              .ok { wallets := nonCashWallets ++ [legacyUsdWallet]
                    defaultWalletId := legacyUsdWallet.id
                    legacyUsdWallet := some legacyUsdWallet
                    activeSettlementWallet := usdtWallet }
        else
          .ok { wallets := nonCashWallets ++ [legacyUsdWallet]
                defaultWalletId := legacyUsdWallet.id
                legacyUsdWallet := some legacyUsdWallet
                activeSettlementWallet := legacyUsdWallet }

/-! ### The resolvers -/

/-- The migrations repository as the resolvers read it: `getConfig` and
`findMigrationByAccountId accountId cutoverVersion runId`, each with the answer it gives. -/
structure RoutingMigrationsRepository where
  getConfig : Except CashWalletCutoverError CashWalletCutoverConfig
  findMigrationByAccountId :
    Nat → Nat → String → Except CashWalletCutoverError (Option CashWalletMigration)

/-- The wallets repository as the resolvers read it. -/
structure RoutingWalletsRepository where
  findById : WalletId → Except CashWalletCutoverError Wallet
  listByAccountId : Nat → Except CashWalletCutoverError (List Wallet)

/-- The reads both resolvers open with: the config, and the account's migration record only
when the run is `in_progress` (a missing or empty `runId` is a preflight error). -/
def readCutoverMigration (migrationsRepo : RoutingMigrationsRepository) (accountId : Nat) :
    Except CashWalletCutoverError (CashWalletCutoverConfig × Option CashWalletMigration) := do
  let cutover ← migrationsRepo.getConfig
  if cutover.state = .inProgress then
    match cutover.runId with
    | none => throw .preflight
    | some runId =>
        if runId = "" then throw .preflight
        let migration ←
          migrationsRepo.findMigrationByAccountId accountId cutover.cutoverVersion runId
        return (cutover, migration)
  else return (cutover, none)

/-- `CashoutWalletSelection`. -/
structure CashoutWalletSelection where
  route : CashWalletCutoverRoute
  userWalletId : WalletId
  flashWalletId : WalletId
  deriving DecidableEq, Repr

/-- `resolveCashoutWalletSelection`. -/
def resolveCashoutWalletSelection (migrationsRepo : RoutingMigrationsRepository)
    (walletsRepo : RoutingWalletsRepository) (accountId : Nat)
    (requestedUserWalletId bankOwnerUsdWalletId : WalletId) :
    Except CashWalletCutoverError CashoutWalletSelection := do
  let (cutover, migration) ← readCutoverMigration migrationsRepo accountId
  match ← evaluateCashWalletCutoverGuard cutover migration with
  | .legacyUsd =>
      return { route := .legacyUsd, userWalletId := requestedUserWalletId
               flashWalletId := bankOwnerUsdWalletId }
  | .usdt =>
      let userWallets ← walletsRepo.listByAccountId accountId
      let some userUsdtWallet := userWallets.find? (·.currency = .usdt)
        | throw (.missingUsdtWallet ("No USDT wallet found for account " ++ toString accountId))
      let bankOwnerWallet ← walletsRepo.findById bankOwnerUsdWalletId
      let bankOwnerWallets ← walletsRepo.listByAccountId bankOwnerWallet.accountId
      let some bankOwnerUsdtWallet := bankOwnerWallets.find? (·.currency = .usdt)
        | throw (.missingUsdtWallet "No USDT wallet found for the Flash bank-owner account")
      return { route := .usdt, userWalletId := userUsdtWallet.id
               flashWalletId := bankOwnerUsdtWallet.id }

/-- `resolveCashWalletPresentationForAccount`. -/
def resolveCashWalletPresentationForAccount (migrationsRepo : RoutingMigrationsRepository)
    (walletsRepo : RoutingWalletsRepository) (accountId : Nat) (hasUsdtCashWalletSupport : Bool) :
    Except CashWalletCutoverError CashWalletPresentationResult := do
  let (cutover, migration) ← readCutoverMigration migrationsRepo accountId
  let decision ← evaluateCashWalletCutoverPresentation cutover migration hasUsdtCashWalletSupport
  let wallets ← walletsRepo.listByAccountId accountId
  resolveCashWalletPresentation decision wallets

/-! ### The repositories of one run -/

/-- The wallets of the routing runs: account 1 holds legacy wallet 10 and USDT wallet 11; the
Flash bank-owner's account 2 holds wallets 20 and 21. -/
def routingWallets : RoutingWalletsRepository where
  findById walletId := .ok ⟨walletId, if walletId < 20 then 1 else 2, .usd⟩
  listByAccountId accountId :=
    .ok (if accountId = 1 then [⟨10, 1, .usd⟩, ⟨11, 1, .usdt⟩] else [⟨20, 2, .usd⟩, ⟨21, 2, .usdt⟩])

/-- Account 1's migration record at `status`. -/
def routedMigration (status : CashWalletMigrationStatus) : CashWalletMigration :=
  { accountId := 1, legacyUsdWalletId := 10, destinationUsdtWalletId := 11, status }

/-- The config of run `run-1` in `state`. -/
def routingConfig (state : CashWalletCutoverState) : CashWalletCutoverConfig :=
  { state, cutoverVersion := 1, runId := some "run-1" }

/-- The migrations repository of a run in `state` whose record for account 1 is at `status`. -/
def routingRepo (state : CashWalletCutoverState) (status : CashWalletMigrationStatus) :
    RoutingMigrationsRepository where
  getConfig := .ok (routingConfig state)
  findMigrationByAccountId _ _ _ := .ok (some (routedMigration status))

/-! ### What the resolvers return -/

/-- What `readCutoverMigration` read: the config, and the record the repository holds for the
run when the run is `in_progress`, no record otherwise. -/
theorem readCutoverMigration_ok {migrationsRepo : RoutingMigrationsRepository} {accountId : Nat}
    {cutover : CashWalletCutoverConfig} {migration : Option CashWalletMigration}
    (h : readCutoverMigration migrationsRepo accountId = .ok (cutover, migration)) :
    migrationsRepo.getConfig = .ok cutover ∧
      if cutover.state = .inProgress then
        ∃ runId, cutover.runId = some runId ∧ runId ≠ "" ∧
          migrationsRepo.findMigrationByAccountId accountId cutover.cutoverVersion runId =
            .ok migration
      else migration = none := by
  unfold readCutoverMigration at h
  simp only [Except.bind_eq_ok] at h
  obtain ⟨config, hconfig, hrest⟩ := h
  split at hrest
  next hstate =>
    split at hrest
    next => exact absurd hrest Except.throw_ne_ok
    next runId hrunId =>
      split at hrest
      next => exact absurd hrest Except.throw_ne_ok
      next hempty =>
        simp only [Except.bind_eq_ok, Except.pure_eq_ok, Prod.mk.injEq] at hrest
        obtain ⟨found, hfound, rfl, rfl⟩ := hrest
        simp [hconfig, hstate, hrunId, hempty, hfound]
  next hstate =>
    simp only [Except.pure_eq_ok, Prod.mk.injEq] at hrest
    obtain ⟨rfl, rfl⟩ := hrest
    simp [hconfig, hstate]

/-- The wallet of a currency a list holds, when `find?` picks one. -/
theorem find?_currency {wallets : List Wallet} {c : WalletCurrency} {w : Wallet}
    (h : wallets.find? (·.currency = c) = some w) : w ∈ wallets ∧ w.currency = c := by
  refine ⟨List.mem_of_find?_eq_some h, ?_⟩
  simpa using List.find?_some h

/-- A cashout's route is the guard's on what the resolver read: the requested wallets on the
legacy route, a USDT wallet of the account on the USDT route. -/
theorem resolveCashoutWalletSelection_route {migrationsRepo : RoutingMigrationsRepository}
    {walletsRepo : RoutingWalletsRepository} {accountId : Nat}
    {requestedUserWalletId bankOwnerUsdWalletId : WalletId} {selection : CashoutWalletSelection}
    (h : resolveCashoutWalletSelection migrationsRepo walletsRepo accountId requestedUserWalletId
      bankOwnerUsdWalletId = .ok selection) :
    ∃ cutover migration, readCutoverMigration migrationsRepo accountId = .ok (cutover, migration) ∧
      evaluateCashWalletCutoverGuard cutover migration = .ok selection.route ∧
      (selection.route = .legacyUsd →
        selection.userWalletId = requestedUserWalletId ∧
          selection.flashWalletId = bankOwnerUsdWalletId) ∧
      (selection.route = .usdt → ∃ wallets, walletsRepo.listByAccountId accountId = .ok wallets ∧
        ∃ w ∈ wallets, w.id = selection.userWalletId ∧ w.currency = .usdt) := by
  unfold resolveCashoutWalletSelection at h
  simp only [Except.bind_eq_ok] at h
  obtain ⟨⟨cutover, migration⟩, hread, route, hguard, h⟩ := h
  refine ⟨cutover, migration, hread, ?_⟩
  cases route with
  | legacyUsd =>
      simp only [Except.pure_eq_ok] at h
      subst h
      exact ⟨hguard, fun _ => ⟨rfl, rfl⟩, (fun h => by cases h)⟩
  | usdt =>
      simp only [Except.bind_eq_ok] at h
      obtain ⟨userWallets, huser, h⟩ := h
      -- the two `let some … | throw` of the source: a missing USDT wallet is an error
      split at h
      next userUsdtWallet hfind =>
        simp only [Except.bind_eq_ok] at h
        obtain ⟨bankOwnerWallet, -, bankOwnerWallets, -, h⟩ := h
        split at h
        next =>
          simp only [Except.pure_eq_ok] at h
          subst h
          obtain ⟨hmem, hcur⟩ := find?_currency hfind
          exact ⟨hguard, (fun h => by cases h),
            fun _ => ⟨userWallets, huser, userUsdtWallet, hmem, rfl, hcur⟩⟩
        next => exact absurd h Except.throw_ne_ok
      next => exact absurd h Except.throw_ne_ok

/-- A presentation decision is the guard's route, told to the client in the form it can show. -/
theorem evaluateCashWalletCutoverPresentation_route {cutover : CashWalletCutoverConfig}
    {migration : Option CashWalletMigration} {hasUsdtCashWalletSupport : Bool}
    {decision : CashWalletCutoverPresentation}
    (h : evaluateCashWalletCutoverPresentation cutover migration hasUsdtCashWalletSupport =
      .ok decision) :
    evaluateCashWalletCutoverGuard cutover migration = .ok decision.route := by
  unfold evaluateCashWalletCutoverPresentation at h
  simp only [Except.bind_eq_ok] at h
  obtain ⟨route, hguard, h⟩ := h
  cases route with
  | legacyUsd =>
      simp only [Except.pure_eq_ok] at h
      subst h
      exact hguard
  | usdt =>
      simp only [Except.pure_eq_ok] at h
      subst h
      cases hasUsdtCashWalletSupport <;> exact hguard

/-- A presentation settles on a wallet of the account in its route's currency, and shows the
wallet it defaults to. -/
theorem resolveCashWalletPresentation_settles {decision : CashWalletCutoverPresentation}
    {wallets : List Wallet} {result : CashWalletPresentationResult}
    (h : resolveCashWalletPresentation decision wallets = .ok result) :
    result.activeSettlementWallet ∈ wallets ∧
      result.activeSettlementWallet.currency = decision.route.currency ∧
      result.defaultWalletId ∈ result.wallets.map (·.id) := by
  unfold resolveCashWalletPresentation at h
  dsimp only at h
  split at h
  next hdecision =>
    split at h
    next => cases h
    next usdtWallet hfind =>
      cases h
      obtain ⟨hmem, hcur⟩ := find?_currency hfind
      subst hdecision
      exact ⟨hmem, hcur, by simp⟩
  next hdecision =>
    split at h
    next => cases h
    next legacyUsdWallet hlegacy =>
      obtain ⟨hmemL, hcurL⟩ := find?_currency hlegacy
      split at h
      next hcompat =>
        split at h
        next => cases h
        next usdtWallet hfind =>
          cases h
          obtain ⟨hmem, hcur⟩ := find?_currency hfind
          subst hcompat
          exact ⟨hmem, hcur, by simp⟩
      next hcompat =>
        cases h
        cases decision with
        | legacyUsd => exact ⟨hmemL, hcurL, by simp⟩
        | legacyUsdCompat => exact absurd rfl hcompat
        | usdt => exact absurd rfl hdecision

/-- A presentation's settlement wallet is one of the account's wallets, in the currency of the
guard's route on what the resolver read. -/
theorem resolveCashWalletPresentationForAccount_route
    {migrationsRepo : RoutingMigrationsRepository} {walletsRepo : RoutingWalletsRepository}
    {accountId : Nat} {hasUsdtCashWalletSupport : Bool} {result : CashWalletPresentationResult}
    (h : resolveCashWalletPresentationForAccount migrationsRepo walletsRepo accountId
      hasUsdtCashWalletSupport = .ok result) :
    ∃ cutover migration route,
      readCutoverMigration migrationsRepo accountId = .ok (cutover, migration) ∧
      evaluateCashWalletCutoverGuard cutover migration = .ok route ∧
      ∃ wallets, walletsRepo.listByAccountId accountId = .ok wallets ∧
        result.activeSettlementWallet ∈ wallets ∧
        result.activeSettlementWallet.currency = route.currency := by
  unfold resolveCashWalletPresentationForAccount at h
  simp only [Except.bind_eq_ok] at h
  obtain ⟨⟨cutover, migration⟩, hread, decision, hdecision, wallets, hwallets, h⟩ := h
  obtain ⟨hmem, hcur, -⟩ := resolveCashWalletPresentation_settles h
  exact ⟨cutover, migration, decision.route, hread,
    evaluateCashWalletCutoverPresentation_route hdecision, wallets, hwallets, hmem, hcur⟩

/-- Over the same repositories, a cashout and the client's presentation settle an account's cash
on a wallet of the same currency. -/
theorem resolvers_agree {migrationsRepo : RoutingMigrationsRepository}
    {walletsRepo : RoutingWalletsRepository} {accountId : Nat}
    {requestedUserWalletId bankOwnerUsdWalletId : WalletId} {hasUsdtCashWalletSupport : Bool}
    {selection : CashoutWalletSelection} {result : CashWalletPresentationResult}
    (hselection : resolveCashoutWalletSelection migrationsRepo walletsRepo accountId
      requestedUserWalletId bankOwnerUsdWalletId = .ok selection)
    (hresult : resolveCashWalletPresentationForAccount migrationsRepo walletsRepo accountId
      hasUsdtCashWalletSupport = .ok result) :
    result.activeSettlementWallet.currency = selection.route.currency := by
  obtain ⟨cutover, migration, hread, hguard, -, -⟩ := resolveCashoutWalletSelection_route hselection
  obtain ⟨cutover', migration', route, hread', hguard', -, -, -, hcur⟩ :=
    resolveCashWalletPresentationForAccount_route hresult
  -- both resolvers made the same reads, so the guard saw the same inputs
  rw [hread] at hread'
  cases hread'
  rw [hguard] at hguard'
  cases hguard'
  exact hcur

/-- During the run, at `complete`, a cashout settles on USDT wallet 11, and a client without
USDT support is shown the legacy wallet while its cash settles on wallet 11 too. -/
theorem resolvers_agree_on_complete_record :
    resolveCashoutWalletSelection (routingRepo .inProgress .complete) routingWallets 1 10 20 =
        .ok { route := .usdt, userWalletId := 11, flashWalletId := 21 } ∧
      resolveCashWalletPresentationForAccount (routingRepo .inProgress .complete) routingWallets 1
          false =
        .ok { wallets := [⟨10, 1, .usd⟩], defaultWalletId := 10
              legacyUsdWallet := some ⟨10, 1, .usd⟩, activeSettlementWallet := ⟨11, 1, .usdt⟩ } ∧
      WalletCurrency.usdt = CashWalletCutoverRoute.usdt.currency :=
  have hselection :
      resolveCashoutWalletSelection (routingRepo .inProgress .complete) routingWallets 1 10 20 =
        .ok { route := .usdt, userWalletId := 11, flashWalletId := 21 } := by decide
  have hresult :
      resolveCashWalletPresentationForAccount (routingRepo .inProgress .complete) routingWallets 1
          false =
        .ok { wallets := [⟨10, 1, .usd⟩], defaultWalletId := 10
              legacyUsdWallet := some ⟨10, 1, .usd⟩, activeSettlementWallet := ⟨11, 1, .usdt⟩ } := by
    decide
  ⟨hselection, hresult, resolvers_agree hselection hresult⟩

/-! ### Where the funds are -/

/-- Where an account's cash balance sits, by its migration record's status: on the legacy wallet
with no record, before the balance move and after a rollback; on the USDT wallet once the legacy
wallet is verified empty, or when the account was on USDT already; undetermined in between. -/
def fundsRoute : Option CashWalletMigrationStatus → Option CashWalletCutoverRoute
  | none | some .notStarted | some .rolledBack => some .legacyUsd
  | some .legacyZeroVerified | some .complete | some .skippedAlreadyMigrated => some .usdt
  | some _ => none

/-- The run states and record statuses at which the guard routes away from the funds: a run
not started yet with the funds on USDT, a migration past `legacy_zero_verified` but not yet
`complete`, and a completed run whose account was never moved. -/
def GuardMisroutes (state : CashWalletCutoverState) (status : Option CashWalletMigrationStatus) :
    Prop :=
  (state = .pre ∧ fundsRoute status = some .usdt) ∨
    (state = .inProgress ∧ status = some .legacyZeroVerified) ∨
    (state = .complete ∧ fundsRoute status = some .legacyUsd ∧ status ≠ some .rolledBack)

/-- Given the account's actual record, the guard routes where the funds are except exactly at
`GuardMisroutes`. -/
theorem evaluateCashWalletCutoverGuard_route_eq_fundsRoute_iff
    {cutover : CashWalletCutoverConfig} {migration : Option CashWalletMigration}
    {route funds : CashWalletCutoverRoute}
    (hguard : evaluateCashWalletCutoverGuard cutover migration = .ok route)
    (hfunds : fundsRoute (migration.map (·.status)) = some funds) :
    route = funds ↔ ¬ GuardMisroutes cutover.state (migration.map (·.status)) := by
  obtain ⟨state, cutoverVersion, runId⟩ := cutover
  -- the guard reads the record's status only: one case per run state and status
  cases migration with
  | none =>
      cases state <;> simp [evaluateCashWalletCutoverGuard, fundsRoute] at hguard hfunds <;>
        subst hguard hfunds <;> simp [GuardMisroutes, fundsRoute]
  | some migration =>
      cases state <;> cases hs : migration.status <;>
        simp [evaluateCashWalletCutoverGuard, fundsRoute, activeStatuses, hs] at hguard hfunds <;>
        subst hguard hfunds <;> simp [GuardMisroutes, fundsRoute, hs]

/-- At `legacy_zero_verified` during the run the guard routes to the legacy wallet, the funds
are on USDT, and the combination is one of `GuardMisroutes`. -/
theorem guard_misroutes_legacy_zero_verified :
    evaluateCashWalletCutoverGuard (routingConfig .inProgress)
        (some (routedMigration .legacyZeroVerified)) = .ok .legacyUsd ∧
      fundsRoute ((some (routedMigration .legacyZeroVerified)).map (·.status)) = some .usdt ∧
      (CashWalletCutoverRoute.legacyUsd = .usdt ↔
        ¬ GuardMisroutes (routingConfig .inProgress).state
          ((some (routedMigration .legacyZeroVerified)).map (·.status))) :=
  have hguard : evaluateCashWalletCutoverGuard (routingConfig .inProgress)
      (some (routedMigration .legacyZeroVerified)) = .ok .legacyUsd := by decide
  have hfunds :
      fundsRoute ((some (routedMigration .legacyZeroVerified)).map (·.status)) = some .usdt := rfl
  ⟨hguard, hfunds, evaluateCashWalletCutoverGuard_route_eq_fundsRoute_iff hguard hfunds⟩

/-! ### Routing against the funds -/

/-- Three cashouts routed away from the account's funds: during the run, at
`legacy_zero_verified` with the funds on USDT, to the legacy wallet; after a single-account
rollback that follows the global complete, with the funds back on the legacy wallet, to USDT,
where the guard on the record says legacy; after the run's rollback, for an account that was on
USDT already, to the legacy wallet, where the guard on the record says USDT. -/
theorem cutover_routing_against_funds :
    resolveCashoutWalletSelection (routingRepo .inProgress .legacyZeroVerified) routingWallets 1
        10 20 = .ok { route := .legacyUsd, userWalletId := 10, flashWalletId := 20 } ∧
      fundsRoute (some .legacyZeroVerified) = some .usdt ∧
    resolveCashoutWalletSelection (routingRepo .complete .rolledBack) routingWallets 1 10 20 =
        .ok { route := .usdt, userWalletId := 11, flashWalletId := 21 } ∧
      fundsRoute (some .rolledBack) = some .legacyUsd ∧
      evaluateCashWalletCutoverGuard (routingConfig .complete)
        (some (routedMigration .rolledBack)) = .ok .legacyUsd ∧
    resolveCashoutWalletSelection (routingRepo .rolledBack .skippedAlreadyMigrated)
        routingWallets 1 10 20 = .ok { route := .legacyUsd, userWalletId := 10, flashWalletId := 20 } ∧
      fundsRoute (some .skippedAlreadyMigrated) = some .usdt ∧
      evaluateCashWalletCutoverGuard (routingConfig .rolledBack)
        (some (routedMigration .skippedAlreadyMigrated)) = .ok .usdt := by
  decide

end CashWalletCutover
