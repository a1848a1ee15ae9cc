import Mathlib.Logic.Function.Basic
import SpaceApp.Gateway.Router.Limits

/-! The account pool (`accounts/account-pool.ts`): what a gateway process knows about
the accounts of one provider beyond storage, and how requests write it.

Every operation here is the part of the source's method between two awaits that
writes the runtime state; ISO times are read as Unix seconds.
-/

set_option autoImplicit false

namespace SpaceApp.Gateway.Accounts

open SpaceApp.Foundation SpaceApp.Gateway.Router

structure UsageWindow where
  usedPercent : Option ℚ := none
  resetAt : Option ℚ := none
  windowMinutes : Option ℚ := none
  deriving DecidableEq, Repr

structure GatewayAccountRecord where
  id : String
  status : BalancerAccountStatus := .active
  planType : Option String := none
  blockedUntil : Option ℚ := none
  primaryWindow : UsageWindow := {}
  secondaryWindow : UsageWindow := {}
  lastUsedAt : Option ℚ := none
  lastRefreshAt : Option ℚ := none
  credentialsExpiresAt : Option ℚ := none
  deriving DecidableEq, Repr

structure RuntimeState where
  errorCount : ℚ := 0
  lastErrorAt : Option ℚ := none
  cooldownUntil : Option ℚ := none
  lastSelectedAt : Option ℚ := none
  healthTier : ℚ := 0
  status : Option BalancerAccountStatus := none
  resetAt : Option ℚ := none
  usedPercent : Option ℚ := none
  secondaryUsedPercent : Option ℚ := none
  deriving DecidableEq, Repr

/-- An account not heard of yet has the fresh state. -/
abbrev Runtime := String → RuntimeState

def Runtime.fresh : Runtime := fun _ => {}

def Runtime.modify (runtime : Runtime) (accountId : String) (change : RuntimeState → RuntimeState) : Runtime :=
  Function.update runtime accountId (change (runtime accountId))

@[simp] theorem Runtime.modify_same (runtime : Runtime) (accountId : String) (change : RuntimeState → RuntimeState) :
    runtime.modify accountId change accountId = change (runtime accountId) := by
  simp [Runtime.modify]

theorem Runtime.modify_other (runtime : Runtime) {accountId other : String} (change : RuntimeState → RuntimeState)
    (apart : other ≠ accountId) : runtime.modify accountId change other = runtime other := by
  simp [Runtime.modify, apart]

/-- Stored status and usage, overlaid with what this process learned since. A pause is the
operator's: no limit or recovery learned upstream lifts it. -/
def toBalancerState (runtime : Runtime) (account : GatewayAccountRecord) : AccountState :=
  let live := runtime account.id
  { accountId := account.id
    status := if account.status = .paused then .paused else live.status.getD account.status
    usedPercent := live.usedPercent <|> account.primaryWindow.usedPercent
    secondaryUsedPercent := live.secondaryUsedPercent <|> account.secondaryWindow.usedPercent
    resetAt := live.resetAt <|> account.blockedUntil
    primaryResetAt := account.primaryWindow.resetAt
    secondaryResetAt := account.secondaryWindow.resetAt
    primaryWindowMinutes := account.primaryWindow.windowMinutes
    cooldownUntil := live.cooldownUntil
    lastErrorAt := live.lastErrorAt
    lastSelectedAt := live.lastSelectedAt <|> account.lastUsedAt
    errorCount := live.errorCount
    planType := account.planType
    healthTier := live.healthTier
    accessTokenExpiresAt := account.credentialsExpiresAt }

def markSelected (runtime : Runtime) (accountId : String) (now : ℚ) : Runtime :=
  runtime.modify accountId fun live => { live with lastSelectedAt := some now }

/-- Writes back whatever the balancer changed on its state object. -/
def absorb (runtime : Runtime) (state : AccountState) : Runtime :=
  runtime.modify state.accountId fun live =>
    let written := { live with
      errorCount := state.errorCount
      lastErrorAt := state.lastErrorAt
      cooldownUntil := state.cooldownUntil }
    if state.status = .active ∧ live.status.any (· ≠ .active) then
      { written with status := some .active, resetAt := none }
    else written

/-- `stored` is the status in storage: the balancer lifts an expired block in memory only. -/
def markSuccess (runtime : Runtime) (accountId : String) (stored : Option BalancerAccountStatus) : Runtime :=
  runtime.modify accountId fun live =>
    let cleared := { live with errorCount := 0, lastErrorAt := none, cooldownUntil := none }
    if live.status.any (· ≠ .active) ∨ stored = some .rateLimited ∨ stored = some .quotaExceeded then
      { cleared with status := some .active, resetAt := none }
    else cleared

def persistBlock (runtime : Runtime) (accountId : String) (state : AccountState) : Runtime :=
  runtime.modify accountId fun live =>
    { live with
      status := some state.status
      errorCount := state.errorCount
      lastErrorAt := state.lastErrorAt
      cooldownUntil := state.cooldownUntil
      resetAt := state.resetAt
      usedPercent := if state.status = .quotaExceeded then some 100 else live.usedPercent }

def markRateLimited (platform : Platform) (runtime : Runtime) (account : GatewayAccountRecord)
    (error : UpstreamError) (now random : ℚ) : Runtime :=
  persistBlock runtime account.id
    (handleRateLimit platform (toBalancerState runtime account) error now random)

def markQuotaExceeded (runtime : Runtime) (account : GatewayAccountRecord) (error : UpstreamError)
    (now : ℚ) : Runtime :=
  persistBlock runtime account.id (handleQuotaExceeded (toBalancerState runtime account) error now)

def markTransientError (runtime : Runtime) (accountId : String) (now : ℚ) : Runtime :=
  runtime.modify accountId fun live =>
    { live with errorCount := live.errorCount + 1, lastErrorAt := some now }

def recordUsage (runtime : Runtime) (accountId : String) (primary secondary : Option ℚ) : Runtime :=
  runtime.modify accountId fun live =>
    { live with
      usedPercent := primary <|> live.usedPercent
      secondaryUsedPercent := secondary <|> live.secondaryUsedPercent }

/-- A new sign-in: what this process learned about the old credentials no longer holds. -/
def signedIn (runtime : Runtime) (accountId : String) : Runtime :=
  runtime.modify accountId fun _ => {}

/-- Lifts a block whose time is over, or one of more than an hour that the provider's usage
no longer shows. `none` when it changed nothing. -/
def liftExpiredBlock (runtime : Runtime) (account : GatewayAccountRecord) (usageClear : Bool) (now : ℚ) :
    Option Runtime :=
  let status := (runtime account.id).status.getD account.status
  let until_ := account.blockedUntil <|> (runtime account.id).resetAt
  if status ≠ .rateLimited ∧ status ≠ .quotaExceeded then none
  else if until_.all fun time => now < time ∧ ¬ (usageClear ∧ 3600 < time - now) then none
  else some (runtime.modify account.id fun live =>
    { live with status := some .active, resetAt := none, cooldownUntil := none })

end SpaceApp.Gateway.Accounts
