import SpaceApp.Gateway.Accounts.Pool
import SpaceApp.Gateway.Codex.UpstreamFailure

/-! The credentials of an account (`accounts/account-pool.ts`): refreshes under the storage
lock, rejected tokens and re-login marks, with a new sign-in at any time. A call is cut at its
awaits into stages.

The cipher is taken as exact: a row holds the credentials it would decrypt to.
-/

set_option autoImplicit false

namespace SpaceApp.Gateway.Accounts

open SpaceApp.Foundation SpaceApp.Gateway.Router

structure StoredCredentials where
  accessToken : String
  refreshToken : Option String
  idToken : Option String := none
  upstreamAccountId : Option String := none
  accessExpiresAtMs : Option ℚ := none
  deriving DecidableEq

/-- The row of the account. `version` numbers the writes of its credentials; no code reads it. -/
structure CredentialRecord where
  version : Nat
  credentials : StoredCredentials
  status : BalancerAccountStatus := .active
  planType : Option String := none
  lastRefreshAt : Option ℚ := none
  credentialsExpiresAt : Option ℚ := none

structure RefreshedCredentials where
  stored : StoredCredentials
  planType : Option String := none

structure CredentialOptions where
  cipher : Bool := true
  needsRefresh : CredentialRecord → StoredCredentials → ℚ → Bool
  platform : Platform

/-- Upstream answers that reject the access token itself, not only the refresh token. -/
def accessTokenRejections : List String :=
  ["token_expired", "token_invalidated", "app_session_terminated", "account_session_expired", "account_auth_invalidated"]

def reauthRequiredFailureCodes : List String :=
  ["refresh_token_expired", "refresh_token_reused", "refresh_token_invalidated", "invalid_grant", "token_invalidated",
    "token_expired", "app_session_terminated", "account_session_expired", "account_auth_invalidated",
    "invalid_refresh_token"]

def isPermanent (code : JsString) : Bool := Codex.isOneOf (Codex.permanentFailureCodes ++ Codex.inheritedNames) code

def accountStatusForPermanentFailure (code : JsString) : BalancerAccountStatus :=
  if Codex.isOneOf reauthRequiredFailureCodes code then .reauthRequired else .deactivated

def isSpace (char : Char) : Bool :=
  char.val ∈ [0x9, 0xA, 0xB, 0xC, 0xD, 0x20, 0xA0, 0x1680, 0x2028, 0x2029, 0x202F, 0x205F, 0x3000, 0xFEFF] ||
    (0x2000 ≤ char.val && char.val ≤ 0x200A)

def trimmed (text : List Char) : List Char := ((text.dropWhile isSpace).reverse.dropWhile isSpace).reverse

def underscored : List Char → List Char
  | [] => []
  | char :: rest =>
      if char = '-' || isSpace char then
        match underscored rest with
        | '_' :: more => if rest.head?.any fun next => next = '-' || isSpace next then '_' :: more else '_' :: '_' :: more
        | more => '_' :: more
      else char :: underscored rest

def isGatewayFreePlan (platform : Platform) (planType : Option String) : Bool :=
  let plan := underscored (platform.toLowerCase (String.ofList (trimmed (planType.getD "").toList))).toList
  plan = "free".toList || plan = "free_workspace".toList

def FORCED_REFRESH_MIN_AGE_MS : ℚ := 300000

inductive Errand where
  | credentials
  | rejected (code : JsString)

inductive Granted where
  | credentials (version : Nat) (credentials : StoredCredentials)
  | account (record : CredentialRecord)
  | nothing
  | thrown (code : JsString)

inductive RejectionOutcome where
  | renewed | refused | unreachable

/-- What the callback under the lock noted for the call. -/
inductive Verdict where
  | result (version : Nat) (credentials : StoredCredentials) (permanentCode : Option JsString)
  | rejection (outcome : RejectionOutcome) (refusal : JsString)

structure CredentialUpdate where
  refreshed : RefreshedCredentials
  refreshedAt : ℚ
  activate : Bool

/-- Where a call goes on once `markPermanentFailure` is through. -/
inductive Continuation where
  | done
  | credentials (version : Nat) (credentials : StoredCredentials) (updated : CredentialRecord) (code : JsString)

inductive Stage where
  | pausing (then_ : Granted)
  | waiting (errand : Errand)
  | asking (errand : Errand) (fresh : CredentialRecord)
  | leaving (verdict : Verdict) (update : Option CredentialUpdate)
  | resuming (verdict : Verdict)
  | recording (code : JsString) (accessTokenRejected : Bool) (then_ : Continuation)
  | expiring (expiredAt : ℚ) (then_ : Continuation)
  | marking (expiredAt : Option ℚ) (then_ : Continuation)

def Stage.locked : Stage → Bool
  | asking _ _ | leaving _ _ | marking _ _ => true
  | _ => false

/-- `held` are the versions storage held since the call began; no code reads them. -/
structure Call where
  record : CredentialRecord
  held : List Nat
  stage : Stage

structure Grant where
  record : CredentialRecord
  held : List Nat
  granted : Granted

/-- A refresh token going out: the version it is of, and whether a refresh with it had
already succeeded. -/
structure Presentation where
  version : Nat
  spent : Bool
  deriving DecidableEq

/-- The account in storage and in this process, the lock and the calls under way. The fields
from `nextVersion` on are read by no code: they number and log what happens. -/
structure CredentialWorld where
  row : CredentialRecord
  runtimeStatus : Option BalancerAccountStatus := none
  clock : ℚ
  holder : Option Nat := none
  calls : Nat → Option Call := fun _ => none
  records : List CredentialRecord := []
  nextVersion : Nat := 1
  spent : List Nat := []
  presentations : List Presentation := []
  grants : List Grant := []
  steps : Nat := 0
  signInStoredAt : Option Nat := none
  signedInAt : Option Nat := none
  rowMarkedAt : Option Nat := none
  runtimeMarkedAt : Option Nat := none

inductive RefreshAnswer where
  | refreshed (refreshed : RefreshedCredentials)
  | failed (code : Option JsString)

inductive CredentialEvent where
  | read
  | credentials (call : Nat) (record : CredentialRecord)
  | refreshRejectedToken (call : Nat) (record : CredentialRecord) (code : JsString)
  | markPermanentFailure (call : Nat) (record : CredentialRecord) (code : JsString) (accessTokenRejected : Bool)
  | enter (call : Nat)
  | answered (call : Nat) (answer : RefreshAnswer)
  | left (call : Nat)
  | resumed (call : Nat)
  | recorded (call : Nat)
  | signInStored (credentials : StoredCredentials) (planType : Option String) (lastRefreshAt expiresAt : Option ℚ)
  | signedIn
  | tick (now : ℚ)

namespace CredentialWorld

def setStage (world : CredentialWorld) (id : Nat) (call : Call) (stage : Stage) : CredentialWorld :=
  { world with calls := Function.update world.calls id (some { call with stage }) }

def grant (world : CredentialWorld) (id : Nat) (call : Call) (granted : Granted) : CredentialWorld :=
  { world with
    calls := Function.update world.calls id none
    grants := { record := call.record, held := call.held, granted } :: world.grants }

def hold (version : Nat) (call : Call) : Call := { call with held := version :: call.held }

/-- New credentials in storage, which every call under way has seen from now on. -/
def storeCredentials (world : CredentialWorld) (row : CredentialRecord) : CredentialWorld :=
  { world with
    row := { row with version := world.nextVersion }
    nextVersion := world.nextVersion + 1
    calls := fun id => (world.calls id).map (hold world.nextVersion) }

/-- The runtime half of `markPermanentFailure`. -/
def mark (world : CredentialWorld) (code : JsString) : CredentialWorld :=
  { world with
    runtimeStatus := some (accountStatusForPermanentFailure code)
    runtimeMarkedAt := some world.steps }

/-- The storage half: a paused account stays paused. -/
def recordFailure (world : CredentialWorld) (code : JsString) : CredentialWorld :=
  if world.row.status = .paused then world
  else
    { world with
      row := { world.row with status := accountStatusForPermanentFailure code }
      rowMarkedAt := some world.steps }

/-- `pauseIfFree`, and then the call ends. -/
def pauseThen (world : CredentialWorld) (id : Nat) (call : Call) (record : CredentialRecord) (granted : Granted) :
    CredentialWorld :=
  if record.status = .paused then world.grant id call granted else world.setStage id call (.pausing granted)

def freePlanError : Granted := .thrown (js "free_plan_paused")

/-- The end of `credentials`: a plan that is now free sends the request elsewhere. -/
def returnCredentials (options : CredentialOptions) (world : CredentialWorld) (id : Nat) (call : Call)
    (version : Nat) (credentials : StoredCredentials) (updated : CredentialRecord) : CredentialWorld :=
  if isGatewayFreePlan options.platform updated.planType then world.pauseThen id call updated freePlanError
  else world.grant id call (.credentials version credentials)

def balancerStatus (world : CredentialWorld) (record : CredentialRecord) : BalancerAccountStatus :=
  if record.status = .paused then .paused else world.runtimeStatus.getD record.status

def goOn (options : CredentialOptions) (world : CredentialWorld) (id : Nat) (call : Call) :
    Continuation → CredentialWorld
  | .done => world.grant id call .nothing
  | .credentials version credentials updated code =>
      if world.balancerStatus updated = .deactivated then world.grant id call (.thrown code)
      else world.returnCredentials options id call version credentials updated

def fail (world : CredentialWorld) (id : Nat) (call : Call) (code : JsString) (accessTokenRejected : Bool)
    (then_ : Continuation) : CredentialWorld :=
  (world.mark code).setStage id call (.recording code accessTokenRejected then_)

def begin (options : CredentialOptions) (world : CredentialWorld) (id : Nat) (call : Call) : CredentialWorld :=
  if ¬ options.cipher then world.grant id call (.thrown (js "credential_key_missing"))
  else if isGatewayFreePlan options.platform call.record.planType then
    world.pauseThen id call call.record freePlanError
  else if ¬ options.needsRefresh call.record call.record.credentials world.clock then
    world.grant id call (.credentials call.record.version call.record.credentials)
  else world.setStage id call (.waiting .credentials)

def beginRejected (options : CredentialOptions) (world : CredentialWorld) (id : Nat) (call : Call) (code : JsString) :
    CredentialWorld :=
  let refreshedAt := call.record.lastRefreshAt.getD 0
  if ¬ options.cipher ∨ ¬ Codex.isOneOf accessTokenRejections code ∨
      world.clock - refreshedAt < FORCED_REFRESH_MIN_AGE_MS then
    world.fail id call code (Codex.isOneOf accessTokenRejections code) .done
  else world.setStage id call (.waiting (.rejected code))

/-- The refresh token of the fresh row goes out. -/
def present (world : CredentialWorld) (id : Nat) (call : Call) (errand : Errand) : CredentialWorld :=
  { world with
    presentations :=
      { version := world.row.version, spent := world.spent.contains world.row.version } :: world.presentations
    }.setStage id call (.asking errand world.row)

/-- The callback of the lock up to its await, on the fresh row. -/
def enter (options : CredentialOptions) (world : CredentialWorld) (id : Nat) (call : Call) : Stage → CredentialWorld
  | .waiting .credentials =>
      let locked := { world with holder := some id }
      if options.needsRefresh world.row world.row.credentials world.clock then locked.present id call .credentials
      else locked.setStage id call (.leaving (.result world.row.version world.row.credentials none) none)
  | .waiting (.rejected code) =>
      let locked := { world with holder := some id }
      if world.row.lastRefreshAt ≠ call.record.lastRefreshAt then
        locked.setStage id call (.leaving (.rejection .renewed code) none)
      else if world.row.credentials.refreshToken.all (· = "") then
        locked.setStage id call (.leaving (.rejection .refused code) none)
      else locked.present id call (.rejected code)
  | .expiring expiredAt then_ =>
      let due := world.row.credentialsExpiresAt.any fun expiry => decide (expiry ≤ world.clock)
      { world with holder := some id }.setStage id call (.marking (if due then none else some expiredAt) then_)
  | _ => world

def answered (world : CredentialWorld) (id : Nat) (call : Call) (fresh : CredentialRecord) :
    Errand → RefreshAnswer → CredentialWorld
  | .credentials, .refreshed refreshed =>
      let succeeded := { world with spent := fresh.version :: world.spent }
      succeeded.setStage id call
        (.leaving (.result world.nextVersion refreshed.stored none)
          (some { refreshed, refreshedAt := world.clock, activate := false }))
  | .rejected code, .refreshed refreshed =>
      let succeeded := { world with spent := fresh.version :: world.spent }
      succeeded.setStage id call
        (.leaving (.rejection .renewed code)
          (some { refreshed, refreshedAt := world.clock, activate := decide (fresh.status = .reauthRequired) }))
  | .credentials, .failed code =>
      match code.filter isPermanent with
      -- the refused call goes on with the credentials of its own record
      | some code =>
          world.setStage id call (.leaving (.result call.record.version call.record.credentials (some code)) none)
      | none => world.setStage id call (.leaving (.result fresh.version fresh.credentials none) none)
  | .rejected code, .failed failure =>
      match failure.filter isPermanent with
      | some refusal => world.setStage id call (.leaving (.rejection .refused refusal) none)
      | none => world.setStage id call (.leaving (.rejection .unreachable code) none)

def renewed (row : CredentialRecord) (update : CredentialUpdate) : CredentialRecord :=
  { row with
    credentials := update.refreshed.stored
    credentialsExpiresAt := update.refreshed.stored.accessExpiresAtMs.filter (· ≠ 0)
    lastRefreshAt := some update.refreshedAt
    planType := update.refreshed.planType.filter (· ≠ "") <|> row.planType
    status := if update.activate then .active else row.status }

/-- The version a refresh stored is the one it returns. -/
def stamped (version : Nat) : Verdict → Verdict
  | .result _ credentials permanentCode => .result version credentials permanentCode
  | verdict => verdict

def left (options : CredentialOptions) (world : CredentialWorld) (id : Nat) (call : Call) : Stage → CredentialWorld
  | .leaving verdict none => { world with holder := none }.setStage id call (.resuming verdict)
  | .leaving verdict (some update) =>
      let stored := world.storeCredentials (renewed world.row update)
      { stored with holder := none }.setStage id (hold world.nextVersion call)
        (.resuming (stamped world.nextVersion verdict))
  | .marking expiredAt then_ =>
      let row := match expiredAt with
        | none => world.row
        | some time => { world.row with credentialsExpiresAt := some time }
      { world with holder := none, row }.goOn options id call then_
  | _ => world

def resumed (options : CredentialOptions) (world : CredentialWorld) (id : Nat) (call : Call) : Verdict → CredentialWorld
  | .result version credentials (some code) =>
      world.fail id call code (Codex.isOneOf accessTokenRejections code)
        (.credentials version credentials world.row code)
  | .result version credentials none => world.returnCredentials options id call version credentials world.row
  | .rejection .renewed _ =>
      if isGatewayFreePlan options.platform world.row.planType then world.pauseThen id call world.row .nothing
      else
        let status := if world.runtimeStatus = some .reauthRequired then some .active else world.runtimeStatus
        { world with runtimeStatus := status }.grant id call (.account world.row)
  | .rejection .unreachable _ => world.grant id call .nothing
  | .rejection .refused refusal => world.fail id call refusal true .done

def recorded (options : CredentialOptions) (world : CredentialWorld) (id : Nat) (call : Call) : Stage → CredentialWorld
  | .pausing then_ =>
      let row : CredentialRecord := { world.row with status := .paused }
      { world with row }.grant id call then_
  | .recording code accessTokenRejected then_ =>
      if accessTokenRejected then (world.recordFailure code).setStage id call (.expiring world.clock then_)
      else (world.recordFailure code).goOn options id call then_
  | _ => world

def signInStored (world : CredentialWorld) (credentials : StoredCredentials) (planType : Option String)
    (lastRefreshAt expiresAt : Option ℚ) : CredentialWorld :=
  let signing := { world with signInStoredAt := some world.steps, rowMarkedAt := none }
  signing.storeCredentials {
    version := world.row.version
    credentials
    status := if world.row.status = .paused then .paused else .active
    planType := planType <|> world.row.planType
    lastRefreshAt
    credentialsExpiresAt := expiresAt }

def started (world : CredentialWorld) (record : CredentialRecord) : Call where
  record
  held := [world.row.version]
  stage := .waiting .credentials

def withCall (world : CredentialWorld) (id : Nat) (step : Call → CredentialWorld) : CredentialWorld :=
  match world.calls id with
  | none => world
  | some call => step call

def perform (options : CredentialOptions) (world : CredentialWorld) : CredentialEvent → CredentialWorld
  | .read => { world with records := world.row :: world.records }
  | .credentials id record => world.begin options id (world.started record)
  | .refreshRejectedToken id record code => world.beginRejected options id (world.started record) code
  | .markPermanentFailure id record code accessTokenRejected =>
      world.fail id (world.started record) code accessTokenRejected .done
  | .enter id =>
      if world.holder.isSome then world else world.withCall id fun call => world.enter options id call call.stage
  | .answered id answer =>
      world.withCall id fun call =>
        match call.stage with
        | .asking errand fresh => world.answered id call fresh errand answer
        | _ => world
  | .left id => world.withCall id fun call => world.left options id call call.stage
  | .resumed id =>
      world.withCall id fun call =>
        match call.stage with
        | .resuming verdict => world.resumed options id call verdict
        | _ => world
  | .recorded id => world.withCall id fun call => world.recorded options id call call.stage
  | .signInStored credentials planType lastRefreshAt expiresAt =>
      world.signInStored credentials planType lastRefreshAt expiresAt
  | .signedIn =>
      { world with runtimeStatus := none, runtimeMarkedAt := none, signedInAt := some world.steps }
  | .tick now => { world with clock := now }

def step (options : CredentialOptions) (world : CredentialWorld) (event : CredentialEvent) : CredentialWorld :=
  { perform options world event with steps := world.steps + 1 }

def start (world : CredentialWorld) : Prop :=
  ∃ (row : CredentialRecord) (clock : ℚ), world = { row := { row with version := 0 }, clock }

end CredentialWorld

end SpaceApp.Gateway.Accounts
