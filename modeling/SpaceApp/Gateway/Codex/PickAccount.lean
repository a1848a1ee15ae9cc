import SpaceApp.Gateway.Accounts.Pool
import SpaceApp.Gateway.Router.Selection

/-! `pickAccount` of the Codex proxy: the account for one attempt, in its two halves
around the await of the sticky thread's account.
-/

set_option autoImplicit false

namespace SpaceApp.Gateway.Codex

open SpaceApp.Foundation SpaceApp.Gateway.Router SpaceApp.Gateway.Accounts

structure PickSettings where
  routingStrategy : RoutingStrategy := .capacityWeighted
  planPriority : List String := []
  preferEarlierReset : Bool := false
  stickyThreadsEnabled : Bool := true
  stickyReallocationBudgetThresholdPercent : ℚ := 100

structure NoAccount where
  errorCode : Option String
  errorMessage : Option String

structure PickResult where
  account : Option GatewayAccountRecord := .none
  none : Option NoAccount := .none

structure PickSnapshot where
  accounts : List GatewayAccountRecord
  states : List AccountState

/-- The accounts in the key's scope that this request has not tried. -/
def inScope (accounts : List GatewayAccountRecord) (scope : Option (List String)) (tried : List String) :
    List GatewayAccountRecord :=
  accounts.filter fun account =>
    scope.all (fun ids => ids.contains account.id) && !tried.contains account.id

/-- Up to the await: an answer at once, or the snapshot of the accounts. `eligible` keeps the
accounts whose plan supports the model. -/
def beginPick (runtime : Runtime) (accounts : List GatewayAccountRecord) (scope : Option (List String))
    (tried : List String) (ownerAccountId model : Option String)
    (eligible : List GatewayAccountRecord → Option String → List GatewayAccountRecord) :
    Except PickResult PickSnapshot :=
  let within := inScope accounts scope tried
  match ownerAccountId with
  | some owner => .error { account := within.find? fun candidate => candidate.id = owner }
  | none =>
      let accounts := eligible within model
      if accounts = [] ∧ within ≠ [] then
        .error { none := some {
          errorCode := some "no_plan_support_for_model"
          errorMessage := some
            ("No accounts with a plan supporting model '" ++ model.getD "null" ++ "'") } }
      else .ok { accounts, states := accounts.map (toBalancerState runtime) }

structure PickMoment where
  checkedAt : ℚ
  selectedAt : ℚ
  random : ℚ := 0

def stickyOptions (moment : PickMoment) : SelectAccountOptions :=
  { now := moment.checkedAt, routingStrategy := .singleAccount, allowUsageExhaustionError := false }

def pickOptions (settings : PickSettings) (moment : PickMoment) : SelectAccountOptions :=
  { now := moment.selectedAt
    routingStrategy := settings.routingStrategy
    planPriority := settings.planPriority
    preferEarlierReset := settings.preferEarlierReset
    weeklyPace := true
    random := moment.random }

def replaceState (accountId : String) (state : AccountState) : List AccountState → List AccountState
  | [] => []
  | first :: rest =>
      if first.accountId = accountId then state :: rest else first :: replaceState accountId state rest

/-- The check of the sticky account: whether it may serve, and the state the check leaves. -/
def checkSticky (platform : Platform) (settings : PickSettings) (moment : PickMoment)
    (sticky : AccountState) : Bool × AccountState :=
  let check := selectAccount platform [sticky] (stickyOptions moment)
  let after := check.2.headD sticky
  let used := max (after.usedPercent.getD 0) (after.secondaryUsedPercent.getD 0)
  (check.1.account.isSome && decide (used < settings.stickyReallocationBudgetThresholdPercent), after)

/-- From the await on: the answer, and the states to absorb. The sticky account answers
without absorbing. -/
def finishPick (platform : Platform) (settings : PickSettings) (stickyId : Option String)
    (moment : PickMoment) (snapshot : PickSnapshot) : PickResult × List AccountState :=
  let recordOf := fun accountId : String => snapshot.accounts.find? fun candidate => candidate.id = accountId
  let sticky := stickyId.bind fun accountId =>
    if settings.stickyThreadsEnabled then snapshot.states.find? fun state => state.accountId = accountId
    else none
  let route := fun states : List AccountState =>
    let result := selectAccount platform states (pickOptions settings moment)
    (match result.1.account with
      | none => { none := some { errorCode := result.1.errorCode, errorMessage := result.1.errorMessage } }
      | some account => { account := recordOf account.accountId },
      result.2)
  match sticky with
  | none => route snapshot.states
  | some sticky =>
      let (serves, after) := checkSticky platform settings moment sticky
      if serves then ({ account := recordOf sticky.accountId }, [])
      else route (replaceState sticky.accountId after snapshot.states)

end SpaceApp.Gateway.Codex
