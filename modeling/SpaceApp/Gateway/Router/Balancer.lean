import Mathlib.Algebra.Order.Ring.Rat
import Mathlib.Data.Rat.Floor
import Mathlib.Order.WithBot
import SpaceApp.Foundation.Choice
import SpaceApp.Foundation.JsText

/-! Account selection of the gateway (`router/balancer.ts`): which account serves
the next request, with the recoveries the pass over the accounts makes on them.

All times are Unix seconds. A finite JavaScript number is a rational: comparisons
and the four operations are exact, rounding is not modelled. `null` and a missing
field are both `none`.
-/

set_option autoImplicit false

namespace SpaceApp.Gateway.Router

open SpaceApp.Foundation

inductive BalancerAccountStatus where
  | active | rateLimited | quotaExceeded | paused | reauthRequired | deactivated
  deriving DecidableEq, Repr

inductive RoutingStrategy where
  | usageWeighted | roundRobin | capacityWeighted | relativeAvailability
  | fillFirst | sequentialDrain | resetDrain | singleAccount
  deriving DecidableEq, Repr

inductive TrafficClass where
  | foreground | opportunistic
  deriving DecidableEq, Repr

inductive UsageWeightedOrder where
  | secondaryFirst | primaryFirst
  deriving DecidableEq, Repr

inductive ResetPreferenceWindow where
  | primary | secondary
  deriving DecidableEq, Repr

inductive RoutingPolicy where
  | normal | burnFirst | preserve
  deriving DecidableEq, Repr

structure AccountState where
  accountId : String
  status : BalancerAccountStatus
  usedPercent : Option ℚ := none
  resetAt : Option ℚ := none
  primaryResetAt : Option ℚ := none
  primaryWindowMinutes : Option ℚ := none
  blockedAt : Option ℚ := none
  cooldownUntil : Option ℚ := none
  secondaryUsedPercent : Option ℚ := none
  secondaryResetAt : Option ℚ := none
  lastErrorAt : Option ℚ := none
  lastSelectedAt : Option ℚ := none
  errorCount : ℚ := 0
  deactivationReason : Option String := none
  planType : Option String := none
  capacityCredits : Option ℚ := none
  healthTier : ℚ := 0
  priorityUsedPercent : Option ℚ := none
  prioritySecondaryUsedPercent : Option ℚ := none
  priorityResetAt : Option ℚ := none
  priorityCapacityCredits : Option ℚ := none
  limitScopedUsage : Bool := false
  accessTokenExpiresAt : Option ℚ := none
  routingPolicy : Option RoutingPolicy := none
  ignoreStandardQuota : Bool := false
  selectionWeightMultiplier : Option ℚ := none
  deriving DecidableEq, Repr

structure SelectionResult where
  account : Option AccountState
  errorMessage : Option String
  errorCode : Option String := none
  resetsAt : Option ℚ := none
  deriving DecidableEq, Repr

/-- What selection takes from the JavaScript runtime. -/
structure Platform where
  /-- `base ** exponent`, for results that are not rational a rational near them. -/
  pow : ℚ → ℚ → ℚ
  sha256 : String → String
  toLowerCase : String → String
  replicaSalt : String

def SECONDS_PER_DAY : ℚ := 86400
def SECONDS_PER_HOUR : ℚ := 3600
def SECONDS_PER_WEEK : ℚ := 7 * SECONDS_PER_DAY
def RATE_LIMIT_RESET_MAX_HORIZON_SECONDS : ℚ := 366 * SECONDS_PER_DAY
def RATE_LIMIT_RESET_ROUNDING_TOLERANCE_SECONDS : ℚ := 1
def UNKNOWN_RESET_BUCKET_DAYS : ℚ := 10000
def UNKNOWN_RESET_FALLBACK_SECONDS : ℚ := 7 * SECONDS_PER_DAY
def RELATIVE_AVAILABILITY_MIN_DIVISOR_SECONDS : ℚ := 5 * 60
def RELATIVE_AVAILABILITY_MIN_WEIGHT_FRACTION : ℚ := 1 / 10
def DEFAULT_RELATIVE_AVAILABILITY_POWER : ℚ := 2
def DEFAULT_RELATIVE_AVAILABILITY_TOP_K : ℚ := 5
def HEALTH_TIER_HEALTHY : ℚ := 0
def HEALTH_TIER_DRAINING : ℚ := 1
def HEALTH_TIER_PROBING : ℚ := 2
def ERROR_BACKOFF_THRESHOLD : ℚ := 3
def PROBE_QUIET_SECONDS : ℚ := 60
def PRESERVE_MIN_WEEKLY_FLOOR_PCT : ℚ := 5
def PRESERVE_MIN_SHORT_WINDOW_FLOOR_PCT : ℚ := 10
def NORMAL_LAST_ACCOUNT_EMERGENCY_FLOOR_PCT : ℚ := 5
def RECENT_FOREGROUND_ACTIVITY_SECONDS : ℚ := 30 * 60
def USAGE_LIMIT_REACHED : String := "usage_limit_reached"
def UNKNOWN_PLAN_FALLBACK : String := "free"

def capacityPlanAliases : List (String × String) :=
  [("education", "edu"), ("k12", "edu"), ("guest", "free"), ("go", "free"),
    ("free_workspace", "free"), ("quorum", "free"), ("unknown", "free"), ("max", "max5x")]

def PLAN_CAPACITY_CREDITS_SECONDARY : List (String × ℚ) :=
  [("free", 1134), ("plus", 7560), ("business", 7560), ("team", 7560), ("edu", 7560),
    ("pro", 50400), ("prolite", 37800), ("enterprise", 50400), ("max5x", 252000),
    ("max20x", 1008000)]

/-- A number of a sort key; `±Infinity` occur there. -/
abbrev Extended := WithBot (WithTop ℚ)

def finite (value : ℚ) : Extended := ((value : WithTop ℚ) : WithBot (WithTop ℚ))

inductive KeyPart where
  | number (value : Extended)
  | text (value : String)
  deriving DecidableEq

abbrev SortKey := List KeyPart

def num (value : ℚ) : KeyPart := .number (finite value)

/-- The keys compared in one `minBy` have one shape, so a number only meets a number. -/
def KeyPart.less : KeyPart → KeyPart → Bool
  | .number a, .number b => decide (a < b)
  | .text a, .text b => textLess a b
  | .number _, .text _ => true
  | .text _, .number _ => false

def compareKeys : SortKey → SortKey → Ordering
  | [], [] => .eq
  | [], _ :: _ => .lt
  | _ :: _, [] => .gt
  | a :: left, b :: right =>
      if a = b then compareKeys left right else if a.less b then .lt else .gt

/-- The first item with the least key; `none` stands for `items[0]` of no items. -/
def minBy {α : Type} (key : α → SortKey) (items : List α) : Option α :=
  firstLeast (fun a b => compareKeys (key a) (key b) = .lt) items

def stableTieBreaker (platform : Platform) (accountId : String) : String :=
  platform.sha256 accountId

def decorrelatedTieBreaker (platform : Platform) (accountId salt : String) : String :=
  platform.sha256 (salt ++ "\x00" ++ accountId)

def effectiveReplicaSalt (platform : Platform) (explicit : Option String) : String :=
  match explicit with
  | some salt => if trimText salt ≠ "" then trimText salt else platform.replicaSalt
  | none => platform.replicaSalt

def routingPolicy (state : AccountState) : RoutingPolicy := state.routingPolicy.getD .normal

def usedPct (state : AccountState) (secondary : Bool) : Option ℚ :=
  if secondary then state.secondaryUsedPercent <|> state.usedPercent else state.usedPercent

def remainingPct (state : AccountState) (secondary : Bool) : Option ℚ :=
  (usedPct state secondary).map fun used => max 0 (100 - min 100 used)

def secondsUntil (resetAt : Option ℚ) (current : ℚ) : Option ℚ :=
  resetAt.map fun reset => max 0 (reset - current)

def recentForegroundActivity (state : AccountState) (current : ℚ) : Bool :=
  state.lastSelectedAt.any fun selected => current - selected ≤ RECENT_FOREGROUND_ACTIVITY_SECONDS

def weeklyPaceFloorPct (state : AccountState) (current : ℚ) : ℚ :=
  match secondsUntil state.secondaryResetAt current, usedPct state true with
  | some remainingSeconds, some used =>
      let elapsed := max 0 (SECONDS_PER_WEEK - remainingSeconds)
      let expectedUsed := min 100 (elapsed / SECONDS_PER_WEEK * 100)
      let behindPace := used + 5 < expectedUsed
      let floor : ℚ :=
        if remainingSeconds ≤ 6 * SECONDS_PER_HOUR ∧ behindPace then 0
        else if remainingSeconds ≤ SECONDS_PER_DAY ∧ behindPace then 2
        else if behindPace then 5
        else 15
      let floor := if recentForegroundActivity state current then max floor 25 else floor
      max PRESERVE_MIN_WEEKLY_FLOOR_PCT floor
  | _, _ => 100

def shortWindowFloorPct (state : AccountState) (current : ℚ) (preserveCount : Nat) : ℚ :=
  match secondsUntil state.resetAt current with
  | none => 100
  | some remainingSeconds =>
      let floor := PRESERVE_MIN_SHORT_WINDOW_FLOOR_PCT
      let floor := if SECONDS_PER_HOUR < remainingSeconds then max floor 20 else floor
      let floor := if recentForegroundActivity state current then max floor 30 else floor
      if preserveCount ≤ 1 then max floor 25 else floor

def preserveAllowsOpportunisticBurn (state : AccountState) (current : ℚ) (preserveCount : Nat) :
    Bool :=
  match remainingPct state true, remainingPct state false, state.secondaryResetAt, state.resetAt with
  | some weekly, some short, some _, some _ =>
      decide (weeklyPaceFloorPct state current < weekly) &&
        decide (shortWindowFloorPct state current preserveCount < short)
  | _, _, _, _ => false

def preserveCount (available : List AccountState) : Nat :=
  (available.filter fun state => routingPolicy state = .preserve).length

def hasOtherUsableForegroundCapacity (candidate : AccountState) (available : List AccountState)
    (current : ℚ) : Bool :=
  available.any fun other =>
    other.accountId != candidate.accountId &&
      (other.status == .active || other.status == .reauthRequired) &&
      (routingPolicy other != .preserve ||
        preserveAllowsOpportunisticBurn other current (preserveCount available))

def aboveEmergencyFloor (state : AccountState) : Bool :=
  match remainingPct state false, remainingPct state true with
  | some primary, some secondary =>
      decide (NORMAL_LAST_ACCOUNT_EMERGENCY_FLOOR_PCT < primary) &&
        decide (NORMAL_LAST_ACCOUNT_EMERGENCY_FLOOR_PCT < secondary)
  | _, _ => false

/-- The accounts expendable traffic may burn, burn-first ones first, or why there are none. -/
def filterOpportunisticCandidates (available : List AccountState) (current : ℚ) :
    Except String (List AccountState) :=
  let kept := available.filter fun state =>
    match routingPolicy state with
    | .preserve => preserveAllowsOpportunisticBurn state current (preserveCount available)
    | _ => hasOtherUsableForegroundCapacity state available current || aboveEmergencyFloor state
  let byPolicy := fun policy => kept.filter fun state => routingPolicy state = policy
  if kept ≠ [] then .ok (byPolicy .burnFirst ++ byPolicy .normal ++ byPolicy .preserve)
  else if available.any fun state => routingPolicy state = .preserve then
    .error "preserve floor or stale usage data blocks opportunistic burn"
  else .error "no expendable account has emergency foreground reserve"

def trunc (value : ℚ) : ℚ := if 0 ≤ value then (⌊value⌋ : ℚ) else (⌈value⌉ : ℚ)

def round (value : ℚ) : ℤ := ⌊value + 1 / 2⌋

def resetPreferenceBucket (state : AccountState) (current : ℚ) (window : ResetPreferenceWindow) : ℚ :=
  let resetAt := match window with
    | .primary => state.primaryResetAt <|> state.priorityResetAt <|> state.secondaryResetAt
    | .secondary => state.priorityResetAt <|> state.secondaryResetAt <|> state.primaryResetAt
  match resetAt with
  | none => UNKNOWN_RESET_BUCKET_DAYS * SECONDS_PER_DAY
  | some reset =>
      let remaining := max 0 (trunc (reset - current))
      match window with
      | .secondary => (⌊remaining / SECONDS_PER_DAY⌋ : ℚ)
      | .primary => remaining

/-- The candidates with the least value, in order: `Math.min` over all, then a filter. -/
def leastCandidates (value : AccountState → ℚ) (available : List AccountState) : List AccountState :=
  available.filter fun state => available.all fun other => decide (value state ≤ value other)

def preferEarlierResetCandidates (available : List AccountState) (current : ℚ)
    (window : ResetPreferenceWindow) : List AccountState :=
  leastCandidates (fun state => resetPreferenceBucket state current window) available

def fallbackSecondaryCapacityCredits (platform : Platform) (planType : Option String) : ℚ :=
  let normalized := platform.toLowerCase (trimText (planType.getD ""))
  let resolved := (capacityPlanAliases.lookup normalized).getD
    (if normalized = "" then UNKNOWN_PLAN_FALLBACK else normalized)
  (PLAN_CAPACITY_CREDITS_SECONDARY.lookup resolved).getD 1134

def knownExpiredReauth (state : AccountState) (current : ℚ) : Bool :=
  state.status == .reauthRequired && state.accessTokenExpiresAt.any fun expiry => expiry ≤ current

def priorityPrimaryUsed (state : AccountState) : ℚ :=
  (state.priorityUsedPercent <|> state.usedPercent).getD 0

def prioritySecondaryUsed (state : AccountState) (primary : ℚ) : ℚ :=
  if state.limitScopedUsage && state.prioritySecondaryUsedPercent.isNone then primary
  else (state.prioritySecondaryUsedPercent <|> state.secondaryUsedPercent).getD primary

def usageSortKey (state : AccountState) : SortKey :=
  let primary := priorityPrimaryUsed state
  [num (prioritySecondaryUsed state primary), num primary, num (state.lastSelectedAt.getD 0),
    .text state.accountId]

def primaryUsageSortKey (state : AccountState) : SortKey :=
  let primary := priorityPrimaryUsed state
  [num primary, num (prioritySecondaryUsed state primary), num (state.lastSelectedAt.getD 0),
    .text state.accountId]

abbrev RoutingCostsByAccount := List (String × ℚ)

def plannerCost (state : AccountState) (costs : RoutingCostsByAccount) : ℚ :=
  (costs.lookup state.accountId).getD 0

def lowestPlannerCostCandidates (available : List AccountState) (costs : RoutingCostsByAccount) :
    List AccountState :=
  if costs = [] then available else leastCandidates (fun state => plannerCost state costs) available

def remainingSecondaryCredits (platform : Platform) (state : AccountState) : ℚ :=
  let remaining := fun capacity : ℚ =>
    max 0 (capacity * (1 - min (prioritySecondaryUsed state (priorityPrimaryUsed state)) 100 / 100))
  match state.priorityCapacityCredits <|> state.capacityCredits with
  | none => remaining (fallbackSecondaryCapacityCredits platform state.planType)
  | some capacity => if capacity ≤ 0 then 0 else remaining capacity

def selectionWeightMultiplier (state : AccountState) : ℚ :=
  let multiplier := state.selectionWeightMultiplier.getD 1
  if multiplier < 0 then 1 else min multiplier 1

end SpaceApp.Gateway.Router
