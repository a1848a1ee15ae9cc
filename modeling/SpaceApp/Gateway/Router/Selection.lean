import Mathlib.Data.List.Sort
import SpaceApp.Gateway.Router.Balancer

/-! `selectAccount`: the pass over the accounts, the backoff fallback and the
routing strategies. The pass also changes the accounts (expired limits and
cooldowns are cleared), so the selection returns them with its answer.
-/

set_option autoImplicit false

namespace SpaceApp.Gateway.Router

open SpaceApp.Foundation

structure SelectAccountOptions where
  now : ℚ
  preferEarlierReset : Bool := false
  preferEarlierResetWindow : ResetPreferenceWindow := .secondary
  routingStrategy : RoutingStrategy := .capacityWeighted
  planPriority : List String := []
  weeklyPace : Bool := false
  allowBackoffFallback : Bool := true
  deterministicProbe : Bool := false
  recoveryProbeOnly : Bool := false
  relativeAvailabilityPower : ℚ := DEFAULT_RELATIVE_AVAILABILITY_POWER
  relativeAvailabilityTopK : ℚ := DEFAULT_RELATIVE_AVAILABILITY_TOP_K
  usageWeightedOrder : UsageWeightedOrder := .secondaryFirst
  trafficClass : TrafficClass := .foreground
  ignoreStandardQuota : Bool := false
  bypassQuotaExceededAccountIds : List String := []
  routingCosts : RoutingCostsByAccount := []
  replicaSalt : Option String := none
  selectionSeed : Option String := none
  allowUsageExhaustionError : Bool := true
  usageExhaustionStates : Option (List AccountState) := none
  /-- What `random()` returns; a selection draws at most once. -/
  random : ℚ := 0

def seededAccount (platform : Platform) (pool : List AccountState) (seed : String) :
    Option AccountState :=
  minBy (fun state => [.text (decorrelatedTieBreaker platform state.accountId seed)]) pool

def seededLeastUsed (platform : Platform) (available : List AccountState) (seed : String) :
    Option AccountState :=
  let keyOf := fun state => (usageSortKey state).take 2
  match minBy keyOf available with
  | none => none
  | some least =>
      seededAccount platform
        (available.filter fun state => compareKeys (keyOf state) (keyOf least) = .eq) seed

def leastUsed (platform : Platform) (available : List AccountState) (seed : Option String) :
    Option AccountState :=
  match seed with
  | some seed => seededLeastUsed platform available seed
  | none => minBy usageSortKey available

def weightedChoice {α : Type} (items : List (α × ℚ)) (random : ℚ) : Option α :=
  weightedWalk items (random * (items.map Prod.snd).sum)

def capacityWeight (platform : Platform) (state : AccountState) : ℚ :=
  remainingSecondaryCredits platform state * selectionWeightMultiplier state

def selectCapacityWeighted (platform : Platform) (available : List AccountState) (random : ℚ)
    (seed : Option String) : Option AccountState :=
  let weight := capacityWeight platform
  if (available.map weight).sum ≤ 0 then leastUsed platform available seed
  else
    match seed with
    | some seed => seededAccount platform (available.filter fun state => 0 < weight state) seed
    | none => weightedChoice (available.map fun state => (state, weight state)) random

def relativeAvailabilityRawScore (platform : Platform) (state : AccountState) (current : ℚ) : ℚ :=
  let remainingCredits := remainingSecondaryCredits platform state
  if remainingCredits ≤ 0 then 0
  else
    let remainingSeconds := match state.priorityResetAt <|> state.secondaryResetAt with
      | none => UNKNOWN_RESET_FALLBACK_SECONDS
      | some resetAt => max 0 (resetAt - current)
    remainingCredits / max remainingSeconds RELATIVE_AVAILABILITY_MIN_DIVISOR_SECONDS

structure Scored where
  state : AccountState
  score : ℚ
  weight : ℚ

def relativeCandidates (platform : Platform) (available : List AccountState) (current best power : ℚ) :
    List Scored :=
  let score := fun state => relativeAvailabilityRawScore platform state current
  (available.map fun state =>
    ({ state, score := score state, weight := platform.pow (score state / best) power } : Scored)).filter
      fun item => RELATIVE_AVAILABILITY_MIN_WEIGHT_FRACTION ≤ item.weight

/-- By hash for a seeded caller, else the best `topK` in order of weight. -/
def rankRelative (platform : Platform) (topK : ℚ) (seed : Option String) (weighted : List Scored) :
    List Scored :=
  let sortBy := fun (key : Scored → SortKey) =>
    weighted.mergeSort fun a b => compareKeys (key a) (key b) ≠ .gt
  match seed with
  | some seed => sortBy fun item => [.text (decorrelatedTieBreaker platform item.state.accountId seed)]
  | none =>
      (sortBy fun item => num (-item.weight) :: num (-item.score) :: usageSortKey item.state).take
        (max 1 (trunc topK)).floor.toNat

def Scored.finalWeight (item : Scored) : ℚ := item.weight * selectionWeightMultiplier item.state

def selectRelativeAvailability (platform : Platform) (available : List AccountState)
    (current power topK : ℚ) (deterministicProbe : Bool) (seed : Option String) (random : ℚ) :
    Option AccountState :=
  let best := (available.map fun state => relativeAvailabilityRawScore platform state current).foldl max 0
  let power := if 0 < power then power else DEFAULT_RELATIVE_AVAILABILITY_POWER
  if best ≤ 0 then leastUsed platform available seed
  else
    match rankRelative platform topK seed (relativeCandidates platform available current best power) with
    | [] => leastUsed platform available seed
    | first :: rest =>
        let weighted := first :: rest
        if deterministicProbe then some first.state
        else if (weighted.map Scored.finalWeight).sum ≤ 0 then leastUsed platform available seed
        else
          match seed with
          | some seed =>
              seededAccount platform ((weighted.filter fun item => 0 < item.finalWeight).map (·.state)) seed
          | none => weightedChoice (weighted.map fun item => (item.state, item.finalWeight)) random

def configuredCapacityCredits (platform : Platform) (state : AccountState) : ℚ :=
  match state.capacityCredits with
  | some credits =>
      if 0 < credits then credits else fallbackSecondaryCapacityCredits platform state.planType
  | none => fallbackSecondaryCapacityCredits platform state.planType

/-- `none` is `Number.POSITIVE_INFINITY`. -/
def weeklyResetTimestamp (state : AccountState) (current : ℚ) : Option ℚ :=
  (state.secondaryResetAt.filter fun reset => current < reset) <|>
    (state.resetAt.filter fun reset => current < reset)

def resetDrainSortKey (platform : Platform) (state : AccountState) (current : ℚ) : SortKey :=
  let primaryRemaining := 100 - state.usedPercent.getD 0
  let secondaryRemaining := 100 - (state.secondaryUsedPercent <|> state.usedPercent).getD 0
  let resetAt := weeklyResetTimestamp state current
  let bucket : ℚ := match resetAt with
    | none => UNKNOWN_RESET_BUCKET_DAYS
    | some reset => max 0 (⌊(reset - current) / SECONDS_PER_DAY⌋ : ℚ)
  [num bucket, num (-max 0 primaryRemaining), num (-max 0 secondaryRemaining),
    .number (match resetAt with | some reset => finite reset | none => ((⊤ : WithTop ℚ) : Extended)),
    .text (stableTieBreaker platform state.accountId), .text state.accountId]

def oldestDueProbingAccount (probing : List AccountState) (current : ℚ) : Option AccountState :=
  minBy (fun state =>
      [.number (match state.lastSelectedAt with | some selected => finite selected | none => ⊥),
        .text state.accountId])
    (probing.filter fun state =>
      state.lastSelectedAt.all fun selected => PROBE_QUIET_SECONDS ≤ current - selected)

/-- 7-day used % minus the share of the week passed, in points. -/
def weeklyPacePoints (state : AccountState) (current : ℚ) : ℚ :=
  match state.secondaryUsedPercent, state.secondaryResetAt with
  | some used, some reset =>
      if reset = 0 ∨ reset ≤ current then 0
      else used - 100 * (1 - min (7 * SECONDS_PER_DAY) (reset - current) / (7 * SECONDS_PER_DAY))
  | _, _ => 0

def normalizePlanPriorityType (platform : Platform) (value : Option String) : String :=
  let cleaned := platform.toLowerCase (trimText (value.getD ""))
  if cleaned = "" then "unknown"
  else if String.ofList (cleaned.toList.filter fun c => c ≠ '-' ∧ c ≠ '_' ∧ c ≠ ' ') = "prolite" then "prolite"
  else cleaned

/-- The first configured plan tier with an eligible account; unranked plans come last. -/
def selectPlanTier (platform : Platform) (available : List AccountState) (planPriority : List String) :
    List AccountState :=
  let plan := fun state : AccountState => normalizePlanPriorityType platform state.planType
  let priority := planPriority.map fun value => normalizePlanPriorityType platform (some value)
  if priority = [] then available
  else
    match priority.find? fun tier => available.any fun state => plan state = tier with
    | some tier => available.filter fun state => plan state = tier
    | none =>
        let unranked := available.filter fun state => !priority.contains (plan state)
        if unranked ≠ [] then unranked else available

/-- `value && current >= value`: a timestamp of 0 counts as none. -/
def passed (timestamp : Option ℚ) (current : ℚ) : Bool :=
  timestamp.any fun time => time ≠ 0 ∧ time ≤ current

/-- `value && current < value`. -/
def ahead (timestamp : Option ℚ) (current : ℚ) : Bool :=
  timestamp.any fun time => time ≠ 0 ∧ current < time

def backoffFor (platform : Platform) (state : AccountState) : ℚ :=
  min 300 (30 * platform.pow 2 (state.errorCount - ERROR_BACKOFF_THRESHOLD))

def bypassed (options : SelectAccountOptions) (state : AccountState) : Bool :=
  options.ignoreStandardQuota || state.ignoreStandardQuota ||
    options.bypassQuotaExceededAccountIds.contains state.accountId

def recoverRateLimit (current : ℚ) (state : AccountState) : AccountState :=
  if state.status = .rateLimited ∧ passed state.resetAt current then
    { state with status := .active, usedPercent := some 0, errorCount := 0, resetAt := none }
  else state

def recoverQuota (current : ℚ) (state : AccountState) : AccountState :=
  if state.status = .quotaExceeded ∧ passed state.resetAt current then
    { state with
      status := .active, usedPercent := some 0, secondaryUsedPercent := some 0, resetAt := none }
  else state

def clearCooldown (current : ℚ) (state : AccountState) : AccountState :=
  if passed state.cooldownUntil current then
    { state with cooldownUntil := none, lastErrorAt := none, errorCount := 0 }
  else state

/-- `state.lastErrorAt && current - state.lastErrorAt < backoffFor(state)`. -/
def backoffUnserved (platform : Platform) (current : ℚ) (state : AccountState) : Bool :=
  state.lastErrorAt.any fun failed => failed ≠ 0 ∧ current - failed < backoffFor platform state

inductive Admission where
  | excluded | inErrorBackoff | available
  deriving DecidableEq, Repr

/-- One account of the pass: the account as the pass leaves it and where it goes. -/
def admitAccount (platform : Platform) (options : SelectAccountOptions) (state : AccountState) :
    AccountState × Admission :=
  let current := options.now
  if state.status = .deactivated ∨ state.status = .paused then (state, .excluded)
  else if knownExpiredReauth state current then (state, .excluded)
  else
    let limited := recoverRateLimit current state
    if limited.status = .rateLimited ∧ ¬ bypassed options state then (limited, .excluded)
    else
      let quota := recoverQuota current limited
      if quota.status = .quotaExceeded ∧ ¬ bypassed options state then (quota, .excluded)
      else
        let cooled := clearCooldown current quota
        if ahead cooled.cooldownUntil current then (cooled, .excluded)
        else if ERROR_BACKOFF_THRESHOLD ≤ cooled.errorCount then
          if backoffUnserved platform current cooled then (cooled, .inErrorBackoff)
          else ({ cooled with errorCount := 0, lastErrorAt := none }, .available)
        else (cooled, .available)

def admitted (platform : Platform) (options : SelectAccountOptions) (admission : Admission)
    (states : List AccountState) : List AccountState :=
  ((states.map (admitAccount platform options)).filter fun outcome => outcome.2 = admission).map Prod.fst

def formatRetryHint (waitSeconds : ℚ) : String :=
  "Rate limit exceeded. Try again in " ++ toString (round (min (max 0 waitSeconds) 300)) ++ "s"

def least (values : List ℚ) : Option ℚ := firstLeast (fun a b => decide (a < b)) values

def primaryEvidence (state : AccountState) : Option ℚ := state.priorityUsedPercent <|> state.usedPercent

def secondaryEvidence (state : AccountState) : Option ℚ :=
  if state.limitScopedUsage && state.prioritySecondaryUsedPercent.isNone then primaryEvidence state
  else state.prioritySecondaryUsedPercent <|> state.secondaryUsedPercent

def usedUp (evidence : Option ℚ) : Bool := evidence.any fun value => 100 ≤ value

def exhausted (state : AccountState) : Bool :=
  (state.status == .quotaExceeded || state.status == .rateLimited) &&
    (usedUp (primaryEvidence state) || usedUp (secondaryEvidence state))

def exhaustedResetAt (state : AccountState) : Option ℚ :=
  let primary := if usedUp (primaryEvidence state) then state.primaryResetAt else none
  let secondary := if usedUp (secondaryEvidence state) then state.secondaryResetAt else none
  match primary, secondary with
  | some first, some second => some (max first second)
  | first, second => first <|> second

/-- Pool-wide exhaustion: every eligible account has a window proven at 100%. -/
def poolUsageExhaustion (states : List AccountState) (options : SelectAccountOptions) :
    Option SelectionResult :=
  if options.ignoreStandardQuota then none
  else
    let eligible := states.filter fun state =>
      !state.ignoreStandardQuota && !options.bypassQuotaExceededAccountIds.contains state.accountId &&
        state.status != .paused && state.status != .deactivated
    if eligible = [] ∨ eligible.any (fun state => !exhausted state) then none
    else
      let resetsAt := (least (eligible.filterMap exhaustedResetAt)).map trunc
      some {
        account := none
        errorMessage := some (match resetsAt with
          | some reset => formatRetryHint (max 0 (reset - options.now))
          | none => "Usage limit reached")
        errorCode := some USAGE_LIMIT_REACHED
        resetsAt }

def permanentMessage (paused expiredReauth deactivated : Bool) : Option String :=
  match paused, expiredReauth, deactivated with
  | true, true, true => some "All accounts are paused, deactivated, or require re-authentication"
  | true, true, false => some "All accounts are paused or require re-authentication"
  | true, false, true => some "All accounts are paused or deactivated"
  | false, true, true => some "All accounts are deactivated or require re-authentication"
  | true, false, false => some "All accounts are paused"
  | false, true, false => some "All accounts require re-authentication"
  | false, false, true => some "All accounts are deactivated"
  | false, false, false => none

def unavailable (states : List AccountState) (options : SelectAccountOptions) : SelectionResult :=
  let exhaustion :=
    if options.allowUsageExhaustionError then
      poolUsageExhaustion (options.usageExhaustionStates.getD states) options
    else none
  let having := fun status : BalancerAccountStatus => states.filter fun state => state.status = status
  let permanent :=
    if having .rateLimited = [] ∧ having .quotaExceeded = [] then
      permanentMessage (having .paused ≠ [])
        (states.any fun state => knownExpiredReauth state options.now) (having .deactivated ≠ [])
    else none
  let resets := (having .quotaExceeded).filterMap fun state => state.resetAt.filter (· ≠ 0)
  let cooldowns := states.filterMap fun state =>
    state.cooldownUntil.filter fun until_ => until_ ≠ 0 ∧ options.now < until_
  match exhaustion with
  | some result => result
  | none =>
      { account := none
        errorMessage := some (match permanent, least resets, least cooldowns with
          | some message, _, _ => message
          | none, some reset, _ => formatRetryHint (max 0 (reset - trunc options.now))
          | none, none, some cooldown => formatRetryHint (max 0 (cooldown - options.now))
          | none, none, none => "No available accounts") }

/-- The first of the lists that is not empty, else the last. -/
def firstNonempty (pools : List (List AccountState)) (otherwise : List AccountState) :
    List AccountState :=
  (pools.find? (· ≠ [])).getD otherwise

def chooseStrategy (platform : Platform) (options : SelectAccountOptions)
    (effectivePool : List AccountState) : Option AccountState :=
  let current := options.now
  let seed := options.selectionSeed
  let costs := options.routingCosts
  let window := options.preferEarlierResetWindow
  let earlierReset := fun pool =>
    if options.preferEarlierReset then preferEarlierResetCandidates pool current window else pool
  match options.routingStrategy with
  | .roundRobin =>
      match seed with
      | some seed => seededAccount platform (lowestPlannerCostCandidates effectivePool costs) seed
      | none =>
          let salt := effectiveReplicaSalt platform options.replicaSalt
          minBy (fun state => [num (plannerCost state costs), num (state.lastSelectedAt.getD 0),
            .text (decorrelatedTieBreaker platform state.accountId salt)]) effectivePool
  | .capacityWeighted =>
      let pool := earlierReset effectivePool
      if options.deterministicProbe then
        minBy (fun state => num (plannerCost state costs) ::
          num (-remainingSecondaryCredits platform state) :: usageSortKey state) pool
      else selectCapacityWeighted platform (lowestPlannerCostCandidates pool costs) options.random seed
  | .relativeAvailability =>
      selectRelativeAvailability platform (lowestPlannerCostCandidates effectivePool costs) current
        options.relativeAvailabilityPower options.relativeAvailabilityTopK options.deterministicProbe
        seed options.random
  | .fillFirst =>
      minBy (fun state => [num (-state.usedPercent.getD 0), num (-state.secondaryUsedPercent.getD 0),
        .text state.accountId]) (earlierReset effectivePool)
  | _ =>
      match seed with
      | some seed =>
          seededAccount platform (lowestPlannerCostCandidates (earlierReset effectivePool) costs) seed
      | none =>
          let usage := match options.usageWeightedOrder with
            | .primaryFirst => primaryUsageSortKey
            | .secondaryFirst => usageSortKey
          minBy (fun state =>
            (if options.preferEarlierReset then [num (resetPreferenceBucket state current window)] else []) ++
              num (plannerCost state costs) :: usage state) effectivePool

/-- The accounts a strategy sees: the due probe, or the best health tier, then the routing policy. -/
def effectivePool (healthy probing draining available : List AccountState) (dueProbe : Option AccountState) :
    List AccountState :=
  let healthPool := match dueProbe with
    | some probe => [probe]
    | none => firstNonempty [healthy, probing, draining] available
  let byPolicy := fun policy => healthPool.filter fun state => routingPolicy state = policy
  firstNonempty [byPolicy .burnFirst, byPolicy .normal, byPolicy .preserve] healthPool

def healthTier (available : List AccountState) (tier : ℚ) : List AccountState :=
  available.filter fun state => state.healthTier = tier

/-- A due probe is admitted first so that recovery is never starved. A seeded caller never
carries it: rotating a held conversation is what the seed prevents. -/
def dueProbe (options : SelectAccountOptions) (available : List AccountState) : Option AccountState :=
  if (healthTier available HEALTH_TIER_HEALTHY ≠ [] ∨ options.recoveryProbeOnly) ∧
      options.selectionSeed = none then
    oldestDueProbingAccount (healthTier available HEALTH_TIER_PROBING) options.now
  else none

def chooseAccount (platform : Platform) (options : SelectAccountOptions)
    (available : List AccountState) : Option AccountState :=
  let current := options.now
  if options.planPriority ≠ [] ∧ ¬ options.weeklyPace then
    minBy (fun state =>
        let primary := state.usedPercent.getD 0
        [num primary, num (state.secondaryUsedPercent.getD primary), .text state.accountId])
      (selectPlanTier platform available options.planPriority)
  else if options.routingStrategy = .singleAccount then
    minBy (fun state => [.text state.accountId]) available
  else if options.routingStrategy = .sequentialDrain then
    minBy (fun state => [num (configuredCapacityCredits platform state),
      .text (stableTieBreaker platform state.accountId), .text state.accountId]) available
  else if options.routingStrategy = .resetDrain then
    minBy (fun state => resetDrainSortKey platform state current) available
  else
    let probe := dueProbe options available
    if options.recoveryProbeOnly ∧ probe = none then none
    else
      let pool := effectivePool (healthTier available HEALTH_TIER_HEALTHY)
        (healthTier available HEALTH_TIER_PROBING) (healthTier available HEALTH_TIER_DRAINING)
        available probe
      if options.weeklyPace then
        let tiers := options.planPriority.map fun value => normalizePlanPriorityType platform (some value)
        minBy (fun state => [num (round (weeklyPacePoints state current)),
            num (tiers.idxOf (normalizePlanPriorityType platform state.planType)),
            num (state.usedPercent.getD 0), .text state.accountId]) pool
      else chooseStrategy platform options pool

def hardBlocked (options : SelectAccountOptions) (state : AccountState) : Bool :=
  state.status == .paused || state.status == .deactivated || state.status == .rateLimited ||
    state.status == .quotaExceeded || knownExpiredReauth state options.now

def firstBackoffEnd (platform : Platform) (inErrorBackoff : List AccountState) : Option AccountState :=
  minBy (fun state => [num (state.lastErrorAt.getD 0 + backoffFor platform state)]) inErrorBackoff

def opportunistic (options : SelectAccountOptions) (available : List AccountState) :
    Except String (List AccountState) :=
  if options.trafficClass = .opportunistic ∧ available ≠ [] then
    filterOpportunisticCandidates available options.now
  else .ok available

def windowClosed (reason : String) : SelectionResult :=
  { account := none, errorMessage := some ("opportunistic burn window closed: " ++ reason) }

/-- The answer for the accounts in `pool`, expendable traffic held to its floors. -/
def serve (platform : Platform) (options : SelectAccountOptions) (pool : List AccountState) :
    SelectionResult :=
  match opportunistic options pool with
  | .error reason => windowClosed reason
  | .ok candidates => { account := chooseAccount platform options candidates, errorMessage := none }

def backoffFallbackApplies (platform : Platform) (options : SelectAccountOptions)
    (states : List AccountState) : Bool :=
  let inErrorBackoff := admitted platform options .inErrorBackoff states
  let backoffIds := inErrorBackoff.map (·.accountId)
  let hardBlockedExists := (states.map fun state => (admitAccount platform options state).1).any fun state =>
    hardBlocked options state && !backoffIds.contains state.accountId
  options.allowBackoffFallback &&
    (decide (1 < inErrorBackoff.length) || (decide (0 < inErrorBackoff.length) && hardBlockedExists))

def selectAccount (platform : Platform) (states : List AccountState) (options : SelectAccountOptions) :
    SelectionResult × List AccountState :=
  let allStates := states.map fun state => (admitAccount platform options state).1
  let available := admitted platform options .available states
  let inErrorBackoff := admitted platform options .inErrorBackoff states
  let result :=
    if available ≠ [] then serve platform options available
    else if backoffFallbackApplies platform options states then
      serve platform options (firstBackoffEnd platform inErrorBackoff).toList
    else unavailable allStates options
  (result, allStates)

end SpaceApp.Gateway.Router
