import Mathlib.Algebra.Group.Nat.Defs
import Mathlib.Data.Int.Notation
import Mathlib.Data.List.Basic
import Mathlib.Logic.Function.Basic

/-! Nous's goals (`nous/goals.ts`): one owner's goals, the goal turn, and the edits, updates and wakes beside it.

Times are milliseconds. A repository call takes effect at once, or fails; between two of them others may run. The goals'
logs are left out.
-/

set_option autoImplicit false

namespace SpaceApp.Nous

inductive GoalStatus where
  | active | paused | achieved | dropped
  deriving DecidableEq

inductive WaitKind where
  | operator | date | promote | thirdParty | plan | nous | server
  deriving DecidableEq

structure WaitsOn where
  kind : WaitKind
  what : String
  until_ : Option ℤ
  deriving DecidableEq

structure NousGoal where
  id : String
  text : String
  status : GoalStatus
  priority : Nat
  progress : Nat
  criteria : Option String
  planIds : List String
  waitsOn : Option WaitsOn
  note : Option String
  evidence : Option String
  lastWorkedAt : Option ℤ
  /-- None: now. -/
  nextTurnAt : Option ℤ
  fingerprint : Option String
  unchangedTurns : Nat
  achievedAt : Option ℤ
  deriving DecidableEq

structure GoalsSettings where
  gapSeconds : Nat
  backoffMinutes : Nat
  backoffMaxMinutes : Nat
  unchangedTurns : Nat
  deriving DecidableEq

inductive TurnStatus where
  | done | failed | stopped | timeout
  deriving DecidableEq

structure GoalTurnOutcome where
  turnId : String
  status : TurnStatus
  settings : GoalsSettings
  deriving DecidableEq

/-- What an open plan shows of its progress. -/
structure LinkedPlan where
  id : String
  progressPercentage : Nat
  executionStatus : String
  deriving DecidableEq

structure GoalState where
  status : GoalStatus
  progress : Nat
  criteria : Option String
  planIds : List String
  waitsOn : Option WaitsOn
  note : Option String
  linked : List (String × Option (Nat × String))
  deriving DecidableEq

def MINUTE : ℤ := 60000

def NOUS_GOAL_EVIDENCE_MIN_CHARS : Nat := 20

/-- `sha1`: the hash of the state's JSON. -/
def goalFingerprint (sha1 : GoalState → String) (goal : NousGoal) (plans : List LinkedPlan) : String := sha1 {
  status := goal.status
  progress := goal.progress
  criteria := goal.criteria
  planIds := goal.planIds
  waitsOn := goal.waitsOn
  note := goal.note
  linked := goal.planIds.map fun id =>
    (id, (plans.find? fun plan => plan.id = id).map fun plan => (plan.progressPercentage, plan.executionStatus)) }

namespace GoalsSettings

variable (settings : GoalsSettings)

def gap : ℤ := settings.gapSeconds * 1000

/-- The back-off doubles with each turn that moved nothing, up to its limit. -/
def backoff (excess : Nat) : ℤ := min (settings.backoffMinutes * 2 ^ excess) settings.backoffMaxMinutes * MINUTE

end GoalsSettings

def WaitKind.backsOff : WaitKind → Bool
  | .operator | .thirdParty | .promote => true
  | _ => false

/-- The date the goal waits for, where it is past the gap. -/
def farDate (waitsOn : Option WaitsOn) (settings : GoalsSettings) (now : ℤ) : Option ℤ :=
  match waitsOn with
  | some { kind := .date, until_ := some until_, .. } => if now + settings.gap < until_ then some until_ else none
  | _ => none

def nextGoalTurnAt (waitsOn : Option WaitsOn) (unchangedTurns : Nat) (outcome : GoalTurnOutcome) (now : ℤ) : ℤ :=
  match farDate waitsOn outcome.settings now with
  | some until_ => until_
  | none =>
    if waitsOn.any fun waits => waits.kind.backsOff then now + outcome.settings.backoff unchangedTurns
    else if outcome.status = .stopped ∨ outcome.status = .failed then now + outcome.settings.backoffMinutes * MINUTE
    else if outcome.settings.unchangedTurns ≤ unchangedTurns then
      now + outcome.settings.backoff (unchangedTurns - outcome.settings.unchangedTurns)
    else now + outcome.settings.gap

def isDue (at_ : ℤ) (goal : NousGoal) : Bool := goal.status = .active && goal.nextTurnAt.all fun next => next ≤ at_

/-- Never worked first, then the one worked longest ago, then by priority. -/
def goalOrder (left right : NousGoal) : Bool :=
  match left.lastWorkedAt, right.lastWorkedAt with
  | none, some _ => true
  | some _, none => false
  | none, none => left.priority ≤ right.priority
  | some a, some b => a < b || (a = b && left.priority ≤ right.priority)

/-- `sort(…)[0]` of the due goals. -/
def pick (goals : List NousGoal) (at_ : ℤ) : Option NousGoal := ((goals.filter (isDue at_)).mergeSort goalOrder).head?

structure GoalPatch where
  text : Option String := none
  status : Option GoalStatus := none
  priority : Option Nat := none
  progress : Option Nat := none
  criteria : Option String := none
  planIds : Option (List String) := none
  waitsOn : Option (Option WaitsOn) := none
  note : Option String := none
  evidence : Option (Option String) := none
  lastWorkedAt : Option ℤ := none
  nextTurnAt : Option (Option ℤ) := none
  fingerprint : Option (Option String) := none
  unchangedTurns : Option Nat := none
  achievedAt : Option (Option ℤ) := none
  deriving DecidableEq

def GoalPatch.apply (patch : GoalPatch) (goal : NousGoal) : NousGoal :=
  { goal with
    text := patch.text.getD goal.text
    status := patch.status.getD goal.status
    priority := patch.priority.getD goal.priority
    progress := patch.progress.getD goal.progress
    criteria := patch.criteria.orElse fun _ => goal.criteria
    planIds := patch.planIds.getD goal.planIds
    waitsOn := patch.waitsOn.getD goal.waitsOn
    note := patch.note.orElse fun _ => goal.note
    evidence := patch.evidence.getD goal.evidence
    lastWorkedAt := patch.lastWorkedAt.orElse fun _ => goal.lastWorkedAt
    nextTurnAt := patch.nextTurnAt.getD goal.nextTurnAt
    fingerprint := patch.fingerprint.getD goal.fingerprint
    unchangedTurns := patch.unchangedTurns.getD goal.unchangedTurns
    achievedAt := patch.achievedAt.getD goal.achievedAt }

structure NousGoalEditInput where
  text : Option String := none
  status : Option GoalStatus := none
  priority : Option Nat := none
  deriving DecidableEq

/-- The operator's edit; any of them makes the goal due now. -/
def editPatch (before : NousGoal) (input : NousGoalEditInput) : GoalPatch :=
  let due : GoalPatch := {
    unchangedTurns := some 0
    nextTurnAt := some none
    text := input.text.filter fun text => text ≠ before.text
    priority := input.priority }
  match input.status.filter fun status => status ≠ before.status with
  | none => due
  | some .active => { due with
      status := some .active
      achievedAt := some none
      evidence := some none
      progress := if before.status = .achieved then some (min before.progress 99) else none }
  | some status => { due with status := some status }

structure NousGoalUpdateArgs where
  goal : String
  progress : Option Nat := none
  criteria : Option String := none
  planIds : Option (List String) := none
  waitsOn : Option (Option WaitsOn) := none
  note : Option String := none
  achieved : Option String := none
  deriving DecidableEq

/-- Nous's update: none where there is a problem. -/
def updatePatch (before : NousGoal) (args : NousGoalUpdateArgs) (now : ℤ) : Option GoalPatch :=
  if before.status = .achieved ∨ before.status = .dropped then none
  else
    let patch : GoalPatch := {
      progress := args.progress.filter fun progress => progress ≠ before.progress
      criteria := args.criteria.filter fun criteria => some criteria ≠ before.criteria
      planIds := args.planIds.filter fun planIds => planIds ≠ before.planIds
      waitsOn := args.waitsOn.filter fun waitsOn => waitsOn ≠ before.waitsOn
      note := args.note.filter fun note => some note ≠ before.note }
    match args.achieved with
    | none => if patch = {} then none else some patch
    | some evidence =>
      if evidence.trimAscii.toString.length < NOUS_GOAL_EVIDENCE_MIN_CHARS then none
      else some { patch with
        status := some .achieved
        progress := some 100
        evidence := some (some evidence)
        achievedAt := some (some now)
        waitsOn := some none
        nextTurnAt := some none }

/-- The goal waits on the operator, or backs off. -/
def wakes (goal : NousGoal) : Bool :=
  goal.waitsOn.any (fun waits => waits.kind = .operator) || (goal.nextTurnAt.isSome && 0 < goal.unchangedTurns)

def wakePatch : GoalPatch := { nextTurnAt := some none, unchangedTurns := some 0 }

/-- The turns that left the goal unchanged, after one more. -/
def unchangedAfter (goal : NousGoal) (fingerprint : String) (status : TurnStatus) : Nat :=
  if status = .done then if goal.fingerprint = some fingerprint then goal.unchangedTurns + 1 else 0
  else goal.unchangedTurns

/-- Where an edit, an update of Nous's or a wake waits. -/
inductive Task where
  | editing (id : String) (input : NousGoalEditInput)
  | editUpdating (id : String) (patch : GoalPatch)
  | recording (args : NousGoalUpdateArgs) (turnId : Option String)
  | recordUpdating (id : String) (patch : GoalPatch) (turnId : Option String)
  | waking
  | wakingGoals (ids : List String)
  deriving DecidableEq

/-- Where the goal turn is. -/
inductive Stage where
  | starting (lastWorkedAt : ℤ)
  | running
  | finishing (outcome : GoalTurnOutcome)
  | logging (goal : NousGoal) (outcome : GoalTurnOutcome)
  | planning (goal : NousGoal) (outcome : GoalTurnOutcome)
  | closing (goal : NousGoal) (outcome : GoalTurnOutcome) (fingerprint : String) (unchanged : Nat) (now : ℤ)
  | resetting (settings : GoalsSettings) (now : ℤ)
  deriving DecidableEq

/-- The goal turn; what no step reads: that an edit or a wake made its goal due, and that the turn set a date after that. -/
structure Turn where
  goalId : String
  turnId : String
  stage : Stage
  woken : Bool := false
  dated : Bool := false
  deriving DecidableEq

/-- A goal turn that was finished: when, and when its goal is due again. -/
structure Closing where
  goalId : String
  woken : Bool
  dated : Bool
  finishedAt : ℤ
  gap : ℤ
  due : Option ℤ
  deriving DecidableEq

structure World where
  goals : String → Option NousGoal
  tasks : Nat → Option Task := fun _ => none
  turn : Option Turn := none
  closings : List Closing := []

inductive GoalEvent where
  | edits (name : Nat) (id : String) (input : NousGoalEditInput)
  | records (name : Nat) (args : NousGoalUpdateArgs) (turnId : Option String)
  | wakes (name : Nat)
  | proceeds (name : Nat) (now : ℤ) (order : List String) (fails : Bool)
  | turnStarts (goalId turnId : String) (now : ℤ)
  | turnEnds (outcome : GoalTurnOutcome)
  | turnProceeds (now : ℤ) (plans : List LinkedPlan) (fails : Bool)
  deriving DecidableEq

namespace World

def patched (world : World) (id : String) (patch : GoalPatch) : World :=
  { world with goals := Function.update world.goals id ((world.goals id).map patch.apply) }

/-- An edit or a wake made the goal due: the turn of that goal, if it is running, is told of it here. -/
def madeDue (world : World) (id : String) : World :=
  if (world.goals id).any fun goal => goal.status = .active then
    { world with turn := world.turn.map fun turn =>
        if turn.goalId = id then { turn with woken := true, dated := false } else turn }
  else world

def noteWait (world : World) (id : String) (patch : GoalPatch) (turnId : Option String) : World :=
  if patch.waitsOn.any (fun waitsOn => waitsOn.any fun waits => waits.kind = .date) then
    { world with turn := world.turn.map fun turn =>
        if turn.goalId = id ∧ some turn.turnId = turnId then { turn with dated := true } else turn }
  else world

def wait (world : World) (name : Nat) (task : Option Task) : World :=
  { world with tasks := Function.update world.tasks name task }

def proceed (world : World) (name : Nat) (now : ℤ) (order : List String) : Task → World
  | .editing id input =>
    match world.goals id with
    | none => world.wait name none
    | some before => world.wait name (some (.editUpdating id (editPatch before input)))
  | .editUpdating id patch => ((world.patched id patch).madeDue id).wait name none
  | .recording args turnId =>
    match (world.goals args.goal).bind fun before => updatePatch before args now with
    | none => world.wait name none
    | some patch => world.wait name (some (.recordUpdating args.goal patch turnId))
  | .recordUpdating id patch turnId => ((world.patched id patch).noteWait id patch turnId).wait name none
  | .waking =>
    let active := order.filterMap fun id => (world.goals id).filter fun goal => goal.status = .active
    world.wait name (some (.wakingGoals ((active.filter Nous.wakes).map (·.id))))
  | .wakingGoals [] => world.wait name none
  | .wakingGoals (id :: rest) => ((world.patched id wakePatch).madeDue id).wait name (some (.wakingGoals rest))

def atStage (world : World) (turn : Turn) (stage : Stage) : World := { world with turn := some { turn with stage } }

def closed (world : World) (turn : Turn) (settings : GoalsSettings) (now : ℤ) : World :=
  { world with
    turn := none
    closings := world.closings ++ [{
      goalId := turn.goalId
      woken := turn.woken
      dated := turn.dated
      finishedAt := now
      gap := settings.gap
      due := (world.goals turn.goalId).bind (·.nextTurnAt) }] }

section

variable (sha1 : GoalState → String)

/-- `fails`: `startTurn` and the plans do without, and a finish that fails leaves the goal as it is. -/
def turnProceed (world : World) (turn : Turn) (now : ℤ) (plans : List LinkedPlan) (fails : Bool) : World :=
  match turn.stage with
  | .starting lastWorkedAt =>
    (if fails then world else world.patched turn.goalId { lastWorkedAt := some lastWorkedAt }).atStage turn .running
  | .running => world
  | .finishing outcome =>
    match if fails then none else world.goals turn.goalId with
    | none => { world with turn := none }
    | some goal => world.atStage turn (.logging goal outcome)
  | .logging goal outcome =>
    if fails then { world with turn := none }
    else if goal.status = .active then world.atStage turn (.planning goal outcome)
    else world.atStage turn (.resetting outcome.settings now)
  | .planning goal outcome =>
    let fingerprint := goalFingerprint sha1 goal (if fails then [] else plans)
    world.atStage turn (.closing goal outcome fingerprint (unchangedAfter goal fingerprint outcome.status) now)
  | .closing goal outcome fingerprint unchanged readAt =>
    if fails then { world with turn := none }
    else
      (world.patched turn.goalId {
        fingerprint := some (some fingerprint)
        unchangedTurns := some unchanged
        nextTurnAt := some (some (nextGoalTurnAt goal.waitsOn unchanged outcome readAt)) }).closed turn outcome.settings readAt
  | .resetting settings readAt =>
    if fails then { world with turn := none }
    else
      (world.patched turn.goalId { fingerprint := some none, unchangedTurns := some 0 }).closed turn settings readAt

def step (world : World) : GoalEvent → World
  | .edits name id input => if (world.tasks name).isSome then world else world.wait name (some (.editing id input))
  | .records name args turnId => if (world.tasks name).isSome then world else world.wait name (some (.recording args turnId))
  | .wakes name => if (world.tasks name).isSome then world else world.wait name (some .waking)
  | .proceeds name now order fails =>
    match world.tasks name with
    | none => world
    | some task => if fails then world.wait name none else world.proceed name now order task
  | .turnStarts goalId turnId now =>
    if world.turn.isSome then world else { world with turn := some { goalId, turnId, stage := .starting now } }
  | .turnEnds outcome =>
    match world.turn with
    | some turn => if turn.stage = .running then world.atStage turn (.finishing outcome) else world
    | none => world
  | .turnProceeds now plans fails =>
    match world.turn with
    | none => world
    | some turn => world.turnProceed sha1 turn now plans fails

end

end World

end SpaceApp.Nous
