import Mathlib.Data.Int.Notation
import SpaceApp.Api.Setup.Catalog

/-! An owner's setup document (`setup-state.ts`): drafts, plans, runs, their tasks and events, what
the store accepts of it, and what stays of its history (`setup-execution.ts`).

A UUID is the number of those drawn before it. Times are milliseconds. Fields that are the same in
every document, such as the owner and the catalog's version, are left out.
-/

set_option autoImplicit false

namespace SpaceApp.Setup

abbrev Uuid := Nat

/-- The texts of a first character and some others, at least `low` and at most `high` of them. -/
def matchesText (first rest : Char → Bool) (low high : Nat) (text : String) : Bool :=
  match text.toList with
  | [] => false
  | head :: tail => first head && tail.all rest && low ≤ tail.length && tail.length ≤ high

def isLower (c : Char) : Bool := 'a' ≤ c && c ≤ 'z'
def isUpper (c : Char) : Bool := 'A' ≤ c && c ≤ 'Z'
def isDigit (c : Char) : Bool := '0' ≤ c && c ≤ '9'
def isAlphanumeric (c : Char) : Bool := isLower c || isUpper c || isDigit c
def isHex (c : Char) : Bool := isDigit c || 'a' ≤ c && c ≤ 'f'
def isOneOf (marks : String) (c : Char) : Bool := c ∈ marks.toList

def idSchema (text : String) : Bool :=
  let one := fun c => isAlphanumeric c || isOneOf "._:-" c
  matchesText one one 7 127 text

def hashSchema (text : String) : Bool := matchesText isHex isHex 63 63 text

def nameSchema (text : String) : Bool :=
  matchesText isLower (fun c => isLower c || isDigit c || isOneOf "._-" c) 0 127 text

def referenceSchema (text : String) : Bool :=
  matchesText isLower (fun c => isLower c || isDigit c || isOneOf "._:-" c) 3 127 text

def reasonCodeSchema (text : String) : Bool :=
  let one := fun c => isUpper c || isDigit c || c = '_'
  matchesText one one 0 79 text

def setupFeatureIdSchema (id : SetupFeatureId) : Bool :=
  matchesText (fun c => isLower c || isDigit c) (fun c => isLower c || isDigit c || c = '-') 0 79 id.rawId

inductive SetupPersona where
  | everyday | creator | developer
  deriving DecidableEq

inductive SetupLevel where
  | minimal | balanced | full
  deriving DecidableEq

structure SetupConnectionChoice where
  featureId : SetupFeatureId
  providerId : Option String := none
  modelId : Option String := none
  voiceId : Option String := none
  /-- What follows `cred:`. -/
  credentialRef : Option String := none
  deriving DecidableEq

def setupConnectionChoiceSchema (choice : SetupConnectionChoice) : Bool :=
  setupFeatureIdSchema choice.featureId && choice.providerId.all nameSchema &&
    choice.modelId.all (matchesText isAlphanumeric (fun c => isAlphanumeric c || isOneOf "._:/-" c) 0 159) &&
    choice.voiceId.all (matchesText isAlphanumeric (fun c => isAlphanumeric c || isOneOf "._-" c) 0 99) &&
    choice.credentialRef.all fun text =>
      let one := fun c => isAlphanumeric c || isOneOf "._:-" c
      matchesText one one 2 119 text

structure DraftChoices where
  persona : SetupPersona
  level : SetupLevel
  requestedFeatureIds : List SetupFeatureId
  connectionChoices : List SetupConnectionChoice
  deriving DecidableEq

structure SetupDraft extends DraftChoices where
  id : Uuid
  revision : Nat
  updatedAt : ℤ
  deriving DecidableEq

def uniqueIds (ids : List SetupFeatureId) : Bool := ids.all setupFeatureIdSchema && ids.length ≤ 100 && ids.Nodup

def setupDraftSchema (draft : SetupDraft) : Bool :=
  uniqueIds draft.requestedFeatureIds && draft.connectionChoices.all setupConnectionChoiceSchema &&
    draft.connectionChoices.length ≤ 40

structure SetupPlan where
  id : Uuid
  draftId : Uuid
  draftRevision : Nat
  planDigest : String
  requestedFeatureIds : List SetupFeatureId
  effectiveFeatureIds : List SetupFeatureId
  actions : List SetupPlanAction
  requiredHumanInputs : List SetupHumanInput
  costDisclosures : List (SetupFeatureId × SetupCostClass)
  createdAt : ℤ
  deriving DecidableEq

def setupPlanSchema (plan : SetupPlan) : Bool :=
  hashSchema plan.planDigest && uniqueIds plan.requestedFeatureIds && uniqueIds plan.effectiveFeatureIds &&
    (plan.actions.all fun action => action.dependsOn.length ≤ 200) && plan.actions.length ≤ 200 &&
    plan.requiredHumanInputs.length ≤ 40 && plan.costDisclosures.length ≤ 100

inductive SetupRunStatus where
  | running | waitingForInput | paused | failed | ready | cancelled | superseded
  deriving DecidableEq

structure SetupRun where
  id : Uuid
  planId : Uuid
  status : SetupRunStatus
  revision : Nat
  eventSequence : Nat
  createdAt : ℤ
  updatedAt : ℤ
  finishedAt : Option ℤ
  deriving DecidableEq

inductive SetupTaskStatus where
  | queued | installing | waitingForInput | checking | ready | needsAttention | paused | cancelled
  deriving DecidableEq

/-- `task:${run}:${action}`. -/
structure SetupTaskId where
  run : Uuid
  action : PlanActionId
  deriving DecidableEq

structure SetupTask where
  id : SetupTaskId
  runId : Uuid
  actionId : SetupActionId
  featureId : SetupFeatureId
  dependsOn : List SetupTaskId
  status : SetupTaskStatus
  attempt : Nat
  idempotencyKey : String
  leaseOwner : Option String
  leaseExpiresAt : Option ℤ
  errorCode : Option String
  resultRef : Option String
  deriving DecidableEq

/-- Of the rest, texts a request brought were checked before they came here. -/
def setupTaskSchema (task : SetupTask) : Bool := task.dependsOn.length ≤ 200 && task.leaseOwner.all idSchema

structure ReceiptInput where
  checkVersion : String
  subjectFingerprint : String
  evidenceRef : String
  deriving DecidableEq

structure SetupReadinessReceipt extends ReceiptInput where
  id : Uuid
  runId : Uuid
  taskId : SetupTaskId
  featureId : SetupFeatureId
  completedAt : ℤ
  expiresAt : ℤ
  deriving DecidableEq

def setupReadinessReceiptSchema (receipt : SetupReadinessReceipt) : Bool :=
  referenceSchema receipt.checkVersion && hashSchema receipt.subjectFingerprint && referenceSchema receipt.evidenceRef &&
    receipt.completedAt < receipt.expiresAt

structure SetupExecutionEvent where
  runId : Uuid
  sequence : Nat
  taskId : SetupTaskId
  state : SetupTaskStatus
  reasonCode : Option String
  createdAt : ℤ
  deriving DecidableEq

structure SetupCompletion where
  runId : Uuid
  draftRevision : Nat
  planDigest : String
  settingsRevision : Nat
  receiptSetHash : String
  starterRoomId : String
  memoryHandoffRevision : Nat
  completedAt : ℤ
  deriving DecidableEq

structure RunIdempotency where
  key : String
  runId : Uuid
  deriving DecidableEq

structure SetupExecutionState where
  revision : Nat := 0
  draft : Option SetupDraft := none
  plans : List SetupPlan := []
  runs : List SetupRun := []
  tasks : List SetupTask := []
  receipts : List SetupReadinessReceipt := []
  events : List SetupExecutionEvent := []
  runIdempotency : List RunIdempotency := []
  appliedSettingsRevision : Option Nat := none
  memoryHandoffRevision : Option Nat := none
  completion : Option SetupCompletion := none
  deriving DecidableEq

def emptyState : SetupExecutionState := {}

/-- `setupExecutionStateSchema`, of a document whose parts were parsed or made here. -/
def setupExecutionStateSchema (state : SetupExecutionState) : Bool :=
  state.plans.length ≤ 50 && state.runs.length ≤ 50 && state.tasks.length ≤ 500 && state.receipts.length ≤ 500 &&
    state.events.length ≤ 500 && state.runIdempotency.length ≤ 50 && state.tasks.all setupTaskSchema &&
    (state.plans.map (·.id)).Nodup && (state.runs.map (·.id)).Nodup &&
    (state.tasks.all fun task => task.runId ∈ state.runs.map (·.id)) && (state.tasks.map (·.id)).Nodup &&
    (state.runIdempotency.map (·.key)).Nodup &&
    state.runIdempotency.all fun record => record.runId ∈ state.runs.map (·.id)

def maxRetainedRuns : Nat := 6
def maxRetainedPlans : Nat := 10

def SetupRun.active (run : SetupRun) : Bool :=
  run.status = .running || run.status = .paused || run.status = .waitingForInput

def keepNewest (size : Nat) (keep ids : List Uuid) : List Uuid :=
  ids.reverse.foldl (fun keep id => if size ≤ keep.length then keep else keep.insert id) keep

def keepRuns (state : SetupExecutionState) : List Uuid :=
  let completed := (state.completion.map (·.runId)).toList
  let active := (state.runs.filter (·.active)).foldl (fun keep run => keep.insert run.id) completed
  keepNewest maxRetainedRuns active (state.runs.map (·.id))

def keepPlans (plans : List SetupPlan) (runs : List SetupRun) : List Uuid :=
  let used := runs.foldl (fun keep run => keep.insert run.planId) []
  let latest := match plans.getLast? with
    | some plan => used.insert plan.id
    | none => used
  keepNewest maxRetainedPlans latest (plans.map (·.id))

def compactSetupHistory (state : SetupExecutionState) : SetupExecutionState :=
  if state.runs.length ≤ maxRetainedRuns ∧ state.plans.length ≤ maxRetainedPlans then state
  else
    let runs := state.runs.filter fun run => run.id ∈ keepRuns state
    { state with
      runs
      tasks := state.tasks.filter fun task => task.runId ∈ keepRuns state
      receipts := state.receipts.filter fun receipt => receipt.runId ∈ keepRuns state
      events := state.events.filter fun event => event.runId ∈ keepRuns state
      runIdempotency := state.runIdempotency.filter fun entry => entry.runId ∈ keepRuns state
      plans := state.plans.filter fun plan => plan.id ∈ keepPlans state.plans runs }

end SpaceApp.Setup
