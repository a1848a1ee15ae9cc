import SpaceApp.Foundation.Reach
import SpaceApp.Api.Setup.State

/-! `SetupExecutionCoordinator` (`setup-execution.ts`), and `completeSetupExecution` of the store.

`mutate` commits a change only to the document it was made from, so that the operations on one
owner's document take effect one after the other. Ids in a stored document are unique: a record
found by its id is the only one that has it.
-/

set_option autoImplicit false

namespace SpaceApp.Setup

def maxEvents : Nat := 500
def receiptLifetimeMs : ℤ := 15 * 60000
def SETUP_RECEIPT_RENEWAL_WINDOW_MS : ℤ := 60000

inductive SetupFailure where
  | execution (code message : String)
  | invalid
  | other (message : String)
  deriving DecidableEq

/-- What is hashed. -/
inductive HashInput where
  | plan (draft : SetupDraft) (requested effective : List SetupFeatureId) (actions : List SetupPlanAction)
      (choices : List SetupConnectionChoice) (subjects : List (SetupFeatureId × Option String))
  | action (id : PlanActionId) (planDigest : String)
  | receipts (receipts : List SetupReadinessReceipt)

/-- What the coordinator is given from outside the repository: SHA-256 in hexadecimal, and the
order of texts by `localeCompare`. -/
structure SetupHost where
  hash : HashInput → String
  notAfter : SetupFeatureId → SetupFeatureId → Bool

/-- `fingerprints[featureId]`. -/
abbrev Fingerprints := List (SetupFeatureId × Option String)

def Fingerprints.of (fingerprints : Fingerprints) (featureId : SetupFeatureId) : Option String :=
  (fingerprints.lookup featureId).join

abbrev Outcome := Except SetupFailure

def refuse (condition : Prop) [Decidable condition] (code message : String) : Outcome Unit :=
  if condition then .error (.execution code message) else .ok ()

def parse {Value : Type} (schema : Value → Bool) (value : Value) : Outcome Value :=
  if schema value = true then .ok value else .error .invalid

def resolved {Value : Type} : Except String Value → Outcome Value
  | .ok value => .ok value
  | .error message => .error (.other message)

def findRun (state : SetupExecutionState) (runId : Uuid) : Outcome SetupRun :=
  match state.runs.find? fun item => item.id = runId with
  | some run => .ok run
  | none => .error (.execution "SETUP_RUN_NOT_FOUND" "Setup run was not found.")

def findTask (state : SetupExecutionState) (runId : Uuid) (taskId : SetupTaskId) : Outcome SetupTask :=
  match state.tasks.find? fun item => item.id = taskId ∧ item.runId = runId with
  | some task => .ok task
  | none => .error (.execution "SETUP_TASK_NOT_FOUND" "Setup task was not found.")

def lastOf {Item : Type} (count : Nat) (items : List Item) : List Item := items.drop (items.length - count)

/-- A run that is worked on, and all events. -/
structure Noted where
  run : SetupRun
  events : List SetupExecutionEvent

def event (now : ℤ) (noted : Noted) (task : SetupTask) : Noted where
  run := { noted.run with eventSequence := noted.run.eventSequence + 1 }
  events := lastOf maxEvents (noted.events ++ [{
    runId := noted.run.id, sequence := noted.run.eventSequence + 1, taskId := task.id
    state := task.status, reasonCode := task.errorCode, createdAt := now }])

def SetupExecutionState.settle (state : SetupExecutionState) (run : SetupRun) (chosen : SetupTask → Bool)
    (change : SetupTask → SetupTask) (now : ℤ) (finish : List SetupTask → SetupRun → SetupRun) : SetupExecutionState :=
  let tasks := state.tasks.map fun task => if task.runId = run.id && chosen task then change task else task
  let changed := (state.tasks.filter fun task => task.runId = run.id && chosen task).map change
  let noted := changed.foldl (event now) { run, events := state.events }
  let finished := finish (tasks.filter fun task => task.runId = run.id) noted.run
  { state with
    runs := state.runs.map fun item => if item.id = run.id then finished else item
    tasks
    events := noted.events }

/-- What a change of `mutate` returns; no document to write where there is none. -/
structure Change (Value : Type) where
  value : Value
  next : Option SetupExecutionState

def Change.write {Value : Type} (value : Value) (next : SetupExecutionState) : Outcome (Change Value) :=
  .ok { value, next := some next }

def Change.done {Value : Type} (change : Change Value) : Change Unit := { value := (), next := change.next }

def Change.keep {Value : Type} (value : Value) : Outcome (Change Value) := .ok { value, next := none }

def mutate {Value : Type} (existing : Option SetupExecutionState) (change : SetupExecutionState → Outcome (Change Value)) :
    Outcome (Value × Option SetupExecutionState) := do
  let result ← change (existing.getD emptyState)
  match result.next with
  | none => pure (result.value, existing)
  | some next =>
    let revision := match existing with
      | none => 0
      | some state => state.revision + 1
    let stored ← parse setupExecutionStateSchema { compactSetupHistory next with revision }
    pure (result.value, some stored)

def supersede (now : ℤ) (run : SetupRun) : SetupRun :=
  if run.status ≠ .cancelled ∧ run.status ≠ .superseded ∧ run.status ≠ .ready then
    { run with status := .superseded, revision := run.revision + 1, updatedAt := now, finishedAt := some now }
  else run

def updateDraft (expectedRevision : Option Nat) (input : DraftChoices) (uuid : Uuid) (now : ℤ)
    (state : SetupExecutionState) : Outcome (Change SetupDraft) := do
  refuse (input.requestedFeatureIds.any fun id => (byId id).isNone)
    "SETUP_UNKNOWN_FEATURE" "Setup selection contains an unknown feature."
  let selected ← resolved (getSetupDependencyClosure input.requestedFeatureIds)
  refuse (input.connectionChoices.any fun choice => choice.featureId ∉ selected)
    "SETUP_UNSELECTED_CONNECTION" "Connection must belong to a selected feature."
  refuse (state.draft.map (·.revision) ≠ expectedRevision)
    "SETUP_REVISION_CONFLICT" "Setup changed in another tab. Refresh and try again."
  let draft ← parse setupDraftSchema {
    input with
    id := (state.draft.map (·.id)).getD uuid
    revision := match state.draft with
      | some draft => draft.revision + 1
      | none => 0
    updatedAt := now }
  Change.write draft { state with runs := state.runs.map (supersede now), draft := some draft }

def requiredInputs (draft : SetupDraft) (effectiveIds : List SetupFeatureId) (fingerprints : Fingerprints) :
    List SetupHumanInput :=
  let needs (input : SetupHumanInput) : List SetupHumanInput :=
    if input.featureId ∈ effectiveIds ∧ ((fingerprints.of input.featureId).getD "") = "" then [input] else []
  entriesWithHumanInputs.flatMap fun feature =>
    if feature.featureId ∉ effectiveIds then []
    else if feature.featureId = ⟨.pane, "live"⟩ then
      let choice := draft.connectionChoices.find? fun item => item.featureId = ⟨.pane, "live"⟩
      let provided := (choice.bind (·.providerId)).any fun providerId => providerId ≠ ""
      needs { featureId := ⟨.pane, "live"⟩, kind := .apiCredential
              reasonCode := if provided then "LIVE_CREDENTIAL_REQUIRED" else "LIVE_PROVIDER_REQUIRED" } ++
        needs { featureId := ⟨.pane, "live"⟩, kind := .microphone, reasonCode := "LIVE_MICROPHONE_CHECK_REQUIRED" }
    else needs feature

def createPlan (host : SetupHost) (expectedDraftRevision : Nat) (availability : SetupFeatureId → Option SetupAvailability)
    (subjectFingerprints : Fingerprints) (uuid : Uuid) (now : ℤ) (state : SetupExecutionState) :
    Outcome (Change SetupPlan) :=
  match state.draft with
  | none => .error (.execution "SETUP_REVISION_CONFLICT" "Setup draft is stale.")
  | some draft => do
    refuse (draft.revision ≠ expectedDraftRevision) "SETUP_REVISION_CONFLICT" "Setup draft is stale."
    let resolution ← resolved (resolveSetupSelection draft.requestedFeatureIds availability)
    refuse (resolution.issues ≠ [] ∨
        resolution.effectiveIds.length ≠ (resolution.requestedIds ++ resolution.dependencyIds).dedup.length)
      "SETUP_FEATURE_UNAVAILABLE" "One or more selected tools are unavailable."
    refuse (subjectFingerprints.any fun (id, fingerprint) =>
        id ∉ resolution.effectiveIds || !hashSchema (fingerprint.getD ""))
      "SETUP_INVALID_SUBJECT" "Connection subjects must be selected features with valid fingerprints."
    let actions := buildActions resolution.effectiveIds
    let digest := host.hash (.plan draft resolution.requestedIds resolution.effectiveIds actions
      (draft.connectionChoices.mergeSort fun a b => host.notAfter a.featureId b.featureId)
      (subjectFingerprints.mergeSort fun a b => host.notAfter a.1 b.1))
    match state.plans.getLast?.filter fun plan => plan.planDigest = digest with
    | some prior => Change.keep prior
    | none =>
      let selected := SETUP_CATALOG.filter fun feature => feature.id ∈ resolution.effectiveIds
      let plan ← parse setupPlanSchema {
        id := uuid, draftId := draft.id, draftRevision := draft.revision, planDigest := digest
        requestedFeatureIds := resolution.requestedIds, effectiveFeatureIds := resolution.effectiveIds, actions
        requiredHumanInputs := requiredInputs draft resolution.effectiveIds subjectFingerprints
        costDisclosures := selected.map fun feature => (feature.id, feature.costClass)
        createdAt := now }
      Change.write plan { state with plans := state.plans ++ [plan] }

def SetupPlan.stale (plan : SetupPlan) (state : SetupExecutionState) : Bool :=
  state.draft.all (fun draft => plan.draftId ≠ draft.id || plan.draftRevision ≠ draft.revision) ||
    state.plans.getLast?.map (·.id) ≠ some plan.id

def SetupPlan.tasks (host : SetupHost) (plan : SetupPlan) (runId : Uuid) : List SetupTask :=
  plan.actions.map fun action => {
    id := ⟨runId, action.id⟩, runId, actionId := action.actionId, featureId := action.featureId
    dependsOn := action.dependsOn.map fun dependency => ⟨runId, dependency⟩
    status := .queued, attempt := 0
    idempotencyKey := "action:" ++ String.ofList ((host.hash (.action action.id plan.planDigest)).toList.take 48)
    leaseOwner := none, leaseExpiresAt := none, errorCode := none, resultRef := none }

def startRun (host : SetupHost) (planId : Uuid) (planDigest idempotencyKey : String) (uuid : Uuid) (now : ℤ)
    (state : SetupExecutionState) : Outcome (Change SetupRun) := do
  refuse (referenceSchema idempotencyKey = false) "SETUP_INVALID_IDEMPOTENCY" "Invalid setup request key."
  match state.runIdempotency.find? fun entry => entry.key = idempotencyKey with
  | some duplicate =>
    let run ← findRun state duplicate.runId
    Change.keep run
  | none =>
    match state.plans.find? fun candidate => candidate.id = planId ∧ candidate.planDigest = planDigest with
    | none => .error (.execution "SETUP_PLAN_STALE" "Setup plan no longer matches the current choices.")
    | some plan =>
      refuse (plan.stale state = true) "SETUP_PLAN_STALE" "Setup plan no longer matches the current choices."
      refuse (plan.requiredHumanInputs ≠ [])
        "SETUP_INPUT_REQUIRED" "Complete the selected connections and permissions before starting setup."
      refuse (state.runs.any (·.active)) "SETUP_RUN_ACTIVE" "Another setup run is active."
      let run : SetupRun := {
        id := uuid, planId, status := .running, revision := 1, eventSequence := 0, createdAt := now, updatedAt := now
        finishedAt := none }
      Change.write run { state with
        runs := state.runs ++ [run]
        tasks := state.tasks ++ plan.tasks host uuid
        runIdempotency := state.runIdempotency ++ [{ key := idempotencyKey, runId := uuid }] }

def tasksOf (tasks : List SetupTask) (runId : Uuid) : List SetupTask := tasks.filter fun task => task.runId = runId

namespace SetupTask

def leased (task : SetupTask) : Bool := task.status = .installing || task.status = .checking

def overdue (now : ℤ) (task : SetupTask) : Bool := (task.leaseExpiresAt.any fun expiry => expiry ≤ now) && task.leased

/-- The task waits for an inspection of what its last worker did. -/
def expired (task : SetupTask) : Bool :=
  task.status = .needsAttention && task.errorCode = some "LEASE_EXPIRED_RECONCILE"

def heldBy (task : SetupTask) (workerId : String) (now : ℤ) : Bool :=
  task.leaseOwner = some workerId && task.leaseExpiresAt.any fun expiry => now < expiry

def released (task : SetupTask) (status : SetupTaskStatus) : SetupTask :=
  { task with status, leaseOwner := none, leaseExpiresAt := none }

def expire (task : SetupTask) : SetupTask :=
  { task.released .needsAttention with errorCode := some "LEASE_EXPIRED_RECONCILE" }

def lease (workerId : String) (expiry : ℤ) (task : SetupTask) : SetupTask :=
  { task with
    status := if installationActions task.actionId then .installing else .checking
    attempt := task.attempt + 1
    leaseOwner := some workerId
    leaseExpiresAt := some expiry }

def complete (evidenceRef : String) (task : SetupTask) : SetupTask :=
  { task.released .ready with errorCode := none, resultRef := some evidenceRef }

def fail (reasonCode : String) (task : SetupTask) : SetupTask :=
  { task.released .needsAttention with errorCode := some reasonCode }

def cancel (task : SetupTask) : SetupTask := task.released .cancelled

def retry (task : SetupTask) : SetupTask := { task.released .queued with errorCode := none, resultRef := none }

def revalidate (task : SetupTask) : SetupTask := { task.released .queued with errorCode := none }

def inspected (status : SetupTaskStatus) (evidenceRef : String) (task : SetupTask) : SetupTask :=
  { task with status, resultRef := some evidenceRef, errorCode := none }

/-- No receipt of the task lasts beyond the renewal window. -/
def stale (task : SetupTask) (receipts : List SetupReadinessReceipt) (now : ℤ) : Bool :=
  task.status = .ready && !receipts.any fun receipt =>
    receipt.taskId = task.id && now + SETUP_RECEIPT_RENEWAL_WINDOW_MS < receipt.expiresAt

end SetupTask

namespace SetupRun

def touched (run : SetupRun) (now : ℤ) : SetupRun := { run with revision := run.revision + 1, updatedAt := now }

def moved (status : SetupRunStatus) (now : ℤ) (_ : List SetupTask) (run : SetupRun) : SetupRun :=
  { run.touched now with status }

def progress (now : ℤ) (_ : List SetupTask) (run : SetupRun) : SetupRun := run.touched now

def complete (now : ℤ) (tasks : List SetupTask) (run : SetupRun) : SetupRun :=
  if tasks.all fun task => task.status = .ready then
    { run.touched now with status := .ready, finishedAt := some now }
  else run.touched now

def cancel (now : ℤ) (_ : List SetupTask) (run : SetupRun) : SetupRun :=
  { run.touched now with status := .cancelled, finishedAt := some now }

def restart (now : ℤ) (_ : List SetupTask) (run : SetupRun) : SetupRun :=
  { run.touched now with status := .running, finishedAt := none }

def reconcile (now : ℤ) (tasks : List SetupTask) (run : SetupRun) : SetupRun :=
  if tasks.any (·.expired) then { run.touched now with status := .failed, finishedAt := none }
  else if tasks.all fun task => task.status = .ready then
    { run.touched now with status := .ready, finishedAt := some now }
  else { run.touched now with status := .running, finishedAt := none }

end SetupRun

/-- The first queued task whose dependencies are ready, of those that may run beside the others. -/
def nextTask (tasks : List SetupTask) : Option SetupTask :=
  let ready (id : SetupTaskId) : Bool := tasks.any fun task => task.status = .ready && task.id = id
  let free (task : SetupTask) : Bool :=
    if installationActions task.actionId then tasks.countP (·.status = .installing) < 1
    else tasks.countP (·.status = .checking) < 2
  tasks.find? fun task => task.status = .queued && task.dependsOn.all ready && free task

def leaseNextTask (runId : Uuid) (workerId : String) (durationMs now : ℤ) (state : SetupExecutionState) :
    Outcome (Change (Option SetupTask)) := do
  refuse (durationMs < 1000 ∨ 120000 < durationMs) "SETUP_INVALID_LEASE" "Invalid setup task lease."
  let run ← findRun state runId
  if run.status ≠ .running then Change.keep none
  else if (tasksOf state.tasks runId).any (·.overdue now) then
    Change.write none (state.settle run (·.overdue now) (·.expire) now (SetupRun.moved .failed now))
  else
    match nextTask (tasksOf state.tasks runId) with
    | none => Change.keep none
    | some task =>
      Change.write (some (task.lease workerId (now + durationMs)))
        (state.settle run (fun item => item.id = task.id) (·.lease workerId (now + durationMs)) now
          (SetupRun.progress now))

def receiptOf (runId : Uuid) (task : SetupTask) (input : ReceiptInput) (uuid : Uuid) (now : ℤ) :
    Outcome SetupReadinessReceipt :=
  parse setupReadinessReceiptSchema {
    input with
    id := uuid, runId, taskId := task.id, featureId := task.featureId
    completedAt := now, expiresAt := now + receiptLifetimeMs }

def SetupExecutionState.receive (state : SetupExecutionState) (task : SetupTask) (receipt : SetupReadinessReceipt) :
    SetupExecutionState :=
  { state with
    receipts := (state.receipts.filter fun item => item.taskId ≠ task.id) ++ [receipt]
    appliedSettingsRevision :=
      if task.actionId = .applySettings then some (state.revision + 1) else state.appliedSettingsRevision
    memoryHandoffRevision :=
      if task.actionId = .writeInstallationMemory then some (state.revision + 1) else state.memoryHandoffRevision }

/-- `checked` is the clock when the lease is checked. -/
def completeTask (runId : Uuid) (taskId : SetupTaskId) (workerId : String) (input : ReceiptInput) (uuid : Uuid)
    (checked now : ℤ) (state : SetupExecutionState) : Outcome (Change Unit) := do
  let run ← findRun state runId
  let task ← findTask state runId taskId
  refuse (run.status ≠ .running ∧ run.status ≠ .paused) "SETUP_RUN_NOT_ACTIVE" "Setup run is not active."
  refuse (task.heldBy workerId checked = false)
    "SETUP_LEASE_STALE" "Setup task lease expired or belongs to another worker."
  let receipt ← receiptOf runId task input uuid now
  Change.write () ((state.settle run (fun item => item.id = taskId) (·.complete input.evidenceRef) now
    (SetupRun.complete now)).receive task receipt)

def failTask (runId : Uuid) (taskId : SetupTaskId) (workerId reasonCode : String) (checked now : ℤ)
    (state : SetupExecutionState) : Outcome (Change Unit) := do
  refuse (reasonCodeSchema reasonCode = false) "SETUP_INVALID_REASON" "Invalid setup failure code."
  let run ← findRun state runId
  let task ← findTask state runId taskId
  refuse (task.heldBy workerId checked = false)
    "SETUP_LEASE_STALE" "Setup task lease expired or belongs to another worker."
  Change.write () (state.settle run (fun item => item.id = taskId) (·.fail reasonCode) now (SetupRun.moved .failed now))

def changeRunStatus (runId : Uuid) (sources : List SetupRunStatus) (status : SetupRunStatus) (now : ℤ)
    (state : SetupExecutionState) : Outcome (Change Unit) := do
  let run ← findRun state runId
  if run.status = status then Change.keep ()
  else
    refuse (run.status ∉ sources) "SETUP_RUN_NOT_ACTIVE" "Setup run cannot change to that state."
    Change.write () (state.settle run (fun _ => false) id now (SetupRun.moved status now))

def pauseRun (runId : Uuid) (now : ℤ) (state : SetupExecutionState) : Outcome (Change Unit) :=
  changeRunStatus runId [.running] .paused now state

def resumeRun (runId : Uuid) (now : ℤ) (state : SetupExecutionState) : Outcome (Change Unit) :=
  changeRunStatus runId [.paused] .running now state

def cancelRun (runId : Uuid) (now : ℤ) (state : SetupExecutionState) : Outcome (Change Unit) := do
  let run ← findRun state runId
  if run.status = .cancelled then Change.keep ()
  else
    refuse (run.status = .ready) "SETUP_RUN_COMPLETE" "Completed setup cannot be cancelled."
    Change.write () (state.settle run (fun task => task.status ≠ .ready) (·.cancel) now (SetupRun.cancel now))

/-- One pass over the tasks: those that depend on a task to reset are reset as well. -/
def resetPass (tasks : List SetupTask) (reset : List SetupTaskId) : List SetupTaskId :=
  tasks.foldl (fun reset task =>
    if task.id ∉ reset ∧ task.dependsOn.any fun id => id ∈ reset then task.id :: reset else reset) reset

/-- `passes` is more than the passes that add a task. -/
def resetOf (tasks : List SetupTask) : Nat → List SetupTaskId → List SetupTaskId
  | 0, reset => reset
  | passes + 1, reset =>
    let next := resetPass tasks reset
    if next.length = reset.length then reset else resetOf tasks passes next

def SetupExecutionState.requeue (state : SetupExecutionState) (run : SetupRun) (ids : List SetupTaskId)
    (change : SetupTask → SetupTask) (now : ℤ) : SetupExecutionState :=
  { state.settle run (fun task => task.id ∈ ids) change now (SetupRun.restart now) with
    receipts := state.receipts.filter fun receipt => receipt.taskId ∉ ids }

def retryFailedTasks (runId : Uuid) (taskIds : List SetupTaskId) (expectedRunRevision : Nat) (now : ℤ)
    (state : SetupExecutionState) : Outcome (Change Unit) := do
  let run ← findRun state runId
  refuse (run.revision ≠ expectedRunRevision) "SETUP_REVISION_CONFLICT" "Setup run changed in another tab."
  refuse (run.status ≠ .failed) "SETUP_RUN_NOT_FAILED" "Only failed setup work can be retried."
  let tasks := tasksOf state.tasks runId
  refuse (taskIds = [] ∨
      taskIds.any fun id => !tasks.any fun task => task.id = id && task.status = .needsAttention)
    "SETUP_RETRY_SCOPE_INVALID" "Retry must target failed setup tasks."
  refuse (tasks.any fun task => task.id ∈ taskIds && task.errorCode = some "LEASE_EXPIRED_RECONCILE")
    "SETUP_RECONCILIATION_REQUIRED" "Inspect the previous setup action before retrying it."
  Change.write () (state.requeue run (resetOf tasks (tasks.length + 1) taskIds.dedup) (·.retry) now)

def revalidateStaleTasks (runId : Uuid) (taskIds : List SetupTaskId) (expectedRunRevision : Nat) (now : ℤ)
    (state : SetupExecutionState) : Outcome (Change Unit) := do
  let run ← findRun state runId
  refuse (run.revision ≠ expectedRunRevision) "SETUP_REVISION_CONFLICT" "Setup run changed in another tab."
  refuse (run.status ≠ .ready)
    "SETUP_RUN_NOT_READY" "Only a completed setup run can check its expired results again."
  refuse ((state.plans.find? fun candidate => candidate.id = run.planId).all fun plan => plan.stale state)
    "SETUP_PLAN_STALE" "Setup plan no longer matches the current choices."
  let tasks := tasksOf state.tasks runId
  refuse (taskIds = [] ∨
      taskIds.any fun id => !tasks.any fun task => task.id = id && task.stale state.receipts now)
    "SETUP_RETRY_SCOPE_INVALID" "Only expired setup checks can be checked again."
  Change.write () (state.requeue run taskIds (·.revalidate) now)

inductive SetupActionInspection where
  | verified (receipt : ReceiptInput)
  | notApplied (evidenceRef : String)
  | unknown

/-- `read` is the document as it was before the inspection. -/
def reconcileExpiredTask (runId : Uuid) (taskId : SetupTaskId) (inspection : SetupActionInspection)
    (read : SetupExecutionState) (uuid : Uuid) (now : ℤ) (state : SetupExecutionState) : Outcome (Change Unit) := do
  let before ← findRun read runId
  refuse (before.status ≠ .failed) "SETUP_RUN_NOT_ACTIVE" "Run cannot be reconciled in its current state."
  let previous ← findTask read runId taskId
  refuse (previous.expired = false)
    "SETUP_RECONCILIATION_NOT_REQUIRED" "Task does not have an expired lease to reconcile."
  match inspection with
  | .unknown => Change.keep ()
  | .verified input =>
    let run ← findRun state runId
    let task ← findTask state runId taskId
    refuse (run.status ≠ .failed) "SETUP_RUN_NOT_ACTIVE" "Run changed during reconciliation."
    refuse (task.expired = false) "SETUP_REVISION_CONFLICT" "Task changed during reconciliation."
    let receipt ← receiptOf runId task input uuid now
    Change.write () ((state.settle run (fun item => item.id = taskId) (·.inspected .ready input.evidenceRef) now
      (SetupRun.reconcile now)).receive task receipt)
  | .notApplied evidenceRef =>
    let run ← findRun state runId
    let task ← findTask state runId taskId
    refuse (run.status ≠ .failed) "SETUP_RUN_NOT_ACTIVE" "Run changed during reconciliation."
    refuse (task.expired = false) "SETUP_REVISION_CONFLICT" "Task changed during reconciliation."
    refuse (referenceSchema evidenceRef = false)
      "SETUP_INVALID_INSPECTION" "Inspection requires a bounded evidence reference."
    Change.write () (state.settle run (fun item => item.id = taskId) (·.inspected .queued evidenceRef) now
      (SetupRun.reconcile now))

def listRunEvents (runId : Uuid) (afterSequence limit : ℤ) (state : SetupExecutionState) :
    Outcome (List SetupExecutionEvent) := do
  refuse (afterSequence < 0 ∨ limit < 1 ∨ 100 < limit)
    "SETUP_EVENT_CURSOR_INVALID" "Invalid setup event cursor or limit."
  let _ ← findRun state runId
  let events := state.events.filter fun item => item.runId = runId
  refuse (events.head?.any fun first => afterSequence < (first.sequence : ℤ) - 1)
    "SETUP_EVENT_CURSOR_EXPIRED" "Setup event cursor expired; reload the run snapshot."
  pure ((events.filter fun item => afterSequence < item.sequence).take limit.toNat)

structure CompleteSetupExecutionInput where
  expectedStateRevision : Nat
  runId : Uuid
  draftRevision : Nat
  planDigest : String
  currentFingerprints : Fingerprints
  completedAt : ℤ

def createSetupCompletion (host : SetupHost) (input : CompleteSetupExecutionInput) (starterRoomId : String)
    (state : SetupExecutionState) : Outcome SetupCompletion := do
  refuse (state.revision ≠ input.expectedStateRevision)
    "SETUP_REVISION_CONFLICT" "Setup state revision changed before completion."
  match state.draft, state.runs.find? fun item => item.id = input.runId with
  | some draft, some run =>
    match state.plans.find? fun item => item.id = run.planId with
    | none => .error (.execution "SETUP_PLAN_STALE" "Setup selection or plan changed before completion.")
    | some plan =>
      refuse (plan.stale state = true ∨ draft.revision ≠ input.draftRevision ∨ plan.planDigest ≠ input.planDigest)
        "SETUP_PLAN_STALE" "Setup selection or plan changed before completion."
      match state.appliedSettingsRevision, state.memoryHandoffRevision with
      | some settingsRevision, some memoryHandoffRevision =>
        refuse (run.status ≠ .ready)
          "SETUP_NOT_READY" "Setup application and memory handoff must be verified."
        let tasks := tasksOf state.tasks run.id
        let required := [SetupActionId.applySettings, .ensureStarterRoom, .writeInstallationMemory]
        refuse (tasks.length ≠ plan.actions.length ∨
            !required.all fun id => tasks.any fun task => task.actionId = id)
          "SETUP_NOT_READY" "Setup plan is missing required final actions."
        let receipts := tasks.filterMap fun task => state.receipts.find? fun receipt => receipt.taskId = task.id
        refuse (receipts.length ≠ tasks.length ∨ !(tasks.zip receipts).all fun (task, receipt) =>
            task.status = .ready && input.completedAt < receipt.expiresAt &&
              input.currentFingerprints.of task.featureId = some receipt.subjectFingerprint)
          "SETUP_NOT_READY" "Selected setup checks have expired or changed."
        pure {
          runId := run.id, draftRevision := draft.revision, planDigest := plan.planDigest, settingsRevision
          memoryHandoffRevision, receiptSetHash := host.hash (.receipts receipts), starterRoomId
          completedAt := input.completedAt }
      | _, _ => .error (.execution "SETUP_NOT_READY" "Setup application and memory handoff must be verified.")
  | _, _ => .error (.execution "SETUP_PLAN_STALE" "Setup selection or plan changed before completion.")

def completeSetupExecution (host : SetupHost) (input : CompleteSetupExecutionInput) (starterRoomId : String) :
    Option SetupExecutionState → Outcome SetupExecutionState
  | none => .error (.other "Setup state revision changed before completion.")
  | some state => do
    let completion ← createSetupCompletion host input starterRoomId state
    parse setupExecutionStateSchema { state with revision := state.revision + 1, completion := some completion }

inductive Request where
  | updateDraft (expectedRevision : Option Nat) (input : DraftChoices) (now : ℤ)
  | createPlan (expectedDraftRevision : Nat) (availability : SetupFeatureId → Option SetupAvailability)
      (subjectFingerprints : Fingerprints) (now : ℤ)
  | startRun (planId : Uuid) (planDigest idempotencyKey : String) (now : ℤ)
  | leaseNextTask (runId : Uuid) (workerId : String) (durationMs now : ℤ)
  | completeTask (runId : Uuid) (taskId : SetupTaskId) (workerId : String) (input : ReceiptInput) (checked now : ℤ)
  | failTask (runId : Uuid) (taskId : SetupTaskId) (workerId reasonCode : String) (checked now : ℤ)
  | pauseRun (runId : Uuid) (now : ℤ)
  | resumeRun (runId : Uuid) (now : ℤ)
  | cancelRun (runId : Uuid) (now : ℤ)
  | retryFailedTasks (runId : Uuid) (taskIds : List SetupTaskId) (expectedRunRevision : Nat) (now : ℤ)
  | revalidateStaleTasks (runId : Uuid) (taskIds : List SetupTaskId) (expectedRunRevision : Nat) (now : ℤ)
  | reconcileExpiredTask (runId : Uuid) (taskId : SetupTaskId) (inspection : SetupActionInspection)
      (read : SetupExecutionState) (now : ℤ)
  | completeSetupExecution (input : CompleteSetupExecutionInput) (starterRoomId : String)

structure Store where
  stored : Option SetupExecutionState := none
  drawn : Nat := 0

def changeOf (host : SetupHost) (uuid : Uuid) (state : SetupExecutionState) : Request → Outcome (Change Unit)
  | .updateDraft expectedRevision input now => (updateDraft expectedRevision input uuid now state).map Change.done
  | .createPlan expectedDraftRevision availability fingerprints now =>
    (createPlan host expectedDraftRevision availability fingerprints uuid now state).map Change.done
  | .startRun planId planDigest idempotencyKey now =>
    (startRun host planId planDigest idempotencyKey uuid now state).map Change.done
  | .leaseNextTask runId workerId durationMs now => (leaseNextTask runId workerId durationMs now state).map Change.done
  | .completeTask runId taskId workerId input checked now =>
    completeTask runId taskId workerId input uuid checked now state
  | .failTask runId taskId workerId reasonCode checked now => failTask runId taskId workerId reasonCode checked now state
  | .pauseRun runId now => pauseRun runId now state
  | .resumeRun runId now => resumeRun runId now state
  | .cancelRun runId now => cancelRun runId now state
  | .retryFailedTasks runId taskIds expectedRunRevision now =>
    retryFailedTasks runId taskIds expectedRunRevision now state
  | .revalidateStaleTasks runId taskIds expectedRunRevision now =>
    revalidateStaleTasks runId taskIds expectedRunRevision now state
  | .reconcileExpiredTask runId taskId inspection read now =>
    reconcileExpiredTask runId taskId inspection read uuid now state
  | .completeSetupExecution _ _ => Change.keep ()

namespace Store

variable (host : SetupHost)

def state (store : Store) : SetupExecutionState := store.stored.getD emptyState

def answer (store : Store) (request : Request) : Outcome (Option SetupExecutionState) :=
  match request with
  | .completeSetupExecution input starterRoomId =>
    (Setup.completeSetupExecution host input starterRoomId store.stored).map some
  | _ => (mutate store.stored fun state => changeOf host store.drawn state request).map (·.2)

def step (store : Store) (request : Request) : Store :=
  match store.answer host request with
  | .ok stored => { stored, drawn := store.drawn + 1 }
  | .error _ => { store with drawn := store.drawn + 1 }

def created (store : Store) : Prop := store = {}

end Store

end SpaceApp.Setup
