import SpaceApp.Foundation.Json

/-! Managed plan executions: the record (`managed-plan-execution.ts`), the patches of it
(`plan-execution-repository.ts`) and the operator's ones (`plan-execution-mutations.ts`).

Times are milliseconds. Parsing the patched record checks nothing that the parts of it were not
parsed for before.
-/

set_option autoImplicit false

namespace SpaceApp.Plans

open SpaceApp.Foundation

structure StageModelSelection where
  modelId : String
  reasoningEffort : String
  deriving DecidableEq

structure ManagedPlanStage where
  id : String
  order : Nat
  title : JsString
  instructions : JsString
  completionCriteria : List JsString
  modelId : String
  reasoningEffort : String
  deriving DecidableEq

structure PlanSnapshot where
  text : JsString
  stages : List ManagedPlanStage
  deriving DecidableEq

inductive StageOutcome where
  | continue | completed | blocked
  deriving DecidableEq

structure StageEvidence where
  criterion : JsString
  result : JsString
  deriving DecidableEq

structure ManagedPlanStageResult where
  outcome : StageOutcome
  summary : JsString
  evidence : List StageEvidence
  deriving DecidableEq

inductive ManagedPlanExecutionStatus where
  | running | switchingModel | resumingStage | waitingForModel | waitingForInput | paused | blocked | completed | failed
  deriving DecidableEq

structure AcceptedTurnSelection where
  modelId : String
  reasoningEffort : String
  threadId : String
  turnId : String
  commandId : String
  deriving DecidableEq

inductive AttemptStatus where
  | prepared | running | completed | interrupted | failed
  deriving DecidableEq

structure ManagedPlanAttempt where
  id : String
  stageId : String
  commandId : String
  turnId : Option String
  modelId : String
  reasoningEffort : String
  actualSelection : Option AcceptedTurnSelection
  status : AttemptStatus
  startedAt : ℚ
  completedAt : Option ℚ
  result : Option ManagedPlanStageResult
  deriving DecidableEq

inductive CommandType where
  | start | interrupt | settings
  deriving DecidableEq

inductive CommandStatus where
  | prepared | sent | unknown
  deriving DecidableEq

structure ManagedPlanCommand where
  id : String
  type : CommandType
  stageId : String
  turnId : Option String
  selection : StageModelSelection
  preparedAt : ℚ
  status : CommandStatus
  baselineTurnIds : List String
  deriving DecidableEq

inductive InterruptReason where
  | override | pause
  deriving DecidableEq

/-- `owner` is the number of the controller. -/
structure PlanExecutionLease where
  owner : Nat
  epoch : Nat
  expiresAt : ℚ
  deriving DecidableEq

structure ManagedPlanExecution where
  threadId : String
  cwd : String
  snapshot : PlanSnapshot
  status : ManagedPlanExecutionStatus := .running
  activeStageIndex : Nat := 0
  revision : Nat := 0
  overrides : String → Option StageModelSelection := fun _ => none
  attempts : List ManagedPlanAttempt := []
  completedStageIds : List String := []
  checkpoint : Option JsString := none
  correctionCount : Nat := 0
  pendingCommand : Option ManagedPlanCommand := none
  interruptCommand : Option ManagedPlanCommand := none
  commands : List ManagedPlanCommand := []
  interruptReason : Option InterruptReason := none
  nextRetryAt : Option ℚ := none
  retryCount : Nat := 0
  statusReason : Option JsString := none
  errorCode : Option String := none
  lease : Option PlanExecutionLease := none

/-- A snapshot holds a stage at least. -/
structure CreateManagedPlanExecution where
  threadId : String
  cwd : String
  snapshot : PlanSnapshot
  staged : snapshot.stages ≠ []

def newPlanExecution (input : CreateManagedPlanExecution) : ManagedPlanExecution where
  threadId := input.threadId
  cwd := input.cwd
  snapshot := input.snapshot

def isPlanExecutionActive (record : ManagedPlanExecution) : Bool :=
  record.status != .completed && record.status != .failed

def ManagedPlanAttempt.active (attempt : ManagedPlanAttempt) : Bool :=
  attempt.status == .prepared || attempt.status == .running

/-- The fields a patch leaves out stay. -/
structure ManagedPlanExecutionPatch where
  status : Option ManagedPlanExecutionStatus := none
  activeStageIndex : Option Nat := none
  overrides : Option (String → Option StageModelSelection) := none
  attempts : Option (List ManagedPlanAttempt) := none
  completedStageIds : Option (List String) := none
  checkpoint : Option (Option JsString) := none
  correctionCount : Option Nat := none
  pendingCommand : Option (Option ManagedPlanCommand) := none
  interruptReason : Option (Option InterruptReason) := none
  interruptCommand : Option (Option ManagedPlanCommand) := none
  nextRetryAt : Option (Option ℚ) := none
  retryCount : Option Nat := none
  statusReason : Option (Option JsString) := none
  errorCode : Option (Option String) := none

/-- The command takes the place of an earlier one of its id. -/
def noteCommand (commands : List ManagedPlanCommand) : Option (Option ManagedPlanCommand) → List ManagedPlanCommand
  | some (some next) => commands.filter (fun command => command.id ≠ next.id) ++ [next]
  | _ => commands

def patched (record : ManagedPlanExecution) (patch : ManagedPlanExecutionPatch) : ManagedPlanExecution :=
  { record with
    status := patch.status.getD record.status
    activeStageIndex := patch.activeStageIndex.getD record.activeStageIndex
    overrides := patch.overrides.getD record.overrides
    attempts := patch.attempts.getD record.attempts
    completedStageIds := patch.completedStageIds.getD record.completedStageIds
    checkpoint := patch.checkpoint.getD record.checkpoint
    correctionCount := patch.correctionCount.getD record.correctionCount
    pendingCommand := patch.pendingCommand.getD record.pendingCommand
    interruptReason := patch.interruptReason.getD record.interruptReason
    interruptCommand := patch.interruptCommand.getD record.interruptCommand
    nextRetryAt := patch.nextRetryAt.getD record.nextRetryAt
    retryCount := patch.retryCount.getD record.retryCount
    statusReason := patch.statusReason.getD record.statusReason
    errorCode := patch.errorCode.getD record.errorCode
    commands := noteCommand (noteCommand record.commands patch.pendingCommand) patch.interruptCommand
    revision := record.revision + 1 }

def applyPlanExecutionPatch (record : ManagedPlanExecution) (patch : ManagedPlanExecutionPatch) :
    Except String ManagedPlanExecution :=
  if isPlanExecutionActive record = false ∧ patch.status.any (· ≠ record.status) then
    .error "Finished executions cannot be resumed."
  else .ok (patched record patch)

theorem applied_patched {record next : ManagedPlanExecution} {patch : ManagedPlanExecutionPatch}
    (applied : applyPlanExecutionPatch record patch = .ok next) : next = patched record patch ∧
      ∀ status, patch.status = some status → isPlanExecutionActive record = true ∨ status = record.status := by
  unfold applyPlanExecutionPatch at applied
  split at applied
  · cases applied
  · next stays =>
    refine ⟨(Except.ok.inj applied).symm, ?_⟩
    intro status named
    by_cases live : isPlanExecutionActive record = true
    · exact .inl live
    · right
      by_contra differ
      apply stays
      simp [live, named, differ]

/-- The pending START and its observer stay while a separate interrupt is reconciled. -/
def interrupt (execution : ManagedPlanExecution) (reason : InterruptReason) (id : String) (now : ℚ) :
    ManagedPlanExecutionPatch :=
  match execution.pendingCommand.filter (·.type = .start) with
  | none =>
      { pendingCommand := some none
        interruptCommand := some none
        interruptReason := some none
        status := some (if reason = .pause then .paused
          else if execution.status = .paused then .paused else .resumingStage)
        nextRetryAt := some none
        statusReason := some none }
  | some start =>
      { interruptReason := some (some reason)
        status := some .switchingModel
        statusReason := some (some (js (
          if reason = .pause then "Waiting for the native turn to stop."
          else "Switching the stage model after native interruption.")))
        interruptCommand := some (execution.interruptCommand <|>
          if (start.turnId.filter (· ≠ "")).isSome then
            some { start with id, type := .interrupt, status := .prepared, preparedAt := now }
          else none) }

inductive ControlAction where
  | pause | resume
  deriving DecidableEq

inductive OperatorChange where
  | control (action : ControlAction)
  | override (stageId : String) (selection : Option StageModelSelection)

def stageOverridePatch (execution : ManagedPlanExecution) (stageId : String) (selection : Option StageModelSelection)
    (id : String) (now : ℚ) : Except String ManagedPlanExecutionPatch :=
  if isPlanExecutionActive execution = false ∨ execution.completedStageIds.contains stageId then
    .error "Completed stages are immutable."
  else
    let overrides := Function.update execution.overrides stageId selection
    let active := (execution.snapshot.stages[execution.activeStageIndex]?.map (·.id)) = some stageId
    if active ∧ execution.status ≠ .blocked then
      let reason := if execution.interruptReason = some .pause then .pause else .override
      .ok { interrupt execution reason id now with overrides := some overrides }
    else .ok { overrides := some overrides }

def executionControlPatch (execution : ManagedPlanExecution) (action : ControlAction) (id : String) (now : ℚ) :
    Except String ManagedPlanExecutionPatch :=
  if isPlanExecutionActive execution = false then .error "Finished executions cannot be controlled."
  else if action = .pause then .ok (interrupt execution .pause id now)
  else if (execution.pendingCommand.any fun pending => pending.type = .start) ∨
      execution.interruptCommand.isSome ∨ execution.interruptReason.isSome then
    .error "Native command reconciliation must finish before resuming."
  else if execution.status ≠ .paused ∧ execution.status ≠ .blocked ∧ execution.status ≠ .waitingForModel then
    .error "This execution is not paused."
  else
    .ok { status := some .resumingStage, statusReason := some none, nextRetryAt := some none
          interruptReason := some none }

def operatorPatch (execution : ManagedPlanExecution) (id : String) (now : ℚ) :
    OperatorChange → Except String ManagedPlanExecutionPatch
  | .control action => executionControlPatch execution action id now
  | .override stageId selection => stageOverridePatch execution stageId selection id now

def collapseSpaces : JsString → JsString
  | [] => []
  | unit :: rest =>
      if isSpaceUnit unit then
        if rest.head?.any isSpaceUnit then collapseSpaces rest else 0x20 :: collapseSpaces rest
      else unit :: collapseSpaces rest

def stageCriterionKey (text : JsString) : JsString :=
  let collapsed := collapseSpaces (trimUnits text)
  if collapsed.getLast? = some 0x2E then collapsed.dropLast else collapsed

/-- Models echo a criterion with other spacing or without its final period. -/
def sameStageCriterion (evidence criterion : JsString) : Bool :=
  decide (stageCriterionKey criterion ≠ []) && decide (stageCriterionKey evidence = stageCriterionKey criterion)

def strictFields (names : List String) (value : JsValue) : Option (JsonObject JsNumber) :=
  value.fields?.filter fun fields => fields.all fun field => names.any fun name => field.1 = js name

def sizedText (most : Nat) (text : JsString) : Option JsString :=
  if 1 ≤ text.length ∧ text.length ≤ most then some text else none

def stageEvidence (value : JsValue) : Option StageEvidence := do
  let fields ← strictFields ["criterion", "result"] value
  let criterion ← (fields.get "criterion").bind (·.text?) >>= sizedText 2000
  let result ← (fields.get "result").bind (·.text?) >>= sizedText 4000
  return { criterion, result }

def stageOutcome (text : JsString) : Option StageOutcome :=
  if text = js "CONTINUE" then some .continue
  else if text = js "COMPLETED" then some .completed
  else if text = js "BLOCKED" then some .blocked
  else none

/-- `managedPlanStageResultSchema.parse(JSON.parse(text))`; none where it throws. -/
def parseStageResult (text : JsString) : Option ManagedPlanStageResult := do
  let fields ← parseJs text >>= strictFields ["outcome", "summary", "evidence"]
  let outcome ← (fields.get "outcome").bind (·.text?) >>= stageOutcome
  let summary ← (fields.get "summary").bind (·.text?) >>= fun summary => sizedText 4000 (trimUnits summary)
  let items ← (fields.get "evidence").bind (·.items?)
  let evidence ← if items.length ≤ 30 then items.mapM stageEvidence else none
  if outcome = .completed ∧ evidence = [] then none else some { outcome, summary, evidence }

example : (parseStageResult (js "\x7b\"outcome\":\"CONTINUE\",\"summary\":\" more \",\"evidence\":[]\x7d")) =
    some { outcome := .continue, summary := js "more", evidence := [] } := by decide +kernel

end SpaceApp.Plans
