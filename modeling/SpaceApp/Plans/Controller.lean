import SpaceApp.Foundation.Dialogue
import SpaceApp.Plans.Execution

/-! One step of a managed plan execution (`PlanExecutionController.advance`), from the claimed
lease on, as a program that waits for the repository and for the native driver.

`execution` is the variable the step and the driver's calls of `beforeSend` share; the
controller's receipts are its memory.
-/

set_option autoImplicit false

namespace SpaceApp.Plans

open SpaceApp.Foundation

inductive TurnStatus where
  | inProgress | completed | interrupted | failed
  deriving DecidableEq

structure RetryableFailure where
  retryAfterMs : Option ℚ := none

structure NativeTurn where
  id : String
  status : TurnStatus
  clientUserMessageIds : List String := []
  userMessageCount : Nat := 0
  resultText : Option JsString := none
  itemsComplete : Bool := false
  retryableFailure : Option RetryableFailure := none

inductive ThreadStatus where
  | idle | active | notLoaded | systemError
  deriving DecidableEq

structure NativeThread where
  id : String
  cwd : String
  modelId : String
  reasoningEffort : String
  status : ThreadStatus
  activeFlags : List String := []
  turns : List NativeTurn := []

structure NativeSettings where
  modelId : String
  reasoningEffort : String
  cwd : String
  isTurnActive : Bool

structure ModelOption where
  id : String
  supportedReasoningEfforts : List String

/-- Which of the optional calls the resolved driver has. -/
structure ManagedTurnDriver where
  inspects : Bool := true
  starts : Bool := true

inductive Delivery where
  | notSent | rejected | unknown
  deriving DecidableEq

structure DeliveryError where
  delivery : Delivery
  retryableFailure : Option RetryableFailure := none

inductive Failure where
  | conflict (message : String)
  | delivery (error : DeliveryError)
  | settingsRejected (retryableFailure : Option RetryableFailure)
  | other (message : String)

inductive EvidenceStatus where
  | observing | verified | invalid
  deriving DecidableEq

structure TurnEvidence where
  status : EvidenceStatus
  selection : Option AcceptedTurnSelection

structure Memory where
  acknowledgedInterrupts : String → Option String := fun _ => none
  unacceptedStarts : String → Option DeliveryError := fun _ => none
  observations : String → Bool := fun _ => false
  closedTurnObservedAt : String → Option ℚ := fun _ => none

/-- What one piece of code between two awaits reads and writes: `now`, `evidence` and `stopping`
are only read, and `nextId` counts the drawn ids. -/
structure Local where
  execution : ManagedPlanExecution
  memory : Memory := {}
  now : ℚ := 0
  nextId : Nat := 0
  evidence : String → TurnEvidence := fun _ => { status := .observing, selection := none }
  stopping : Bool := false

inductive Op where
  | claim
  | update (view : ManagedPlanExecution) (patch : ManagedPlanExecutionPatch)
  | get
  | release
  | resolve (execution : ManagedPlanExecution)
  | readThread (threadId : String)
  | readThreadSettings (threadId : String)
  | listModels
  | updateThreadSettings (threadId : String) (selection : StageModelSelection) (command : ManagedPlanCommand)
  | startManagedTurn (threadId : String) (selection : StageModelSelection) (prompt : JsString)
      (start command : ManagedPlanCommand)
  | interruptTurn (threadId : String) (turnId : String) (intent : ManagedPlanCommand)

@[reducible] def Op.Value : Op → Type
  | .claim => Option ManagedPlanExecution
  | .update _ _ => ManagedPlanExecution
  | .get => Option ManagedPlanExecution
  | .release => Unit
  | .resolve _ => ManagedTurnDriver
  | .readThread _ => NativeThread
  | .readThreadSettings _ => NativeSettings
  | .listModels => List ModelOption
  | .updateThreadSettings _ _ _ => Unit
  | .startManagedTurn _ _ _ _ _ => String
  | .interruptTurn _ _ _ => Unit

abbrev Op.Answer (op : Op) : Type := Except Failure op.Value

abbrev Program := Dialogue Op Op.Answer Local Failure

abbrev Thread := Dialogue.Thread Op Op.Answer Local Failure Unit

/-- `randomUUID`: the ids drawn one after the other never repeat. -/
structure Ids where
  uuid : Nat → String
  distinct : Function.Injective uuid

structure ControllerOptions where
  ids : Ids
  leaseMs : ℚ := 60000
  closedTurnObservationTimeoutMs : ℚ := 10000
  maxStageAttempts : Option ℚ := none

def DEFAULT_PLAN_STAGE_MAX_ATTEMPTS : ℚ := 20
def PLAN_STAGE_ATTEMPT_LIMIT : String := "PLAN_STAGE_ATTEMPT_LIMIT"

def runnable (status : ManagedPlanExecutionStatus) : Bool :=
  match status with
  | .running | .switchingModel | .resumingStage | .waitingForInput | .waitingForModel => true
  | _ => false

def trunc (value : ℚ) : ℤ := if 0 ≤ value then ⌊value⌋ else ⌈value⌉

def ControllerOptions.stageLimit (options : ControllerOptions) : ℤ :=
  max 1 (trunc (options.maxStageAttempts.getD DEFAULT_PLAN_STAGE_MAX_ATTEMPTS))

section

open Dialogue

def await (op : Op) : Program op.Value := request op

def randomUUID (options : ControllerOptions) : Program String := do
  let state ← here
  change fun state => { state with nextId := state.nextId + 1 }
  return options.ids.uuid state.nextId

def modelRetry (execution : ManagedPlanExecution) (now : ℚ) (retryAfterMs : Option ℚ := none) :
    ManagedPlanExecutionPatch :=
  let delay := max 1000 (retryAfterMs.getD (min 300000 (1000 * 2 ^ min execution.retryCount 9)))
  { status := some .waitingForModel
    statusReason := some (some (js "The stage model is unavailable. Waiting to retry."))
    retryCount := some (execution.retryCount + 1)
    nextRetryAt := some (some (now + delay)) }

/-- The patch is made of the execution as it is when `save` is called. -/
def save (patch : Local → ManagedPlanExecutionPatch) : Program Unit := do
  let state ← here
  let next ← await (.update state.execution (patch state))
  change fun state => { state with execution := next }

def current (lease : PlanExecutionLease) (state : Local) (claimed : ManagedPlanExecution) : Bool :=
  claimed.lease.any fun held =>
    held.epoch = lease.epoch && claimed.revision = state.execution.revision && state.now < held.expiresAt

def fence (lease : PlanExecutionLease) : Program Unit := do
  let state ← here
  demand (state.stopping = false) (.conflict "Controller is stopping.")
  match ← await .claim with
  | none => Dialogue.fail (.conflict "Controller lease or revision changed.")
  | some claimed =>
      let state ← here
      demand (current lease state claimed = true) (.conflict "Controller lease or revision changed.")
      change fun state => { state with execution := claimed }

def resolve (lease : PlanExecutionLease) : Program ManagedTurnDriver := do
  let state ← here
  let control ← await (.resolve state.execution)
  fence lease
  demand (control.inspects = true) (.other "Native execution inspection is unavailable.")
  return control

def readNative (lease : PlanExecutionLease) : Program NativeThread := do
  let state ← here
  let thread ← await (.readThread state.execution.threadId)
  fence lease
  let state ← here
  demand (thread.id = state.execution.threadId ∧ thread.cwd = state.execution.cwd ∧ thread.status ≠ .notLoaded ∧
    thread.status ≠ .systemError) (.other "Native execution identity is unavailable.")
  return thread

/-- Idle, and with the turns it had when the command was prepared. -/
def untouched (command : ManagedPlanCommand) (thread : NativeThread) : Bool :=
  thread.status = .idle && thread.turns.all (fun turn => turn.status ≠ .inProgress) &&
    thread.turns.map (·.id) = command.baselineTurnIds

def beforeCommand (lease : PlanExecutionLease) (command : ManagedPlanCommand) : Program Unit := do
  let _ ← resolve lease
  let latest ← readNative lease
  demand (untouched command latest = true) (.conflict "Native activity changed before command send.")
  let _ ← resolve lease
  fence lease

def beforeInterrupt (lease : PlanExecutionLease) (turnId : String) (intent : ManagedPlanCommand) : Program Unit := do
  let _ ← resolve lease
  let latest ← readNative lease
  demand (latest.turns.getLast?.any (fun turn => turn.id = turnId ∧ turn.status = .inProgress) = true)
    (.conflict "Native turn closed before interrupt.")
  let _ ← resolve lease
  save fun _ => { interruptCommand := some (some { intent with status := .unknown }) }
  fence lease

/-- What the driver may call back before it sends a command. -/
def beforeSend (lease : PlanExecutionLease) : Op → Option (Program Unit)
  | .updateThreadSettings _ _ command => some (beforeCommand lease command)
  | .startManagedTurn _ _ _ _ command => some (beforeCommand lease command)
  | .interruptTurn _ turnId intent => some (beforeInterrupt lease turnId intent)
  | _ => none

def failAttempt (commandId : String) (now : ℚ) (attempts : List ManagedPlanAttempt) : List ManagedPlanAttempt :=
  attempts.map fun attempt =>
    if attempt.commandId = commandId then { attempt with status := .failed, completedAt := some now } else attempt

def unacceptedPatch (commandId : String) (error : DeliveryError) (state : Local) : ManagedPlanExecutionPatch :=
  let execution := state.execution
  let paused := execution.interruptReason = some .pause
  let overridden := execution.interruptReason = some .override
  let base : ManagedPlanExecutionPatch :=
    match error.retryableFailure with
    | some failure =>
        if ¬ paused ∧ ¬ overridden then modelRetry execution state.now failure.retryAfterMs else
          { status := some (if paused then .paused else .resumingStage)
            statusReason := some (some (js "The native command was not accepted.")) }
    | none =>
        { status := some (if paused then .paused
            else if overridden ∨ error.delivery = .notSent then .resumingStage else .blocked)
          statusReason := some (some (js "The native command was not accepted.")) }
  { base with
    pendingCommand := some none
    interruptCommand := some none
    interruptReason := some none
    attempts := some (failAttempt commandId state.now execution.attempts) }

def settleUnaccepted (commandId : String) (error : DeliveryError) : Program Unit := do
  save (unacceptedPatch commandId error)
  change fun state =>
    { state with
      memory := { state.memory with unacceptedStarts := Function.update state.memory.unacceptedStarts commandId none } }

def putAttempt (attempt : ManagedPlanAttempt) (attempts : List ManagedPlanAttempt) : List ManagedPlanAttempt :=
  attempts.map fun other => if other.id = attempt.id then attempt else other

/-- The one turn that carries the command and is the newest. -/
def acceptedTurn (pending : ManagedPlanCommand) (thread : NativeThread) : Option NativeTurn :=
  let carrying := thread.turns.filter fun turn => turn.clientUserMessageIds.contains pending.id
  let native : Option NativeTurn :=
    match pending.turnId.filter (· ≠ "") with
    | some turnId => thread.turns.find? fun turn => turn.id = turnId
    | none => carrying.head?
  let newTurns := thread.turns.filter fun turn => ¬ pending.baselineTurnIds.contains turn.id
  native.filter fun turn =>
    carrying.map (·.id) = [turn.id] && newTurns.map (·.id) = [turn.id] &&
      (thread.turns.getLast?.map (·.id)) = some turn.id

def acknowledge (turnId : String) : Program Unit := do
  let state ← here
  match state.execution.interruptCommand with
  | some intent =>
      if intent.turnId = some turnId ∧ state.memory.acknowledgedInterrupts intent.id = some turnId then do
        save fun _ => { interruptCommand := some (some { intent with status := .sent }) }
        change fun state =>
          let kept := Function.update state.memory.acknowledgedInterrupts intent.id none
          { state with memory := { state.memory with acknowledgedInterrupts := kept } }
      else pure ()
  | none => pure ()

/-- The durable intent to interrupt the turn, made if there is none. -/
def interruptIntent (options : ControllerOptions) (pending : ManagedPlanCommand) (turnId : String) :
    Program ManagedPlanCommand := do
  let state ← here
  match state.execution.interruptCommand with
  | some intent => pure intent
  | none => do
      let id ← randomUUID options
      let state ← here
      let intent := { pending with
        id, type := .interrupt, turnId := some turnId, status := .prepared, preparedAt := state.now }
      save fun _ => { interruptCommand := some (some intent) }
      return intent

def sendInterrupt (lease : PlanExecutionLease) (turnId : String) (intent : ManagedPlanCommand) : Program Unit := do
  let _ ← resolve lease
  let sending : Program Unit := do
    let state ← here
    let _ ← await (.interruptTurn state.execution.threadId turnId intent)
    change fun state =>
      let kept := Function.update state.memory.acknowledgedInterrupts intent.id (some turnId)
      { state with memory := { state.memory with acknowledgedInterrupts := kept } }
    fence lease
    save fun _ => { interruptCommand := some (some { intent with status := .sent }) }
    change fun state =>
      let kept := Function.update state.memory.acknowledgedInterrupts intent.id none
      { state with memory := { state.memory with acknowledgedInterrupts := kept } }
  sending.rescue fun error =>
    match error with
    | .conflict message => Dialogue.fail (.conflict message)
    -- the intent stays: native status is read before a retry
    | _ => fence lease

def steer (options : ControllerOptions) (lease : PlanExecutionLease) (thread : NativeThread)
    (stage : ManagedPlanStage) (pending : ManagedPlanCommand) (turnId : String) : Program Unit := do
  let state ← here
  if state.execution.interruptReason.isSome then do
    let intent ← interruptIntent options pending turnId
    demand (intent.turnId = some turnId ∧ intent.stageId = stage.id) (.other "Interrupt identity mismatch.")
    if intent.status ≠ .sent then sendInterrupt lease turnId intent else pure ()
  else if thread.activeFlags.any (fun flag => flag = "waitingOnApproval" ∨ flag = "waitingOnUserInput") then
    if state.execution.status ≠ .waitingForInput then
      save fun _ =>
        { status := some .waitingForInput
          statusReason := some (some (js "Native turn requires approval or input.")) }
    else pure ()
  else if state.execution.status ≠ .running then
    save fun _ => { status := some .running, statusReason := some none }
  else pure ()

def closing : JsString := js "Waiting for the native turn closure notification."

def awaitClosure (options : ControllerOptions) (pending : ManagedPlanCommand) : Program Unit := do
  let state ← here
  let firstClosedAt := (state.memory.closedTurnObservedAt pending.id).getD state.now
  change fun state =>
    let noted := Function.update state.memory.closedTurnObservedAt pending.id (some firstClosedAt)
    { state with memory := { state.memory with closedTurnObservedAt := noted } }
  if options.closedTurnObservationTimeoutMs ≤ state.now - firstClosedAt then
    save fun _ =>
      { status := some .blocked
        statusReason := some (some (js ("The native turn closed, but its closure notification was not observed before "
          ++ "the deadline. Review before resuming."))) }
  else if state.execution.status ≠ .running ∨ state.execution.statusReason ≠ some closing then
    save fun _ => { status := some .running, statusReason := some (some closing) }
  else pure ()

/-- The observed configuration is the one the START asked for. -/
def verified (execution : ManagedPlanExecution) (pending : ManagedPlanCommand) (native : NativeTurn)
    (selection : AcceptedTurnSelection) : Bool :=
  selection.threadId = execution.threadId && selection.turnId = native.id && selection.commandId = pending.id &&
    selection.modelId = pending.selection.modelId &&
    selection.reasoningEffort = pending.selection.reasoningEffort && native.userMessageCount = 1

def stoppedPatch (observed : ManagedPlanAttempt) (native : NativeTurn) (state : Local) : ManagedPlanExecutionPatch :=
  let execution := state.execution
  let controlled := execution.interruptReason = some .override ∧
    (execution.interruptCommand.any fun intent => intent.status = .sent ∧ intent.turnId = some native.id) = true
  let stopped : ManagedPlanExecutionPatch :=
    { status := some (if native.status = .interrupted then if controlled then .resumingStage else .paused else .blocked)
      statusReason := some (some (js "Native turn stopped before stage completion.")) }
  let base : ManagedPlanExecutionPatch :=
    match native.retryableFailure with
    | some failure =>
        if native.status = .failed ∧ execution.interruptReason ≠ some .pause then
          modelRetry execution state.now failure.retryAfterMs
        else stopped
    | none => stopped
  { base with
    pendingCommand := some none
    interruptCommand := some none
    interruptReason := some none
    attempts := some (putAttempt { observed with
      status := if native.status = .interrupted then .interrupted else .failed
      completedAt := some state.now } execution.attempts) }

def sufficient (stage : ManagedPlanStage) (result : ManagedPlanStageResult) : Bool :=
  result.outcome ≠ .completed || stage.completionCriteria.all fun criterion =>
    result.evidence.any fun evidence =>
      sameStageCriterion evidence.criterion criterion && decide (trimUnits evidence.result ≠ [])

def completedPatch (stage : ManagedPlanStage) (observed : ManagedPlanAttempt) (result : Option ManagedPlanStageResult)
    (state : Local) : ManagedPlanExecutionPatch :=
  let execution := state.execution
  let attempts := putAttempt { observed with status := .completed, completedAt := some state.now, result }
    execution.attempts
  let closed : ManagedPlanExecutionPatch :=
    { attempts := some attempts, pendingCommand := some none, interruptCommand := some none
      interruptReason := some none }
  match result.filter (sufficient stage) with
  | none =>
      { closed with
        correctionCount := some (execution.correctionCount + 1)
        status := some (if execution.interruptReason = some .pause then .paused
          else if execution.correctionCount = 0 then .resumingStage else .blocked)
        statusReason := some (some (js "Native result is incomplete or lacks criterion evidence.")) }
  | some result =>
      let through := result.outcome = .completed
      let completedStageIds := if through then execution.completedStageIds ++ [stage.id] else execution.completedStageIds
      let done := completedStageIds.length = execution.snapshot.stages.length
      { closed with
        completedStageIds := some completedStageIds
        checkpoint := some (some result.summary)
        retryCount := some 0
        nextRetryAt := some none
        activeStageIndex := some (if done then execution.activeStageIndex
          else execution.activeStageIndex + if through then 1 else 0)
        correctionCount := some (if through then 0 else execution.correctionCount)
        status := some (if result.outcome = .blocked then .blocked else if done then .completed
          else if execution.interruptReason = some .pause then .paused else .resumingStage)
        statusReason := some (if result.outcome = .blocked then some result.summary else none) }

def conclude (options : ControllerOptions) (stage : ManagedPlanStage) (pending : ManagedPlanCommand)
    (native : NativeTurn) (observed : ManagedPlanAttempt) (evidence : Option TurnEvidence) : Program Unit := do
  let state ← here
  match observed.actualSelection with
  | none =>
      if evidence.any (·.status = .observing) then awaitClosure options pending
      else
        save fun _ =>
          { status := some .blocked
            statusReason := some (some (js ("Native turn configuration could not be verified because its observation is "
              ++ "missing or inconsistent. The START command will not be resent."))) }
  | some selection =>
      if verified state.execution pending native selection = false then
        save fun _ =>
          { status := some .blocked
            statusReason := some (some (js ("Native turn configuration could not be verified because its observation is "
              ++ "missing or inconsistent. The START command will not be resent."))) }
      else if native.status ≠ .completed then save (stoppedPatch observed native)
      else
        let text := if native.itemsComplete then native.resultText.filter (· ≠ []) else none
        save (completedPatch stage observed (text.bind parseStageResult))

def observedAttempt (attempt : ManagedPlanAttempt) (turnId : String) (evidence : Option TurnEvidence) :
    ManagedPlanAttempt :=
  let actualSelection :=
    match evidence with
    | some { status := .verified, selection } => selection
    | _ => attempt.actualSelection
  { attempt with turnId := some turnId, actualSelection, status := .running }

/-- The turn is saved with the START and its attempt, if it tells anything new. -/
def noteTurn (pending : ManagedPlanCommand) (attempt observed : ManagedPlanAttempt) (turnId : String) : Program Unit :=
  if pending.turnId ≠ some turnId ∨ pending.status ≠ .sent ∨ attempt.turnId ≠ some turnId ∨
      attempt.status ≠ .running ∨ (observed.actualSelection.isSome ∧ attempt.actualSelection = none) then
    save fun state =>
      { pendingCommand := some (some { pending with status := .sent, turnId := some turnId })
        attempts := some (putAttempt observed state.execution.attempts) }
  else pure ()

def reconcileTurn (options : ControllerOptions) (lease : PlanExecutionLease) (thread : NativeThread)
    (stage : ManagedPlanStage) (pending : ManagedPlanCommand) (native : NativeTurn) : Program Unit := do
  acknowledge native.id
  let state ← here
  match state.execution.attempts.find? (fun attempt => attempt.commandId = pending.id) with
  | none => Dialogue.fail (.other "Native turn has no durable attempt.")
  | some attempt => do
      let evidence := if state.memory.observations pending.id then some (state.evidence pending.id) else none
      let observed := observedAttempt attempt native.id evidence
      noteTurn pending attempt observed native.id
      demand ((evidence.any (·.status = .invalid)) = false)
        (.other "Native observation continuity or configuration changed.")
      if native.status = .inProgress then steer options lease thread stage pending native.id
      else conclude options stage pending native observed evidence

def reconcile (options : ControllerOptions) (lease : PlanExecutionLease) (thread : NativeThread)
    (stage : ManagedPlanStage) (pending : ManagedPlanCommand) : Program Unit := do
  let state ← here
  match state.memory.unacceptedStarts pending.id with
  | some unaccepted => do
      demand (thread.turns.all (fun turn => ¬ turn.clientUserMessageIds.contains pending.id) = true)
        (.other "Native acceptance contradicts rejection.")
      settleUnaccepted pending.id unaccepted
  | none =>
      match acceptedTurn pending thread with
      | none => Dialogue.fail (.other "Native turn acceptance is ambiguous; the command will not be resent.")
      | some native => reconcileTurn options lease thread stage pending native

/-- The settings are asked for, and what they came to is saved. True where the START may follow. -/
def writeSettings (lease : PlanExecutionLease) (selection : StageModelSelection) (command : ManagedPlanCommand) :
    Program Bool := do
  let writing : Program Bool := do
    let state ← here
    let _ ← await (.updateThreadSettings state.execution.threadId selection command)
    return true
  writing.rescue fun error =>
    match error with
    | .conflict message => Dialogue.fail (.conflict message)
    | .settingsRejected (some failure) => do
        let _ ← resolve lease
        save fun state =>
          { modelRetry state.execution state.now failure.retryAfterMs with
            pendingCommand := some (some { command with status := .prepared }) }
        return false
    | .settingsRejected none => do
        let _ ← resolve lease
        save fun _ =>
          { pendingCommand := some none
            status := some .blocked
            statusReason := some (some
              (js "Native thread settings were rejected. Review the stage selection before resuming.")) }
        return false
    | _ => do
        let _ ← resolve lease
        save fun _ =>
          { pendingCommand := some (some { command with status := .unknown })
            status := some .resumingStage
            statusReason := some (some (js "Reconciling native thread settings.")) }
        return false

def startCommand (command : ManagedPlanCommand) (id : String) (now : ℚ) : ManagedPlanCommand :=
  { command with id, type := .start, preparedAt := now }

def newAttempt (start : ManagedPlanCommand) (id : String) (stage : ManagedPlanStage)
    (selection : StageModelSelection) : ManagedPlanAttempt where
  id
  stageId := stage.id
  commandId := start.id
  turnId := none
  modelId := selection.modelId
  reasoningEffort := selection.reasoningEffort
  actualSelection := none
  status := .prepared
  startedAt := start.preparedAt
  completedAt := none
  result := none

/-- The START is in the record: it is handed to the driver, once. -/
def sendStart (lease : PlanExecutionLease) (selection : StageModelSelection) (prompt : JsString)
    (command start : ManagedPlanCommand) : Program Unit := do
  let sending : Program Unit := do
    let state ← here
    let turnId ← await (.startManagedTurn state.execution.threadId selection prompt start command)
    change fun state =>
      { state with
        memory := { state.memory with observations := Function.update state.memory.observations start.id true } }
    fence lease
    save fun state =>
      { status := some .running
        nextRetryAt := some none
        pendingCommand := some (some { start with status := .sent, turnId := some turnId })
        attempts := some (state.execution.attempts.map fun attempt =>
          if attempt.commandId = start.id then { attempt with status := .running, turnId := some turnId } else attempt) }
  sending.rescue fun error =>
    match error with
    | .conflict message => Dialogue.fail (.conflict message)
    | .delivery error =>
        if error.delivery ≠ .unknown then do
          change fun state =>
            let noted := Function.update state.memory.unacceptedStarts start.id (some error)
            { state with memory := { state.memory with unacceptedStarts := noted } }
          let _ ← resolve lease
          settleUnaccepted start.id error
        else
          save fun _ =>
            { status := some .running
              pendingCommand := some (some { start with status := .unknown })
              statusReason := some (some (js "Reconciling native command acceptance.")) }
    | _ =>
        save fun _ =>
          { status := some .running
            pendingCommand := some (some { start with status := .unknown })
            statusReason := some (some (js "Reconciling native command acceptance.")) }

/-- The settings are confirmed: the START is prepared in the record and sent. -/
def startStage (options : ControllerOptions) (lease : PlanExecutionLease) (stage : ManagedPlanStage)
    (selection : StageModelSelection) (prompt : JsString) (command : ManagedPlanCommand) : Program Unit := do
  fence lease
  let state ← here
  let settings ← await (.readThreadSettings state.execution.threadId)
  fence lease
  let state ← here
  demand (settings.cwd = state.execution.cwd ∧ settings.modelId = selection.modelId ∧
    settings.reasoningEffort = selection.reasoningEffort ∧ settings.isTurnActive = false)
    (.other "Native stage settings were not confirmed.")
  save fun _ => { pendingCommand := some (some { command with status := .sent }) }
  let _ ← resolve lease
  let thread ← readNative lease
  demand (untouched command thread = true ∧ thread.modelId = selection.modelId ∧
    thread.reasoningEffort = selection.reasoningEffort) (.other "Native activity changed before stage start.")
  let startId ← randomUUID options
  let state ← here
  let start := startCommand command startId state.now
  let attemptId ← randomUUID options
  save fun state =>
    { pendingCommand := some (some start)
      attempts := some (state.execution.attempts ++ [newAttempt start attemptId stage selection]) }
  let _ ← resolve lease
  -- the START is in the record even if the process dies here
  fence lease
  sendStart lease selection prompt command start

/-- The settings command is in the record. `resumed` is the status it had before this step. -/
def applySettings (options : ControllerOptions) (lease : PlanExecutionLease) (stage : ManagedPlanStage)
    (selection : StageModelSelection) (prompt : JsString) (command : ManagedPlanCommand)
    (resumed : Option CommandStatus) : Program Unit := do
  let _ ← resolve lease
  let thread ← readNative lease
  demand (untouched command thread = true) (.other "Native activity changed before settings command.")
  fence lease
  let state ← here
  let before ← await (.readThreadSettings state.execution.threadId)
  fence lease
  let state ← here
  demand (before.cwd = state.execution.cwd ∧ before.isTurnActive = false) (.other "Native settings identity changed.")
  let differ := before.modelId ≠ selection.modelId ∨ before.reasoningEffort ≠ selection.reasoningEffort
  if resumed = some .unknown ∧ differ then do
    let _ ← resolve lease
    save fun state =>
      { modelRetry state.execution state.now with
        pendingCommand := some (some { command with status := .prepared }) }
  else do
    let goOn ← (if resumed = none ∨ differ then writeSettings lease selection command else pure true)
    if goOn then startStage options lease stage selection prompt command else pure ()

/-- No START is under way. -/
def prepare (options : ControllerOptions) (lease : PlanExecutionLease) (control : ManagedTurnDriver)
    (thread : NativeThread) (stage : ManagedPlanStage) (prompt : JsString) (pending : Option ManagedPlanCommand) :
    Program Unit := do
  let state ← here
  if thread.status = .active ∨ thread.turns.any (fun turn => turn.status = .inProgress) then pure ()
  else if options.stageLimit ≤ (state.execution.attempts.filter fun attempt => attempt.stageId = stage.id).length then
    save fun _ =>
      { status := some .failed
        errorCode := some (some PLAN_STAGE_ATTEMPT_LIMIT)
        pendingCommand := some none
        nextRetryAt := some none
        statusReason := some (some (js s!"Stage {stage.order} used its limit of {options.stageLimit} native turns without completing. No further turn was sent. Review the stage, then start a new execution.")) }
  else do
    let selection := (state.execution.overrides stage.id).getD
      { modelId := stage.modelId, reasoningEffort := stage.reasoningEffort }
    demand (control.starts = true) (.other "Native managed turn observation is unavailable.")
    let models ← await .listModels
    fence lease
    if models.all (fun model => ¬ (model.id = selection.modelId ∧
        model.supportedReasoningEfforts.contains selection.reasoningEffort)) then
      save fun state => modelRetry state.execution state.now
    else
      match pending with
      | some command => do
          demand (command.type = .settings ∧ command.stageId = stage.id ∧ command.selection = selection)
            (.other "Settings intent does not match the stage selection.")
          applySettings options lease stage selection prompt command (some command.status)
      | none => do
          let id ← randomUUID options
          let state ← here
          let command : ManagedPlanCommand := {
            id, type := .settings, stageId := stage.id, turnId := none, selection
            preparedAt := state.now, status := .prepared, baselineTurnIds := thread.turns.map (·.id) }
          save fun _ =>
            { status := some .switchingModel, pendingCommand := some (some command), statusReason := some none
              nextRetryAt := some none }
          applySettings options lease stage selection prompt command none

/-- The parts that are not empty, a blank line between two. -/
def paragraphs (parts : List JsString) : JsString :=
  List.intercalate (js "\n\n") (parts.filter (· ≠ []))

def stagePrompt (execution : ManagedPlanExecution) (stage : ManagedPlanStage) : JsString :=
  let stopped := execution.attempts.any fun attempt =>
    attempt.stageId = stage.id && (attempt.status = .interrupted || attempt.status = .failed)
  paragraphs [
    js "Immutable whole-plan context (shared specification and constraints apply to this stage):\n" ++
      execution.snapshot.text,
    js s!"Execute only stage {stage.order}: " ++ stage.title ++
      js ". Do not execute other stages; their descriptions are context only.",
    stage.instructions,
    js "Completion criteria (return each exact criterion with concrete evidence):\n" ++
      List.intercalate (js "\n") stage.completionCriteria,
    match execution.checkpoint.filter (· ≠ []) with
    | some checkpoint => js "Previous checkpoint: " ++ checkpoint
    | none => [],
    if stopped then
      js ("Recovery: inspect the previous native turn and repository for partial actions and side effects before acting. "
        ++ "Preserve completed work; never blindly repeat an unsafe action. If its outcome cannot be established, "
        ++ "return BLOCKED and request input.")
    else [],
    if execution.correctionCount ≠ 0 then
      js ("Correction: the previous result was incomplete. Return valid structured evidence; do not repeat completed "
        ++ "actions.")
    else [],
    js ("Return CONTINUE for further work in this stage, COMPLETED only when every criterion is met, or BLOCKED for a "
      ++ "real obstacle. Never mark progress via legacy PLAN APIs.")]

def runStage (options : ControllerOptions) (lease : PlanExecutionLease) (control : ManagedTurnDriver)
    (thread : NativeThread) (stage : ManagedPlanStage) (prompt : JsString) : Program Unit := do
  let state ← here
  if 20000 < (trimUnits prompt).length then
    save fun _ =>
      { status := some .blocked
        statusReason := some (some (js ("The complete stage prompt, including whole-plan context, exceeds the 20,000 "
          ++ "character native limit. Prepare a shorter plan with all required specifications and constraints before "
          ++ "starting another execution."))) }
  else
    match state.execution.pendingCommand.filter (·.type = .start) with
    | some pending => reconcile options lease thread stage pending
    | none => prepare options lease control thread stage prompt state.execution.pendingCommand

def advanceStage (options : ControllerOptions) (lease : PlanExecutionLease) : Program Unit := do
  let control ← resolve lease
  let thread ← readNative lease
  let state ← here
  match state.execution.snapshot.stages[state.execution.activeStageIndex]? with
  | none => Dialogue.fail (.other "Execution stage is invalid.")
  | some stage => runStage options lease control thread stage (stagePrompt state.execution stage)

def work (options : ControllerOptions) (lease : PlanExecutionLease) : Program Unit := do
  let state ← here
  if runnable state.execution.status = false then pure ()
  else if state.execution.status = .waitingForModel ∧ state.execution.nextRetryAt.any (state.now < ·) then pure ()
  else advanceStage options lease

/-- Receipts that the latest record no longer waits for are let go. -/
def forget (latest : ManagedPlanExecution) (memory : Memory) : Memory :=
  let dropped := latest.commands.filter fun command =>
    command.type = .interrupt &&
      (decide ((latest.interruptCommand.map (·.id)) ≠ some command.id) || !runnable latest.status)
  let settled := latest.attempts.filter fun attempt =>
    !(runnable latest.status && decide ((latest.pendingCommand.map (·.id)) = some attempt.commandId))
  let isSettled := fun id => settled.any fun attempt => attempt.commandId = id
  { acknowledgedInterrupts := fun id =>
      if dropped.any fun command => command.id = id then none else memory.acknowledgedInterrupts id
    unacceptedStarts := fun id => if isSettled id then none else memory.unacceptedStarts id
    observations := fun id => if isSettled id then false else memory.observations id
    closedTurnObservedAt := fun id => if isSettled id then none else memory.closedTurnObservedAt id }

def finish : Program Unit := do
  let latest ← await .get
  change fun state =>
    let execution := latest.getD state.execution
    { state with execution, memory := forget execution state.memory }
  await .release

/-- Raw errors do not show through the public status. -/
def unconfirmed : ManagedPlanExecutionPatch where
  status := some .blocked
  statusReason := some (some (js ("Execution identity, authorization or native state could not be confirmed. "
    ++ "Review before resuming.")))

def settleFailure : Failure → Program Unit
  | .conflict _ => pure ()
  | _ => save fun _ => unconfirmed

def advance (options : ControllerOptions) (lease : PlanExecutionLease) : Program Unit :=
  ((work options lease).rescue settleFailure).ensuring finish

end

end SpaceApp.Plans
