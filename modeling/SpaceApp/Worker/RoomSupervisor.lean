import Mathlib.Data.List.Basic
import SpaceApp.Foundation.JsText

/-! The Room Agent supervisor (`workflows.ts`, `room-supervisor-state.ts`): its queue, its signals and its loop.

A signal's handler runs between two awaits. The settlement activities succeed; other activities and the child end as they may.
Signals are as their schema leaves them; of a turn only what the supervisor reads is kept.
-/

set_option autoImplicit false

namespace SpaceApp.Worker

open SpaceApp.Foundation

structure QueueItem where
  missionId : String
  roomId : String
  paneId : String
  agentRunId : Option String
  traceId : String
  /-- `turn.roomAgentContinuation`: automatic work. -/
  continuation : Bool
  deriving DecidableEq

structure StopSignal where
  missionId : Option String
  reason : String
  deriving DecidableEq

structure Interrupted where
  item : QueueItem
  reason : String
  deriving DecidableEq

inductive TurnStatus where
  | completed | failed | cancelled
  deriving DecidableEq

structure RoomAgentOutcome where
  verified : Bool
  statusReason : String
  pendingActionIds : List String
  deriving DecidableEq

structure TurnWorkflowResult where
  status : TurnStatus
  message : String
  roomAgentOutcome : Option RoomAgentOutcome
  deriving DecidableEq

inductive CompletionStatus where
  | completed | failed | interrupted
  deriving DecidableEq

structure Completion where
  status : CompletionStatus
  statusReason : String
  errorCode : Option String := none
  deriving DecidableEq

def roomAgentMissionCompletion (result : TurnWorkflowResult) : Completion :=
  if result.status = .cancelled then { status := .interrupted, statusReason := result.message }
  else match result.roomAgentOutcome with
    | some outcome =>
      if result.status = .completed ∧ outcome.verified then { status := .completed, statusReason := outcome.statusReason }
      else if outcome.verified = false then { status := .failed, statusReason := outcome.statusReason }
      else { status := .failed, statusReason := result.message }
    | none => {
      status := .failed
      statusReason := if result.status = .failed then result.message
        else "Room Agent turn ended without verified room-action evidence." }

def QueueItem.key (item : QueueItem) : String := item.agentRunId.getD item.traceId

def enqueueRoomAgentMission (pending : List QueueItem) (item : QueueItem) : List QueueItem :=
  if pending.any fun queued => queued.key = item.key then pending else pending ++ [item]

def roomAgentMissionHasContinuation (pending : List QueueItem) (missionId : String) : Bool :=
  pending.any fun item => item.missionId = missionId

def StopSignal.covers (signal : StopSignal) (missionId : String) : Bool := signal.missionId.all fun id => id = missionId

def validReason (reason : String) : Bool := 1 ≤ (js reason).length && (js reason).length ≤ 500

def ROOM_AGENT_SUPERVISOR_CARRY_LIMIT : Nat := 100

structure SupervisorInput where
  roomId : String
  pending : List QueueItem
  monitoringMissionIds : List String
  interrupted : List Interrupted
  processedCount : Nat
  deriving DecidableEq

def SupervisorInput.fits (input : SupervisorInput) : Bool :=
  input.pending.length ≤ 100 && input.monitoringMissionIds.length ≤ 100 && input.interrupted.length ≤ 100
    && (input.interrupted.all fun entry => validReason entry.reason)
    && input.pending.all fun item => item.roomId = input.roomId

/-- Where the loop awaits. -/
inductive Stage where
  | starting
  | idle
  | discarding (stopped : Interrupted)
  | finishing (stopped : Interrupted)
  | checking (item : QueueItem)
  | skipping (item : QueueItem)
  | running (item : QueueItem)
  | completing (item : QueueItem) (completion : Completion)
  | recovering (item : QueueItem) (completion : Completion)
  | closing (item : QueueItem) (completion : Completion)
  | pausing (revision : Nat)
  | monitoring
  | preparing (missionId : String) (revision : Nat) (rest : List String)
  | retiring (item : QueueItem) (rest : List String)
  deriving DecidableEq

/-- The turn that is active and has not run. -/
def Stage.waiting : Stage → List QueueItem
  | .checking item => [item]
  | _ => []

structure Supervisor where
  roomId : String
  pending : List QueueItem := []
  interrupted : List Interrupted := []
  monitoring : List String := []
  active : Option QueueItem := none
  cancelled : Bool := false
  stopReason : String := "Stopped by operator."
  signalRevision : Nat := 0
  processedCount : Nat := 0
  polls : Nat := 0
  stage : Stage := .starting
  /-- What no step reads: the turns taken in, those whose child was started, those discarded, those that are through, those that
  waited when a stop came for them, those turned away though nothing of theirs waited, and what was handed on. -/
  accepted : List QueueItem := []
  ran : List QueueItem := []
  discarded : List QueueItem := []
  left : List QueueItem := []
  stopped : List QueueItem := []
  refused : List QueueItem := []
  carried : List SupervisorInput := []
  deriving DecidableEq

inductive TurnCheck where
  | ready | paused | skip
  | fails (errorCode : String)
  deriving DecidableEq

inductive ChildOutcome where
  | result (result : TurnWorkflowResult)
  | fails (errorCode : String)
  | cancelled
  deriving DecidableEq

/-- What the background preparation answers; a continuation that is ready has the id it was asked for. -/
inductive Prepared where
  | waiting | done
  | ready (paneId continuationId : String)
  deriving DecidableEq

inductive SupervisorEvent where
  | enqueues (item : QueueItem)
  | stops (signal : StopSignal)
  | checks (check : TurnCheck)
  | childEnds (outcome : ChildOutcome)
  | settles
  | prepares (prepared : Prepared)
  | resumes
  deriving DecidableEq

namespace Supervisor

variable (state : Supervisor)

def iterate : Supervisor :=
  match state.interrupted with
  | stopped :: rest => { state with interrupted := rest, stage := .discarding stopped }
  | [] =>
    match state.pending with
    | item :: rest => { state with
        pending := rest
        active := some item
        cancelled := false
        stopReason := "Stopped by operator."
        stage := .checking item }
    | [] => { state with stage := if state.monitoring.isEmpty then .idle else .monitoring }

def carry : SupervisorInput := {
  roomId := state.roomId
  pending := state.pending
  monitoringMissionIds := state.monitoring
  interrupted := state.interrupted
  processedCount := 0 }

def carriedStateFits : Bool :=
  state.pending.length ≤ ROOM_AGENT_SUPERVISOR_CARRY_LIMIT && state.interrupted.length ≤ ROOM_AGENT_SUPERVISOR_CARRY_LIMIT
    && state.monitoring.length ≤ ROOM_AGENT_SUPERVISOR_CARRY_LIMIT

/-- The end of an iteration: the next one, or a new run with the same state. -/
def endIteration : Supervisor :=
  if (50 ≤ state.processedCount || 250 ≤ state.polls) && state.carriedStateFits then
    { state with
      signalRevision := 0
      processedCount := 0
      polls := 0
      stage := .starting
      carried := state.carried ++ [state.carry] }
  else state.iterate

def endTurn (item : QueueItem) : Supervisor :=
  { state with
    active := none
    cancelled := false
    processedCount := state.processedCount + 1
    left := state.left ++ [item] }.endIteration

/-- `catch`: the turn was cancelled, or it failed with this code. -/
def recover (item : QueueItem) (errorCode : Option String) : Supervisor :=
  { state with stage := .recovering item (match errorCode with
      | none => { status := .interrupted, statusReason := state.stopReason }
      | some code => { status := .failed, statusReason := "Room Agent supervisor turn failed.", errorCode := some code }) }

/-- The check's answer; a cancelled scope gives none. -/
def checked (item : QueueItem) (check : TurnCheck) : Supervisor :=
  if state.cancelled then state.recover item none
  else match check with
    | .paused => { state with
        active := none
        processedCount := state.processedCount + 1
        pending := state.pending ++ [item]
        stage := .pausing state.signalRevision }
    | .skip => { state with stage := .skipping item }
    | .ready => { state with ran := state.ran ++ [item], stage := .running item }
    | .fails code => state.recover item (some code)

/-- The child's end: the mission is monitored, goes on, or is finished. -/
def childEnded (item : QueueItem) : ChildOutcome → Supervisor
  | .fails code => state.recover item (some code)
  | .cancelled => state.recover item none
  | .result result =>
    let completion := roomAgentMissionCompletion result
    if result.roomAgentOutcome.any fun outcome => outcome.verified && !outcome.pendingActionIds.isEmpty then
      { state with monitoring := if item.missionId ∈ state.monitoring then state.monitoring else state.monitoring ++ [item.missionId] }.endTurn
        item
    else if completion.status = .completed ∧ item.missionId ∈ state.monitoring ∧ !item.continuation then state.endTurn item
    else if roomAgentMissionHasContinuation state.pending item.missionId then state.endTurn item
    else
      let unmonitored := { state with monitoring := state.monitoring.filter fun id => id ≠ item.missionId }
      if state.cancelled then unmonitored.recover item none else { unmonitored with stage := .completing item completion }

def prepareNext : List String → Supervisor
  | [] => { state with polls := state.polls + 1 }.endIteration
  | missionId :: rest =>
    if missionId ∈ state.monitoring then { state with stage := .preparing missionId state.signalRevision rest }
    else prepareNext rest

/-- After one mission: a turn that has come ends the round. -/
def prepareMore (rest : List String) : Supervisor :=
  if state.pending.isEmpty && state.interrupted.isEmpty then state.prepareNext rest
  else { state with polls := state.polls + 1 }.endIteration

/-- A turn is taken in, unless one of its key waits. -/
def put (item : QueueItem) : Supervisor :=
  { state with
    pending := enqueueRoomAgentMission state.pending item
    accepted := if state.pending.any fun queued => queued.key = item.key then state.accepted else state.accepted ++ [item] }

/-- `prepareBackgroundContinuation`'s item. -/
def continuationItem (missionId paneId continuationId : String) : QueueItem := {
  missionId
  roomId := state.roomId
  paneId
  agentRunId := some ("agent_run:bg-" ++ continuationId)
  traceId := "trace:bg-" ++ continuationId
  continuation := true }

def prepared (missionId : String) (revision : Nat) (rest : List String) : Prepared → Supervisor
  | .waiting => state.prepareMore rest
  | .done => { state with monitoring := state.monitoring.filter fun id => id ≠ missionId }.prepareMore rest
  | .ready paneId continuationId =>
    let item := state.continuationItem missionId paneId continuationId
    if revision ≠ state.signalRevision ∨ missionId ∉ state.monitoring then { state with stage := .retiring item rest }
    else (state.put item).prepareMore rest

def settled : Supervisor :=
  match state.stage with
  | .discarding stopped => { state with stage := .finishing stopped, discarded := state.discarded ++ [stopped.item] }
  | .finishing stopped =>
    { state with processedCount := state.processedCount + 1, left := state.left ++ [stopped.item] }.endIteration
  | .skipping item =>
    if state.cancelled then state.recover item none
    else { state with discarded := state.discarded ++ [item] }.endTurn item
  | .completing item _ => if state.cancelled then state.recover item none else state.endTurn item
  | .recovering item completion =>
    let discarded := { state with discarded := state.discarded ++ [item] }
    if roomAgentMissionHasContinuation state.pending item.missionId then discarded.endTurn item
    else { discarded with
      monitoring := state.monitoring.filter fun id => id ≠ item.missionId
      stage := .closing item completion }
  | .closing item _ => state.endTurn item
  | .retiring _ rest => state.prepareMore rest
  | _ => state

/-- A wait is over: the idle one when a turn has come, the others also by their time. -/
def resumed : Supervisor :=
  match state.stage with
  | .starting => state.iterate
  | .idle => if state.pending.isEmpty && state.interrupted.isEmpty then state else state.endIteration
  | .pausing _ => state.endIteration
  | .monitoring =>
    if state.pending.isEmpty && state.interrupted.isEmpty then state.prepareNext state.monitoring
    else { state with polls := state.polls + 1 }.endIteration
  | _ => state

/-- The active turn or one that waits has this run id, or none of them and the item have one. -/
def sameRun (item : QueueItem) : Bool :=
  (state.active.bind (·.agentRunId)) = item.agentRunId || state.pending.any fun queued => queued.agentRunId = item.agentRunId

def known (item : QueueItem) : Bool :=
  (state.active.any fun active => active.key = item.key) || state.pending.any fun queued => queued.key = item.key

/-- Automatic work of the mission gives way to the operator's turn. -/
def supersede (item : QueueItem) : Supervisor :=
  if item.continuation then state
  else
    let stale := fun (queued : QueueItem) => queued.missionId = item.missionId && queued.continuation
    let superseded := { state with
      interrupted := state.interrupted ++ (state.pending.filter stale).map fun item =>
        ({ item, reason := "Superseded by a newer operator request." } : Interrupted)
      pending := state.pending.filter fun queued => !stale queued }
    if state.active.any stale then
      { superseded with stopReason := "Superseded by a newer operator request.", cancelled := true }
    else superseded

def enqueued (item : QueueItem) : Supervisor :=
  if item.roomId ≠ state.roomId then state
  else if state.sameRun item then { state with refused := if state.known item then state.refused else state.refused ++ [item] }
  else ({ state with signalRevision := state.signalRevision + 1 }.supersede item).put item

def stop (signal : StopSignal) : Supervisor :=
  let reason := trimText signal.reason
  if !validReason reason then state
  else
    let covered := state.pending.filter fun item => signal.covers item.missionId
    let after := { state with
      signalRevision := state.signalRevision + 1
      pending := state.pending.filter fun item => !signal.covers item.missionId
      interrupted := state.interrupted ++ covered.map fun item => ({ item, reason } : Interrupted)
      monitoring := state.monitoring.filter fun id => !signal.covers id
      stopped := state.stopped ++ covered ++ state.stage.waiting.filter fun item => signal.covers item.missionId }
    if state.active.any fun item => signal.covers item.missionId then { after with stopReason := reason, cancelled := true }
    else after

def step : SupervisorEvent → Supervisor
  | .enqueues item => state.enqueued item
  | .stops signal => state.stop signal
  | .checks check =>
    match state.stage with
    | .checking item => state.checked item check
    | _ => state
  | .childEnds outcome =>
    match state.stage with
    | .running item => state.childEnded item outcome
    | _ => state
  | .settles => state.settled
  | .prepares prepared =>
    match state.stage with
    | .preparing missionId revision rest => state.prepared missionId revision rest prepared
    | _ => state
  | .resumes => state.resumed

end Supervisor

end SpaceApp.Worker
