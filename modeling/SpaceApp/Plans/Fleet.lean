import SpaceApp.Foundation.Reach
import SpaceApp.Plans.Controller

/-! Any number of controllers over one execution record, with operators, crashes and time.

The repository's operations are atomic; a failed one may still have taken effect. A driver call
may be answered at any time, and the driver may call its `beforeSend` back at any time and any
number of times, also after it answered.
-/

set_option autoImplicit false

namespace SpaceApp.Plans

open SpaceApp.Foundation

/-- `claim`: the record with the lease it has from then on. -/
def claimRecord (record : ManagedPlanExecution) (owner : Nat) (now durationMs : ℚ) : Option ManagedPlanExecution :=
  if isPlanExecutionActive record = false then none
  else if record.lease.any fun lease => lease.owner ≠ owner && now < lease.expiresAt then none
  else
    let epoch :=
      match record.lease with
      | some lease => if lease.owner = owner ∧ now < lease.expiresAt then lease.epoch else lease.epoch + 1
      | none => 1
    some { record with lease := some { owner, epoch, expiresAt := now + durationMs } }

def PlanExecutionLease.valid (lease : PlanExecutionLease) (record : ManagedPlanExecution) (now : ℚ) : Bool :=
  record.lease.any fun held => held.owner = lease.owner && held.epoch = lease.epoch && now < held.expiresAt

def updateRecord (record : ManagedPlanExecution) (revision : Nat) (patch : ManagedPlanExecutionPatch)
    (lease : Option PlanExecutionLease) (now : ℚ) : Except String ManagedPlanExecution :=
  if record.revision ≠ revision then .error "Execution revision is stale."
  else if lease.any fun lease => !lease.valid record now then .error "Controller lease is stale."
  else applyPlanExecutionPatch record patch

def releaseRecord (record : ManagedPlanExecution) (lease : PlanExecutionLease) : ManagedPlanExecution :=
  { record with
    lease := record.lease.map fun held =>
      if held.owner = lease.owner ∧ held.epoch = lease.epoch then { held with expiresAt := 0 } else held }

/-- What becomes of a repository call: it is answered, it fails before it takes effect, or its
answer is lost. -/
inductive Reply where
  | served
  | refused (message : String)
  | lost (message : String)

/-- A step under way. `released`, read by no code, says that it no longer holds its lease. -/
structure Advance where
  worker : Nat
  lease : PlanExecutionLease
  execution : ManagedPlanExecution
  main : Thread
  calls : List Op := []
  callbacks : List (Op × Thread) := []
  released : Bool := false

/-- A START that goes to the driver, or that its `beforeSend` lets through while the call is
open, with the attempts in the record at that moment. -/
structure Sending where
  commandId : String
  handed : Bool
  attempts : List ManagedPlanAttempt

/-- `past` and `sendings` are read by no code: every record stored, and every START sent. -/
structure World where
  record : ManagedPlanExecution
  clock : ℚ
  nextId : Nat := 0
  memory : Nat → Memory := fun _ => {}
  stopping : Nat → Bool := fun _ => false
  running : Nat → Option Nat := fun _ => none
  advances : Nat → Option Advance := fun _ => none
  views : List ManagedPlanExecution := []
  past : List ManagedPlanExecution
  sendings : List Sending := []

inductive Event where
  | tick (now : ℚ)
  | begins (worker key : Nat)
  | performs (key : Nat) (slot : Option Nat) (reply : Reply) (driver : (op : Op) → Op.Answer op)
  | resumes (key : Nat) (slot : Option Nat) (evidence : String → TurnEvidence)
  | callsBack (key call : Nat)
  | operatorReads
  | operatorPatches (view : Nat) (change : OperatorChange)
  | closes (worker : Nat)
  | cleared (worker : Nat)
  | crashes (worker : Nat)

def Advance.thread (advance : Advance) : Option Nat → Option Thread
  | none => some advance.main
  | some index => advance.callbacks[index]?.map (·.2)

def Advance.setThread (advance : Advance) (slot : Option Nat) (thread : Thread) : Advance :=
  match slot with
  | none => { advance with main := thread }
  | some index => { advance with callbacks := advance.callbacks.modify index fun callback => (callback.1, thread) }

/-- The call the thread has just made, if it is one of the driver's. -/
def callOf (lease : PlanExecutionLease) : Thread → List Op
  | .waiting op _ => if (beforeSend lease op).isSome then [op] else []
  | _ => []

/-- A thread of the step has come to rest. -/
abbrev Advance.rests (advance : Advance) (slot : Option Nat) (thread : Thread) (after : Local) (released : Bool) : Advance :=
  ({ advance with
    execution := after.execution
    calls := callOf advance.lease thread ++ advance.calls
    released } : Advance).setThread slot thread

def startOf : Op → Option String
  | .startManagedTurn _ _ _ start _ => some start.id
  | _ => none

def Advance.starting (advance : Advance) : Option String :=
  match advance.main with
  | .waiting op _ => startOf op
  | _ => none

namespace World

def localOf (world : World) (advance : Advance) (evidence : String → TurnEvidence) : Local where
  execution := advance.execution
  memory := world.memory advance.worker
  now := world.clock
  nextId := world.nextId
  evidence
  stopping := world.stopping advance.worker

def put (world : World) (key : Nat) (advance : Advance) : World :=
  { world with advances := Function.update world.advances key (some advance) }

def store (world : World) (record : ManagedPlanExecution) : World :=
  { world with record, past := record :: world.past }

def answered (options : ControllerOptions) (world : World) (advance : Advance) :
    (op : Op) → Option (Op.Answer op × ManagedPlanExecution)
  | .claim =>
      match claimRecord world.record advance.worker world.clock options.leaseMs with
      | some next => some (.ok (some next), next)
      | none => some (.ok none, world.record)
  | .update view patch =>
      match updateRecord world.record view.revision patch (some advance.lease) world.clock with
      | .ok next => some (.ok next, next)
      | .error message => some (.error (.conflict message), world.record)
  | .get => some (.ok (some world.record), world.record)
  | .release => some (.ok (), releaseRecord world.record advance.lease)
  | _ => none

def reply (options : ControllerOptions) (world : World) (advance : Advance) (reply : Reply)
    (driver : (op : Op) → Op.Answer op) (op : Op) : Op.Answer op × ManagedPlanExecution :=
  match world.answered options advance op, reply with
  | some (answer, record), .served => (answer, record)
  | some _, .refused message => (.error (.other message), world.record)
  | some (_, record), .lost message => (.error (.other message), record)
  | none, _ => (driver op, world.record)

def isRelease : Op → Bool
  | .release => true
  | _ => false

def performs (options : ControllerOptions) (world : World) (key : Nat) (slot : Option Nat) (reply : Reply)
    (driver : (op : Op) → Op.Answer op) : World :=
  match world.advances key with
  | none => world
  | some advance =>
      match advance.thread slot with
      | some (.waiting op next) =>
          let (answer, record) := world.reply options advance reply driver op
          let moved := { advance with released := advance.released || isRelease op }
          (world.store record).put key (moved.setThread slot (.ready (next answer)))
      | _ => world

/-- The STARTs that go out as a thread comes to rest. -/
def sent (world : World) (advance : Advance) (slot : Option Nat) (thread : Thread) : List Sending :=
  let attempts := world.record.attempts
  match slot, thread with
  | none, .waiting op _ =>
      match startOf op with
      | some commandId => [{ commandId, handed := true, attempts }]
      | none => []
  | some index, .ended (.ok _) =>
      match advance.callbacks[index]?.bind fun callback => startOf callback.1 with
      | some commandId =>
          if advance.starting = some commandId then [{ commandId, handed := false, attempts }] else []
      | none => []
  | _, _ => []

def isOver : Thread → Bool
  | .ended _ => true
  | _ => false

def resumes (world : World) (key : Nat) (slot : Option Nat) (evidence : String → TurnEvidence) : World :=
  match world.advances key with
  | none => world
  | some advance =>
      match advance.thread slot with
      | some (.ready program) =>
          let (thread, after) := program.settle (world.localOf advance evidence)
          let ended := slot.isNone && isOver thread
          let moved := { advance with
            execution := after.execution
            calls := callOf advance.lease thread ++ advance.calls
            released := advance.released || ended }
          let next := { world with
            memory := Function.update world.memory advance.worker after.memory
            nextId := after.nextId
            running := if ended then Function.update world.running advance.worker none else world.running
            sendings := world.sent advance slot thread ++ world.sendings }
          next.put key (moved.setThread slot thread)
      | _ => world

def begins (options : ControllerOptions) (world : World) (worker key : Nat) : World :=
  if world.stopping worker = true ∨ (world.running worker).isSome ∨ (world.advances key).isSome then world
  else
    match claimRecord world.record worker world.clock options.leaseMs with
    | none => world
    | some claimed =>
        match claimed.lease with
        | none => world
        | some lease =>
            { (world.store claimed) with
              running := Function.update world.running worker (some key) }.put key {
                worker, lease, execution := claimed, main := .ready (advance options lease) }

def callsBack (world : World) (key call : Nat) : World :=
  match world.advances key with
  | none => world
  | some advance =>
      match advance.calls[call]? with
      | none => world
      | some op =>
          match beforeSend advance.lease op with
          | none => world
          | some program => world.put key { advance with callbacks := advance.callbacks ++ [(op, .ready program)] }

def operatorPatches (options : ControllerOptions) (world : World) (view : Nat) (change : OperatorChange) : World :=
  match world.views[view]? with
  | none => world
  | some execution =>
      let drawn := { world with nextId := world.nextId + 1 }
      match operatorPatch execution (options.ids.uuid world.nextId) world.clock change with
      | .error _ => drawn
      | .ok patch =>
          match updateRecord world.record execution.revision patch none world.clock with
          | .error _ => drawn
          | .ok record => drawn.store record

def step (options : ControllerOptions) (world : World) : Event → World
  | .tick now => { world with clock := now }
  | .begins worker key => world.begins options worker key
  | .performs key slot reply driver => world.performs options key slot reply driver
  | .resumes key slot evidence => world.resumes key slot evidence
  | .callsBack key call => world.callsBack key call
  | .operatorReads => { world with views := world.views ++ [world.record] }
  | .operatorPatches view change => world.operatorPatches options view change
  | .closes worker => { world with stopping := Function.update world.stopping worker true }
  | .cleared worker =>
      if world.stopping worker = true ∧ world.running worker = none then
        { world with memory := Function.update world.memory worker {} }
      else world
  | .crashes worker =>
      { world with
        memory := Function.update world.memory worker {}
        stopping := Function.update world.stopping worker false
        running := Function.update world.running worker none
        advances := fun key => (world.advances key).filter fun advance => advance.worker ≠ worker }

/-- Time does not go back. -/
def allowed (world : World) : Event → Prop
  | .tick now => world.clock ≤ now
  | _ => True

def created (input : CreateManagedPlanExecution) (world : World) : Prop :=
  ∃ clock, world = { record := newPlanExecution input, clock, past := [newPlanExecution input] }

end World

end SpaceApp.Plans
