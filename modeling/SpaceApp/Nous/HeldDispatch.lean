import Mathlib.Data.List.Basic
import Mathlib.Logic.Function.Basic

/-! Held dispatch (`nous/held-dispatch.ts`): texts that wait for a calm server, one queue a pane, each a record with a version.

Texts are lists of characters. A repository call that fails may have taken effect before. Ids are drawn in order.
-/

set_option autoImplicit false

namespace SpaceApp.Nous.HeldDispatch

inductive NousLoadLevel where
  | calm | busy | overloaded
  deriving DecidableEq

inductive HeldPriority where
  | normal | light
  deriving DecidableEq

structure HeldText where
  id : Nat
  text : List Char
  priority : HeldPriority
  heldAt : List Char
  attempts : Nat
  deriving DecidableEq

inductive HeldStatus where
  | held | empty
  deriving DecidableEq

structure HeldTarget where
  roomId : String
  roomName : List Char
  paneId : String
  paneName : List Char
  deriving DecidableEq

structure HeldQueue extends HeldTarget where
  status : HeldStatus
  items : List HeldText
  deriving DecidableEq

def HELD_MAX_ATTEMPTS : Nat := 3

def mayDeliver (level : NousLoadLevel) (priority : HeldPriority) : Bool :=
  level = .calm || (level = .busy && priority = .light)

/-- The record of a queue: its actor and key are where it stands. -/
structure ControlRecord where
  roomId : String
  version : Nat
  value : HeldQueue
  deriving DecidableEq

/-- How a call goes: a call that is lost took effect, and its caller sees it fail. -/
inductive Answer where
  | answers | fails | lost
  deriving DecidableEq

inductive Edit where
  | hold (id : Nat) (text : List Char) (priority : HeldPriority)
  | remove (id : Nat)
  | count (id : Nat) (attempts : Nat)
  deriving DecidableEq

def Edit.apply (now : List Char) : Edit → List HeldText → List HeldText
  | .hold id text priority, items => items ++ [{ id, text, priority, heldAt := now, attempts := 0 }]
  | .remove id, items => items.filter fun entry => entry.id ≠ id
  | .count id attempts, items => items.map fun entry => if entry.id = id then { entry with attempts } else entry

/-- `change`, at its read or at its write of what it made of what it read. -/
structure Change where
  owner : String
  target : HeldTarget
  edit : Edit
  attempt : Nat := 0
  writing : Option (HeldQueue × Nat) := none
  deriving DecidableEq

inductive Outcome where
  | goesOn (change : Change)
  | done (queue : HeldQueue)
  | throws
  deriving DecidableEq

def versionOf (record : Option ControlRecord) : Nat := (record.map (·.version)).getD 0

def itemsOf (record : Option ControlRecord) : List HeldText := (record.map (·.value.items)).getD []

namespace Change

variable (change : Change) (record : Option ControlRecord)

/-- The queue with the edit; the names stay those of the record. -/
def next (now : List Char) : HeldQueue :=
  let items := change.edit.apply now (itemsOf record)
  { change.target with
    roomName := (record.map (·.value.roomName)).getD change.target.roomName
    paneName := (record.map (·.value.paneName)).getD change.target.paneName
    status := if items.isEmpty then .empty else .held
    items }

def fits : Bool := change.writing.any fun (_, version) => version = versionOf record

def writes (answer : Answer) : Bool := answer ≠ .fails && change.fits record

def stored (answer : Answer) : Option ControlRecord :=
  match change.writing with
  | none => record
  | some (next, version) =>
    if change.writes record answer then some { roomId := change.target.roomId, version := version + 1, value := next }
    else record

def proceeds (answer : Answer) (now : List Char) : Outcome :=
  match answer with
  | .answers =>
    match change.writing with
    | none => .goesOn { change with writing := some (change.next record now, versionOf record) }
    | some (next, _) =>
      if change.fits record then .done next
      else if change.attempt + 1 < 8 then .goesOn { change with attempt := change.attempt + 1, writing := none }
      else .throws
  | _ => .throws

end Change

/-- `HH:MM` of an ISO time. -/
def clockOf (heldAt : List Char) : List Char := (heldAt.drop 11).take 5

inductive NoticeKey where
  | heldFailed (id : Nat)
  | heldDelivered
  deriving DecidableEq

structure Notice where
  owner : String
  key : NoticeKey
  line : List Char
  deriving DecidableEq

def failedLine (queue : HeldQueue) (item : HeldText) (error : List Char) : List Char :=
  "A text held for ".toList ++ queue.roomName ++ "/".toList ++ queue.paneName ++ " since ".toList ++ clockOf item.heldAt
    ++ " UTC could not be delivered (3 tries: ".toList ++ error.take 160 ++ "). Its text: \"".toList ++ item.text.take 120
    ++ "\". Send it again or drop it.".toList

def levelText : NousLoadLevel → List Char
  | .calm => "CALM".toList
  | .busy => "BUSY".toList
  | .overloaded => "OVERLOADED".toList

def deliveredLine (level : NousLoadLevel) (panes : List (List Char)) : List Char :=
  "The server is ".toList ++ levelText level ++ ": delivered ".toList ++ (toString panes.length).toList ++ " held text".toList
    ++ (if panes.length = 1 then [] else ['s']) ++ " to ".toList ++ (", ".toList).intercalate panes ++ ".".toList

/-- How a delivery goes: one that fails may have reached the pane. -/
inductive Delivery where
  | sent
  | failed (arrived : Bool) (error : List Char)
  deriving DecidableEq

def Delivery.arrived : Delivery → Bool
  | .sent => true
  | .failed arrived _ => arrived

inductive Stage where
  | listing
  | levelling (queues : List (String × HeldQueue))
  | delivering (owner : String) (queue : HeldQueue) (item : HeldText)
  | changing (owner : String) (queue : HeldQueue) (item : HeldText) (error : Option (List Char)) (change : Change)
  | noticing (owner : String) (paneId : String) (notice : Notice) (id : Nat)
  | telling (delivered : List (String × List (List Char)))
  deriving DecidableEq

structure Tick where
  stage : Stage := .listing
  level : NousLoadLevel := .calm
  rest : List (String × HeldQueue) := []
  delivered : List (String × List (List Char)) := []
  failed : Nat := 0
  deriving DecidableEq

namespace Tick

/-- The next queue whose oldest text the load allows, or the notices of what was delivered. -/
def next (tick : Tick) : List (String × HeldQueue) → Option Tick
  | [] => if tick.delivered = [] then none else some { tick with rest := [], stage := .telling tick.delivered }
  | (owner, queue) :: rest =>
    match queue.items with
    | [] => tick.next rest
    | item :: _ =>
      if mayDeliver tick.level item.priority then some { tick with rest, stage := .delivering owner queue item }
      else tick.next rest

def deliveredTo (tick : Tick) (owner : String) (pane : List Char) : Tick :=
  { tick with delivered :=
      if tick.delivered.any fun entry => entry.1 = owner then
        tick.delivered.map fun entry => if entry.1 = owner then (owner, entry.2 ++ [pane]) else entry
      else tick.delivered ++ [(owner, [pane])] }

end Tick

/-- The change after a try: the text goes, or its tries are counted. -/
def afterTry (item : HeldText) (error : Option (List Char)) : Edit :=
  if error.isNone || decide (HELD_MAX_ATTEMPTS ≤ item.attempts + 1) then .remove item.id
  else .count item.id (item.attempts + 1)

structure Accepted where
  owner : String
  paneId : String
  id : Nat
  waiting : Nat
  deriving DecidableEq

structure Try where
  owner : String
  paneId : String
  id : Nat
  delivery : Delivery
  deriving DecidableEq

structure World where
  records : String → String → Option ControlRecord := fun _ _ => none
  holds : Nat → Option (Nat × Change) := fun _ => none
  tick : Option Tick := none
  drawn : Nat := 0
  inbox : List Notice := []
  /-- What no step reads: the holds that returned, each queue's texts as they were put in, the tries. -/
  accepted : List Accepted := []
  held : String → String → List Nat := fun _ _ => []
  tries : List Try := []

inductive HeldEvent where
  | holds (name : Nat) (owner : String) (target : HeldTarget) (text : List Char) (priority : HeldPriority)
  | holdProceeds (name : Nat) (answer : Answer) (now : List Char)
  | tickStarts
  /-- The queues come in some order; those past the repository's limit do not. -/
  | lists (order : List (String × String)) (fails : Bool)
  | levels (level : NousLoadLevel) (fails : Bool)
  | delivers (delivery : Delivery)
  | changes (answer : Answer) (now : List Char)
  | notices (answer : Answer)
  | dies
  deriving DecidableEq

namespace World

def store (world : World) (owner paneId : String) (record : Option ControlRecord) : World :=
  { world with records := fun owner_ paneId_ =>
      if owner_ = owner ∧ paneId_ = paneId then record else world.records owner_ paneId_ }

def call (world : World) (change : Change) (answer : Answer) : World :=
  let record := world.records change.owner change.target.paneId
  let after := world.store change.owner change.target.paneId (change.stored record answer)
  match change.edit with
  | .hold id _ _ =>
    if change.writes record answer then
      { after with held := fun owner paneId =>
          if owner = change.owner ∧ paneId = change.target.paneId then world.held owner paneId ++ [id]
          else world.held owner paneId }
    else after
  | _ => after

def outcome (world : World) (change : Change) (answer : Answer) (now : List Char) : Outcome :=
  change.proceeds (world.records change.owner change.target.paneId) answer now

def wait (world : World) (name : Nat) (hold : Option (Nat × Change)) : World :=
  { world with holds := Function.update world.holds name hold }

def holdProceed (world : World) (name id : Nat) (change : Change) (answer : Answer) (now : List Char) : World :=
  match world.outcome change answer now with
  | .goesOn next => (world.call change answer).wait name (some (id, next))
  | .done queue => { (world.call change answer).wait name none with
      accepted := world.accepted ++ [{
        owner := change.owner
        paneId := change.target.paneId
        id
        waiting := queue.items.length }] }
  | .throws => (world.call change answer).wait name none

def atTick (world : World) (tick : Option Tick) : World := { world with tick }

def queues (world : World) (order : List (String × String)) : List (String × HeldQueue) :=
  order.dedup.filterMap fun (owner, paneId) =>
    ((world.records owner paneId).filter fun record => record.value.status = .held && !record.value.items.isEmpty).map
      fun record => (owner, record.value)

def deliver (world : World) (tick : Tick) (owner : String) (queue : HeldQueue) (item : HeldText) (delivery : Delivery) : World :=
  let error := match delivery with
    | .sent => none
    | .failed _ error => some error
  { world with
    tries := world.tries ++ [{ owner, paneId := queue.paneId, id := item.id, delivery }]
    tick := some { tick with stage := .changing owner queue item error {
      owner
      target := queue.toHeldTarget
      edit := afterTry item error } } }

def changed (world : World) (tick : Tick) (owner : String) (queue : HeldQueue) (item : HeldText) (error : Option (List Char)) :
    World :=
  match error with
  | none =>
    let told := tick.deliveredTo owner (queue.roomName ++ ['/'] ++ queue.paneName)
    world.atTick (told.next tick.rest)
  | some error =>
    if HELD_MAX_ATTEMPTS ≤ item.attempts + 1 then
      let notice : Notice := { owner, key := .heldFailed item.id, line := failedLine queue item error }
      world.atTick (some { tick with failed := tick.failed + 1, stage := .noticing owner queue.paneId notice item.id })
    else world.atTick (tick.next tick.rest)

def tickProceed (world : World) (tick : Tick) : HeldEvent → World
  | .lists order fails =>
    if tick.stage ≠ .listing then world
    else if fails || (world.queues order).isEmpty then world.atTick none
    else world.atTick (some { tick with stage := .levelling (world.queues order) })
  | .levels level fails =>
    match tick.stage with
    | .levelling queues => if fails then world.atTick none else world.atTick ({ tick with level }.next queues)
    | _ => world
  | .delivers delivery =>
    match tick.stage with
    | .delivering owner queue item => world.deliver tick owner queue item delivery
    | _ => world
  | .changes answer now =>
    match tick.stage with
    | .changing owner queue item error change =>
      match world.outcome change answer now with
      | .goesOn next => (world.call change answer).atTick (some { tick with stage := .changing owner queue item error next })
      | .done _ => (world.call change answer).changed tick owner queue item error
      | .throws => (world.call change answer).atTick none
    | _ => world
  | .notices answer =>
    match tick.stage with
    | .noticing _ _ notice _ =>
      let told : World := { world with inbox := if answer = .fails then world.inbox else world.inbox ++ [notice] }
      if answer = .answers then told.atTick (tick.next tick.rest) else told.atTick none
    | .telling [] => world.atTick none
    | .telling ((owner, panes) :: rest) =>
      let notice : Notice := { owner, key := .heldDelivered, line := deliveredLine tick.level panes }
      let told : World := { world with inbox := if answer = .fails then world.inbox else world.inbox ++ [notice] }
      if answer = .answers ∧ rest ≠ [] then told.atTick (some { tick with stage := .telling rest }) else told.atTick none
    | _ => world
  | _ => world

def step (world : World) : HeldEvent → World
  | .holds name owner target text priority =>
    if (world.holds name).isSome then world
    else
      { world.wait name (some (world.drawn, { owner, target, edit := .hold world.drawn text priority })) with
        drawn := world.drawn + 1 }
  | .holdProceeds name answer now =>
    match world.holds name with
    | none => world
    | some (id, change) => world.holdProceed name id change answer now
  | .tickStarts => if world.tick.isSome then world else world.atTick (some {})
  | .dies => { world with holds := fun _ => none, tick := none }
  | event =>
    match world.tick with
    | none => world
    | some tick => world.tickProceed tick event

end World

end SpaceApp.Nous.HeldDispatch
