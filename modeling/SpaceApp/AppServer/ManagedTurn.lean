import Mathlib.Data.Int.Notation
import SpaceApp.Foundation.JsText

/-! The observed start of one Codex turn (`managed-turn.ts`): a connection of its own, whose notifications are the evidence.

A frame is what is read of its JSON. What `codexRetryableFailure` finds in an error is part of the error.
-/

set_option autoImplicit false

namespace SpaceApp.AppServer

open SpaceApp.Foundation

structure StartTurnInput where
  threadId : String
  prompt : String
  clientUserMessageId : String
  model : Option String
  reasoningEffort : Option String
  deriving DecidableEq

def isAsciiAlnum (c : Char) : Bool := ('A' ≤ c && c ≤ 'Z') || ('a' ≤ c && c ≤ 'z') || ('0' ≤ c && c ≤ '9')

/-- `^[A-Za-z0-9][A-Za-z0-9<more>]{0,limit}$` -/
def isName (more : List Char) (limit : Nat) (text : String) : Bool :=
  match text.toList with
  | [] => false
  | first :: rest => isAsciiAlnum first && rest.length ≤ limit && rest.all fun c => isAsciiAlnum c || more.contains c

def validInput (socketPath : String) (input : StartTurnInput) : Bool :=
  socketPath.toList.head? = some '/' && (js (trimText input.prompt)).length ≠ 0 && (js (trimText input.prompt)).length ≤ 20000
    && input.threadId ≠ "" && input.clientUserMessageId ≠ "" && isName ['.', '_', ':', '-'] 159 (input.model.getD "")
    && isName ['.', '_', '-'] 79 (input.reasoningEffort.getD "")

/-- A value where a turn's id should be. -/
inductive TurnId where
  | missing
  | text (id : String)
  | other (truthy : Bool)
  deriving DecidableEq

namespace TurnId

def isText : TurnId → Bool
  | .text _ => true
  | _ => false

def truthy : TurnId → Bool
  | .missing => false
  | .text id => id ≠ ""
  | .other truthy => truthy

end TurnId

structure RetryableFailure where
  retryAfterMs : Option Nat
  deriving DecidableEq

inductive Delivery where
  | notSent
  | rejected (failure : Option RetryableFailure)
  | unknown
  deriving DecidableEq

structure NotificationParams where
  threadId : Option String
  model : Option String := none
  effort : Option String := none
  turnId : Option String := none
  turn : TurnId := .missing
  deriving DecidableEq

inductive RpcId where
  | absent
  | number (id : ℤ)
  | other
  deriving DecidableEq

structure RpcError where
  retryable : Option RetryableFailure
  deriving DecidableEq

structure ResultTurn where
  id : TurnId
  status : Option String
  deriving DecidableEq

structure RpcMessage where
  method : Option String := none
  id : RpcId := .absent
  params : Option NotificationParams := none
  error : Option RpcError := none
  turn : Option ResultTurn := none
  deriving DecidableEq

inductive Frame where
  | binary
  | unreadable
  | message (message : RpcMessage)
  deriving DecidableEq

inductive Sending where
  | initializeRequest
  | initialized
  | turnStart (threadId text clientUserMessageId : String) (model effort : Option String)
  deriving DecidableEq

structure AcceptedTurnSelection where
  modelId : Option String
  reasoningEffort : Option String
  threadId : String
  turnId : TurnId
  commandId : String
  observedAt : ℤ
  completedAt : Option ℤ
  deriving DecidableEq

inductive EvidenceStatus where
  | observing | verified | invalid
  deriving DecidableEq

inductive Settlement where
  | resolved (turnId status : String)
  | rejected (delivery : Delivery)
  deriving DecidableEq

inductive ReadyState where
  | connecting | opened | closing
  deriving DecidableEq

/-- What was sent and seen of the thread, in order. -/
inductive Mark where
  | sent
  | accepted (id : TurnId)
  | started (id : TurnId)
  | completed (id : TurnId)
  | settings (model effort : Option String)
  | rerouted (turnId : Option String)
  | closure
  deriving DecidableEq

structure ManagedTurn where
  observedAt : ℤ
  socket : ReadyState := .connecting
  settled : Bool := false
  sent : Bool := false
  closed : Bool := false
  initialized : Bool := false
  startedId : TurnId := .missing
  acceptedId : TurnId := .missing
  completedId : TurnId := .missing
  invalid : Bool := false
  selection : Option AcceptedTurnSelection := none
  completedAt : Option ℤ := none
  deadline : Bool := true
  preparing : Bool := false
  written : List Sending := []
  /-- What no step reads: how the promise was settled, and what was seen. -/
  settlements : List Settlement := []
  seen : List Mark := []
  deriving DecidableEq

inductive TurnEvent where
  | opens
  | frame (frame : Frame) (now : ℤ)
  | prepared (fails : Bool)
  | deadline
  | errors
  | closes
  | callerCloses
  deriving DecidableEq

namespace ManagedTurn

variable (turn : ManagedTurn)

def read : EvidenceStatus × Option AcceptedTurnSelection :=
  if turn.invalid then (.invalid, none)
  else match turn.selection with
    | some selection => (.verified, some selection)
    | none => (.observing, none)

def close : ManagedTurn :=
  { turn with invalid := turn.invalid || turn.selection.isNone, closed := true, deadline := false, socket := .closing }

def settle (settlement : Settlement) : ManagedTurn :=
  { turn with settled := true, settlements := turn.settlements ++ [settlement] }

def fail (rejection : Option Delivery) : ManagedTurn :=
  let failed := { turn with invalid := true }.close
  if turn.settled then failed
  else failed.settle (.rejected (rejection.getD (if turn.sent then .unknown else .notSent)))

/-- None: it throws. -/
def request (sending : Sending) : Option ManagedTurn :=
  if turn.closed || turn.socket ≠ .opened then none else some { turn with written := turn.written ++ [sending] }

variable (input : StartTurnInput)

def finalize : ManagedTurn :=
  if !turn.acceptedId.truthy || !turn.completedId.truthy then turn
  else
    let invalid := turn.invalid || turn.startedId ≠ turn.acceptedId || turn.completedId ≠ turn.acceptedId
    { turn with
      invalid
      selection := if invalid then turn.selection else some {
        modelId := input.model
        reasoningEffort := input.reasoningEffort
        threadId := input.threadId
        turnId := turn.acceptedId
        commandId := input.clientUserMessageId
        observedAt := turn.observedAt
        completedAt := turn.completedAt } }.close

def see (mark : Mark) : ManagedTurn := { turn with seen := turn.seen ++ [mark] }

def notified (method : String) (params : NotificationParams) (now : ℤ) : ManagedTurn :=
  if method = "thread/settings/updated" then
    { turn.see (.settings params.model params.effort) with
      invalid := turn.invalid || params.model ≠ input.model || params.effort ≠ input.reasoningEffort }
  else if method = "model/rerouted" then
    { turn.see (.rerouted params.turnId) with
      invalid := turn.invalid || !turn.acceptedId.truthy
        || params.turnId.elim false fun turnId => TurnId.text turnId = turn.acceptedId }
  else if method = "turn/started" then
    { turn.see (.started params.turn) with
      invalid := turn.invalid || !turn.sent || !params.turn.isText || (turn.startedId.truthy && turn.startedId ≠ params.turn)
      startedId := params.turn }
  else if method = "turn/completed" then
    { turn.see (.completed params.turn) with
      invalid := turn.invalid || !turn.sent || !params.turn.isText
      completedId := params.turn
      completedAt := some now }.finalize input
  else if method ∈ ["thread/closed", "thread/reverted", "thread/deleted", "thread/archived"] then
    { turn.see .closure with invalid := true }
  else turn

def responded (result : Option ResultTurn) : ManagedTurn :=
  match result with
  | some { id := .text id, status := some status } =>
    if status ∈ ["inProgress", "completed", "interrupted", "failed"] then
      ({ turn.see (.accepted (.text id)) with acceptedId := .text id, settled := true, deadline := false }.finalize input).settle
        (.resolved id status)
    else turn.fail none
  | _ => turn.fail none

/-- The response to `initialize`: once. -/
def acknowledged : ManagedTurn :=
  if turn.initialized || turn.socket = .connecting then { turn with initialized := true }.fail none
  else { turn with
    initialized := true
    preparing := true
    written := if turn.socket = .opened then turn.written ++ [.initialized] else turn.written }

def received (message : RpcMessage) (now : ℤ) : ManagedTurn :=
  match message.method with
  | some method =>
    match message.id, message.params with
    | .absent, some params => if params.threadId = some input.threadId then turn.notified input method params now else turn
    | _, _ => turn
  | none =>
    match message.error with
    | some error =>
      turn.fail (if message.id = .number 1 ∧ turn.sent ∧ !turn.acceptedId.truthy ∧ !turn.startedId.truthy ∧ !turn.completedId.truthy
        then some (.rejected error.retryable) else none)
    | none =>
      if message.id = .number 0 then turn.acknowledged
      else if message.id = .number 1 ∧ !turn.settled then turn.responded input message.turn
      else turn.fail none

def prepare (fails : Bool) : ManagedTurn :=
  let ready := { turn with preparing := false }
  if fails || turn.closed || turn.invalid then ready.fail none
  else
    let sent := { ready with sent := true }
    match sent.request (.turnStart input.threadId (trimText input.prompt) input.clientUserMessageId input.model input.reasoningEffort) with
    | some requested => requested.see .sent
    | none => sent.fail none

def step : TurnEvent → ManagedTurn
  | .opens =>
    if turn.socket = .connecting then
      let opened := { turn with socket := .opened }
      (opened.request .initializeRequest).getD (opened.fail none)
    else turn
  | .frame .binary _ => turn.fail none
  | .frame .unreadable _ => turn.fail none
  | .frame (.message message) now => turn.received input message now
  | .prepared fails => if turn.preparing then turn.prepare input fails else turn
  | .deadline => if turn.deadline then turn.fail none else turn
  | .errors => turn.fail none
  | .closes => if turn.closed then turn else { turn with socket := .closing }.fail none
  | .callerCloses =>
    if turn.settlements.any fun settlement => match settlement with | .resolved .. => true | .rejected _ => false then turn.close
    else turn

end ManagedTurn

/-- `startObservedCodexTurn`; none: it throws. -/
def startObservedCodexTurn (socketPath : String) (input : StartTurnInput) (now : ℤ) : Option ManagedTurn :=
  if validInput socketPath input then some { observedAt := now } else none

end SpaceApp.AppServer
