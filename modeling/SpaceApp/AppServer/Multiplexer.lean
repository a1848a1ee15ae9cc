import SpaceApp.Foundation.Json

/-! The socket multiplexer (`socket-multiplexer.ts`): many clients, one of them primary, before a single-client app server.

A message is its JSON by the fields the multiplexer knows. Two ids have one key only if they are the same id, so ids stand for their keys.
A frame that is refused unread is an event of its own; diagnostics and the socket path are left out.
-/

set_option autoImplicit false

namespace SpaceApp.AppServer.Routing

open SpaceApp.Foundation

inductive JsonRpcId where
  | number (value : JsNumber)
  | text (value : JsString)
  | null
  deriving DecidableEq

structure JsonRpcMessage where
  id : Option JsonRpcId := none
  method : Option String := none
  params : Option JsValue := none
  result : Option JsValue := none
  error : Option JsValue := none
  other : JsonObject JsNumber := []

/-- The method, unless it is empty. -/
def JsonRpcMessage.calls (message : JsonRpcMessage) : Option String := message.method.filter fun method => method ≠ ""

def truthy : JsValue → Bool
  | .null => false
  | .bool value => value
  | .number value => value ≠ .finite 0 && value ≠ .nan
  | .string text => text ≠ []
  | .array _ => true
  | .object _ => true

def asRecord (value : Option JsValue) : Option (JsonObject JsNumber) := value.bind Json.fields?

def stringField (record : Option (JsonObject JsNumber)) (name : String) : Option JsString := (get? record name).bind Json.filled?

def setField (record : JsonObject JsNumber) (name : String) (value : JsValue) : JsonObject JsNumber := setProperty record (js name) value

def responseForClient (message : JsonRpcMessage) (id : JsonRpcId) : JsonRpcMessage :=
  { message with id := some id, method := none, params := none }

inductive RuntimeMode where
  | build | plan
  deriving DecidableEq

structure CodexCliModeDefaultPair where
  modelId : JsString
  reasoningEffort : JsString
  deriving DecidableEq

structure CodexCliModeDefaultsProjection where
  revision : String
  build : CodexCliModeDefaultPair
  plan : CodexCliModeDefaultPair
  deriving DecidableEq

def CodexCliModeDefaultsProjection.defaults (projection : CodexCliModeDefaultsProjection) : RuntimeMode → CodexCliModeDefaultPair
  | .build => projection.build
  | .plan => projection.plan

def modeNamed (value : Option JsValue) : Option RuntimeMode :=
  match value.bind Json.text? with
  | some text => if text = js "default" then some .build else if text = js "plan" then some .plan else none
  | none => none

def runtimeMode (params : Option JsValue) : Option RuntimeMode :=
  modeNamed (get? (asRecord (get? (asRecord params) "collaborationMode")) "mode")

def runtimePair (params : Option JsValue) : Option CodexCliModeDefaultPair := do
  let record := asRecord params
  let settings := asRecord (get? (asRecord (get? record "collaborationMode")) "settings")
  let modelId ← stringField record "model" <|> stringField settings "model"
  let reasoningEffort ← stringField record "effort" <|> stringField settings "reasoning_effort"
  return { modelId, reasoningEffort }

def rewriteModeParams (params : Option JsValue) (pair : CodexCliModeDefaultPair) : JsonObject JsNumber :=
  let record := setField (setField ((asRecord params).getD []) "model" (.string pair.modelId)) "effort" (.string pair.reasoningEffort)
  match asRecord (get? (some record) "collaborationMode") with
  | none => record
  | some collaborationMode =>
    let settings := (asRecord (get? (some collaborationMode) "settings")).getD []
    setField record "collaborationMode" (.object (setField collaborationMode "settings" (.object
      (setField (setField settings "model" (.string pair.modelId)) "reasoning_effort" (.string pair.reasoningEffort)))))

def rewriteCollaborationModes (message : JsonRpcMessage) (projection : Option CodexCliModeDefaultsProjection) : JsonRpcMessage :=
  match projection, asRecord message.result with
  | some projection, some result =>
    match (get? (some result) "data").bind Json.items? with
    | none => message
    | some data =>
      let rewrite := fun value =>
        match asRecord (some value), modeNamed (get? (asRecord (some value)) "mode") with
        | some preset, some mode =>
          let pair := projection.defaults mode
          .object (setField (setField preset "model" (.string pair.modelId)) "reasoning_effort" (.string pair.reasoningEffort))
        | _, _ => value
      { message with result := some (.object (setField result "data" (.array (data.map rewrite)))) }
  | _, _ => message

def selectingMethods : List String := ["thread/start", "thread/resume", "thread/fork"]

/-- What the multiplexer knows of the thread in front of the user. -/
structure Threads where
  currentThreadId : Option JsString := none
  primaryThreadId : Option JsString := none
  primarySelectionGeneration : Nat := 0
  primarySelectionPending : Bool := false
  currentMode : Option RuntimeMode := none
  currentPair : Option CodexCliModeDefaultPair := none
  manualPair : Option CodexCliModeDefaultPair := none
  preserveThreadPairUntilModeSwitch : Bool := false
  turnActive : Bool := false
  deferredPair : Option CodexCliModeDefaultPair := none
  projection : Option CodexCliModeDefaultsProjection := none
  deriving DecidableEq

namespace Threads

variable (threads : Threads)

def resetThreadState (preservePair : Bool) (threadId : Option JsString) : Threads :=
  { threads with
    currentThreadId := threadId
    currentMode := none
    currentPair := none
    manualPair := none
    preserveThreadPairUntilModeSwitch := preservePair
    turnActive := false
    deferredPair := none }

def projectionPair (mode : RuntimeMode) : Option CodexCliModeDefaultPair := threads.projection.map fun projection => projection.defaults mode

/-- A message under a mode; what another mode left goes. -/
def enterMode (mode : RuntimeMode) (switched : Bool) : Threads :=
  { threads with
    currentMode := some mode
    manualPair := if switched then none else threads.manualPair
    preserveThreadPairUntilModeSwitch := if switched then false else threads.preserveThreadPairUntilModeSwitch }

/-- Settings or a turn get the mode's pair. -/
def rewriteModeMessage (mode : RuntimeMode) (switched : Bool) (message : JsonRpcMessage) : Threads × JsonRpcMessage :=
  if threads.preserveThreadPairUntilModeSwitch && !switched then
    ({ threads with currentPair := (runtimePair message.params).or threads.currentPair }, message)
  else
    match threads.manualPair.or (threads.projectionPair mode) with
    | none => (threads, message)
    | some pair =>
      if threads.turnActive && switched then
        ({ threads with deferredPair := some pair },
          match threads.currentPair with
          | some current => { message with params := some (.object (rewriteModeParams message.params current)) }
          | none => message)
      else
        ({ threads with currentPair := some pair, deferredPair := none },
          { message with params := some (.object (rewriteModeParams message.params pair)) })

def rewriteRuntimeMessage (message : JsonRpcMessage) : Threads × JsonRpcMessage :=
  let threadId := stringField (asRecord message.params) "threadId"
  let addressed := { threads with currentThreadId := threadId.or threads.currentThreadId }
  if message.method = some "thread/start" then (addressed.resetThreadState false threadId, message)
  else if message.method = some "thread/resume" ∨ message.method = some "thread/fork" then (addressed.resetThreadState true threadId, message)
  else if message.method ≠ some "thread/settings/update" ∧ message.method ≠ some "turn/start" then (addressed, message)
  else
    match runtimeMode message.params with
    | none =>
      match runtimePair message.params with
      | some pair => ({ addressed with manualPair := some pair, currentPair := some pair }, message)
      | none => (addressed, message)
    | some mode =>
      let switched := addressed.currentMode.any fun current => current ≠ mode
      (addressed.enterMode mode switched).rewriteModeMessage mode switched message

def Rewritten (message after : JsonRpcMessage) : Prop :=
  after = message ∨ ∃ pair, after = { message with params := some (.object (rewriteModeParams message.params pair)) }

/-- What a rewriting under a mode leaves of the thread. -/
structure SameThread (threads after : Threads) : Prop where
  currentThreadId : after.currentThreadId = threads.currentThreadId
  primaryThreadId : after.primaryThreadId = threads.primaryThreadId
  generation : after.primarySelectionGeneration = threads.primarySelectionGeneration
  selecting : after.primarySelectionPending = threads.primarySelectionPending
  turnActive : after.turnActive = threads.turnActive

theorem rewriteModeMessage_same (mode : RuntimeMode) (switched : Bool) (message : JsonRpcMessage) :
    SameThread threads (threads.rewriteModeMessage mode switched message).1 ∧
      Rewritten message (threads.rewriteModeMessage mode switched message).2 := by
  unfold rewriteModeMessage
  split
  · exact ⟨⟨rfl, rfl, rfl, rfl, rfl⟩, .inl rfl⟩
  · split
    · exact ⟨⟨rfl, rfl, rfl, rfl, rfl⟩, .inl rfl⟩
    · next pair _ =>
      split
      · refine ⟨⟨rfl, rfl, rfl, rfl, rfl⟩, ?_⟩
        split
        · next current _ => exact .inr ⟨current, rfl⟩
        · exact .inl rfl
      · exact ⟨⟨rfl, rfl, rfl, rfl, rfl⟩, .inr ⟨pair, rfl⟩⟩

/-- A client's request makes its thread the current one; a selection forgets what was known of it. -/
theorem rewriteRuntimeMessage_spec (message : JsonRpcMessage) :
    let selects := message.method.any selectingMethods.contains
    let threadId := stringField (asRecord message.params) "threadId"
    SameThread { threads with
        currentThreadId := if selects then threadId else threadId.or threads.currentThreadId
        turnActive := threads.turnActive && !selects } (threads.rewriteRuntimeMessage message).1 ∧
      Rewritten message (threads.rewriteRuntimeMessage message).2 := by
  by_cases start : message.method = some "thread/start"
  · have selects : message.method.any selectingMethods.contains = true := by rw [start]; decide
    unfold rewriteRuntimeMessage
    simp only [selects, if_pos start, if_true, Bool.not_true, Bool.and_false]
    exact ⟨⟨rfl, rfl, rfl, rfl, rfl⟩, .inl rfl⟩
  by_cases moves : message.method = some "thread/resume" ∨ message.method = some "thread/fork"
  · have selects : message.method.any selectingMethods.contains = true := by rcases moves with moves | moves <;> rw [moves] <;> decide
    unfold rewriteRuntimeMessage
    simp only [selects, if_neg start, if_pos moves, if_true, Bool.not_true, Bool.and_false]
    exact ⟨⟨rfl, rfl, rfl, rfl, rfl⟩, .inl rfl⟩
  have selects : message.method.any selectingMethods.contains = false := by
    cases isMethod : message.method with
    | none => rfl
    | some method =>
      rw [isMethod] at start moves
      simp only [Option.some.injEq, not_or] at start moves
      simp [selectingMethods, start, moves]
  unfold rewriteRuntimeMessage
  simp only [selects, if_neg start, if_neg moves, Bool.not_false, Bool.and_true, Bool.false_eq_true, if_false]
  split
  · exact ⟨⟨rfl, rfl, rfl, rfl, rfl⟩, .inl rfl⟩
  · split
    · split <;> exact ⟨⟨rfl, rfl, rfl, rfl, rfl⟩, .inl rfl⟩
    · obtain ⟨same, rewritten⟩ := rewriteModeMessage_same (enterMode _ _ _) _ _ message
      exact ⟨{ same with }, rewritten⟩

end Threads

structure ClientState where
  id : Nat
  isOpen : Bool := true
  listed : Bool := true
  clientName : Option JsString := none
  primaryReplacementEligible : Bool
  initializeRequested : Bool := false
  deriving DecidableEq

structure PendingRequest where
  clientId : Option Nat
  clientRequestId : JsonRpcId
  method : String
  primarySelectionGeneration : Option Nat := none
  /-- Which of the requests passed on it is; no step reads it. -/
  serial : Option Nat := none
  deriving DecidableEq

structure InitializeWaiter where
  clientId : Nat
  clientRequestId : JsonRpcId
  deriving DecidableEq

def readOnlySecondaryRpcMethods : List String := ["thread/list", "thread/read"]

def allowedCodexAppServerSocketRpcMethods : List String :=
  ["account/rateLimits/read", "initialize", "model/list", "thread/list", "thread/read", "thread/turns/list", "thread/settings/update",
    "thread/name/set", "turn/interrupt", "turn/start"]

def allowsSecondary (clientName : Option JsString) (method : String) : Bool :=
  if clientName = some (js "space") then allowedCodexAppServerSocketRpcMethods.contains method
  else readOnlySecondaryRpcMethods.contains method

def firstRequestId : Nat := 1000000000

def MAX_SAFE_INTEGER : Nat := 9007199254740991

structure Sender where
  clientId : Nat
  primary : Bool
  clientName : Option JsString
  deriving DecidableEq

/-- Why a client is written to. -/
inductive Reason where
  | initialized
  | told
  | asked
  | refused
  | answered (serial : Option Nat) (upstreamId : JsonRpcId)
  deriving DecidableEq

inductive Written where
  | upstream (sender : Option Sender) (message : JsonRpcMessage)
  | client (clientId : Nat) (reason : Reason) (message : JsonRpcMessage)

structure Forwarded where
  clientId : Nat
  clientRequestId : JsonRpcId
  upstreamId : Nat
  deriving DecidableEq

structure Selection where
  serial : Nat
  answer : Option JsonRpcMessage := none
  newest : Bool := false

structure Settings where
  threadId : JsString
  addressed : Option JsString
  running : List JsString
  deriving DecidableEq

/-- A guarded update passed on, and the selections before it. -/
structure Guarded where
  message : JsonRpcMessage
  selections : List Selection

/-- What no step reads. -/
structure History where
  written : List Written := []
  requests : List Forwarded := []
  drawn : Nat := 0
  asked : List (JsonRpcId × Nat) := []
  issued : List JsonRpcId := []
  /-- The thread the primary last started, resumed, forked or addressed, and its last selection while that counts. -/
  addressed : Option JsString := none
  selecting : Option Nat := none
  running : List JsString := []
  selections : List Selection := []
  settings : List Settings := []
  guarded : List Guarded := []

structure Multiplexer where
  upstreamOpen : Bool := true
  connections : List ClientState := []
  pending : List (JsonRpcId × PendingRequest) := []
  serverRequestIds : List JsonRpcId := []
  initializeWaiters : List InitializeWaiter := []
  nextClientId : Nat := 0
  nextUpstreamRequestId : Nat := firstRequestId
  primaryClientId : Option Nat := none
  initializeUpstreamId : Option Nat := none
  cachedInitializeResponse : Option JsonRpcMessage := none
  upstreamInitialized : Bool := false
  closing : Bool := false
  primaryReplacementTimer : Bool := false
  threads : Threads := {}
  history : History := {}

inductive MultiplexerEvent where
  | connects
  | clientSends (clientId : Nat) (message : JsonRpcMessage)
  | clientBreaks (clientId : Nat)
  | clientCloses (clientId : Nat)
  | upstreamSends (message : JsonRpcMessage)
  | upstreamFails (refused : Bool)
  | replacementTimesOut
  | projects (applyToThread : Bool) (next : CodexCliModeDefaultsProjection)
  | closes
  | closed

namespace Multiplexer

variable (state : Multiplexer)

def write (written : Written) : Multiplexer :=
  { state with history := { state.history with written := state.history.written ++ [written] } }

def writeUpstream (sender : Option Sender) (message : JsonRpcMessage) : Multiplexer :=
  if state.upstreamOpen then state.write (.upstream sender message) else state

/-- `writeMessage` to a client's socket. -/
def writeClient (clientId : Nat) (reason : Reason) (message : JsonRpcMessage) : Multiplexer :=
  if state.connections.any fun client => client.id = clientId && client.isOpen then state.write (.client clientId reason message) else state

def client (clientId : Nat) : Option ClientState := state.connections.find? fun client => client.id = clientId && client.listed

def updateClient (clientId : Nat) (change : ClientState → ClientState) : Multiplexer :=
  { state with connections := state.connections.map fun client => if client.id = clientId then change client else client }

def closeSocket (clientId : Nat) : Multiplexer := state.updateClient clientId fun client => { client with isOpen := false }

def closeClients : Multiplexer :=
  { state with connections := state.connections.map fun client =>
      { client with isOpen := client.isOpen && !client.listed, listed := false } }

def closeForUpstreamFailure : Multiplexer :=
  { state with primaryReplacementTimer := false, primaryClientId := none }.closeClients

def isPrimary (clientId : Nat) : Bool := state.primaryClientId = some clientId

def sender (client : ClientState) : Sender := {
  clientId := client.id
  primary := state.isPrimary client.id
  clientName := client.clientName }

/-- `nextRequestId`; the id is the one drawn before. -/
def nextRequestId : Multiplexer :=
  { state with
    nextUpstreamRequestId :=
      if MAX_SAFE_INTEGER ≤ state.nextUpstreamRequestId + 1 then firstRequestId else state.nextUpstreamRequestId + 1
    history := { state.history with drawn := state.history.drawn + 1 } }

def numberId (id : Nat) : JsonRpcId := .number (.finite id)

def setPending (id : Nat) (request : PendingRequest) : Multiplexer :=
  { state with pending := (numberId id, request) :: state.pending.filter fun entry => entry.1 ≠ numberId id }

def settingsMessage (id : Nat) (threadId : JsString) (pair : CodexCliModeDefaultPair) : JsonRpcMessage := {
  id := some (numberId id)
  method := some "thread/settings/update"
  params := some (.object [(js "threadId", .string threadId), (js "model", .string pair.modelId),
    (js "effort", .string pair.reasoningEffort)]) }

def sendInternalSettings (pair : CodexCliModeDefaultPair) : Multiplexer :=
  match state.threads.currentThreadId with
  | none => state
  | some threadId =>
    if !state.upstreamOpen then state
    else
      let id := state.nextUpstreamRequestId
      let update : Settings := {
        threadId
        addressed := state.history.addressed
        running := state.history.running }
      let drawn := state.nextRequestId.setPending id {
        clientId := none
        clientRequestId := numberId id
        method := "thread/settings/update" }
      { drawn with
        threads := { drawn.threads with currentPair := some pair }
        history := { drawn.history with settings := drawn.history.settings ++ [update] } }.writeUpstream none
          (settingsMessage id threadId pair)

def scheduleProjectionPair (pair : CodexCliModeDefaultPair) : Multiplexer :=
  if state.threads.turnActive then { state with threads := { state.threads with deferredPair := some pair } }
  else
    let undeferred := { state with threads := { state.threads with deferredPair := none } }
    if state.threads.currentPair = some pair then undeferred else undeferred.sendInternalSettings pair

/-- `refreshProjection` behind its read. -/
def refreshProjection (applyToThread : Bool) (next : CodexCliModeDefaultsProjection) : Multiplexer :=
  if state.threads.projection.any fun projection => projection.revision = next.revision then state
  else
    let projected := { state with threads := { state.threads with projection := some next } }
    match state.threads.currentMode with
    | none => projected
    | some mode =>
      if applyToThread && state.threads.currentThreadId.isSome && state.threads.manualPair.isNone
          && !state.threads.preserveThreadPairUntilModeSwitch then
        projected.scheduleProjectionPair (next.defaults mode)
      else projected

def initializeResponseForClient (cached : JsonRpcMessage) (id : JsonRpcId) : JsonRpcMessage :=
  let response := responseForClient cached id
  if response.error.any truthy then response
  else
    let current := if state.threads.primarySelectionPending then none else state.threads.primaryThreadId
    { response with result := some (.object (setField ((asRecord response.result).getD []) "spaceCurrentThreadId"
        ((current.map Json.string).getD .null))) }

def routeInitializeResponse (message : JsonRpcMessage) : Multiplexer :=
  let cached := { message with id := none }
  let routed := state.initializeWaiters.foldl (fun state waiter =>
    if (state.client waiter.clientId).isSome then
      state.writeClient waiter.clientId .initialized (state.initializeResponseForClient cached waiter.clientRequestId)
    else state) { state with cachedInitializeResponse := some cached }
  { routed with initializeWaiters := [], initializeUpstreamId := none }

def threadOf (message : JsonRpcMessage) : Option JsString := stringField (asRecord message.params) "threadId"

def answeredThread (message : JsonRpcMessage) : Option (JsonObject JsNumber) := asRecord (get? (asRecord message.result) "thread")

def turnStarted (message : JsonRpcMessage) : Multiplexer :=
  { state with
    threads := { state.threads with turnActive := true, currentThreadId := (threadOf message).or state.threads.currentThreadId }
    history := { state.history with running := state.history.running ++ (threadOf message).toList } }

def turnCompleted (message : JsonRpcMessage) : Multiplexer :=
  let completed := { state with
    threads := { state.threads with turnActive := false, currentThreadId := (threadOf message).or state.threads.currentThreadId }
    history := { state.history with running := match threadOf message with
      | some threadId => state.history.running.erase threadId
      | none => state.history.running } }
  match state.threads.deferredPair with
  | some pair => { completed with threads := { completed.threads with deferredPair := none } }.sendInternalSettings pair
  | none => completed

/-- A request of the server is for the primary, everything else for all. -/
def deliver (message : JsonRpcMessage) : Multiplexer :=
  match message.id with
  | some id =>
    let issued := { state with history := { state.history with issued := state.history.issued ++ [id] } }
    match state.primaryClientId with
    | none => issued
    | some primaryClientId =>
      if (state.client primaryClientId).isNone then issued
      else
        { issued with
          serverRequestIds := if id ∈ state.serverRequestIds then state.serverRequestIds else state.serverRequestIds ++ [id]
          history := { issued.history with asked := state.history.asked ++ [(id, primaryClientId)] } }.writeClient
            primaryClientId .asked message
  | none => (state.connections.filter (·.listed)).foldl (fun state client => state.writeClient client.id .told message) state

def noteAnswer (request : PendingRequest) (message : JsonRpcMessage) : Multiplexer :=
  { state with history := { state.history with
      selections := state.history.selections.map fun selection =>
        if some selection.serial = request.serial then
          { selection with
            answer := some message
            newest := request.primarySelectionGeneration = some state.threads.primarySelectionGeneration }
        else selection
      addressed :=
        if request.serial.isSome && request.serial = state.history.selecting then
          (stringField (answeredThread message) "id").or state.history.addressed
        else state.history.addressed } }

def ephemeral (message : JsonRpcMessage) : Bool :=
  match get? (answeredThread message) "ephemeral" with
  | some (.bool true) => true
  | _ => false

def selected (request : PendingRequest) (message : JsonRpcMessage) : Multiplexer :=
  let thread := answeredThread message
  let counts := request.clientId = state.primaryClientId
    && request.primarySelectionGeneration = some state.threads.primarySelectionGeneration
  { state.noteAnswer request message with
    threads := { state.threads with
      primarySelectionPending := state.threads.primarySelectionPending && !counts
      primaryThreadId := if counts && !message.error.any truthy && !ephemeral message then stringField thread "id"
        else state.threads.primaryThreadId
      currentThreadId := (stringField thread "id").or state.threads.currentThreadId } }

def answered (id : JsonRpcId) (message : JsonRpcMessage) : Multiplexer :=
  match state.pending.lookup id with
  | none => state
  | some request =>
    let taken := { state with pending := state.pending.filter fun entry => entry.1 ≠ id }
    let settled := if selectingMethods.contains request.method then taken.selected request message else taken
    match request.clientId with
    | none => settled
    | some clientId =>
      if (state.client clientId).isNone then settled
      else
        let response := if request.method = "collaborationMode/list" then rewriteCollaborationModes message state.threads.projection
          else message
        settled.writeClient clientId (.answered request.serial id) (responseForClient response request.clientRequestId)

def handleUpstreamMessage (message : JsonRpcMessage) : Multiplexer :=
  match message.calls with
  | some method =>
    (if method = "turn/started" then state.turnStarted message
      else if method = "turn/completed" then state.turnCompleted message
      else state).deliver message
  | none =>
    match message.id with
    | none => state
    | some id =>
      if state.initializeUpstreamId.any fun upstreamId => id = numberId upstreamId then state.routeInitializeResponse message
      else state.answered id message

def sendInitialize (client : ClientState) (message : JsonRpcMessage) : Multiplexer :=
  match message.id with
  | none => state
  | some id =>
    match state.cachedInitializeResponse with
    | some cached =>
      if (state.client client.id).isSome then
        state.writeClient client.id .initialized (state.initializeResponseForClient cached id)
      else state
    | none =>
      let waiting := { state with
        initializeWaiters := state.initializeWaiters ++ [{ clientId := client.id, clientRequestId := id }] }
      if state.initializeUpstreamId.isSome then waiting
      else
        let upstreamId := state.nextUpstreamRequestId
        { waiting.nextRequestId with initializeUpstreamId := some upstreamId }.writeUpstream (some (state.sender client))
          { message with id := some (numberId upstreamId) }

def initialize_ (client : ClientState) (message : JsonRpcMessage) : Multiplexer :=
  if client.initializeRequested then state.closeSocket client.id
  else
    let named := { client with
      initializeRequested := true
      clientName := stringField (asRecord (get? (asRecord message.params) "clientInfo")) "name" }
    (state.updateClient client.id fun client => { client with
      initializeRequested := true
      clientName := named.clientName }).sendInitialize named message

/-- A newcomer takes the role of a primary that is gone. -/
def takeOver (client : ClientState) : Multiplexer :=
  if state.primaryClientId.isNone && state.primaryReplacementTimer && client.primaryReplacementEligible && client.initializeRequested
      && state.cachedInitializeResponse.isSome then
    { state.updateClient client.id fun client => { client with primaryReplacementEligible := false } with
      primaryClientId := some client.id
      primaryReplacementTimer := false }
  else state

def initialized (client : ClientState) (message : JsonRpcMessage) : Multiplexer :=
  let replaced := state.takeOver client
  if !state.upstreamInitialized && replaced.isPrimary client.id then
    { replaced with upstreamInitialized := true }.writeUpstream (some (replaced.sender client)) message
  else replaced

def noteAddressed (client : ClientState) (message : JsonRpcMessage) : Multiplexer :=
  if !state.isPrimary client.id then state
  else
    let selects := message.method.any selectingMethods.contains && message.id.isSome
    match threadOf message with
    | some threadId => { state with history := { state.history with
        addressed := some threadId
        selecting := if selects then some state.history.requests.length else none } }
    | none =>
      if selects then { state with history := { state.history with addressed := none, selecting := some state.history.requests.length } }
      else state

def notification (client : ClientState) (message : JsonRpcMessage) : Multiplexer :=
  if !state.isPrimary client.id then state.closeSocket client.id
  else (state.noteAddressed client message).writeUpstream (some (state.sender client)) message

def select : Multiplexer :=
  let selection : Selection := { serial := state.history.requests.length }
  { state with
    threads := { state.threads with
      primarySelectionGeneration := state.threads.primarySelectionGeneration + 1
      primarySelectionPending := true }
    history := { state.history with selections := state.history.selections ++ [selection] } }

def selects (client : ClientState) (method : String) : Bool := state.isPrimary client.id && selectingMethods.contains method

def begin_ (client : ClientState) (method : String) (message : JsonRpcMessage) : Multiplexer :=
  let noted := state.noteAddressed client message
  if state.selects client method then noted.select else noted

def noteForwarded (forwarded : Forwarded) (guarded : Option Guarded) : Multiplexer :=
  { state with history := { state.history with
      requests := state.history.requests ++ [forwarded]
      guarded := state.history.guarded ++ guarded.toList } }

/-- A request is passed on under an id of the multiplexer's. -/
def forward (client : ClientState) (id : JsonRpcId) (method : String) (message : JsonRpcMessage) (guarded : Bool) : Multiplexer :=
  let upstreamId := state.nextUpstreamRequestId
  let selecting := state.begin_ client method message
  let drawn := selecting.nextRequestId.setPending upstreamId {
    clientId := some client.id
    clientRequestId := id
    method
    primarySelectionGeneration := if state.selects client method then some selecting.threads.primarySelectionGeneration else none
    serial := some state.history.requests.length }
  let rewritten := drawn.threads.rewriteRuntimeMessage message
  let sent := { rewritten.2 with id := some (numberId upstreamId) }
  let forwarded : Forwarded := {
    clientId := client.id
    clientRequestId := id
    upstreamId }
  let noticed : Guarded := {
    message := sent
    selections := state.history.selections }
  ({ drawn with threads := rewritten.1 }.noteForwarded forwarded (if guarded && state.upstreamOpen then some noticed else none)).writeUpstream
    (some (state.sender client)) sent

def activeTaskChanged (id : JsonRpcId) : JsonRpcMessage := {
  id := some id
  error := some (.object [(js "code", .number (.finite (-32600))), (js "message", .string (js "The active Codex task changed."))]) }

def expectedThread (message : JsonRpcMessage) : Option JsValue :=
  if message.method = some "thread/settings/update" then get? (asRecord message.params) "spaceExpectedPrimaryThreadId" else none

def unguarded (message : JsonRpcMessage) : JsonRpcMessage :=
  let native := fun fields : JsonObject JsNumber => Json.object (fields.filter fun field => field.1 ≠ js "spaceExpectedPrimaryThreadId")
  { message with params := (asRecord message.params).map native }

def confirms (expected : JsValue) (message : JsonRpcMessage) : Bool :=
  !state.threads.primarySelectionPending && state.threads.primaryThreadId.any fun primaryThreadId =>
    expected.text? = some primaryThreadId
      && (get? (asRecord message.params) "threadId").bind Json.text? = some primaryThreadId

def request (client : ClientState) (id : JsonRpcId) (method : String) (message : JsonRpcMessage) : Multiplexer :=
  if !state.isPrimary client.id && !allowsSecondary client.clientName method then state.closeSocket client.id
  else
    match expectedThread message with
    | some expected =>
      if state.confirms expected message then state.forward client id method (unguarded message) true
      else state.writeClient client.id .refused (activeTaskChanged id)
    | none => state.forward client id method message false

def answer (client : ClientState) (message : JsonRpcMessage) : Multiplexer :=
  match message.id with
  | none => state
  | some id =>
    if state.isPrimary client.id && id ∈ state.serverRequestIds then
      { state with serverRequestIds := state.serverRequestIds.filter fun other => other ≠ id }.writeUpstream
        (some (state.sender client)) message
    else state

def handleClientMessage (client : ClientState) (message : JsonRpcMessage) : Multiplexer :=
  match message.calls with
  | some method =>
    if method = "initialize" then state.initialize_ client message
    else if method = "initialized" then state.initialized client message
    else
      match message.id with
      | none => state.notification client message
      | some id => state.request client id method message
  | none => state.answer client message

def connect : Multiplexer :=
  let awaitingPrimaryReplacement := state.primaryClientId.isNone && state.primaryReplacementTimer
  { state with
    nextClientId := state.nextClientId + 1
    connections := state.connections ++ [{
      id := state.nextClientId + 1
      primaryReplacementEligible := awaitingPrimaryReplacement }]
    primaryClientId := if state.primaryClientId.isNone && !awaitingPrimaryReplacement then some (state.nextClientId + 1)
      else state.primaryClientId }

def clientClosed (clientId : Nat) : Multiplexer :=
  let gone := { state with
    connections := state.connections.filter fun client => client.id ≠ clientId
    pending := state.pending.filter fun entry => entry.2.clientId ≠ some clientId
    initializeWaiters := state.initializeWaiters.filter fun waiter => waiter.clientId ≠ clientId }
  if state.isPrimary clientId then
    { gone with
      primaryClientId := none
      serverRequestIds := []
      primaryReplacementTimer := !state.closing || state.primaryReplacementTimer }
  else gone

def step : MultiplexerEvent → Multiplexer
  | .connects => state.connect
  | .clientSends clientId message =>
    match state.connections.find? fun client => client.id = clientId with
    | some client => state.handleClientMessage client message
    | none => state
  | .clientBreaks clientId => state.closeSocket clientId
  | .clientCloses clientId => state.clientClosed clientId
  | .upstreamSends message => state.handleUpstreamMessage message
  | .upstreamFails refused =>
    let failed := { state with upstreamOpen := false }
    if state.closing && !refused then failed else failed.closeForUpstreamFailure
  | .replacementTimesOut =>
    if state.primaryReplacementTimer && state.primaryClientId.isNone && !state.closing then
      { state with primaryReplacementTimer := false, upstreamOpen := false }.closeClients
    else state
  | .projects applyToThread next => state.refreshProjection applyToThread next
  | .closes => if state.closing then state else { state with closing := true, primaryReplacementTimer := false }
  | .closed => if state.closing then { state with upstreamOpen := false }.closeClients else state

end Multiplexer

theorem mem_of_lookup {pending : List (JsonRpcId × PendingRequest)} {id : JsonRpcId} {request : PendingRequest}
    (found : pending.lookup id = some request) : (id, request) ∈ pending := by
  obtain ⟨before, after, split, -⟩ := List.lookup_eq_some_iff.mp found
  rw [split]
  exact List.mem_append_right _ List.mem_cons_self

end SpaceApp.AppServer.Routing
