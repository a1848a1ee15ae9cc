import SpaceApp.AppServer.Multiplexer

/-! What the multiplexer's steps do to the thread in front of the user, its selections and its settings. -/

set_option autoImplicit false

namespace SpaceApp.AppServer.Routing

open SpaceApp.Foundation
open Multiplexer (numberId threadOf answeredThread)

def ownThreads (written : List Written) : List (Option JsString) := written.filterMap fun entry =>
  match entry with
  | .upstream none message => some (threadOf message)
  | _ => none

/-- What threads and settings depend on. -/
structure Scene where
  upstreamOpen : Bool
  primaryClientId : Option Nat
  pending : List (JsonRpcId × PendingRequest)
  requestCount : Nat
  threads : Threads
  addressed : Option JsString
  running : List JsString
  selections : List Selection
  settings : List Settings
  guarded : List Guarded
  own : List (Option JsString)

def Multiplexer.scene (state : Multiplexer) : Scene := {
  upstreamOpen := state.upstreamOpen
  primaryClientId := state.primaryClientId
  pending := state.pending
  requestCount := state.history.requests.length
  threads := state.threads
  addressed := state.history.addressed
  running := state.history.running
  selections := state.history.selections
  settings := state.history.settings
  guarded := state.history.guarded
  own := ownThreads state.history.written }

section

variable {state : Multiplexer}

theorem write_scene (entry : Written) (client : ownThreads [entry] = []) : (state.write entry).scene = state.scene := by
  have own : ownThreads (state.history.written ++ [entry]) = ownThreads state.history.written := by
    unfold ownThreads at client ⊢
    rw [List.filterMap_append, client, List.append_nil]
  simp only [Multiplexer.scene, Multiplexer.write, own]

theorem writeClient_scene (clientId : Nat) (reason : Reason) (message : JsonRpcMessage) :
    (state.writeClient clientId reason message).scene = state.scene := by
  unfold Multiplexer.writeClient
  split
  · exact write_scene _ rfl
  · rfl

theorem writeUpstream_scene (sender : Sender) (message : JsonRpcMessage) :
    (state.writeUpstream (some sender) message).scene = state.scene := by
  unfold Multiplexer.writeUpstream
  split
  · exact write_scene _ rfl
  · rfl

theorem deliver_scene (message : JsonRpcMessage) : (state.deliver message).scene = state.scene := by
  unfold Multiplexer.deliver
  split
  · dsimp only
    split
    · rfl
    · split
      · rfl
      · rw [writeClient_scene]
        rfl
  · generalize (state.connections.filter (·.listed)) = clients
    induction clients generalizing state with
    | nil => rfl
    | cons client rest ih => exact ih.trans (writeClient_scene _ _ _)

theorem routeInitializeResponse_scene (message : JsonRpcMessage) : (state.routeInitializeResponse message).scene = state.scene := by
  have waited (waiters : List InitializeWaiter) : ∀ after : Multiplexer,
      (waiters.foldl (fun after waiter =>
        if (after.client waiter.clientId).isSome then
          after.writeClient waiter.clientId .initialized
            (after.initializeResponseForClient { message with id := none } waiter.clientRequestId)
        else after) after).scene = after.scene := by
    induction waiters with
    | nil => exact fun _ => rfl
    | cons waiter rest ih =>
      intro after
      refine (ih _).trans ?_
      dsimp only
      split
      · exact writeClient_scene _ _ _
      · rfl
  exact waited _ { state with cachedInitializeResponse := some { message with id := none } }

theorem sendInitialize_scene (client : ClientState) (message : JsonRpcMessage) :
    (state.sendInitialize client message).scene = state.scene := by
  unfold Multiplexer.sendInitialize
  split
  · rfl
  · split
    · split
      · exact writeClient_scene _ _ _
      · rfl
    · dsimp only
      split
      · rfl
      · exact writeUpstream_scene _ _

theorem initialize_scene (client : ClientState) (message : JsonRpcMessage) : (state.initialize_ client message).scene = state.scene := by
  unfold Multiplexer.initialize_
  split
  · rfl
  · exact sendInitialize_scene _ message

theorem takeOver_scene (client : ClientState) : (state.takeOver client).scene = state.scene ∨
    state.primaryClientId = none ∧ (state.takeOver client).scene = { state.scene with primaryClientId := some client.id } := by
  unfold Multiplexer.takeOver
  split
  · next may =>
    simp only [Bool.and_eq_true, Option.isNone_iff_eq_none] at may
    exact .inr ⟨may.1.1.1.1, rfl⟩
  · exact .inl rfl

theorem initialized_scene (client : ClientState) (message : JsonRpcMessage) :
    (state.initialized client message).scene = (state.takeOver client).scene := by
  unfold Multiplexer.initialized
  dsimp only
  split
  · rw [writeUpstream_scene]
    rfl
  · rfl

theorem connect_scene : state.connect.scene = state.scene ∨
    state.primaryClientId = none ∧ state.connect.scene = { state.scene with primaryClientId := some (state.nextClientId + 1) } := by
  by_cases first : (state.primaryClientId.isNone && !(state.primaryClientId.isNone && state.primaryReplacementTimer)) = true
  · have none_ := (Bool.and_eq_true _ _ ▸ first : _ ∧ _).1
    refine .inr ⟨Option.isNone_iff_eq_none.mp none_, ?_⟩
    unfold Multiplexer.connect
    dsimp only
    rw [if_pos first]
    rfl
  · refine .inl ?_
    unfold Multiplexer.connect
    dsimp only
    rw [if_neg first]
    rfl

theorem answer_scene (client : ClientState) (message : JsonRpcMessage) : (state.answer client message).scene = state.scene := by
  unfold Multiplexer.answer
  split
  · rfl
  · split
    · rw [writeUpstream_scene]
      rfl
    · rfl

def Multiplexer.addressedBy (state : Multiplexer) (client : ClientState) (message : JsonRpcMessage) : Option JsString :=
  if !state.isPrimary client.id then state.history.addressed
  else if message.method.any selectingMethods.contains && message.id.isSome then threadOf message
  else (threadOf message).or state.history.addressed

theorem noteAddressed_scene (client : ClientState) (message : JsonRpcMessage) :
    (state.noteAddressed client message).scene = { state.scene with addressed := state.addressedBy client message } := by
  unfold Multiplexer.noteAddressed Multiplexer.addressedBy
  split
  · rfl
  · dsimp only
    split
    · next threadId named =>
      rw [named]
      split <;> rfl
    · next unnamed =>
      rw [unnamed]
      split <;> rfl

theorem notification_scene (client : ClientState) (message : JsonRpcMessage) : (state.notification client message).scene =
    if !state.isPrimary client.id then state.scene else { state.scene with addressed := state.addressedBy client message } := by
  unfold Multiplexer.notification
  split
  · rfl
  · rw [writeUpstream_scene, noteAddressed_scene]

def ownRequest (id : Nat) : PendingRequest := {
  clientId := none
  clientRequestId := numberId id
  method := "thread/settings/update" }

theorem settingsMessage_thread (id : Nat) (threadId : JsString) (pair : CodexCliModeDefaultPair) (named : threadId ≠ []) :
    threadOf (Multiplexer.settingsMessage id threadId pair) = some threadId := by
  cases threadId with
  | nil => exact absurd rfl named
  | cons unit rest => rfl

theorem sendInternalSettings_scene (pair : CodexCliModeDefaultPair) :
    (state.sendInternalSettings pair).scene = state.scene ∨
    ∃ threadId, state.threads.currentThreadId = some threadId ∧ state.upstreamOpen = true ∧
      (state.sendInternalSettings pair).scene = { state.scene with
        pending := (numberId state.nextUpstreamRequestId, ownRequest state.nextUpstreamRequestId) ::
          state.pending.filter fun entry => entry.1 ≠ numberId state.nextUpstreamRequestId
        threads := { state.threads with currentPair := some pair }
        settings := state.history.settings ++
          [{ threadId, addressed := state.history.addressed, running := state.history.running }]
        own := ownThreads state.history.written ++ [threadOf (Multiplexer.settingsMessage state.nextUpstreamRequestId threadId pair)] } := by
  unfold Multiplexer.sendInternalSettings
  split
  · exact .inl rfl
  · next threadId current =>
    split
    · exact .inl rfl
    · next isOpen =>
      have isOpen : state.upstreamOpen = true := by simpa using isOpen
      refine .inr ⟨threadId, current, isOpen, ?_⟩
      dsimp only
      unfold Multiplexer.writeUpstream
      split
      · simp only [Multiplexer.write, Multiplexer.scene, ownThreads, List.filterMap_append]
        rfl
      · next closed => exact absurd isOpen closed

theorem refreshProjection_cases (applyToThread : Bool) (next : CodexCliModeDefaultsProjection) :
    ∃ threads, (state.refreshProjection applyToThread next = { state with threads } ∨
        state.threads.turnActive = false ∧ ∃ pair, state.refreshProjection applyToThread next =
          { state with threads }.sendInternalSettings pair) ∧
      Threads.SameThread state.threads threads := by
  unfold Multiplexer.refreshProjection
  split
  · exact ⟨state.threads, .inl rfl, rfl, rfl, rfl, rfl, rfl⟩
  · dsimp only
    split
    · exact ⟨_, .inl rfl, rfl, rfl, rfl, rfl, rfl⟩
    · split
      · unfold Multiplexer.scheduleProjectionPair
        split
        · exact ⟨_, .inl rfl, rfl, rfl, rfl, rfl, rfl⟩
        · next idle =>
          dsimp only
          split
          · exact ⟨_, .inl rfl, rfl, rfl, rfl, rfl, rfl⟩
          · exact ⟨_, .inr ⟨Bool.eq_false_iff.mpr idle, _, rfl⟩, rfl, rfl, rfl, rfl, rfl⟩
      · exact ⟨_, .inl rfl, rfl, rfl, rfl, rfl, rfl⟩

theorem turnCompleted_cases (message : JsonRpcMessage) : ∃ threads, ∃ completed : Multiplexer,
      completed = { state with
        threads
        history := { state.history with running := match threadOf message with
          | some threadId => state.history.running.erase threadId
          | none => state.history.running } } ∧
      (state.turnCompleted message = completed ∨
        ∃ pair, state.turnCompleted message = completed.sendInternalSettings pair) ∧
      Threads.SameThread { state.threads with
        turnActive := false
        currentThreadId := (threadOf message).or state.threads.currentThreadId } threads := by
  unfold Multiplexer.turnCompleted
  dsimp only
  cases state.threads.deferredPair with
  | none => exact ⟨_, _, rfl, .inl rfl, rfl, rfl, rfl, rfl, rfl⟩
  | some pair => exact ⟨_, _, rfl, .inr ⟨_, rfl⟩, rfl, rfl, rfl, rfl, rfl⟩

def Multiplexer.begun (state : Multiplexer) (client : ClientState) (method : String) : Threads :=
  if state.selects client method then { state.threads with
    primarySelectionGeneration := state.threads.primarySelectionGeneration + 1
    primarySelectionPending := true }
  else state.threads

theorem begin_scene (client : ClientState) (method : String) (message : JsonRpcMessage) :
    (state.begin_ client method message).scene = { state.scene with
      addressed := state.addressedBy client message
      threads := state.begun client method
      selections := if state.selects client method then state.history.selections ++ [{ serial := state.history.requests.length }]
        else state.history.selections } := by
  have noted := @noteAddressed_scene state client message
  unfold Multiplexer.begin_ Multiplexer.begun
  dsimp only
  split
  · have serial : (state.noteAddressed client message).history.requests.length = state.history.requests.length :=
      congrArg Scene.requestCount noted
    have selections : (state.noteAddressed client message).history.selections = state.history.selections :=
      congrArg Scene.selections noted
    have threads : (state.noteAddressed client message).threads = state.threads := congrArg Scene.threads noted
    have selected : (state.noteAddressed client message).select.scene = { (state.noteAddressed client message).scene with
        threads := { state.threads with
          primarySelectionGeneration := state.threads.primarySelectionGeneration + 1
          primarySelectionPending := true }
        selections := state.history.selections ++ [{ serial := state.history.requests.length }] } := by
      simp only [Multiplexer.select, Multiplexer.scene, serial, selections, threads]
    rw [selected, noted]
  · rw [noted]
    rfl

theorem sent_scene (begun : Multiplexer) (id : Nat) (request : PendingRequest) (threads : Threads) (forwarded : Forwarded)
    (guarded : Option Guarded) :
    ({ begun.nextRequestId.setPending id request with threads }.noteForwarded forwarded guarded).scene = { begun.scene with
      pending := (numberId id, request) :: begun.pending.filter fun entry => entry.1 ≠ numberId id
      threads
      requestCount := begun.history.requests.length + 1
      guarded := begun.history.guarded ++ guarded.toList } := by
  simp only [Multiplexer.scene, Multiplexer.noteForwarded, Multiplexer.setPending, Multiplexer.nextRequestId, List.length_append,
    List.length_singleton]

theorem forward_scene (client : ClientState) (id : JsonRpcId) (method : String) (message : JsonRpcMessage) (guarded : Bool) :
    (state.forward client id method message guarded).scene =
      let rewritten := (state.begun client method).rewriteRuntimeMessage message
      { state.scene with
        addressed := state.addressedBy client message
        selections := if state.selects client method then state.history.selections ++ [{ serial := state.history.requests.length }]
          else state.history.selections
        requestCount := state.history.requests.length + 1
        pending := (numberId state.nextUpstreamRequestId, {
            clientId := some client.id
            clientRequestId := id
            method
            primarySelectionGeneration := if state.selects client method then
              some (state.begun client method).primarySelectionGeneration else none
            serial := some state.history.requests.length }) ::
          state.pending.filter fun entry => entry.1 ≠ numberId state.nextUpstreamRequestId
        threads := rewritten.1
        guarded := state.history.guarded ++ (if guarded && state.upstreamOpen then some {
            message := { rewritten.2 with id := some (numberId state.nextUpstreamRequestId) }
            selections := state.history.selections } else none).toList } := by
  have scene := @begin_scene state client method message
  have threads : (state.begin_ client method message).threads = state.begun client method := congrArg Scene.threads scene
  have pending : (state.begin_ client method message).pending = state.pending := congrArg Scene.pending scene
  have serial : (state.begin_ client method message).history.requests.length = state.history.requests.length :=
    congrArg Scene.requestCount scene
  have noticed : (state.begin_ client method message).history.guarded = state.history.guarded := congrArg Scene.guarded scene
  unfold Multiplexer.forward
  dsimp only
  rw [writeUpstream_scene, sent_scene, scene, pending, serial, noticed]
  simp only [Multiplexer.setPending, Multiplexer.nextRequestId, threads]

theorem answered_scene (id : JsonRpcId) (message : JsonRpcMessage) :
    (state.answered id message).scene = match state.pending.lookup id with
      | none => state.scene
      | some request =>
        let taken := { state with pending := state.pending.filter fun entry => entry.1 ≠ id }
        (if selectingMethods.contains request.method then taken.selected request message else taken).scene := by
  unfold Multiplexer.answered
  cases state.pending.lookup id with
  | none => rfl
  | some request =>
    dsimp only
    split
    · rfl
    · split
      · rfl
      · exact writeClient_scene _ _ _

end

end SpaceApp.AppServer.Routing
