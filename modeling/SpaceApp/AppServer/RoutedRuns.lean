import SpaceApp.AppServer.Routes
import SpaceApp.Foundation.Reach

/-! The multiplexer routes exactly: every order of connections, messages, closes and replacements. -/

set_option autoImplicit false

namespace SpaceApp.AppServer.Routing

open SpaceApp.Foundation
open Multiplexer (numberId)

/-- The server's requests have ids of their own. -/
def Allowed (state : Multiplexer) : MultiplexerEvent → Bool
  | .upstreamSends message =>
    match message.calls, message.id with
    | some _, some id => id ∉ state.history.issued
    | _, _ => true
  | _ => true

section

variable {state : Multiplexer}

theorem updateClient_view (clientId : Nat) (change : ClientState → ClientState) (keeps : ∀ client, (change client).id = client.id) :
    (state.updateClient clientId change).view = state.view := by
  have ids : (state.connections.map fun client => if client.id = clientId then change client else client).map (·.id) =
      state.connections.map (·.id) := by
    rw [List.map_map]
    refine List.map_congr_left fun client _ => ?_
    dsimp only [Function.comp]
    split
    · exact keeps client
    · rfl
  simp only [Multiplexer.view, Multiplexer.updateClient, ids]

theorem closeSocket_view (clientId : Nat) : (state.closeSocket clientId).view = state.view := updateClient_view clientId _ fun _ => rfl

theorem closeClients_view : state.closeClients.view = state.view := by
  simp only [Multiplexer.view, Multiplexer.closeClients, List.map_map, Function.comp_def]

/-- What the multiplexer tells a client of its own accord. -/
def Reason.plain : Reason → Bool
  | .initialized | .told | .refused => true
  | _ => false

theorem Sound.writeClient (sound : Sound state.view) (clientId : Nat) {reason : Reason} (plain : reason.plain = true)
    (message : JsonRpcMessage) : Sound (state.writeClient clientId reason message).view := by
  unfold Multiplexer.writeClient
  split
  · cases reason with
    | initialized | told | refused => exact sound.write (.client clientId _ message) trivial rfl rfl
    | _ => cases plain
  · exact sound

theorem Sound.writeUpstream (sound : Sound state.view) (sender : Sender) (message : JsonRpcMessage) {method : String}
    (calls : message.calls = some method)
    (role : sender.primary = false → message.id.isSome = true ∧
      (method = "initialize" ∨ allowsSecondary sender.clientName method = true)) :
    Sound (state.writeUpstream (some sender) message).view := by
  unfold Multiplexer.writeUpstream
  split
  · refine sound.write (.upstream (some sender) message) ⟨fun secondary => ⟨(role secondary).1, method, ?_, (role secondary).2⟩, fun none_ => ?_⟩
      rfl ?_
    · exact (Option.filter_eq_some_iff.mp calls).1
    · rw [calls] at none_
      cases none_
    · simp [answeredIds, calls]
  · exact sound

theorem Sound.tells {state : Multiplexer} (sound : Sound state.view) (clients : List ClientState) (message : JsonRpcMessage) :
    Sound (clients.foldl (fun state client => state.writeClient client.id .told message) state).view := by
  induction clients generalizing state with
  | nil => exact sound
  | cons client rest ih => exact ih (sound.writeClient client.id rfl message)

theorem settingsMessage_calls (id : Nat) (threadId : JsString) (pair : CodexCliModeDefaultPair) :
    (Multiplexer.settingsMessage id threadId pair).calls ≠ none := by
  show (some "thread/settings/update").filter (fun method => method ≠ "") ≠ none
  decide

theorem sendInternalSettings_issued (pair : CodexCliModeDefaultPair) :
    (state.sendInternalSettings pair).history.issued = state.history.issued := by
  unfold Multiplexer.sendInternalSettings
  split
  · rfl
  · split
    · rfl
    · dsimp only
      unfold Multiplexer.writeUpstream
      split <;> rfl

section
variable (sound : Sound state.view)

include sound

theorem Sound.sendInternalSettings (pair : CodexCliModeDefaultPair) : Sound (state.sendInternalSettings pair).view := by
  unfold Multiplexer.sendInternalSettings
  split
  · exact sound
  · next threadId _ =>
    split
    · exact sound
    · have own := sound.draw.own (numberId state.nextUpstreamRequestId) {
        clientId := none
        clientRequestId := numberId state.nextUpstreamRequestId
        method := "thread/settings/update" } ⟨rfl, rfl⟩
      dsimp only
      unfold Multiplexer.writeUpstream
      split
      · exact own.write (.upstream none (Multiplexer.settingsMessage state.nextUpstreamRequestId threadId pair))
          (settingsMessage_calls _ _ _) rfl rfl
      · exact own

theorem Sound.refreshProjection (applyToThread : Bool) (next : CodexCliModeDefaultsProjection) :
    Sound (state.refreshProjection applyToThread next).view := by
  unfold Multiplexer.refreshProjection
  split
  · exact sound
  · dsimp only
    split
    · exact sound
    · split
      · unfold Multiplexer.scheduleProjectionPair
        split
        · exact sound
        · split
          · exact sound
          · exact Sound.sendInternalSettings (by exact sound) _
      · exact sound

theorem Sound.turnCompleted (message : JsonRpcMessage) : Sound (state.turnCompleted message).view := by
  unfold Multiplexer.turnCompleted
  dsimp only
  split
  · exact Sound.sendInternalSettings (by exact sound) _
  · exact sound

theorem Sound.deliverMessage (message : JsonRpcMessage)
    (fresh : ∀ id, message.id = some id → id ∉ state.history.issued) : Sound (state.deliver message).view := by
  unfold Multiplexer.deliver
  split
  · next id isId =>
    have fresh := fresh id isId
    dsimp only
    split
    · exact sound.issue fresh
    · next clientId primary =>
      split
      · exact sound.issue fresh
      · have added : ∀ other ∈ (if id ∈ state.serverRequestIds then state.serverRequestIds else state.serverRequestIds ++ [id]),
            other ∈ state.serverRequestIds ∨ other = id := by
          intro other among
          split at among
          · exact .inl among
          · exact (List.mem_append.mp among).imp_right List.mem_singleton.mp
        generalize (if id ∈ state.serverRequestIds then state.serverRequestIds else state.serverRequestIds ++ [id]) = ids at added ⊢
        have asked := sound.ask fresh primary ids added
        unfold Multiplexer.writeClient
        split
        · exact asked.write (.client clientId .asked message) ⟨id, isId, List.mem_append_right _ (List.mem_singleton.mpr rfl)⟩ rfl rfl
        · exact asked
  · exact sound.tells _ message

theorem Sound.routeInitializeResponse (message : JsonRpcMessage) :
    Sound (state.routeInitializeResponse message).view := by
  have waited (waiters : List InitializeWaiter) : ∀ after : Multiplexer, Sound after.view →
      Sound (waiters.foldl (fun after waiter =>
        if (after.client waiter.clientId).isSome then
          after.writeClient waiter.clientId .initialized
            (after.initializeResponseForClient { message with id := none } waiter.clientRequestId)
        else after) after).view := by
    induction waiters with
    | nil => exact fun _ sound => sound
    | cons waiter rest ih =>
      intro after sound
      refine ih _ ?_
      dsimp only
      split
      · exact sound.writeClient _ rfl _
      · exact sound
  exact waited _ { state with cachedInitializeResponse := some { message with id := none } } sound

theorem Sound.answered (id : JsonRpcId) (message : JsonRpcMessage) : Sound (state.answered id message).view := by
  unfold Multiplexer.answered
  split
  · exact sound
  · next request found =>
    have among := mem_of_lookup found
    have taken := sound.drop fun entry => entry.1 ≠ id
    dsimp only
    generalize settled : (if selectingMethods.contains request.method then
      { state with pending := state.pending.filter fun entry => entry.1 ≠ id }.selected request message
      else { state with pending := state.pending.filter fun entry => entry.1 ≠ id }) = after
    have view : after.view = { state.view with pending := state.view.pending.filter fun entry => entry.1 ≠ id } := by
      rw [← settled]
      split <;> rfl
    split
    · rw [view]
      exact taken
    · next clientId isClient =>
      split
      · rw [view]
        exact taken
      · unfold Multiplexer.writeClient
        split
        · have delivered := sound.deliver among isClient (responseForClient (if request.method = "collaborationMode/list" then
            rewriteCollaborationModes message state.threads.projection else message) request.clientRequestId) rfl
          have written (entry : Written) : (after.write entry).view = { after.view with written := after.view.written ++ [entry] } := rfl
          rw [written, view]
          exact delivered
        · rw [view]
          exact taken

theorem Sound.handleUpstreamMessage (message : JsonRpcMessage)
    (may : Allowed state (.upstreamSends message) = true) : Sound (state.handleUpstreamMessage message).view := by
  unfold Multiplexer.handleUpstreamMessage
  split
  · next method calls =>
    have fresh : ∀ id, message.id = some id → id ∉ state.history.issued := by
      intro id isId
      simpa [Allowed, calls, isId] using may
    have noted : Sound (if method = "turn/started" then state.turnStarted message
        else if method = "turn/completed" then state.turnCompleted message else state).view := by
      split
      · exact sound
      · split
        · exact sound.turnCompleted message
        · exact sound
    refine noted.deliverMessage message fun id isId => ?_
    have issued : (if method = "turn/started" then state.turnStarted message
        else if method = "turn/completed" then state.turnCompleted message else state).history.issued = state.history.issued := by
      split
      · rfl
      · split
        · unfold Multiplexer.turnCompleted
          dsimp only
          split
          · exact sendInternalSettings_issued _
          · rfl
        · rfl
    rw [issued]
    exact fresh id isId
  · split
    · exact sound
    · split
      · exact sound.routeInitializeResponse message
      · exact sound.answered _ message

end

theorem calls_of_method {message other : JsonRpcMessage} (same : other.method = message.method) : other.calls = message.calls := by
  simp only [JsonRpcMessage.calls, same]

section
variable (sound : Sound state.view) (client : ClientState) (message : JsonRpcMessage)
  (calls : message.calls = some "initialize")

include sound calls

theorem Sound.sendInitialize : Sound (state.sendInitialize client message).view := by
  unfold Multiplexer.sendInitialize
  split
  · exact sound
  · split
    · split
      · exact sound.writeClient _ rfl _
      · exact sound
    · split
      · exact sound
      · exact Sound.writeUpstream (by exact sound.draw) (state.sender client)
          { message with id := some (numberId state.nextUpstreamRequestId) } ((calls_of_method rfl).trans calls)
          fun _ => ⟨rfl, .inl rfl⟩

theorem Sound.initialize_ : Sound (state.initialize_ client message).view := by
  unfold Multiplexer.initialize_
  split
  · rw [closeSocket_view]
    exact sound
  · refine Sound.sendInitialize ?_ _ message calls
    rw [updateClient_view]
    · exact sound
    · exact fun _ => rfl

end

section

variable (sound : Sound state.view) {client : ClientState} (connected : client.id ∈ state.view.clientIds)

include sound connected

theorem Sound.takeOver : Sound (state.takeOver client).view := by
  unfold Multiplexer.takeOver
  split
  · next may =>
    simp only [Bool.and_eq_true, Option.isNone_iff_eq_none] at may
    have same := @updateClient_view state client.id (fun client => { client with primaryReplacementEligible := false }) fun _ => rfl
    have promoted := sound.promote may.1.1.1.1 connected
    rw [← same] at promoted
    exact promoted
  · exact sound

theorem Sound.initialized (message : JsonRpcMessage) (calls : message.calls = some "initialized") :
    Sound (state.initialized client message).view := by
  have after := sound.takeOver connected
  unfold Multiplexer.initialized
  dsimp only
  split
  · next may =>
    simp only [Bool.and_eq_true] at may
    refine Sound.writeUpstream (by exact after) ((state.takeOver client).sender client) message calls fun secondary => ?_
    simp only [Multiplexer.sender, may.2] at secondary
    cases secondary
  · exact after

end

theorem noteAddressed_view (client : ClientState) (message : JsonRpcMessage) : (state.noteAddressed client message).view = state.view := by
  unfold Multiplexer.noteAddressed
  split
  · rfl
  · dsimp only
    split
    · rfl
    · split <;> rfl

theorem Sound.notification (sound : Sound state.view) (client : ClientState) (message : JsonRpcMessage) {method : String}
    (calls : message.calls = some method) : Sound (state.notification client message).view := by
  unfold Multiplexer.notification
  split
  · rw [closeSocket_view]
    exact sound
  · next primary =>
    refine Sound.writeUpstream (by rw [noteAddressed_view]; exact sound) (state.sender client) message calls fun secondary => ?_
    simp only [Multiplexer.sender] at secondary
    simp [secondary] at primary

theorem rewriteRuntimeMessage_method (threads : Threads) (message : JsonRpcMessage) :
    (threads.rewriteRuntimeMessage message).2.method = message.method := by
  rcases (threads.rewriteRuntimeMessage_spec message).2 with same | ⟨pair, same⟩ <;> rw [same]

theorem begin_view (client : ClientState) (method : String) (message : JsonRpcMessage) :
    (state.begin_ client method message).view = state.view := by
  have noted := @noteAddressed_view state client message
  unfold Multiplexer.begin_
  split
  · exact (show (state.noteAddressed client message).select.view = (state.noteAddressed client message).view from rfl).trans noted
  · exact noted

theorem Sound.forwardRequest (sound : Sound state.view) (client : ClientState) (id : JsonRpcId) {method : String}
    (message : JsonRpcMessage) (guarded : Bool) (calls : message.calls = some method)
    (role : state.isPrimary client.id = false → allowsSecondary client.clientName method = true) :
    Sound (state.forward client id method message guarded).view := by
  have view := @begin_view state client method message
  refine Sound.writeUpstream ?_ (state.sender client) _ ((calls_of_method (rewriteRuntimeMessage_method _ message)).trans calls)
    fun secondary => ⟨rfl, .inr (role secondary)⟩
  have forwarded := (view ▸ sound : Sound (state.begin_ client method message).view).forward {
      clientId := client.id
      clientRequestId := id
      upstreamId := state.nextUpstreamRequestId } (congrArg View.nextUpstreamRequestId view).symm
    { clientId := some client.id
      clientRequestId := id
      method
      primarySelectionGeneration := if state.selects client method then
        some (state.begin_ client method message).threads.primarySelectionGeneration else none
      serial := some state.history.requests.length } rfl rfl (congrArg (fun view : View => some view.requests.length) view).symm
  exact forwarded

theorem unguarded_calls (message : JsonRpcMessage) : (Multiplexer.unguarded message).calls = message.calls := rfl

theorem Sound.request (sound : Sound state.view) (client : ClientState) (id : JsonRpcId) {method : String} (message : JsonRpcMessage)
    (calls : message.calls = some method) : Sound (state.request client id method message).view := by
  unfold Multiplexer.request
  split
  · rw [closeSocket_view]
    exact sound
  · next allowed =>
    have role : state.isPrimary client.id = false → allowsSecondary client.clientName method = true := by
      intro secondary
      simpa [secondary] using allowed
    split
    · split
      · exact sound.forwardRequest client id _ true ((unguarded_calls message).trans calls) role
      · exact sound.writeClient _ rfl _
    · exact sound.forwardRequest client id message false calls role

theorem Sound.answer (sound : Sound state.view) (client : ClientState) (message : JsonRpcMessage) (calls : message.calls = none) :
    Sound (state.answer client message).view := by
  unfold Multiplexer.answer
  split
  · exact sound
  · next id isId =>
    split
    · next may =>
      simp only [Bool.and_eq_true, decide_eq_true_eq] at may
      obtain ⟨primary, among⟩ := may
      unfold Multiplexer.writeUpstream
      split
      · next isOpen =>
        exact sound.reply isOpen among (state.sender client) (of_decide_eq_true primary) primary message isId calls
      · exact sound.forget _
    · exact sound

theorem Sound.handleClientMessage (sound : Sound state.view) {client : ClientState} (connected : client.id ∈ state.view.clientIds)
    (message : JsonRpcMessage) : Sound (state.handleClientMessage client message).view := by
  unfold Multiplexer.handleClientMessage
  split
  · next method calls =>
    split
    · next isInitialize => exact sound.initialize_ client message (isInitialize ▸ calls)
    · split
      · next isInitialized => exact sound.initialized connected message (isInitialized ▸ calls)
      · split
        · exact sound.notification client message calls
        · exact sound.request client _ message calls
  · next calls => exact sound.answer client message calls

theorem Sound.connects (sound : Sound state.view) : Sound state.connect.view := by
  have connected := sound.connect
  have ids : state.connect.view.clientIds = state.view.clientIds ++ [state.view.nextClientId + 1] := by
    simp [Multiplexer.connect, Multiplexer.view]
  by_cases first : (state.primaryClientId.isNone && !(state.primaryClientId.isNone && state.primaryReplacementTimer)) = true
  · have none_ := (Bool.and_eq_true _ _ ▸ first : _ ∧ _).1
    have promoted := connected.promote (Option.isNone_iff_eq_none.mp none_) (List.mem_append_right _ (List.mem_singleton.mpr rfl))
    rw [← ids] at promoted
    unfold Multiplexer.connect at promoted ⊢
    dsimp only at promoted ⊢
    rw [if_pos first] at promoted ⊢
    exact promoted
  · rw [← ids] at connected
    unfold Multiplexer.connect at connected ⊢
    dsimp only at connected ⊢
    rw [if_neg first] at connected ⊢
    exact connected

theorem Sound.clientCloses (sound : Sound state.view) (clientId : Nat) : Sound (state.clientClosed clientId).view := by
  have dropped := sound.drop fun entry => entry.2.clientId ≠ some clientId
  have ids : (state.connections.filter fun client => client.id ≠ clientId).map (·.id) =
      (state.connections.map (·.id)).filter fun id => id ≠ clientId := by
    rw [List.filter_map]
    rfl
  unfold Multiplexer.clientClosed
  split
  · have retired := dropped.retire fun id => id ≠ clientId
    simp only [Multiplexer.view, ids] at retired ⊢
    exact retired
  · next secondary =>
    have left := dropped.leave (show state.primaryClientId ≠ some clientId from fun primary => secondary (decide_eq_true primary))
    simp only [Multiplexer.view, ids] at left ⊢
    exact left

theorem Sound.step (sound : Sound state.view) (event : MultiplexerEvent) (may : Allowed state event = true) :
    Sound (state.step event).view := by
  cases event with
  | connects => exact sound.connects
  | clientSends clientId message =>
    unfold Multiplexer.step
    dsimp only
    split
    · next client found =>
      exact sound.handleClientMessage (List.mem_map.mpr ⟨client, List.mem_of_find?_eq_some found, rfl⟩) message
    · exact sound
  | clientBreaks clientId =>
    show Sound (state.closeSocket clientId).view
    rw [closeSocket_view]
    exact sound
  | clientCloses clientId => exact sound.clientCloses clientId
  | upstreamSends message => exact sound.handleUpstreamMessage message may
  | upstreamFails refused =>
    unfold Multiplexer.step
    dsimp only
    split
    · exact sound.fail
    · unfold Multiplexer.closeForUpstreamFailure
      rw [closeClients_view]
      exact sound.fail.demote rfl
  | replacementTimesOut =>
    unfold Multiplexer.step
    dsimp only
    split
    · rw [closeClients_view]
      exact sound.fail
    · exact sound
  | projects applyToThread next => exact sound.refreshProjection applyToThread next
  | closes =>
    unfold Multiplexer.step
    dsimp only
    split <;> exact sound
  | closed =>
    unfold Multiplexer.step
    dsimp only
    split
    · rw [closeClients_view]
      exact sound.fail
    · exact sound

/-- An answer that is not the upstream's to the shared `initialize`. -/
def answersRequest (state : Multiplexer) (message : JsonRpcMessage) (id : JsonRpcId) : Prop :=
  message.calls = none ∧ message.id = some id ∧ ∀ upstreamId, state.initializeUpstreamId = some upstreamId → id ≠ numberId upstreamId

structure Exact (state : Multiplexer) : Prop where
  answers : ∀ clientId serial upstreamId response,
    Written.client clientId (.answered serial upstreamId) response ∈ state.history.written →
    ∃ number forwarded, serial = some number ∧ state.history.requests[number]? = some forwarded ∧ forwarded.clientId = clientId ∧
      response.id = some forwarded.clientRequestId ∧ upstreamId = numberId forwarded.upstreamId
  once : (answeredSerials state.history.written).Nodup
  delivered : ∀ message id, answersRequest state message id →
    (state.step (.upstreamSends message)).history.written = state.history.written ∨
    ∃ number forwarded content, state.history.requests[number]? = some forwarded ∧ id = numberId forwarded.upstreamId ∧
      (∀ later other, number < later → state.history.requests[later]? = some other → other.upstreamId ≠ forwarded.upstreamId) ∧
      (content = message ∨ content = rewriteCollaborationModes message state.threads.projection) ∧
      (state.step (.upstreamSends message)).history.written = state.history.written ++
        [.client forwarded.clientId (.answered (some number) id) (responseForClient content forwarded.clientRequestId)]
  distinct : state.history.drawn ≤ idSpan → (state.history.requests.map (·.upstreamId)).Nodup
  primary : ∀ first ∈ state.connections, ∀ second ∈ state.connections,
    state.isPrimary first.id = true → state.isPrimary second.id = true → first = second
  secondary : ∀ sender message, Written.upstream (some sender) message ∈ state.history.written → sender.primary = false →
    message.id.isSome = true ∧
      ∃ method, message.method = some method ∧ (method = "initialize" ∨ allowsSecondary sender.clientName method = true)
  replies : ∀ sender message, Written.upstream (some sender) message ∈ state.history.written → message.calls = none →
    ∃ id, message.id = some id ∧ (id, sender.clientId) ∈ state.history.asked
  repliesOnce : (answeredIds state.history.written).Nodup
  askedOnce : (state.history.asked.map (·.1)).Nodup
  asking : ∀ message, (state.step (.upstreamSends message)).history.asked = state.history.asked ∨
    ∃ id clientId, message.id = some id ∧ state.primaryClientId = some clientId ∧
      (state.step (.upstreamSends message)).history.asked = state.history.asked ++ [(id, clientId)]
  received : ∀ clientId message, Written.client clientId .asked message ∈ state.history.written →
    ∃ id, message.id = some id ∧ (id, clientId) ∈ state.history.asked

theorem writeClient_asked (clientId : Nat) (reason : Reason) (message : JsonRpcMessage) :
    (state.writeClient clientId reason message).history.asked = state.history.asked := by
  unfold Multiplexer.writeClient
  split <;> rfl

theorem sendInternalSettings_asked (pair : CodexCliModeDefaultPair) :
    (state.sendInternalSettings pair).history.asked = state.history.asked := by
  unfold Multiplexer.sendInternalSettings
  split
  · rfl
  · split
    · rfl
    · dsimp only
      unfold Multiplexer.writeUpstream
      split <;> rfl

theorem sendInternalSettings_primary (pair : CodexCliModeDefaultPair) :
    (state.sendInternalSettings pair).primaryClientId = state.primaryClientId := by
  unfold Multiplexer.sendInternalSettings
  split
  · rfl
  · split
    · rfl
    · dsimp only
      unfold Multiplexer.writeUpstream
      split <;> rfl

theorem deliver_asked (message : JsonRpcMessage) : (state.deliver message).history.asked = state.history.asked ∨
    ∃ id clientId, message.id = some id ∧ state.primaryClientId = some clientId ∧
      (state.deliver message).history.asked = state.history.asked ++ [(id, clientId)] := by
  unfold Multiplexer.deliver
  split
  · next id isId =>
    split
    · exact .inl rfl
    · next clientId primary =>
      split
      · exact .inl rfl
      · exact .inr ⟨id, clientId, isId, primary, by rw [writeClient_asked]⟩
  · refine .inl ?_
    generalize (state.connections.filter (·.listed)) = clients
    induction clients generalizing state with
    | nil => rfl
    | cons client rest ih => exact ih.trans (writeClient_asked _ _ _)

theorem step_asked (message : JsonRpcMessage) :
    (state.step (.upstreamSends message)).history.asked = state.history.asked ∨
    ∃ id clientId, message.id = some id ∧ state.primaryClientId = some clientId ∧
      (state.step (.upstreamSends message)).history.asked = state.history.asked ++ [(id, clientId)] := by
  show (state.handleUpstreamMessage message).history.asked = _ ∨ ∃ id clientId, message.id = some id ∧
    state.primaryClientId = some clientId ∧ (state.handleUpstreamMessage message).history.asked = _
  unfold Multiplexer.handleUpstreamMessage
  split
  · split
    · exact deliver_asked message
    · split
      · have same : (state.turnCompleted message).history.asked = state.history.asked ∧
            (state.turnCompleted message).primaryClientId = state.primaryClientId := by
          unfold Multiplexer.turnCompleted
          dsimp only
          split
          · exact ⟨sendInternalSettings_asked _, sendInternalSettings_primary _⟩
          · exact ⟨rfl, rfl⟩
        have asked := @deliver_asked (state.turnCompleted message) message
        rw [same.1, same.2] at asked
        exact asked
      · exact deliver_asked message
  · refine .inl ?_
    split
    · rfl
    · split
      · unfold Multiplexer.routeInitializeResponse
        dsimp only
        generalize routed : { state with cachedInitializeResponse := some { message with id := none } } = start
        have asked : start.history.asked = state.history.asked := by rw [← routed]
        rw [← asked]
        clear routed asked
        generalize state.initializeWaiters = waiters
        induction waiters generalizing start with
        | nil => rfl
        | cons waiter rest ih =>
          refine (ih _).trans ?_
          dsimp only
          split
          · exact writeClient_asked _ _ _
          · rfl
      · unfold Multiplexer.answered
        split
        · rfl
        · dsimp only
          split
          · split <;> rfl
          · split
            · split <;> rfl
            · rw [writeClient_asked]
              split <;> rfl

theorem Sound.delivered (sound : Sound state.view) (message : JsonRpcMessage) (id : JsonRpcId)
    (answers : answersRequest state message id) :
    (state.step (.upstreamSends message)).history.written = state.history.written ∨
    ∃ number forwarded content, state.history.requests[number]? = some forwarded ∧ id = numberId forwarded.upstreamId ∧
      (∀ later other, number < later → state.history.requests[later]? = some other → other.upstreamId ≠ forwarded.upstreamId) ∧
      (content = message ∨ content = rewriteCollaborationModes message state.threads.projection) ∧
      (state.step (.upstreamSends message)).history.written = state.history.written ++
        [.client forwarded.clientId (.answered (some number) id) (responseForClient content forwarded.clientRequestId)] := by
  obtain ⟨calls, isId, uninitialized⟩ := answers
  have other : (state.initializeUpstreamId.any fun upstreamId => id = numberId upstreamId) = false := by
    cases initializing : state.initializeUpstreamId with
    | none => rfl
    | some upstreamId => exact decide_eq_false (uninitialized upstreamId initializing)
  have step : state.step (.upstreamSends message) = state.answered id message := by
    show state.handleUpstreamMessage message = _
    simp only [Multiplexer.handleUpstreamMessage, calls, isId, other, Bool.false_eq_true, if_false]
  rw [step]
  unfold Multiplexer.answered
  split
  · exact .inl rfl
  · next request found =>
    dsimp only
    generalize settled : (if selectingMethods.contains request.method then
      { state with pending := state.pending.filter fun entry => entry.1 ≠ id }.selected request message
      else { state with pending := state.pending.filter fun entry => entry.1 ≠ id }) = after
    have written : after.history.written = state.history.written := by
      rw [← settled]
      split <;> rfl
    rw [← written]
    split
    · exact .inl rfl
    · next clientId isClient =>
      split
      · exact .inl rfl
      · unfold Multiplexer.writeClient
        split
        · rcases sound.pending _ (mem_of_lookup found) with own | ⟨number, forwarded, serial, isRequest, client, requestId, isKey, -, latest⟩
          · rw [own.1] at isClient
            cases isClient
          · refine .inr ⟨number, forwarded, if request.method = "collaborationMode/list" then
              rewriteCollaborationModes message state.threads.projection else message, isRequest, isKey, latest, ?_, ?_⟩
            · split
              · exact .inr rfl
              · exact .inl rfl
            · rw [serial, requestId, Option.some.inj (isClient.symm.trans client)]
              rfl
        · exact .inl rfl

theorem Sound.exact (sound : Sound state.view) : Exact state := by
  refine ⟨fun clientId serial upstreamId response among => sound.fits _ among, sound.answeredOnce, sound.delivered,
    fun few => (sound.distinct few).1, fun first among second also isFirst isSecond => ?_,
    fun sender message among secondary => (sound.fits _ among).1 secondary, fun sender message among calls => (sound.fits _ among).2 calls,
    sound.answersOnce, sound.asked.nodup sound.issued, step_asked, fun clientId message among => sound.fits _ among⟩
  have same := Option.some.inj ((of_decide_eq_true isFirst).symm.trans (of_decide_eq_true isSecond))
  exact List.inj_on_of_nodup_map sound.clients among also same

def Routed (state : Multiplexer) : Prop := Sound state.view

theorem routed_start : Routed {} :=
  ⟨.nil, List.forall_mem_nil _, fun _ primary => absurd primary.symm (Option.some_ne_none _), List.forall_mem_nil _,
    List.forall_mem_nil _, .nil, rfl, fun _ => ⟨.nil, List.forall_mem_nil _⟩, .nil, .slnil, fun _ => List.forall_mem_nil _, .nil⟩

/-- In every run whose server requests have ids of their own, the multiplexer routes exactly. -/
theorem routes_exactly (events : List MultiplexerEvent)
    (may : AllowedRun (fun state event => Allowed state event = true) Multiplexer.step {} events) :
    Exact (events.foldl Multiplexer.step {}) := by
  have reached : Reached (fun state => state = {}) (fun state event => Allowed state event = true) Multiplexer.step
      (events.foldl Multiplexer.step {}) := Reached.run (.start rfl) may
  have routed : Routed (events.foldl Multiplexer.step {}) :=
    reached.invariant (fun state same => same ▸ routed_start) fun state event sound may => sound.step event may
  exact routed.exact

end

namespace Sample

def ask (id : Nat) (method : String) (params : Option JsValue) : JsonRpcMessage := {
  id := some (numberId id)
  method := some method
  params }

def reply (id : Nat) : JsonRpcMessage := { id := some (numberId id), result := some (.object []) }

def named (name : String) : Option JsValue := some (.object [(js "clientInfo", .object [(js "name", .string (js name))])])

/-- A terminal and a picker, whose request is answered. -/
def shared : List MultiplexerEvent :=
  [.connects, .clientSends 1 (ask 0 "initialize" (named "codex-tui")), .upstreamSends (reply 1000000000),
    .clientSends 1 { method := some "initialized" }, .connects, .clientSends 2 (ask 0 "initialize" (named "codex-tui-picker")),
    .clientSends 2 (ask 5 "thread/list" none), .upstreamSends (reply 1000000001)]

/-- A request of the server while the primary's socket is closing. -/
def unread : List MultiplexerEvent :=
  [.connects, .clientBreaks 1, .upstreamSends (ask 7 "execCommandApproval" none), .clientSends 1 (reply 7)]

end Sample

theorem routes_exactly_shared : Exact (Sample.shared.foldl Multiplexer.step {}) ∧
    answeredSerials (Sample.shared.foldl Multiplexer.step {}).history.written = [some 0] :=
  ⟨routes_exactly Sample.shared (by decide +kernel), by decide +kernel⟩

/-- The primary answers a request it was never sent. -/
theorem unread_request_answered :
    AllowedRun (fun state event => Allowed state event = true) Multiplexer.step {} Sample.unread ∧
    (Sample.unread.foldl Multiplexer.step {}).history.written =
      [.upstream (some { clientId := 1, primary := true, clientName := none }) (Sample.reply 7)] :=
  ⟨by decide +kernel, by rfl⟩

end SpaceApp.AppServer.Routing
