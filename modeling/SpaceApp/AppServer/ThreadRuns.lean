import SpaceApp.AppServer.ThreadGuards
import SpaceApp.Foundation.Reach

/-! Whose settings the multiplexer changes: every order of client messages, upstream messages and projection changes. -/

set_option autoImplicit false

namespace SpaceApp.AppServer.Routing

open SpaceApp.Foundation
open Multiplexer (numberId threadOf answeredThread)

section

variable {state : Multiplexer}

/-! ## The guard -/

section
variable (guarding : Guarding state.scene)

include guarding

theorem Guarding.sendInternalSettings (pair : CodexCliModeDefaultPair) :
    Guarding (state.sendInternalSettings pair).scene := by
  rcases sendInternalSettings_scene pair with same | ⟨threadId, current, -, scene⟩
  · rw [same]
    exact guarding
  · have named : threadId ≠ [] := by
      rintro rfl
      exact guarding.named current
    have pushed := guarding.push (numberId state.nextUpstreamRequestId) (ownRequest state.nextUpstreamRequestId)
      (show selectingMethods.contains "thread/settings/update" = false from by decide) state.history.requests.length (Nat.le_refl _) (.inl rfl)
    have retimed := pushed.retime { state.threads with currentPair := some pair } rfl rfl rfl guarding.named state.history.addressed
      state.history.running
    rw [scene, settingsMessage_thread _ _ _ named]
    exact retimed.settle { threadId, addressed := state.history.addressed, running := state.history.running }

theorem Guarding.refreshProjection (applyToThread : Bool) (next : CodexCliModeDefaultsProjection) :
    Guarding (state.refreshProjection applyToThread next).scene := by
  obtain ⟨threads, cases_, same⟩ := @refreshProjection_cases state applyToThread next
  have retimed : Guarding { state with threads }.scene := guarding.retime threads same.primaryThreadId same.generation same.selecting
    (by rw [same.currentThreadId]; exact guarding.named) state.history.addressed state.history.running
  rcases cases_ with quiet | ⟨-, pair, sends⟩
  · rw [quiet]
    exact retimed
  · rw [sends]
    exact retimed.sendInternalSettings pair

theorem Guarding.turnStarted (message : JsonRpcMessage) : Guarding (state.turnStarted message).scene :=
  guarding.retime { state.threads with turnActive := true, currentThreadId := (threadOf message).or state.threads.currentThreadId } rfl rfl
    rfl (or_named (stringField_named _ _) guarding.named) state.history.addressed _

theorem Guarding.turnCompleted (message : JsonRpcMessage) : Guarding (state.turnCompleted message).scene := by
  obtain ⟨threads, _, rfl, cases_, same⟩ := @turnCompleted_cases state message
  have retimed := guarding.retime threads same.primaryThreadId same.generation same.selecting
    (by rw [same.currentThreadId]; exact or_named (stringField_named _ _) guarding.named) state.history.addressed
  rcases cases_ with quiet | ⟨pair, sends⟩
  · rw [quiet]
    exact retimed _
  · rw [sends]
    exact Guarding.sendInternalSettings (by exact retimed _) pair

theorem Guarding.answered (id : JsonRpcId) (message : JsonRpcMessage) : Guarding (state.answered id message).scene := by
  rw [answered_scene]
  cases found : state.pending.lookup id with
  | none => exact guarding
  | some request =>
    dsimp only
    split
    · next isSelecting => exact guarding.answer (mem_of_lookup found) isSelecting message _
    · exact guarding.drop _

theorem Guarding.handleUpstreamMessage (message : JsonRpcMessage) :
    Guarding (state.handleUpstreamMessage message).scene := by
  unfold Multiplexer.handleUpstreamMessage
  split
  · rw [deliver_scene]
    split
    · exact guarding.turnStarted message
    · split
      · exact guarding.turnCompleted message
      · exact guarding
  · split
    · exact guarding
    · split
      · rw [routeInitializeResponse_scene]
        exact guarding
      · exact guarding.answered _ message

end

theorem rewritten_thread {message after : JsonRpcMessage} (rewritten : Threads.Rewritten message after) :
    get? (asRecord after.params) "threadId" = get? (asRecord message.params) "threadId" := by
  rcases rewritten with same | ⟨pair, same⟩
  · rw [same]
  · rw [same]
    have apart (name : String) (differs : js "threadId" ≠ js name) (record : JsonObject JsNumber) (value : JsValue) :
        (setField record name value).lookup (js "threadId") = record.lookup (js "threadId") := lookup_setProperty_ne differs value
    have plain : (rewriteModeParams message.params pair).lookup (js "threadId") =
        ((asRecord message.params).getD []).lookup (js "threadId") := by
      unfold rewriteModeParams
      dsimp only
      split
      · rw [apart "effort" (by decide), apart "model" (by decide)]
      · rw [apart "collaborationMode" (by decide), apart "effort" (by decide), apart "model" (by decide)]
    show (rewriteModeParams message.params pair).lookup (js "threadId") = _
    rw [plain]
    cases asRecord message.params with
    | none => rfl
    | some record => rfl

theorem unguarded_thread (message : JsonRpcMessage) :
    get? (asRecord (Multiplexer.unguarded message).params) "threadId" = get? (asRecord message.params) "threadId" := by
  unfold Multiplexer.unguarded
  cases record : asRecord message.params with
  | none => rfl
  | some fields => exact lookup_filter_ne (by decide)

theorem secondary_plain {clientName : Option JsString} {method : String} (allowed : allowsSecondary clientName method = true) :
    selectingMethods.contains method = false := by
  cases selects : selectingMethods.contains method with
  | false => rfl
  | true =>
    simp only [selectingMethods, List.contains_eq_mem, List.mem_cons, List.not_mem_nil, or_false, decide_eq_true_eq] at selects
    unfold allowsSecondary at allowed
    rcases selects with rfl | rfl | rfl <;> split at allowed <;> exact absurd allowed (by decide)

theorem Guarding.forward (guarding : Guarding state.scene) (client : ClientState) (id : JsonRpcId) (method : String)
    (message : JsonRpcMessage) (guarded : Bool)
    (plain : state.isPrimary client.id = false → selectingMethods.contains method = false)
    (guards : guarded = true → state.upstreamOpen = true → ∃ threadId, get? (asRecord message.params) "threadId" = some (.string threadId) ∧
      chosenThread state.history.selections = some threadId ∧ awaitsAnswer state.history.selections = false) :
    Guarding (state.forward client id method message guarded).scene := by
  rw [forward_scene]
  obtain ⟨same, rewritten⟩ := (state.begun client method).rewriteRuntimeMessage_spec message
  have note : ∀ entry ∈ (if guarded && state.upstreamOpen then some ({
        message := { ((state.begun client method).rewriteRuntimeMessage message).2 with id := some (numberId state.nextUpstreamRequestId) }
        selections := state.history.selections } : Guarded) else none), Guards entry := by
    intro entry among
    split at among
    · next both =>
      obtain ⟨isGuarded, isOpen⟩ := Bool.and_eq_true _ _ ▸ both
      obtain ⟨threadId, names, rest⟩ := guards isGuarded isOpen
      rw [← Option.some.inj among]
      exact ⟨threadId, (rewritten_thread rewritten).trans names, rest⟩
    · cases among
  have named : ((state.begun client method).rewriteRuntimeMessage message).1.currentThreadId ≠ some [] := by
    rw [same.currentThreadId]
    have begun : (state.begun client method).currentThreadId ≠ some [] := by
      unfold Multiplexer.begun
      split <;> exact guarding.named
    split
    · exact stringField_named _ _
    · exact or_named (stringField_named _ _) begun
  by_cases selects : state.selects client method = true
  · have primary := of_decide_eq_true (Bool.and_eq_true _ _ ▸ selects : _ ∧ _).1
    have begun : state.begun client method = { state.threads with
        primarySelectionGeneration := state.threads.primarySelectionGeneration + 1
        primarySelectionPending := true } := if_pos selects
    have selected := guarding.select (numberId state.nextUpstreamRequestId) {
        clientId := some client.id
        clientRequestId := id
        method
        primarySelectionGeneration := some (state.begun client method).primarySelectionGeneration
        serial := some state.history.requests.length } rfl primary (by rw [begun]; exact congrArg (fun n => some (n + 1)) guarding.generation)
      rfl
    rw [if_pos selects, if_pos selects]
    have primaryThread : (state.begun client method).primaryThreadId = state.threads.primaryThreadId := by rw [begun]
    have generation : (state.begun client method).primarySelectionGeneration = state.threads.primarySelectionGeneration + 1 := by rw [begun]
    have selecting : (state.begun client method).primarySelectionPending = true := by rw [begun]
    exact (selected.retime _ (same.primaryThreadId.trans primaryThread) (same.generation.trans generation)
      (same.selecting.trans selecting) named (state.addressedBy client message) state.history.running).note _ note
  · have selects : state.selects client method = false := Bool.eq_false_iff.mpr selects
    have begun : state.begun client method = state.threads := if_neg (by rw [selects]; decide)
    have isPlain : selectingMethods.contains method = false := by
      cases primary : state.isPrimary client.id with
      | false => exact plain primary
      | true => simpa [Multiplexer.selects, primary] using selects
    rw [begun] at same named note ⊢
    simp only [selects, Bool.false_eq_true, if_false]
    have pushed := guarding.push (numberId state.nextUpstreamRequestId) {
        clientId := some client.id
        clientRequestId := id
        method
        serial := some state.history.requests.length } isPlain (state.history.requests.length + 1) (Nat.le_succ _)
      (.inr ⟨rfl, Nat.lt_succ_self _⟩)
    exact (pushed.retime _ same.primaryThreadId same.generation same.selecting named (state.addressedBy client message)
      state.history.running).note _ note

theorem text_eq {value : Option JsValue} {text : JsString} (isText : value.bind Json.text? = some text) : value = some (.string text) := by
  obtain ⟨value, rfl, isText⟩ := Option.bind_eq_some_iff.mp isText
  cases value with
  | string other => exact congrArg (fun text => some (Json.string text)) (Option.some.inj isText)
  | _ => cases isText

theorem Guarding.request (guarding : Guarding state.scene) (client : ClientState) (id : JsonRpcId) (method : String)
    (message : JsonRpcMessage) : Guarding (state.request client id method message).scene := by
  unfold Multiplexer.request
  split
  · exact guarding
  · next allowed =>
    have plain : state.isPrimary client.id = false → selectingMethods.contains method = false := fun secondary =>
      secondary_plain (show allowsSecondary client.clientName method = true from by simpa [secondary] using allowed)
    split
    · split
      · next confirms =>
        refine guarding.forward client id method _ true plain fun _ isOpen => ?_
        unfold Multiplexer.confirms at confirms
        rw [Bool.and_eq_true] at confirms
        obtain ⟨answered, confirmed⟩ := confirms
        cases primary : state.threads.primaryThreadId with
        | none =>
          rw [primary] at confirmed
          cases confirmed
        | some threadId =>
          rw [primary] at confirmed
          have names := text_eq (of_decide_eq_true (Bool.and_eq_true _ _ ▸ confirmed : _ ∧ _).2)
          refine ⟨threadId, (unguarded_thread message).trans names, (guarding.chosen isOpen).symm.trans primary, ?_⟩
          have answered : state.threads.primarySelectionPending = false := by simpa using answered
          exact (guarding.awaiting isOpen).symm.trans answered
      · rw [writeClient_scene]
        exact guarding
    · exact guarding.forward client id method message false plain nofun

theorem Guarding.handleClientMessage (guarding : Guarding state.scene) (client : ClientState) (message : JsonRpcMessage) :
    Guarding (state.handleClientMessage client message).scene := by
  unfold Multiplexer.handleClientMessage
  split
  · split
    · rw [initialize_scene]
      exact guarding
    · split
      · rw [initialized_scene]
        rcases @takeOver_scene state client with same | ⟨none_, promoted⟩
        · rw [same]
          exact guarding
        · rw [promoted]
          exact guarding.promote none_ client.id
      · split
        · rw [notification_scene]
          split
          · exact guarding
          · exact guarding.retime state.threads rfl rfl rfl guarding.named _ state.history.running
        · exact guarding.request client _ _ message
  · rw [answer_scene]
    exact guarding

theorem Guarding.step (guarding : Guarding state.scene) (event : MultiplexerEvent) : Guarding (state.step event).scene := by
  cases event with
  | connects =>
    rcases @connect_scene state with same | ⟨none_, promoted⟩
    · exact (show Guarding state.connect.scene from same ▸ guarding)
    · exact (show Guarding state.connect.scene from promoted ▸ guarding.promote none_ _)
  | clientSends clientId message =>
    unfold Multiplexer.step
    dsimp only
    split
    · exact guarding.handleClientMessage _ message
    · exact guarding
  | clientBreaks clientId => exact guarding
  | clientCloses clientId =>
    show Guarding (state.clientClosed clientId).scene
    unfold Multiplexer.clientClosed
    split
    · next primary => exact guarding.retire (of_decide_eq_true primary)
    · exact guarding.drop _
  | upstreamSends message => exact guarding.handleUpstreamMessage message
  | upstreamFails refused =>
    unfold Multiplexer.step
    dsimp only
    split
    · exact guarding.fail state.primaryClientId
    · exact guarding.fail none
  | replacementTimesOut =>
    unfold Multiplexer.step
    dsimp only
    split
    · exact guarding.fail state.primaryClientId
    · exact guarding
  | projects applyToThread next => exact guarding.refreshProjection applyToThread next
  | closes =>
    unfold Multiplexer.step
    dsimp only
    split <;> exact guarding
  | closed =>
    unfold Multiplexer.step
    dsimp only
    split
    · exact guarding.fail state.primaryClientId
    · exact guarding

end

/-! ## The thread in front of the user -/

/-- The multiplexer knows the primary's thread, and whether it has a turn. -/
structure Steady (scene : Scene) : Prop where
  current : scene.threads.currentThreadId = scene.addressed
  idle : scene.threads.turnActive = false → ∀ threadId, scene.addressed = some threadId → threadId ∉ scene.running
  once : scene.running.Nodup
  updates : ∀ update ∈ scene.settings, update.addressed = some update.threadId ∧ update.threadId ∉ update.running

def passes (state : Multiplexer) (client : ClientState) (method : String) (message : JsonRpcMessage) : Bool :=
  (state.isPrimary client.id || allowsSecondary client.clientName method) &&
    (Multiplexer.expectedThread message).all fun expected => state.confirms expected message

/-- A client's message names no thread that is not the primary's, and the primary does not go to a thread whose turn it left. -/
def inStepClient (state : Multiplexer) (client : ClientState) (message : JsonRpcMessage) : Bool :=
  match message.calls with
  | none => true
  | some method =>
    if method = "initialize" ∨ method = "initialized" then true
    else match message.id with
      | none => !state.isPrimary client.id || (threadOf message).all fun threadId => state.history.addressed = some threadId
      | some _ => !passes state client method message || (threadOf message).all fun threadId =>
        if state.isPrimary client.id then
          threadId ∉ state.history.running || (state.threads.turnActive && !selectingMethods.contains method)
        else state.history.addressed = some threadId

/-- An answer to a selection names the thread in front of the user, or one without a turn where the selection is the primary's last. -/
def inStepAnswer (state : Multiplexer) (request : PendingRequest) (message : JsonRpcMessage) : Bool :=
  !selectingMethods.contains request.method || (stringField (answeredThread message) "id").all fun threadId =>
    if request.serial.isSome && request.serial = state.history.selecting then
      threadId ∉ state.history.running || state.threads.turnActive
    else state.history.addressed = some threadId

/-- Turns are those of the primary's thread, one after another. -/
def inStepUpstream (state : Multiplexer) (message : JsonRpcMessage) : Bool :=
  match message.calls with
  | some method =>
    if method = "turn/started" then
      (threadOf message).all fun threadId => state.history.addressed = some threadId && threadId ∉ state.history.running
    else if method = "turn/completed" then
      match threadOf message with
      | some threadId => state.history.addressed = some threadId
      | none => state.history.addressed.all fun threadId => threadId ∉ state.history.running
    else true
  | none =>
    match message.id with
    | none => true
    | some id => (state.initializeUpstreamId.any fun upstreamId => id = numberId upstreamId) ||
      (state.pending.lookup id).all fun request => inStepAnswer state request message

/-- The threads and turns the multiplexer hears of are the primary's. -/
def InStep (state : Multiplexer) : MultiplexerEvent → Bool
  | .clientSends clientId message =>
    (state.connections.find? fun client => client.id = clientId).all fun client => inStepClient state client message
  | .upstreamSends message => inStepUpstream state message
  | _ => true

section

variable {state : Multiplexer}

section
variable (steady : Steady state.scene)

include steady

theorem Steady.sendInternalSettings (idle : state.threads.turnActive = false)
    (pair : CodexCliModeDefaultPair) : Steady (state.sendInternalSettings pair).scene := by
  rcases sendInternalSettings_scene pair with same | ⟨threadId, current, -, scene⟩
  · rw [same]
    exact steady
  · rw [scene]
    have addressed : state.history.addressed = some threadId := steady.current.symm.trans current
    refine { steady with updates := fun update among => ?_ }
    rcases List.mem_append.mp among with before | last
    · exact steady.updates update before
    · rw [List.mem_singleton.mp last]
      exact ⟨addressed, steady.idle idle threadId addressed⟩

theorem Steady.refreshProjection (applyToThread : Bool) (next : CodexCliModeDefaultsProjection) :
    Steady (state.refreshProjection applyToThread next).scene := by
  obtain ⟨threads, cases_, same⟩ := @refreshProjection_cases state applyToThread next
  have retimed : Steady { state with threads }.scene :=
    ⟨same.currentThreadId.trans steady.current, fun idle => steady.idle (same.turnActive.symm.trans idle), steady.once, steady.updates⟩
  rcases cases_ with quiet | ⟨idle, pair, sends⟩
  · rw [quiet]
    exact retimed
  · rw [sends]
    exact retimed.sendInternalSettings (same.turnActive.trans idle) pair

/-- A notification that names the primary's thread leaves it the current one. -/
theorem Steady.stays {named : Option JsString}
    (may : ∀ threadId, named = some threadId → state.history.addressed = some threadId) :
    named.or state.threads.currentThreadId = state.history.addressed := by
  cases named with
  | none => exact steady.current
  | some threadId => exact (may threadId rfl).symm

theorem Steady.turnStarted (message : JsonRpcMessage)
    (may : ∀ threadId, threadOf message = some threadId → state.history.addressed = some threadId ∧ threadId ∉ state.history.running) :
    Steady (state.turnStarted message).scene := by
  refine ⟨steady.stays fun threadId named => (may threadId named).1, nofun, ?_, steady.updates⟩
  show (state.history.running ++ (threadOf message).toList).Nodup
  cases named : threadOf message with
  | none =>
    have once : state.history.running.Nodup := steady.once
    simpa using once
  | some threadId =>
    exact List.nodup_append.mpr ⟨steady.once, List.nodup_singleton _, fun other among last isLast same =>
      (may threadId named).2 (List.mem_singleton.mp isLast ▸ same ▸ among)⟩

theorem Steady.turnCompleted (message : JsonRpcMessage)
    (may : match threadOf message with
      | some threadId => state.history.addressed = some threadId
      | none => ∀ threadId, state.history.addressed = some threadId → threadId ∉ state.history.running) :
    Steady (state.turnCompleted message).scene := by
  obtain ⟨threads, after, made, cases_, same⟩ := @turnCompleted_cases state message
  have completed : Steady after.scene := by
    subst made
    refine ⟨same.currentThreadId.trans (steady.stays fun threadId named => ?_), fun _ threadId addressed => ?_, ?_, steady.updates⟩
    · rw [named] at may
      exact may
    · cases named : threadOf message with
      | none =>
        rw [named] at may
        exact may threadId addressed
      | some completed =>
        rw [named] at may
        rw [Option.some.inj (addressed.symm.trans may)]
        exact steady.once.not_mem_erase
    · split
      · exact steady.once.erase _
      · exact steady.once
  rcases cases_ with quiet | ⟨pair, sends⟩
  · rw [quiet]
    exact completed
  · rw [sends]
    exact completed.sendInternalSettings (by rw [made]; exact same.turnActive) pair

theorem Steady.answered (id : JsonRpcId) (message : JsonRpcMessage)
    (may : ∀ request, state.pending.lookup id = some request → inStepAnswer state request message = true) :
    Steady (state.answered id message).scene := by
  rw [answered_scene]
  cases found : state.pending.lookup id with
  | none => exact steady
  | some request =>
    dsimp only
    split
    · next selects =>
      have may := may request found
      simp only [inStepAnswer, selects, Bool.not_true, Bool.false_or] at may
      have addressed : ((stringField (answeredThread message) "id").or state.threads.currentThreadId) =
          if request.serial.isSome && request.serial = state.history.selecting then
            (stringField (answeredThread message) "id").or state.history.addressed
          else state.history.addressed := by
        rw [show state.threads.currentThreadId = state.history.addressed from steady.current]
        split
        · rfl
        · next other =>
          cases named : stringField (answeredThread message) "id" with
          | none => rfl
          | some threadId =>
            rw [named] at may
            simp only [Option.all_some, other, Bool.false_eq_true, if_false, decide_eq_true_eq] at may
            exact may.symm
      refine ⟨addressed, fun idle threadId isAddressed => ?_, steady.once, steady.updates⟩
      have idle : state.threads.turnActive = false := idle
      have isAddressed : (if request.serial.isSome && request.serial = state.history.selecting then
          (stringField (answeredThread message) "id").or state.history.addressed else state.history.addressed) = some threadId := isAddressed
      show threadId ∉ state.history.running
      split at isAddressed
      · next own =>
        cases named : stringField (answeredThread message) "id" with
        | none =>
          rw [named] at isAddressed
          exact steady.idle idle threadId isAddressed
        | some answered =>
          rw [named] at may isAddressed
          simpa [own, idle, Option.some.inj isAddressed] using may
      · exact steady.idle idle threadId isAddressed
    · exact { steady with }

theorem Steady.handleUpstreamMessage (message : JsonRpcMessage)
    (may : inStepUpstream state message = true) : Steady (state.handleUpstreamMessage message).scene := by
  unfold inStepUpstream at may
  unfold Multiplexer.handleUpstreamMessage
  split
  · next method calls =>
    rw [calls] at may
    dsimp only at may
    rw [deliver_scene]
    by_cases started : method = "turn/started"
    · rw [if_pos started] at may ⊢
      refine steady.turnStarted message fun threadId named => ?_
      simpa [named] using may
    · rw [if_neg started] at may ⊢
      by_cases completed : method = "turn/completed"
      · rw [if_pos completed] at may ⊢
        refine steady.turnCompleted message ?_
        split
        · next threadId named =>
          rw [named] at may
          exact of_decide_eq_true may
        · next unnamed =>
          intro threadId addressed
          rw [unnamed, addressed] at may
          simpa using may
      · rw [if_neg completed]
        exact steady
  · next calls =>
    rw [calls] at may
    split
    · exact steady
    · next id isId =>
      rw [isId] at may
      split
      · rw [routeInitializeResponse_scene]
        exact steady
      · next other =>
        refine steady.answered id message fun request found => ?_
        simpa [other, found] using may

end

theorem begun_thread (client : ClientState) (method : String) :
    (state.begun client method).currentThreadId = state.threads.currentThreadId ∧
      (state.begun client method).turnActive = state.threads.turnActive := by
  unfold Multiplexer.begun
  split <;> exact ⟨rfl, rfl⟩

theorem Steady.forward (steady : Steady state.scene) (client : ClientState) (id : JsonRpcId) {method : String}
    {message : JsonRpcMessage} (isId : message.id.isSome = true) (calls : message.method = some method) (guarded : Bool)
    (plain : state.isPrimary client.id = false → selectingMethods.contains method = false)
    (may : ∀ threadId, threadOf message = some threadId → if state.isPrimary client.id = true then
        threadId ∉ state.history.running ∨ state.threads.turnActive = true ∧ selectingMethods.contains method = false
      else state.history.addressed = some threadId) :
    Steady (state.forward client id method message guarded).scene := by
  rw [forward_scene]
  obtain ⟨same, -⟩ := (state.begun client method).rewriteRuntimeMessage_spec message
  have selects : message.method.any selectingMethods.contains = selectingMethods.contains method := by rw [calls]; rfl
  have current := same.currentThreadId
  have active := same.turnActive
  obtain ⟨begunCurrent, begunActive⟩ := @begun_thread state client method
  rw [selects] at current active
  rw [begunCurrent, show state.threads.currentThreadId = state.history.addressed from steady.current] at current
  rw [begunActive] at active
  have addressedBy : state.addressedBy client message = if !state.isPrimary client.id then state.history.addressed
      else if selectingMethods.contains method then threadOf message else (threadOf message).or state.history.addressed := by
    unfold Multiplexer.addressedBy
    rw [selects, isId, Bool.and_true]
  rw [addressedBy]
  cases primary : state.isPrimary client.id with
  | false =>
    have unselecting := plain primary
    rw [unselecting, Bool.not_false, Bool.and_true] at active
    rw [unselecting, if_neg (by decide)] at current
    simp only [primary, Bool.false_eq_true, if_false] at may
    refine ⟨current.trans ?_, fun idle => steady.idle (active.symm.trans idle), steady.once, steady.updates⟩
    show (threadOf message).or state.history.addressed = state.history.addressed
    cases named : threadOf message with
    | none => rfl
    | some threadId => exact (may threadId named).symm
  | true =>
    simp only [primary, if_true] at may
    refine ⟨current, fun idle threadId addressed => ?_, steady.once, steady.updates⟩
    have idle : (state.threads.turnActive && !selectingMethods.contains method) = false := active.symm.trans idle
    have addressed : (if selectingMethods.contains method then threadOf message else (threadOf message).or state.history.addressed) =
      some threadId := addressed
    cases selecting : selectingMethods.contains method with
    | true =>
      rw [selecting, if_pos rfl] at addressed
      exact (may threadId addressed).resolve_right fun both => by rw [selecting] at both; exact absurd both.2 (by decide)
    | false =>
      rw [selecting, if_neg (by decide)] at addressed
      rw [selecting, Bool.not_false, Bool.and_true] at idle
      cases named : threadOf message with
      | none =>
        rw [named] at addressed
        exact steady.idle idle threadId addressed
      | some other =>
        rw [named] at addressed
        rw [← Option.some.inj addressed]
        exact (may other named).resolve_right fun both => by rw [idle] at both; exact absurd both.1 (by decide)

theorem threadOf_unguarded (message : JsonRpcMessage) : threadOf (Multiplexer.unguarded message) = threadOf message := by
  unfold Multiplexer.threadOf stringField
  rw [unguarded_thread]

theorem Steady.request (steady : Steady state.scene) (client : ClientState) {id : JsonRpcId} {method : String}
    {message : JsonRpcMessage} (isId : message.id = some id) (calls : message.method = some method)
    (may : passes state client method message = true → ∀ threadId, threadOf message = some threadId →
      if state.isPrimary client.id = true then
        threadId ∉ state.history.running ∨ state.threads.turnActive = true ∧ selectingMethods.contains method = false
      else state.history.addressed = some threadId) :
    Steady (state.request client id method message).scene := by
  unfold Multiplexer.request
  split
  · exact steady
  · next allowed =>
    have role : (state.isPrimary client.id || allowsSecondary client.clientName method) = true := by
      cases primary : state.isPrimary client.id with
      | true => rfl
      | false => simpa [primary] using allowed
    have plain : state.isPrimary client.id = false → selectingMethods.contains method = false := by
      intro secondary
      rw [secondary, Bool.false_or] at role
      exact secondary_plain role
    split
    · next expected isExpected =>
      split
      · next confirms =>
        refine @Steady.forward _ steady client id method (Multiplexer.unguarded message) ?_ calls true plain ?_
        · exact Option.isSome_of_eq_some isId
        · rw [threadOf_unguarded]
          exact may (by simp [passes, role, isExpected, confirms])
      · rw [writeClient_scene]
        exact steady
    · next unexpected =>
      exact steady.forward client id (Option.isSome_of_eq_some isId) calls false plain (may (by simp [passes, role, unexpected]))

theorem Steady.handleClientMessage (steady : Steady state.scene) (client : ClientState) (message : JsonRpcMessage)
    (may : inStepClient state client message = true) : Steady (state.handleClientMessage client message).scene := by
  unfold inStepClient at may
  unfold Multiplexer.handleClientMessage
  split
  · next method calls =>
    rw [calls] at may
    dsimp only at may
    split
    · rw [initialize_scene]
      exact steady
    · next notInitialize =>
      split
      · rw [initialized_scene]
        rcases @takeOver_scene state client with same | ⟨-, promoted⟩
        · rw [same]
          exact steady
        · rw [promoted]
          exact { steady with }
      · next notInitialized =>
        rw [if_neg (by simp [notInitialize, notInitialized])] at may
        split
        · next noId =>
          rw [noId] at may
          rw [notification_scene]
          split
          · exact steady
          · next primary =>
            have isPrimary : state.isPrimary client.id = true := by simpa using primary
            have same : state.addressedBy client message = state.history.addressed := by
              simp only [Multiplexer.addressedBy, isPrimary, noId, Option.isSome_none, Bool.and_false, Bool.not_true, Bool.false_eq_true,
                if_false]
              cases named : threadOf message with
              | none => rfl
              | some threadId =>
                simp only [isPrimary, named, Bool.not_true, Bool.false_or, Option.all_some, decide_eq_true_eq] at may
                exact may.symm
            rw [same]
            exact steady
        · next id isId =>
          rw [isId] at may
          refine steady.request client isId (Option.filter_eq_some_iff.mp calls).1 fun pass threadId named => ?_
          simp only [pass, named, Bool.not_true, Bool.false_or, Option.all_some] at may
          split
          · next primary => simpa [primary] using may
          · next secondary => simpa [secondary] using may
  · rw [answer_scene]
    exact steady

theorem Steady.step (steady : Steady state.scene) (event : MultiplexerEvent) (may : InStep state event = true) :
    Steady (state.step event).scene := by
  have kept (upstreamOpen : Bool) (primaryClientId : Option Nat) (pending : List (JsonRpcId × PendingRequest)) :
      Steady { state.scene with upstreamOpen, primaryClientId, pending } := { steady with }
  cases event with
  | connects =>
    rcases @connect_scene state with same | ⟨-, promoted⟩
    · exact (show Steady state.connect.scene from same ▸ steady)
    · exact (show Steady state.connect.scene from promoted ▸ kept _ _ _)
  | clientSends clientId message =>
    unfold Multiplexer.step
    dsimp only
    split
    · next client found =>
      refine steady.handleClientMessage client message ?_
      simpa [InStep, found] using may
    · exact steady
  | clientBreaks clientId => exact steady
  | clientCloses clientId =>
    show Steady (state.clientClosed clientId).scene
    unfold Multiplexer.clientClosed
    split <;> exact kept _ _ _
  | upstreamSends message => exact steady.handleUpstreamMessage message may
  | upstreamFails refused =>
    unfold Multiplexer.step
    dsimp only
    split <;> exact kept _ _ _
  | replacementTimesOut =>
    unfold Multiplexer.step
    dsimp only
    split
    · exact kept _ _ _
    · exact steady
  | projects applyToThread next => exact steady.refreshProjection applyToThread next
  | closes =>
    unfold Multiplexer.step
    dsimp only
    split <;> exact steady
  | closed =>
    unfold Multiplexer.step
    dsimp only
    split
    · exact kept _ _ _
    · exact steady

end

/-! ## Every run -/

theorem guarding_start : Guarding ({} : Multiplexer).scene :=
  ⟨rfl, List.forall_mem_nil _, (Option.some_ne_none _).symm, rfl, .nil, List.forall_mem_nil _, List.forall_mem_nil _,
    List.forall_mem_nil _, fun _ => rfl, fun _ => rfl, fun _ => List.forall_mem_nil _⟩

theorem steady_start : Steady ({} : Multiplexer).scene := ⟨rfl, fun _ => nofun, .nil, nofun⟩

theorem guarding_run (events : List MultiplexerEvent) {state : Multiplexer} (guarding : Guarding state.scene) :
    Guarding (events.foldl Multiplexer.step state).scene := by
  induction events generalizing state with
  | nil => exact guarding
  | cons event rest ih => exact ih (guarding.step event)

theorem steady_run (events : List MultiplexerEvent) {state : Multiplexer} (steady : Steady state.scene)
    (may : AllowedRun (fun state event => InStep state event = true) Multiplexer.step state events) :
    Steady (events.foldl Multiplexer.step state).scene := by
  induction events generalizing state with
  | nil => exact steady
  | cons event rest ih => exact ih (steady.step event may.1) may.2

/-- A guarded update passed on names the thread of the latest selection that counts. The multiplexer's own updates, where only the
primary moves between threads and leaves none in a turn, name the primary's thread while it has no turn. -/
theorem settings_of_own_thread (events : List MultiplexerEvent) :
    (∀ update ∈ (events.foldl Multiplexer.step {}).history.guarded, Guards update) ∧
    ownThreads (events.foldl Multiplexer.step {}).history.written =
      (events.foldl Multiplexer.step {}).history.settings.map (fun update => some update.threadId) ∧
    (AllowedRun (fun state event => InStep state event = true) Multiplexer.step {} events →
      ∀ update ∈ (events.foldl Multiplexer.step {}).history.settings,
        update.addressed = some update.threadId ∧ update.threadId ∉ update.running) := by
  have guarding := guarding_run events guarding_start
  exact ⟨guarding.guards, guarding.linked, fun may => (steady_run events steady_start may).updates⟩

namespace Sample

def pair (model : String) : CodexCliModeDefaultPair := { modelId := js model, reasoningEffort := js "high" }

def projected (revision model : String) : CodexCliModeDefaultsProjection := {
  revision
  build := pair model
  plan := pair model }

def naming (threadId : String) : Option JsValue := some (.object [(js "threadId", .string (js threadId))])

def buildTurn (threadId : String) : Option JsValue :=
  some (.object [(js "threadId", .string (js threadId)), (js "collaborationMode", .object [(js "mode", .string (js "default"))])])

def thread (id : Nat) (threadId : String) (ephemeral : Bool) : JsonRpcMessage := {
  id := some (numberId id)
  result := some (.object [(js "thread", .object [(js "id", .string (js threadId)), (js "ephemeral", .bool ephemeral)])]) }

def call (id : Nat) (method : String) (params : Option JsValue) : JsonRpcMessage := {
  id := some (numberId id)
  method := some method
  params }

/-- The terminal starts a thread and a turn in it, which ends; then the projection changes. -/
def started : List MultiplexerEvent :=
  [.projects false (projected "1" "small"), .connects, .clientSends 1 (call 1 "thread/start" none),
    .upstreamSends (thread 1000000000 "thread:own" false), .clientSends 1 (call 2 "turn/start" (buildTurn "thread:own")),
    .upstreamSends { method := some "turn/started", params := naming "thread:own" },
    .projects true (projected "2" "large"), .upstreamSends { method := some "turn/completed", params := naming "thread:own" }]

/-- A picker reads another thread before the projection changes. -/
def picked : List MultiplexerEvent :=
  [.projects false (projected "1" "small"), .connects, .clientSends 1 (call 1 "thread/start" none),
    .upstreamSends (thread 1000000000 "thread:own" false), .clientSends 1 (call 2 "turn/start" (buildTurn "thread:own")), .connects,
    .clientSends 2 (call 1 "thread/read" (naming "thread:other")), .projects true (projected "2" "large")]

/-- A control client updates the thread from which the terminal went to a side thread. -/
def aside : List MultiplexerEvent :=
  [.connects, .clientSends 1 (call 1 "thread/start" none), .upstreamSends (thread 1000000000 "thread:own" false),
    .clientSends 1 (call 2 "thread/start" none), .upstreamSends (thread 1000000001 "thread:side" true), .connects,
    .clientSends 2 (call 1 "initialize" (some (.object [(js "clientInfo", .object [(js "name", .string (js "space"))])]))),
    .clientSends 2 (call 2 "thread/settings/update" (some (.object [(js "threadId", .string (js "thread:own")),
      (js "spaceExpectedPrimaryThreadId", .string (js "thread:own"))])))]

end Sample

theorem settings_of_own_thread_started : (∀ update ∈ (Sample.started.foldl Multiplexer.step {}).history.settings,
      update.addressed = some update.threadId ∧ update.threadId ∉ update.running) ∧
    (Sample.started.foldl Multiplexer.step {}).history.settings.map (·.threadId) = [js "thread:own"] :=
  ⟨(settings_of_own_thread Sample.started).2.2 (by decide +kernel), by decide +kernel⟩

/-- An update made for the projection names the thread a picker read, and a guarded update passes though the latest answered selection
is of another thread. -/
theorem other_thread_updated : (Sample.picked.foldl Multiplexer.step {}).history.settings =
      [{ threadId := js "thread:other", addressed := some (js "thread:own"), running := [] }] ∧
    ((Sample.aside.foldl Multiplexer.step {}).history.guarded.map fun update =>
      (threadOf update.message, (update.selections.getLast?.bind (·.answer)).bind fun answer => stringField (answeredThread answer) "id")) =
      [(some (js "thread:own"), some (js "thread:side"))] :=
  ⟨by decide +kernel, by decide +kernel⟩

end SpaceApp.AppServer.Routing
