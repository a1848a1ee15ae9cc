import SpaceApp.Gateway.Codex.Chat

/-! The chunk stream and the whole reply agree: what a client folds from the chunks of a
Responses stream is what it would have got for the final response.
-/

set_option autoImplicit false

namespace SpaceApp.Gateway.Codex.Chat

open SpaceApp.Foundation

/-! ## The client's fold -/

structure FoldedChat where
  content : Option JsString := none
  toolCalls : List (Nat × ChatToolCall) := []
  finishReason : Option JsString := none
  usage : Option ChatUsage := none

def appendArguments (toolCalls : List (Nat × ChatToolCall)) (index : Nat) (text : JsString) :
    List (Nat × ChatToolCall) :=
  toolCalls.map fun entry =>
    if entry.1 = index then (entry.1, { entry.2 with arguments := entry.2.arguments ++ text }) else entry

def appendContent (content : Option JsString) (text : JsString) : Option JsString :=
  some (content.getD [] ++ text)

def FoldedChat.delta (folded : FoldedChat) : ChatDelta → FoldedChat
  | .role => { folded with content := appendContent folded.content [] }
  | .content text => { folded with content := appendContent folded.content text }
  | .toolStart index id name =>
      { folded with toolCalls := folded.toolCalls ++ [(index, { id, name, arguments := [] })] }
  | .toolArguments index text =>
      { folded with toolCalls := appendArguments folded.toolCalls index text }
  | .nothing => folded

def FoldedChat.receive (folded : FoldedChat) : ChatEmission → FoldedChat
  | .chunk _ _ delta finish =>
      let next := folded.delta delta
      { next with finishReason := finish <|> next.finishReason }
  | .usage _ _ usage => { folded with usage }
  | .error _ _ => folded
  | .done => folded

def foldChunks (folded : FoldedChat) (emissions : List ChatEmission) : FoldedChat :=
  emissions.foldl FoldedChat.receive folded

namespace ChatStreamTranslator

def answer (runtime : ChatRuntime) (translator : ChatStreamTranslator) (events : List (JsonObject JsNumber)) :
    ChatStreamTranslator × List ChatEmission :=
  events.foldl (fun (before : ChatStreamTranslator × List ChatEmission) event =>
    let next := before.1.handle runtime event
    (next.1, before.2 ++ next.2)) (translator, [])

end ChatStreamTranslator

structure Agrees (folded : FoldedChat) (whole : ChatCompletion) : Prop where
  content : folded.content = whole.content
  toolCalls : folded.toolCalls.map Prod.snd = whole.toolCalls
  indexes : folded.toolCalls.map Prod.fst = List.range whole.toolCalls.length
  finishReason : folded.finishReason = some whole.finishReason
  usage : folded.usage = whole.usage

/-- The same, where `null` content counts as empty and usage only when it was asked for. -/
structure AgreesAsStreamed (includeUsage : Bool) (folded : FoldedChat) (whole : ChatCompletion) : Prop where
  content : folded.content = some (whole.content.getD [])
  toolCalls : folded.toolCalls.map Prod.snd = whole.toolCalls
  indexes : folded.toolCalls.map Prod.fst = List.range whole.toolCalls.length
  finishReason : folded.finishReason = some whole.finishReason
  usage : folded.usage = if includeUsage then whole.usage else none

/-! ## The event sequences -/

structure Call where
  keys : List JsString
  callId : JsString
  name : Option JsValue
  arguments : JsString

inductive ArgumentEvent where
  | delta (text : JsString)
  | done (text : Option JsString)
  deriving DecidableEq

/-- What an event says. -/
inductive ChatStep where
  | text (delta : JsString)
  | added (index : Nat)
  | arguments (index : Nat) (event : ArgumentEvent)
  | silent

section Reading

variable (runtime : ChatRuntime) (calls : List Call)

def hasType (event : JsonObject JsNumber) (type : String) : Prop := str (event.get "type") = some (js type)

instance (event : JsonObject JsNumber) (type : String) : Decidable (hasType event type) :=
  inferInstanceAs (Decidable (_ = _))

def activeTypes : List String :=
  ["response.output_text.delta", "response.output_item.added", "response.function_call_arguments.delta",
    "response.function_call_arguments.done", "response.output_item.done", "response.completed",
    "response.incomplete", "response.failed", "error"]

structure Names (event : JsonObject JsNumber) (item : Option (JsonObject JsNumber)) (index : Nat) : Prop where
  own : ∃ call, calls[index]? = some call ∧ ∃ key ∈ presentKeys
    [str (event.get "item_id"), str (get? item "id"), str (get? item "call_id"), outputKey runtime event],
    key ∈ call.keys
  only : ∀ key ∈ presentKeys
    [str (event.get "item_id"), str (get? item "id"), str (get? item "call_id"), outputKey runtime event],
    ∀ (other : Nat) (call : Call), calls[other]? = some call → key ∈ call.keys → other = index

inductive Reads (event : JsonObject JsNumber) : ChatStep → Prop where
  | text {delta : JsString} (type : hasType event "response.output_text.delta")
      (delta_ : str (event.get "delta") = some delta) : Reads event (.text delta)
  | added {index : Nat} {call : Call} {item : JsonObject JsNumber} (type : hasType event "response.output_item.added")
      (item_ : obj (event.get "item") = some item) (function_ : isType item "function_call" = true)
      (known : calls[index]? = some call) (callId : str (item.get "call_id") = some call.callId)
      (name : item.get "name" = call.name)
      (keys : presentKeys [str (item.get "id"), str (item.get "call_id"), outputKey runtime event] = call.keys) :
      Reads event (.added index)
  | delta {index : Nat} {text : JsString} (type : hasType event "response.function_call_arguments.delta")
      (delta_ : str (event.get "delta") = some text) (names : Names runtime calls event none index) :
      Reads event (.arguments index (.delta text))
  | argumentsDone {index : Nat} (type : hasType event "response.function_call_arguments.done")
      (names : Names runtime calls event (obj (event.get "item")) index) :
      Reads event (.arguments index
        (.done (str (event.get "arguments") <|> str (get? (obj (event.get "item")) "arguments"))))
  | itemDone {index : Nat} {item : JsonObject JsNumber} (type : hasType event "response.output_item.done")
      (item_ : obj (event.get "item") = some item) (function_ : isType item "function_call" = true)
      (names : Names runtime calls event (some item) index) :
      Reads event (.arguments index (.done (str (event.get "arguments") <|> str (item.get "arguments"))))
  | other (type : ∀ active ∈ activeTypes, ¬ hasType event active) : Reads event .silent
  | message (type : hasType event "response.output_item.added" ∨ hasType event "response.output_item.done")
      (item_ : ∀ item, obj (event.get "item") = some item → isType item "function_call" = false) :
      Reads event .silent

end Reading

/-- Calls are added in order, each before its argument events, and all of them. -/
def InOrder (total : Nat) : Nat → List ChatStep → Prop
  | added, [] => added = total
  | added, .added index :: rest => index = added ∧ InOrder total (added + 1) rest
  | added, .arguments index _ :: rest => index < added ∧ InOrder total added rest
  | added, .text _ :: rest => InOrder total added rest
  | added, .silent :: rest => InOrder total added rest

def deltaText : ArgumentEvent → Option JsString
  | .delta text => some text
  | .done _ => none

/-- The arguments arrive as deltas, later done events only repeating them, or in done events. -/
def Arrives (arguments : JsString) (events : List ArgumentEvent) : Prop :=
  (∃ first rest, events = .delta first :: rest ∧ (events.filterMap deltaText).flatten = arguments) ∨
  ((∀ event ∈ events, ∃ text, event = .done text ∧ (text.getD [] = [] ∨ text = some arguments)) ∧
    (arguments = [] ∨ .done (some arguments) ∈ events))

def argumentsOf (index : Nat) : ChatStep → Option ArgumentEvent
  | .arguments named event => if named = index then some event else none
  | _ => none

def textOf : ChatStep → Option JsString
  | .text delta => some delta
  | _ => none

def PartText (part : JsValue) (text : JsString) : Prop :=
  (∃ fields : JsonObject JsNumber, part = .object fields ∧ isType fields "output_text" = true ∧
    str (fields.get "text") = some text) ∨
  ((∀ fields : JsonObject JsNumber, part = .object fields → isType fields "output_text" = false) ∧ text = [])

/-- An output list holds these calls in order and this text. -/
inductive Lists : List JsValue → List Call → JsString → Prop where
  | nil : Lists [] [] []
  | call {item : JsonObject JsNumber} {call : Call} {rest : List JsValue} {calls : List Call} {text : JsString}
      (type : isType item "function_call" = true) (callId : str (item.get "call_id") = some call.callId)
      (name : item.get "name" = call.name) (arguments : str (item.get "arguments") = some call.arguments)
      (later : Lists rest calls text) : Lists (.object item :: rest) (call :: calls) text
  | message {item : JsonObject JsNumber} {parts : List JsValue} {pieces : List JsString} {rest : List JsValue}
      {calls : List Call} {text : JsString} (type : isType item "message" = true)
      (content : item.get "content" = some (.array parts)) (reads : List.Forall₂ PartText parts pieces)
      (later : Lists rest calls text) : Lists (.object item :: rest) calls (pieces.flatten ++ text)
  | other {item : JsValue} {rest : List JsValue} {calls : List Call} {text : JsString}
      (type : ∀ fields : JsonObject JsNumber, item = .object fields →
        isType fields "function_call" = false ∧ isType fields "message" = false)
      (later : Lists rest calls text) : Lists (item :: rest) calls text

def Apart (calls : List Call) : Prop :=
  ∀ (i j : Nat) (first second : Call), calls[i]? = some first → calls[j]? = some second →
    ∀ key ∈ first.keys, key ∈ second.keys → i = j

/-- A stream of these calls with its final event. -/
structure Conversation (runtime : ChatRuntime) (calls : List Call) (events : List (JsonObject JsNumber))
    (final response : JsonObject JsNumber) (steps : List ChatStep) : Prop where
  apart : Apart calls
  reads : List.Forall₂ (Reads runtime calls) events steps
  inOrder : InOrder calls.length 0 steps
  arrives : ∀ (index : Nat) (call : Call), calls[index]? = some call →
    Arrives call.arguments (steps.filterMap (argumentsOf index))
  ends : hasType final "response.completed" ∨ hasType final "response.incomplete"
  response_ : obj (final.get "response") = some response
  output : ∃ items, response.get "output" = some (.array items) ∧
    Lists items calls (steps.filterMap textOf).flatten

/-! ## What the translator makes of a call's events -/

def receivedStep (before : JsString × Bool) : ArgumentEvent → JsString × Bool
  | .delta text => (before.1 ++ text, true)
  | .done text => if before.2 ∨ text.getD [] = [] then before else (before.1 ++ text.getD [], true)

def received (events : List ArgumentEvent) : JsString × Bool := events.foldl receivedStep ([], false)

theorem received_streamed (events : List ArgumentEvent) (before : JsString) :
    events.foldl receivedStep (before, true) = (before ++ (events.filterMap deltaText).flatten, true) := by
  induction events generalizing before with
  | nil => simp
  | cons event rest ih =>
    cases event with
    | delta text =>
      rw [List.filterMap_cons_some (show deltaText (.delta text) = some text from rfl)]
      simp [receivedStep, ih]
    | done text =>
      rw [List.filterMap_cons_none (show deltaText (.done text) = none from rfl)]
      simp [receivedStep, ih]

theorem received_done {arguments : JsString} {events : List ArgumentEvent}
    (done : ∀ event ∈ events, ∃ text, event = .done text ∧ (text.getD [] = [] ∨ text = some arguments))
    (given : arguments = [] ∨ .done (some arguments) ∈ events) :
    (events.foldl receivedStep ([], false)).1 = arguments := by
  induction events with
  | nil => simpa using given.symm
  | cons event rest ih =>
    obtain ⟨text, rfl, empty | full⟩ := done event List.mem_cons_self
    · simp only [List.foldl_cons, receivedStep, empty, or_true, if_true]
      apply ih (fun event member => done event (List.mem_cons_of_mem _ member))
      rcases given with none | member
      · exact .inl none
      · rcases List.mem_cons.mp member with same | member
        · cases same
          exact .inl empty
        · exact .inr member
    · subst full
      by_cases none : arguments = []
      · subst none
        exact ih (fun event member => done event (List.mem_cons_of_mem _ member)) (.inl rfl)
      · have noDelta : rest.filterMap deltaText = [] := by
          rw [List.filterMap_eq_nil_iff]
          intro event member
          obtain ⟨text, rfl, _⟩ := done event (List.mem_cons_of_mem _ member)
          rfl
        simp [receivedStep, none, received_streamed, noDelta]

theorem received_arrives {arguments : JsString} {events : List ArgumentEvent}
    (arrives : Arrives arguments events) : (received events).1 = arguments := by
  rcases arrives with ⟨first, rest, rfl, same⟩ | ⟨done, given⟩
  · simp only [received, List.foldl_cons, receivedStep, received_streamed]
    simpa [deltaText] using same
  · exact received_done done given

/-! ## The answers to the events -/

section Answers

variable {runtime : ChatRuntime} {translator : ChatStreamTranslator} {event : JsonObject JsNumber}

theorem handle_text {delta : JsString} (type : hasType event "response.output_text.delta")
    (delta_ : str (event.get "delta") = some delta) : translator.handle runtime event =
      (translator.role.1, translator.role.2 ++ [translator.role.1.chunk (.content delta)]) := by
  unfold hasType at type
  simp +decide [ChatStreamTranslator.handle, isType, type, delta_]

theorem handle_added {item : JsonObject JsNumber} (type : hasType event "response.output_item.added")
    (item_ : obj (event.get "item") = some item) (function_ : isType item "function_call" = true) :
    translator.handle runtime event = translator.toolAdded runtime event item := by
  unfold hasType at type
  have isAdded : ∀ name, isType event name = decide (js "response.output_item.added" = js name) := by
    simp [isType, type]
  simp +decide [ChatStreamTranslator.handle, isAdded, item_, function_]

theorem handle_delta {text : JsString} (type : hasType event "response.function_call_arguments.delta")
    (delta_ : str (event.get "delta") = some text) :
    translator.handle runtime event = translator.argumentsDelta runtime event text := by
  unfold hasType at type
  simp +decide [ChatStreamTranslator.handle, isType, type, delta_]

theorem handle_argumentsDone (type : hasType event "response.function_call_arguments.done") :
    translator.handle runtime event = translator.argumentsDone runtime event (obj (event.get "item")) := by
  unfold hasType at type
  simp +decide [ChatStreamTranslator.handle, isType, type]

theorem handle_itemDone {item : JsonObject JsNumber} (type : hasType event "response.output_item.done")
    (item_ : obj (event.get "item") = some item) (function_ : isType item "function_call" = true) :
    translator.handle runtime event = translator.argumentsDone runtime event (some item) := by
  unfold hasType at type
  have isDone : ∀ name, isType event name = decide (js "response.output_item.done" = js name) := by
    simp [isType, type]
  simp +decide [ChatStreamTranslator.handle, isDone, item_, function_]

theorem handle_silent {calls : List Call} (reads : Reads runtime calls event .silent) :
    ∃ id model, translator.handle runtime event = ({ translator with id, model }, []) := by
  cases reads with
  | other type =>
    have never : ∀ active ∈ activeTypes, isType event active = false := by
      intro active member
      simpa [isType, hasType] using type active member
    simp only [activeTypes, List.forall_mem_cons] at never
    obtain ⟨a, b, c, d, e, f, g, h, i, _⟩ := never
    simp only [ChatStreamTranslator.handle, a, b, c, d, e, f, g, h, i, Bool.false_and, Bool.or_self]
    split
    · exact ⟨_, _, rfl⟩
    · exact ⟨translator.id, translator.model, rfl⟩
  | message type item_ =>
    refine ⟨translator.id, translator.model, ?_⟩
    rcases type with type | type <;> unfold hasType at type <;> cases item : obj (event.get "item")
    · simp +decide [ChatStreamTranslator.handle, isType, type, item]
    · have isAdded : ∀ name, isType event name = decide (js "response.output_item.added" = js name) := by
        simp [isType, type]
      simp +decide [ChatStreamTranslator.handle, isAdded, item, item_ _ item]
    · simp +decide [ChatStreamTranslator.handle, isType, type, item]
    · have isDone : ∀ name, isType event name = decide (js "response.output_item.done" = js name) := by
        simp [isType, type]
      simp +decide [ChatStreamTranslator.handle, isDone, item, item_ _ item]

theorem handle_completed {response : JsonObject JsNumber}
    (type : hasType event "response.completed" ∨ hasType event "response.incomplete")
    (response_ : obj (event.get "response") = some response) :
    translator.handle runtime event = translator.completed runtime (some response) := by
  rcases type with type | type <;> unfold hasType at type <;>
    simp +decide [ChatStreamTranslator.handle, isType, type, response_]

end Answers

/-! ## Keys of the calls -/

theorem lookup_keys (keys : List JsString) (index : Nat) (before : List (JsString × Nat)) (key : JsString) :
    ((keys.map fun key => (key, index)) ++ before).lookup key =
      if key ∈ keys then some index else before.lookup key := by
  induction keys with
  | nil => simp
  | cons first rest ih =>
    simp only [List.map_cons, List.cons_append, List.lookup_cons, ih, List.mem_cons]
    by_cases same : key = first
    · simp [same]
    · have apart : (key == first) = false := by simpa using same
      simp [apart, same]

theorem findSome_only {α β : Type} {find : α → Option β} {items : List α} {found : β}
    (only : ∀ item ∈ items, ∀ other, find item = some other → other = found)
    (some_ : ∃ item ∈ items, find item = some found) : items.findSome? find = some found := by
  cases same : items.findSome? find with
  | none =>
    obtain ⟨item, member, here⟩ := some_
    rw [List.findSome?_eq_none_iff] at same
    rw [same item member] at here
    cases here
  | some other =>
    obtain ⟨item, member, here⟩ := List.exists_of_findSome?_eq_some same
    rw [only item member other here]

/-! ## The stream step by step -/

/-- The translator and the client's fold after the steps `seen`, in which the first `added`
calls were added. -/
structure Tracks (calls : List Call) (includeUsage : Bool) (seen : List ChatStep) (added : Nat)
    (translator : ChatStreamTranslator) (folded : FoldedChat) : Prop where
  asked : translator.includeUsage = includeUsage
  count : translator.toolCount = added
  within : added ≤ calls.length
  lookup : ∀ (key : JsString) (index : Nat), translator.toolIndexes.lookup key = some index ↔
    index < added ∧ ∃ call, calls[index]? = some call ∧ key ∈ call.keys
  streamed : ∀ index : Nat,
    translator.streamedArguments.contains index = (received (seen.filterMap (argumentsOf index))).2
  unseen : ∀ index : Nat, added ≤ index → seen.filterMap (argumentsOf index) = []
  content : folded.content = if translator.sentRole then some (seen.filterMap textOf).flatten else none
  silent : translator.sentRole = false → (seen.filterMap textOf).flatten = []
  started : folded.toolCalls.length = added
  toolCalls : ∀ (index : Nat) (call : Call), index < added → calls[index]? = some call →
    folded.toolCalls[index]? = some (index, {
      id := call.callId
      name := call.name
      arguments := (received (seen.filterMap (argumentsOf index))).1 })
  finishReason : folded.finishReason = none
  usage : folded.usage = none

section Steps

variable {runtime : ChatRuntime} {calls : List Call} {includeUsage : Bool} {seen : List ChatStep} {added : Nat}
  {translator : ChatStreamTranslator} {folded : FoldedChat} {event : JsonObject JsNumber}

theorem received_snoc (events : List ArgumentEvent) (event : ArgumentEvent) :
    received (events ++ [event]) = receivedStep (received events) event := by
  simp [received]

theorem foldChunks_append (first second : List ChatEmission) :
    foldChunks folded (first ++ second) = foldChunks (foldChunks folded first) second := by
  simp [foldChunks]

theorem foldChunks_chunk (delta : ChatDelta) :
    foldChunks folded [translator.chunk delta none] = folded.delta delta := rfl

section
variable (tracks : Tracks calls includeUsage seen added translator folded)

include tracks

theorem Tracks.role : Tracks calls includeUsage seen added translator.role.1 (foldChunks folded translator.role.2) ∧
      translator.role.1.sentRole = true := by
  unfold ChatStreamTranslator.role
  cases sent : translator.sentRole with
  | true => exact ⟨tracks, sent⟩
  | false =>
    refine ⟨?_, rfl⟩
    have noText := tracks.silent sent
    have begun := tracks.content
    rw [sent] at begun
    exact {
      __ := tracks
      content := by
        change appendContent folded.content [] = some _
        rw [begun, noText]
        rfl
      silent := fun absurd_ => by cases absurd_
      usage := tracks.usage }

theorem Tracks.text {delta : JsString}
    (type : hasType event "response.output_text.delta") (delta_ : str (event.get "delta") = some delta) :
    Tracks calls includeUsage (seen ++ [.text delta]) added (translator.handle runtime event).1
      (foldChunks folded (translator.handle runtime event).2) := by
  obtain ⟨begun, sent⟩ := tracks.role
  rw [handle_text type delta_, foldChunks_append]
  have same : ∀ index, (seen ++ [ChatStep.text delta]).filterMap (argumentsOf index) =
      seen.filterMap (argumentsOf index) := by
    simp [argumentsOf]
  exact {
    __ := begun
    streamed := fun index => by rw [same]; exact begun.streamed index
    unseen := fun index later => by rw [same]; exact begun.unseen index later
    content := by
      have content := begun.content
      rw [sent] at content ⊢
      rw [foldChunks_chunk]
      simp [FoldedChat.delta, appendContent, textOf, content]
    silent := fun absurd_ => by rw [sent] at absurd_; cases absurd_
    toolCalls := fun index call within known => by rw [same]; exact begun.toolCalls index call within known
    usage := begun.usage }

/-- A step that says no text and no arguments. -/
theorem Tracks.along {step : ChatStep} (noText : textOf step = none)
    (heard : ∀ index, received ((seen ++ [step]).filterMap (argumentsOf index)) = received (seen.filterMap (argumentsOf index)))
    (unheard : ∀ index, added ≤ index → argumentsOf index step = none) :
    Tracks calls includeUsage (seen ++ [step]) added translator folded := by
  have texts : (seen ++ [step]).filterMap textOf = seen.filterMap textOf := by simp [noText]
  exact {
    __ := tracks
    streamed := fun index => by rw [heard]; exact tracks.streamed index
    unseen := fun index later => by simp [unheard index later, tracks.unseen index later]
    content := by rw [texts]; exact tracks.content
    silent := by rw [texts]; exact tracks.silent
    toolCalls := fun index call within known => by rw [heard]; exact tracks.toolCalls index call within known }

theorem Tracks.silently (reads : Reads runtime calls event .silent) :
    Tracks calls includeUsage (seen ++ [.silent]) added (translator.handle runtime event).1
      (foldChunks folded (translator.handle runtime event).2) := by
  obtain ⟨id, model, same⟩ : ∃ id model, translator.handle runtime event = ({ translator with id, model }, []) :=
    handle_silent reads
  have along : Tracks calls includeUsage (seen ++ [.silent]) added translator folded :=
    tracks.along rfl (fun index => congrArg received (by simp [argumentsOf])) fun _ _ => rfl
  rw [same]
  exact { along with }

end

theorem role_entered (toolCount : Nat) (toolIndexes : List (JsString × Nat)) :
    ({ translator with toolCount, toolIndexes } : ChatStreamTranslator).role =
      ({ translator.role.1 with toolCount, toolIndexes }, translator.role.2) := by
  unfold ChatStreamTranslator.role
  cases sent : translator.sentRole <;> simp [sent, ChatStreamTranslator.chunk]

section
variable (tracks : Tracks calls includeUsage seen added translator folded)

include tracks

theorem lookup_entered
    (apart : Apart calls) {call : Call} (known : calls[added]? = some call) (key : JsString) (index : Nat) :
    ((call.keys.map fun key => (key, added)).reverse ++ translator.toolIndexes).lookup key = some index ↔
      index < added + 1 ∧ ∃ call, calls[index]? = some call ∧ key ∈ call.keys := by
  rw [← List.map_reverse, lookup_keys]
  by_cases here : key ∈ call.keys.reverse
  · rw [List.mem_reverse] at here
    simp only [List.mem_reverse, here, if_true, Option.some.injEq]
    constructor
    · rintro rfl
      exact ⟨Nat.lt_succ_self _, call, known, here⟩
    · rintro ⟨_, other, otherKnown, there⟩
      exact apart _ _ _ _ known otherKnown key here there
  · simp only [here, if_false, tracks.lookup]
    rw [List.mem_reverse] at here
    constructor
    · rintro ⟨within, found⟩
      exact ⟨Nat.lt_succ_of_lt within, found⟩
    · rintro ⟨within, other, otherKnown, there⟩
      have differs : index ≠ added := by
        rintro rfl
        rw [known] at otherKnown
        cases otherKnown
        exact here there
      exact ⟨by omega, other, otherKnown, there⟩

theorem Tracks.added_ (apart : Apart calls) (reads : Reads runtime calls event (.added added)) :
    Tracks calls includeUsage (seen ++ [.added added]) (added + 1) (translator.handle runtime event).1
      (foldChunks folded (translator.handle runtime event).2) := by
  cases reads with
  | @added _ call item type item_ function_ known callId name keys =>
  obtain ⟨begun, sent⟩ := tracks.role
  have along : Tracks calls includeUsage (seen ++ [.added added]) added translator.role.1 (foldChunks folded translator.role.2) :=
    begun.along rfl (fun index => congrArg received (by simp [argumentsOf])) fun _ _ => rfl
  rw [handle_added type item_ function_]
  unfold ChatStreamTranslator.toolAdded
  rw [keys]
  simp only [tracks.count, role_entered, callId, name, Option.getD_some]
  rw [foldChunks_append, foldChunks_chunk]
  exact {
    __ := along
    count := rfl
    within := (List.getElem?_eq_some_iff.mp known).1
    lookup := lookup_entered tracks apart known
    unseen := fun index later => along.unseen index (by omega)
    started := by simp [FoldedChat.delta, along.started]
    toolCalls := by
      intro index other within otherKnown
      simp only [FoldedChat.delta]
      by_cases before : index < added
      · rw [List.getElem?_append_left (by rw [along.started]; exact before)]
        exact along.toolCalls index other before otherKnown
      · have here : index = added := by omega
        subst here
        rw [known] at otherKnown
        cases otherKnown
        rw [List.getElem?_append_right (by rw [along.started]), along.started, along.unseen index (Nat.le_refl _)]
        simp [received] }

theorem Tracks.toolIndex
    {item : Option (JsonObject JsNumber)} {index : Nat} (names : Names runtime calls event item index)
    (before : index < added) : translator.toolIndex runtime event item = index := by
  obtain ⟨call, known, key, member, own⟩ := names.own
  have found : (presentKeys
      [str (event.get "item_id"), str (get? item "id"), str (get? item "call_id"), outputKey runtime event]).findSome?
        (fun key => translator.toolIndexes.lookup key) = some index := by
    apply findSome_only
    · intro key member other found
      obtain ⟨_, call, known, there⟩ := (tracks.lookup key other).mp found
      exact names.only key member other call known there
    · exact ⟨key, member, (tracks.lookup key index).mpr ⟨before, call, known, own⟩⟩
  simp only [ChatStreamTranslator.toolIndex]
  rw [found, Option.getD_some]

end

theorem argumentsOf_snoc (index named : Nat) (event : ArgumentEvent) :
    (seen ++ [ChatStep.arguments named event]).filterMap (argumentsOf index) =
      seen.filterMap (argumentsOf index) ++ if named = index then [event] else [] := by
  by_cases same : named = index <;> simp [argumentsOf, same]

theorem appendArguments_get (toolCalls : List (Nat × ChatToolCall)) (named : Nat) (text : JsString) (index : Nat) :
    (appendArguments toolCalls named text)[index]? = toolCalls[index]?.map fun entry =>
      if entry.1 = named then (entry.1, { entry.2 with arguments := entry.2.arguments ++ text }) else entry := by
  simp [appendArguments]

section
variable (tracks : Tracks calls includeUsage seen added translator folded)

include tracks

theorem Tracks.sends {named : Nat} (before : named < added) {event : ArgumentEvent} {text : JsString}
    (step : receivedStep (received (seen.filterMap (argumentsOf named))) event =
      ((received (seen.filterMap (argumentsOf named))).1 ++ text, true)) :
    Tracks calls includeUsage (seen ++ [.arguments named event]) added
      { translator with streamedArguments := named :: translator.streamedArguments }
      (foldChunks folded [translator.chunk (.toolArguments named text)]) := by
  rw [foldChunks_chunk]
  have noText : (seen ++ [ChatStep.arguments named event]).filterMap textOf = seen.filterMap textOf := by
    simp [textOf]
  exact {
    __ := tracks
    streamed := by
      intro index
      rw [argumentsOf_snoc]
      by_cases same : named = index
      · subst same
        simp [received_snoc, step]
      · have apart : (index == named) = false := by simpa using Ne.symm same
        simp only [same, if_false, List.append_nil, List.contains_cons, apart, Bool.false_or]
        exact tracks.streamed index
    unseen := by
      intro index later
      rw [argumentsOf_snoc, if_neg (by omega), List.append_nil]
      exact tracks.unseen index later
    content := by rw [noText]; exact tracks.content
    silent := by rw [noText]; exact tracks.silent
    started := by simp [FoldedChat.delta, appendArguments, tracks.started]
    toolCalls := by
      intro index call within known
      simp only [FoldedChat.delta]
      rw [appendArguments_get, tracks.toolCalls index call within known, argumentsOf_snoc]
      by_cases same : named = index
      · subst same
        simp [received_snoc, step]
      · have apart : ¬ index = named := Ne.symm same
        simp [same, apart]
    usage := tracks.usage }

theorem Tracks.skips {named : Nat} (before : named < added) {event : ArgumentEvent}
    (step : receivedStep (received (seen.filterMap (argumentsOf named))) event =
      received (seen.filterMap (argumentsOf named))) :
    Tracks calls includeUsage (seen ++ [.arguments named event]) added translator folded := by
  refine tracks.along rfl (fun index => ?_) fun index later => if_neg (by omega)
  rw [argumentsOf_snoc]
  by_cases same : named = index
  · subst same
    simp [received_snoc, step]
  · simp [same]

theorem Tracks.done {item : Option (JsonObject JsNumber)} {named : Nat} (names : Names runtime calls event item named)
    (before : named < added) {text : Option JsString}
    (text_ : text = (str (event.get "arguments") <|> str (get? item "arguments"))) :
    Tracks calls includeUsage (seen ++ [.arguments named (.done text)]) added
      (translator.argumentsDone runtime event item).1
      (foldChunks folded (translator.argumentsDone runtime event item).2) := by
  unfold ChatStreamTranslator.argumentsDone
  simp only [tracks.toolIndex names before, ← text_, tracks.streamed named]
  split
  · next skipped => exact tracks.skips before (by simp [receivedStep, skipped])
  · next sent => exact tracks.sends before (by simp only [receivedStep, if_neg sent])

theorem Tracks.arguments {named : Nat} {argument : ArgumentEvent} (before : named < added)
    (reads : Reads runtime calls event (.arguments named argument)) :
    Tracks calls includeUsage (seen ++ [.arguments named argument]) added (translator.handle runtime event).1
      (foldChunks folded (translator.handle runtime event).2) := by
  cases reads with
  | delta type delta_ names =>
    rw [handle_delta type delta_]
    unfold ChatStreamTranslator.argumentsDelta
    simp only [tracks.toolIndex names before]
    exact tracks.sends before rfl
  | argumentsDone type names =>
    rw [handle_argumentsDone type]
    exact tracks.done names before rfl
  | itemDone type item_ function_ names =>
    rw [handle_itemDone type item_ function_]
    exact tracks.done names before rfl

end

theorem role_toolCalls : (foldChunks folded translator.role.2).toolCalls = folded.toolCalls := by
  unfold ChatStreamTranslator.role
  cases translator.sentRole <;> rfl

theorem Tracks.finishes (tracks : Tracks calls includeUsage seen added translator folded) (runtime : ChatRuntime)
    {final response : JsonObject JsNumber}
    (ends : hasType final "response.completed" ∨ hasType final "response.incomplete")
    (response_ : obj (final.get "response") = some response) :
    let finished := foldChunks folded (translator.handle runtime final).2
    finished.content = some (seen.filterMap textOf).flatten ∧
      finished.toolCalls = folded.toolCalls ∧
      finished.finishReason = some (Chat.finishReason (some response) (0 < added)) ∧
      finished.usage = if includeUsage then usageOf runtime (some response) else none := by
  obtain ⟨begun, sent⟩ := tracks.role
  have finished : ({ translator with finished := true } : ChatStreamTranslator).role =
      ({ translator.role.1 with finished := true }, translator.role.2) := by
    unfold ChatStreamTranslator.role
    cases sent : translator.sentRole <;> simp [sent, ChatStreamTranslator.chunk]
  have content := begun.content
  rw [sent, if_pos rfl] at content
  rw [handle_completed ends response_]
  simp only [ChatStreamTranslator.completed, finished, begun.asked, begun.count, foldChunks_append]
  cases includeUsage <;> refine ⟨content, role_toolCalls, rfl, ?_⟩
  · exact begun.usage
  · rfl

end Steps

/-! ## The whole stream -/

section Streams

variable {runtime : ChatRuntime} {calls : List Call} {includeUsage : Bool}

theorem answer_cons (translator : ChatStreamTranslator) (event : JsonObject JsNumber)
    (rest : List (JsonObject JsNumber)) : translator.answer runtime (event :: rest) =
      (((translator.handle runtime event).1.answer runtime rest).1,
        (translator.handle runtime event).2 ++ ((translator.handle runtime event).1.answer runtime rest).2) := by
  have later : ∀ (events : List (JsonObject JsNumber)) (next : ChatStreamTranslator) (sent : List ChatEmission),
      events.foldl (fun (before : ChatStreamTranslator × List ChatEmission) event =>
        ((before.1.handle runtime event).1, before.2 ++ (before.1.handle runtime event).2)) (next, sent) =
        ((next.answer runtime events).1, sent ++ (next.answer runtime events).2) := by
    intro events
    induction events with
    | nil =>
      simp [ChatStreamTranslator.answer]
    | cons event rest ih =>
      intro next sent
      simp only [ChatStreamTranslator.answer, List.foldl_cons]
      rw [ih, ih]
      simp
  simp only [ChatStreamTranslator.answer, List.foldl_cons]
  rw [later]
  simp [ChatStreamTranslator.answer]

theorem tracks_start (calls : List Call) (includeUsage : Bool) (model : JsString) : Tracks calls includeUsage [] 0 { model, includeUsage } {} where
  asked := rfl
  count := rfl
  within := Nat.zero_le _
  lookup := by simp
  streamed := by simp [received]
  unseen := fun _ _ => rfl
  content := rfl
  silent := fun _ => rfl
  started := rfl
  toolCalls := by simp
  finishReason := rfl
  usage := rfl

/-- After the events come the final event and its emissions. -/
theorem Tracks.answer {events : List (JsonObject JsNumber)} {steps : List ChatStep} (apart : Apart calls)
    (reads : List.Forall₂ (Reads runtime calls) events steps) :
    ∀ {seen : List ChatStep} {added : Nat} {translator : ChatStreamTranslator} {folded : FoldedChat},
      Tracks calls includeUsage seen added translator folded → InOrder calls.length added steps →
        Tracks calls includeUsage (seen ++ steps) calls.length (translator.answer runtime events).1
          (foldChunks folded (translator.answer runtime events).2) := by
  induction reads with
  | nil =>
    intro seen added translator folded tracks order
    rw [List.append_nil]
    subst order
    exact tracks
  | @cons event step events steps here later ih =>
    intro seen added translator folded tracks order
    rw [answer_cons, foldChunks_append]
    have next : ∃ added', Tracks calls includeUsage (seen ++ [step]) added' (translator.handle runtime event).1
        (foldChunks folded (translator.handle runtime event).2) ∧ InOrder calls.length added' steps := by
      cases step with
      | text delta =>
        cases here with
        | text type delta_ => exact ⟨added, tracks.text type delta_, order⟩
      | added index =>
        obtain ⟨rfl, order⟩ := order
        exact ⟨index + 1, tracks.added_ apart here, order⟩
      | arguments index argument => exact ⟨added, tracks.arguments order.1 here, order.2⟩
      | silent => exact ⟨added, tracks.silently here, order⟩
    obtain ⟨added', tracks, order⟩ := next
    simpa using ih tracks order

/-! ### The final response -/

def Call.toolCall (call : Call) : ChatToolCall :=
  { id := call.callId, name := call.name, arguments := call.arguments }

theorem messageText_reads {item : JsonObject JsNumber} {parts : List JsValue} {pieces : List JsString}
    (content : item.get "content" = some (.array parts)) (reads : List.Forall₂ PartText parts pieces) :
    messageText item = pieces.flatten := by
  simp only [messageText, content, Option.bind_some, Json.items?, Option.getD_some]
  clear content
  induction reads with
  | nil => rfl
  | @cons part piece parts pieces here later ih =>
    rcases here with ⟨fields, rfl, type, text⟩ | ⟨noText, rfl⟩
    · simp [Json.fields?, type, text, ih]
    · cases part with
      | object fields => simp [Json.fields?, noText fields rfl, ih]
      | _ => exact ih

theorem message_not_call {item : JsonObject JsNumber} (type : isType item "message" = true) :
    isType item "function_call" = false := by
  simp only [isType, decide_eq_true_eq] at type ⊢
  rw [type]
  decide

theorem call_not_message {item : JsonObject JsNumber} (type : isType item "function_call" = true) :
    isType item "message" = false := by
  simp only [isType, decide_eq_true_eq] at type ⊢
  rw [type]
  decide

theorem lists_reads {items : List JsValue} {text : JsString} (lists : Lists items calls text) :
    ((items.filterMap Json.fields?).flatMap fun item => if isType item "message" then messageText item else []) =
        text ∧
      ((items.filterMap Json.fields?).filter fun item => isType item "function_call").map toolCall =
        calls.map Call.toolCall := by
  induction lists with
  | nil => exact ⟨rfl, rfl⟩
  | call type callId name arguments later ih =>
    simp [Json.fields?, type, call_not_message type, ih, toolCall, Call.toolCall, callId, name, arguments]
  | message type content reads later ih =>
    simp [Json.fields?, type, message_not_call type, ih, messageText_reads content reads]
  | @other item rest calls text type later ih =>
    cases item with
    | object fields =>
      obtain ⟨noCall, noMessage⟩ := type fields rfl
      simpa [Json.fields?, noCall, noMessage] using ih
    | _ => exact ih

/-! ### Streamed and whole -/

theorem Tracks.calls_ {seen : List ChatStep} {translator : ChatStreamTranslator} {folded : FoldedChat}
    (tracks : Tracks calls includeUsage seen calls.length translator folded)
    (arrives : ∀ (index : Nat) (call : Call), calls[index]? = some call →
      Arrives call.arguments (seen.filterMap (argumentsOf index))) :
    folded.toolCalls.map Prod.snd = calls.map Call.toolCall ∧
      folded.toolCalls.map Prod.fst = List.range calls.length := by
  have entry : ∀ (index : Nat) (call : Call), calls[index]? = some call →
      folded.toolCalls[index]? = some (index, call.toolCall) := by
    intro index call known
    rw [tracks.toolCalls index call (List.getElem?_eq_some_iff.mp known).1 known,
      received_arrives (arrives index call known)]
    rfl
  have beyond : ∀ index : Nat, calls[index]? = none → folded.toolCalls[index]? = none := by
    intro index missing
    rw [List.getElem?_eq_none_iff] at missing ⊢
    rw [tracks.started]
    exact missing
  constructor
  · apply List.ext_getElem?
    intro index
    rw [List.getElem?_map, List.getElem?_map]
    cases known : calls[index]? with
    | none => rw [beyond index known]; rfl
    | some call => rw [entry index call known]; rfl
  · apply List.ext_getElem?
    intro index
    rw [List.getElem?_map]
    cases known : calls[index]? with
    | none =>
      rw [beyond index known, List.getElem?_eq_none (by simpa using known)]
      rfl
    | some call =>
      rw [entry index call known, List.getElem?_range (List.getElem?_eq_some_iff.mp known).1]
      rfl

theorem streamed_agrees {events : List (JsonObject JsNumber)} {final response : JsonObject JsNumber}
    {steps : List ChatStep} (conversation : Conversation runtime calls events final response steps)
    (includeUsage : Bool) (model fallbackModel : JsString) : AgreesAsStreamed includeUsage
      (foldChunks {} (ChatStreamTranslator.answer runtime { model, includeUsage } (events ++ [final])).2)
      (responseToChatCompletion runtime response fallbackModel) := by
  obtain ⟨items, output, lists⟩ := conversation.output
  obtain ⟨text, toolCalls⟩ := lists_reads lists
  have tracks := Tracks.answer conversation.apart conversation.reads
    (tracks_start calls includeUsage model) conversation.inOrder
  rw [List.nil_append] at tracks
  obtain ⟨content, same, finish, usage⟩ := tracks.finishes runtime conversation.ends conversation.response_
  obtain ⟨entries, indexes⟩ := tracks.calls_ conversation.arrives
  have whole : (responseToChatCompletion runtime response fallbackModel).toolCalls = calls.map Call.toolCall := by
    simpa [responseToChatCompletion, outputItems, output, Json.items?] using toolCalls
  have final_ : (ChatStreamTranslator.answer runtime { model, includeUsage } (events ++ [final])).2 =
      (ChatStreamTranslator.answer runtime { model, includeUsage } events).2 ++
        ((ChatStreamTranslator.answer runtime { model, includeUsage } events).1.handle runtime final).2 := by
    simp [ChatStreamTranslator.answer]
  rw [final_, foldChunks_append]
  exact {
    content := by
      rw [content]
      simp only [responseToChatCompletion, outputItems, output, Json.items?, Option.bind_some, Option.getD_some, text]
      split
      · next empty => rw [empty.2]; rfl
      · rfl
    toolCalls := by rw [same, entries, whole]
    indexes := by rw [same, indexes, whole, List.length_map]
    finishReason := by
      have some_ : (!(calls.map Call.toolCall).isEmpty) = decide (0 < calls.length) := by
        cases calls <;> simp
      rw [finish, ← some_, ← whole]
      rfl
    usage := usage }

end Streams

/-! ### One call, without and with text -/

def sampleRuntime : ChatRuntime := { decimal := fun _ => js "0", toNumber := fun _ => .nan }

def sampleCall : Call :=
  { keys := [js "fc_1", js "call_1"]
    callId := js "call_1"
    name := some (text "shell")
    arguments := js "[1]" }

def sampleAdded : JsonObject JsNumber :=
  [field "type" (text "response.output_item.added"),
    field "item" (.object
      [field "type" (text "function_call"), field "id" (text "fc_1"), field "call_id" (text "call_1"),
        field "name" (text "shell")])]

def sampleArguments : JsonObject JsNumber :=
  [field "type" (text "response.function_call_arguments.delta"), field "item_id" (text "fc_1"),
    field "delta" (text "[1]")]

def sampleText : JsonObject JsNumber :=
  [field "type" (text "response.output_text.delta"), field "delta" (text "hi")]

def sampleItem : JsonObject JsNumber :=
  [field "type" (text "function_call"), field "call_id" (text "call_1"), field "name" (text "shell"),
    field "arguments" (text "[1]")]

def sampleMessage : JsonObject JsNumber :=
  [field "type" (text "message"), field "content" (.array [.object
    [field "type" (text "output_text"), field "text" (text "hi")]])]

def sampleResponse (items : List JsValue) : JsonObject JsNumber := [field "output" (.array items)]

def sampleFinal (items : List JsValue) : JsonObject JsNumber :=
  [field "type" (text "response.completed"), field "response" (.object (sampleResponse items))]

theorem sampleCall_only {index : Nat} {call : Call} (known : [sampleCall][index]? = some call) :
    index = 0 ∧ call = sampleCall := by
  cases index with
  | zero => exact ⟨rfl, (Option.some.inj known).symm⟩
  | succ index => cases known

theorem sampleAdded_reads : Reads sampleRuntime [sampleCall] sampleAdded (.added 0) :=
  .added (by decide) rfl (by decide) rfl (by decide) rfl (by decide)

theorem sampleArguments_reads : Reads sampleRuntime [sampleCall] sampleArguments (.arguments 0 (.delta (js "[1]"))) :=
  .delta (by decide) (by decide)
    { own := ⟨sampleCall, rfl, js "fc_1", by decide, by decide⟩
      only := fun _ _ _ _ known _ => (sampleCall_only known).1 }

theorem sample_lists : Lists [.object sampleItem] [sampleCall] [] :=
  .call (by decide) (by decide) rfl (by decide) .nil

theorem sampleMessage_reads : List.Forall₂ PartText
    [.object [field "type" (text "output_text"), field "text" (text "hi")]] [js "hi"] :=
  .cons (.inl ⟨_, rfl, by decide, by decide⟩) .nil

theorem sample_silent : Conversation sampleRuntime [sampleCall] [sampleAdded, sampleArguments]
    (sampleFinal [.object sampleItem]) (sampleResponse [.object sampleItem])
    [.added 0, .arguments 0 (.delta (js "[1]"))] where
  apart := fun _ _ _ _ first second _ _ _ => by rw [(sampleCall_only first).1, (sampleCall_only second).1]
  reads := .cons sampleAdded_reads (.cons sampleArguments_reads .nil)
  inOrder := ⟨rfl, Nat.zero_lt_one, rfl⟩
  arrives := by
    intro index call known
    obtain ⟨rfl, rfl⟩ := sampleCall_only known
    exact .inl ⟨_, [], rfl, by decide⟩
  ends := .inl (by decide)
  response_ := rfl
  output := ⟨_, rfl, sample_lists⟩

theorem sampleMessage_lists : Lists [.object sampleMessage, .object sampleItem] [sampleCall]
    ([js "hi"].flatten ++ []) :=
  .message (by decide) rfl sampleMessage_reads sample_lists

theorem sample_spoken : Conversation sampleRuntime [sampleCall] [sampleAdded, sampleText, sampleArguments]
    (sampleFinal [.object sampleMessage, .object sampleItem])
    (sampleResponse [.object sampleMessage, .object sampleItem])
    [.added 0, .text (js "hi"), .arguments 0 (.delta (js "[1]"))] where
  __ := sample_silent
  reads := .cons sampleAdded_reads (.cons (.text (by decide) (by decide)) (.cons sampleArguments_reads .nil))
  inOrder := ⟨rfl, Nat.zero_lt_one, rfl⟩
  ends := .inl (by decide)
  response_ := rfl
  output := ⟨_, rfl, sampleMessage_lists⟩

theorem streamed_agrees_spoken : Conversation sampleRuntime [sampleCall] [sampleAdded, sampleText, sampleArguments]
      (sampleFinal [.object sampleMessage, .object sampleItem])
      (sampleResponse [.object sampleMessage, .object sampleItem])
      [.added 0, .text (js "hi"), .arguments 0 (.delta (js "[1]"))] ∧
    AgreesAsStreamed true
      (foldChunks {} (ChatStreamTranslator.answer sampleRuntime { model := js "m", includeUsage := true }
        ([sampleAdded, sampleText, sampleArguments] ++
          [sampleFinal [.object sampleMessage, .object sampleItem]])).2)
      (responseToChatCompletion sampleRuntime (sampleResponse [.object sampleMessage, .object sampleItem]) (js "m")) :=
  ⟨sample_spoken, streamed_agrees sample_spoken true (js "m") (js "m")⟩

/-- Without text the whole reply has `null` content and the chunks have empty content. -/
theorem silent_call_differs : ¬ ∀ (runtime : ChatRuntime) (calls : List Call) (events : List (JsonObject JsNumber))
      (final response : JsonObject JsNumber) (steps : List ChatStep) (includeUsage : Bool)
      (model fallbackModel : JsString), Conversation runtime calls events final response steps →
      Agrees
        (foldChunks {} (ChatStreamTranslator.answer runtime { model, includeUsage } (events ++ [final])).2)
        (responseToChatCompletion runtime response fallbackModel) := by
  intro claim
  have same := (claim _ _ _ _ _ _ false (js "m") (js "m") sample_silent).content
  exact absurd same (by decide +kernel)

end SpaceApp.Gateway.Codex.Chat
