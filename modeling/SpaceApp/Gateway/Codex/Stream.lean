import SpaceApp.Foundation.BlockReader
import SpaceApp.Foundation.Json

/-! `ResponseStreamInspector`: watches a Responses stream, whose bytes go through
unchanged, to learn when output starts and what the terminal event reports.
-/

set_option autoImplicit false

namespace SpaceApp.Gateway.Codex

open SpaceApp.Foundation

structure ResponseUsage where
  inputTokens : Option ℚ
  cachedInputTokens : Option ℚ
  outputTokens : Option ℚ
  reasoningTokens : Option ℚ
  deriving DecidableEq

inductive StreamStatus where
  | success | failed | incomplete | unterminated
  deriving DecidableEq, Repr

structure StreamOutcome where
  status : StreamStatus := .unterminated
  model : Option JsString := none
  serviceTier : Option JsString := none
  responseId : Option JsString := none
  usage : Option ResponseUsage := none
  errorCode : Option JsString := none
  errorMessage : Option JsString := none
  deriving DecidableEq

structure StreamView where
  outputStarted : Bool := false
  finalResponse : Option (JsonObject JsNumber) := none
  outcome : StreamOutcome := {}

def terminalTypes : List JsString := [js "response.completed", js "response.failed", js "response.incomplete"]

/-- Events before any content the client acts on. -/
def preOutputTypes : List JsString :=
  [js "response.created", js "response.in_progress", js "codex.rate_limits", js "keepalive", js "ping"]

/-! `obj`, `str` and `count` of a field that may be missing. -/

def obj (value : Option JsValue) : Option (JsonObject JsNumber) := value.bind Json.fields?
def str (value : Option JsValue) : Option JsString := value.bind Json.filled?
def count (value : Option JsValue) : Option ℚ := (value.bind Json.number?).bind JsNumber.count

def readResponseUsage (response : Option (JsonObject JsNumber)) : Option ResponseUsage :=
  (obj (get? response "usage")).map fun usage =>
    { inputTokens := count (usage.get "input_tokens")
      cachedInputTokens := count (get? (obj (usage.get "input_tokens_details")) "cached_tokens")
      outputTokens := count (usage.get "output_tokens")
      reasoningTokens := count (get? (obj (usage.get "output_tokens_details")) "reasoning_tokens") }

def recordResponse (outcome : StreamOutcome) (response : Option (JsonObject JsNumber)) : StreamOutcome :=
  { outcome with
    model := str (get? response "model") <|> outcome.model
    serviceTier := str (get? response "service_tier") <|> outcome.serviceTier
    responseId := str (get? response "id") <|> outcome.responseId }

def recordTerminal (view : StreamView) (type : JsString) (payload : Option (JsonObject JsNumber)) : StreamView :=
  let response := obj (get? payload "response")
  let recorded := recordResponse view.outcome response
  let outcome := { recorded with usage := readResponseUsage response <|> recorded.usage }
  if type = js "response.completed" then
    { view with finalResponse := response, outcome := { outcome with status := .success } }
  else
    let error := obj (get? response "error")
    let reason := str (get? (obj (get? response "incomplete_details")) "reason")
    let kind := if type = js "response.failed" then js "failed" else js "incomplete"
    { view with
      finalResponse := response
      outcome := { outcome with
        status := if type = js "response.failed" then .failed else .incomplete
        errorCode := str (get? error "code") <|> reason <|> some kind
        errorMessage := str (get? error "message") } }

def handleEvent (view : StreamView) (type : Option JsString) (payload : Option (JsonObject JsNumber)) :
    StreamView × Bool :=
  match type with
  | none => (view, false)
  | some type =>
      if type = [] then (view, false)
      else if type = js "error" then
        let error := (obj (get? payload "error")) <|> payload
        ({ view with
          outcome := { view.outcome with
            status := .failed
            errorCode := str (get? error "code") <|> str (get? error "type") <|> some (js "upstream_error")
            errorMessage := str (get? error "message") } }, false)
      else
        let view :=
          if terminalTypes.contains type then recordTerminal view type payload
          else if type = js "response.created" ∨ type = js "response.in_progress" then
            { view with outcome := recordResponse view.outcome (obj (get? payload "response")) }
          else view
        -- a failure before any output stays invisible, so the request can still move accounts
        (view, !preOutputTypes.contains type && type != js "response.failed" && type != js "response.incomplete")

def eventName (block : JsString) : Option JsString :=
  ((splitLines block).filterMap (fieldLine (js "event:"))).getLast?.map trimUnits

def handleBlock (view : StreamView) (block : JsString) : StreamView × Bool :=
  let data := blockData block
  let payload := if data = [] ∨ data = js "[DONE]" then none else obj (parseJs data)
  handleEvent view (str (get? payload "type") <|> eventName block) payload

def inspectBlock (view : StreamView) (block : JsString) : StreamView :=
  let handled := handleBlock view block
  if handled.2 then { handled.1 with outputStarted := true } else handled.1

/-- A single event can be large; the unparsed tail is bounded. -/
def tailLimit : Nat := 8 * 1024 * 1024
def tailKept : Nat := 1024 * 1024

abbrev ResponseStreamInspector := BlockReader StreamView

namespace ResponseStreamInspector

def new : ResponseStreamInspector := { state := {} }

def push (inspector : ResponseStreamInspector) (chunk : List UInt8) : ResponseStreamInspector × Bool :=
  let pushed := BlockReader.push (some tailLimit) tailKept inspectBlock inspector chunk
  (pushed, !inspector.state.outputStarted && pushed.state.outputStarted)

def feed (chunks : List (List UInt8)) : ResponseStreamInspector :=
  chunks.foldl (fun inspector chunk => (inspector.push chunk).1) new

theorem feed_snoc (chunks : List (List UInt8)) (chunk : List UInt8) :
    feed (chunks ++ [chunk]) = ((feed chunks).push chunk).1 := by
  simp [feed]

end ResponseStreamInspector

theorem recordTerminal_outputStarted (view : StreamView) (type : JsString) (payload : Option (JsonObject JsNumber)) :
    (recordTerminal view type payload).outputStarted = view.outputStarted := by
  unfold recordTerminal
  dsimp only
  split <;> rfl

theorem handleEvent_outputStarted (view : StreamView) (type : Option JsString) (payload : Option (JsonObject JsNumber)) :
    (handleEvent view type payload).1.outputStarted = view.outputStarted := by
  unfold handleEvent
  split
  · rfl
  · split
    · rfl
    · split
      · rfl
      · dsimp only
        split
        · exact recordTerminal_outputStarted _ _ _
        · split <;> rfl

theorem inspectBlock_outputStarted {view : StreamView} (started : view.outputStarted = true) (block : JsString) :
    (inspectBlock view block).outputStarted = true := by
  unfold inspectBlock
  dsimp only
  split
  · rfl
  · rw [handleBlock, handleEvent_outputStarted, started]

theorem handleAll_outputStarted {view : StreamView} (started : view.outputStarted = true) (blocks : List EventBlock) :
    (BlockReader.handleAll inspectBlock view blocks).outputStarted = true := by
  induction blocks generalizing view with
  | nil => exact started
  | cons block rest ih => exact ih (inspectBlock_outputStarted started block.content)

theorem ResponseStreamInspector.push_outputStarted {inspector : ResponseStreamInspector}
    (started : inspector.state.outputStarted = true) (chunk : List UInt8) :
    (inspector.push chunk).1.state.outputStarted = true :=
  handleAll_outputStarted started _

end SpaceApp.Gateway.Codex
