import SpaceApp.Gateway.Codex.Stream

/-! `ClaudeStreamInspector`: watches an Anthropic Messages stream. -/

set_option autoImplicit false

namespace SpaceApp.Gateway.Claude

open SpaceApp.Foundation SpaceApp.Gateway.Codex

structure ClaudeUsageTokens where
  inputTokens : Option ℚ := none
  cacheReadInputTokens : Option ℚ := none
  cacheCreationInputTokens : Option ℚ := none
  cacheCreation1hInputTokens : Option ℚ := none
  outputTokens : Option ℚ := none
  speed : Option JsString := none
  deriving DecidableEq

inductive ClaudeStatus where
  | success | failed | unterminated
  deriving DecidableEq, Repr

structure ClaudeStreamView where
  outputStarted : Bool := false
  status : ClaudeStatus := .unterminated
  model : Option JsString := none
  messageId : Option JsString := none
  usage : ClaudeUsageTokens := {}
  errorType : Option JsString := none
  errorMessage : Option JsString := none
  deriving DecidableEq

def text (value : Option JsValue) : Option JsString := value.bind Json.text?

def readUsage (usage : ClaudeUsageTokens) (reported : Option (JsonObject JsNumber)) : ClaudeUsageTokens :=
  match reported with
  | none => usage
  | some reported =>
      { inputTokens := count (reported.get "input_tokens") <|> usage.inputTokens
        cacheReadInputTokens := count (reported.get "cache_read_input_tokens") <|> usage.cacheReadInputTokens
        cacheCreationInputTokens :=
          count (reported.get "cache_creation_input_tokens") <|> usage.cacheCreationInputTokens
        cacheCreation1hInputTokens :=
          count (get? (obj (reported.get "cache_creation")) "ephemeral_1h_input_tokens") <|>
            usage.cacheCreation1hInputTokens
        outputTokens := count (reported.get "output_tokens") <|> usage.outputTokens
        speed := text (reported.get "speed") <|> usage.speed }

/-- The view after an event, and whether the event is content. -/
def handle (view : ClaudeStreamView) (event : JsonObject JsNumber) : ClaudeStreamView × Bool :=
  match text (event.get "type") with
  | none => (view, false)
  | some type =>
      if type = js "message_start" then
        let message := obj (event.get "message")
        ({ view with
          model := text (get? message "model") <|> view.model
          messageId := text (get? message "id") <|> view.messageId
          usage := readUsage view.usage (obj (get? message "usage")) }, false)
      else if type = js "message_delta" then
        ({ view with usage := readUsage view.usage (obj (event.get "usage")) }, false)
      else if type = js "message_stop" then
        ({ view with status := if view.status = .failed then .failed else .success }, false)
      else if type = js "error" then
        let error := obj (event.get "error")
        ({ view with
          status := .failed
          errorType := text (get? error "type") <|> some (js "api_error")
          errorMessage := text (get? error "message") }, false)
      else (view, type = js "content_block_start" || type = js "content_block_delta")

def inspectBlock (view : ClaudeStreamView) (block : JsString) : ClaudeStreamView :=
  match obj (parseJs (blockData block)) with
  | none => view
  | some event =>
      let handled := handle view event
      if handled.2 then { handled.1 with outputStarted := true } else handled.1

abbrev ClaudeStreamInspector := BlockReader ClaudeStreamView

namespace ClaudeStreamInspector

def new : ClaudeStreamInspector := { state := {} }

def push (inspector : ClaudeStreamInspector) (chunk : List UInt8) : ClaudeStreamInspector × Bool :=
  let pushed := BlockReader.push (some tailLimit) tailKept inspectBlock inspector chunk
  (pushed, !inspector.state.outputStarted && pushed.state.outputStarted)

end ClaudeStreamInspector

end SpaceApp.Gateway.Claude
