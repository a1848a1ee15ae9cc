import SpaceApp.Gateway.Codex.Stream

/-! `CodeAssistStreamInspector`: watches a Code Assist event stream, or reads one JSON
body whole at its end.
-/

set_option autoImplicit false

namespace SpaceApp.Gateway.Antigravity

open SpaceApp.Foundation SpaceApp.Gateway.Codex

structure GeminiUsage where
  promptTokens : Option ℚ
  cachedTokens : Option ℚ
  outputTokens : Option ℚ
  thoughtsTokens : Option ℚ
  deriving DecidableEq

structure CodeAssistView where
  outputStarted : Bool := false
  model : Option JsString := none
  usage : Option GeminiUsage := none
  finished : Bool := false
  errorStatus : Option ℚ := none
  errorMessage : Option JsString := none
  deriving DecidableEq

/-- An image body can be large; past this its usage is not read. -/
def MAX_JSON_CHARS : Nat := 96 * 1024 * 1024

def readGeminiUsage (response : JsonObject JsNumber) : Option GeminiUsage :=
  (obj (response.get "usageMetadata")).map fun usage =>
    { promptTokens := count (usage.get "promptTokenCount")
      cachedTokens := count (usage.get "cachedContentTokenCount")
      outputTokens := count (usage.get "candidatesTokenCount")
      thoughtsTokens := count (usage.get "thoughtsTokenCount") }

def read (view : CodeAssistView) (event : JsonObject JsNumber) : CodeAssistView :=
  match obj (event.get "error") with
  | some error =>
      { view with
        errorStatus := count (error.get "code") <|> some 500
        errorMessage := (error.get "message").bind Json.text? }
  | none =>
      let response := (obj (event.get "response")).getD event
      let candidates := ((response.get "candidates").bind Json.items?).getD []
      let finished := candidates.any fun candidate =>
        ((get? candidate.fields? "finishReason").bind Json.text?).isSome
      let hasContent := candidates.any fun candidate =>
        ((get? (obj (get? candidate.fields? "content")) "parts").bind Json.items?).any (!·.isEmpty)
      { view with
        model := ((response.get "modelVersion").bind Json.text?) <|> view.model
        usage := readGeminiUsage response <|> view.usage
        finished := view.finished || finished
        outputStarted := view.outputStarted || hasContent }

def inspectBlock (view : CodeAssistView) (block : JsString) : CodeAssistView :=
  match obj (parseJs (blockData block)) with
  | none => view
  | some event => read view event

structure CodeAssistStreamInspector where
  reader : BlockReader CodeAssistView := { state := {} }
  json : Option Bool := none
  skipped : Bool := false

namespace CodeAssistStreamInspector

def trimStart (text : JsString) : JsString := text.dropWhile isSpaceUnit

def opensJson (text : JsString) : Bool :=
  (trimStart text).head?.any fun unit => unit == JsonParser.openBracket || unit == JsonParser.openBrace

def push (inspector : CodeAssistStreamInspector) (chunk : List UInt8) : CodeAssistStreamInspector :=
  let decoded := inspector.reader.decoder.decode chunk
  let buffer := inspector.reader.buffer ++ decoded.2
  let json :=
    if inspector.json = none ∧ trimStart buffer ≠ [] then some (opensJson buffer) else inspector.json
  let waiting := { inspector with
    reader := { inspector.reader with decoder := decoded.1, buffer }
    json }
  if json = some true then
    if MAX_JSON_CHARS < buffer.length then
      { waiting with
        reader := { waiting.reader with buffer := [] }
        json := some false
        skipped := true }
    else waiting
  else if inspector.skipped then waiting
  else
    { waiting with
      reader := BlockReader.push (some tailLimit) tailKept inspectBlock inspector.reader chunk }

/-- The responses of a JSON body: one object, or an array of them. -/
def readBody (view : CodeAssistView) (body : JsString) : CodeAssistView :=
  match parseJs body with
  | none => view
  | some parsed => ((parsed.items?.getD [parsed]).filterMap Json.fields?).foldl read view

def finish (inspector : CodeAssistStreamInspector) : CodeAssistStreamInspector :=
  if inspector.json = some true then
    { inspector with
      json := some false
      reader := { inspector.reader with
        state := readBody inspector.reader.state inspector.reader.buffer
        buffer := [] } }
  else inspector

end CodeAssistStreamInspector

end SpaceApp.Gateway.Antigravity
