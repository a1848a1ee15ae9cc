import SpaceApp.Foundation.BlockReader
import SpaceApp.Foundation.Json

/-! Chat Completions from Responses (`chat.ts`): the final response object as a chat
completion, and the event stream as chunks while it arrives.
-/

set_option autoImplicit false

namespace SpaceApp.Gateway.Codex.Chat

open SpaceApp.Foundation

/-- Conversions of the JavaScript runtime. -/
structure ChatRuntime where
  decimal : ℚ → JsString
  toNumber : JsValue → JsNumber

def obj (value : Option JsValue) : Option (JsonObject JsNumber) := value.bind Json.fields?
def str (value : Option JsValue) : Option JsString := value.bind Json.text?

structure ChatUsage where
  promptTokens : JsNumber
  completionTokens : JsNumber
  totalTokens : JsNumber
  cachedTokens : JsNumber
  reasoningTokens : JsNumber
  deriving DecidableEq

def numberOf (runtime : ChatRuntime) (value : Option JsValue) : JsNumber :=
  match value with
  | none => .finite 0
  | some .null => .finite 0
  | some (.number value) => value
  | some (.bool value) => .finite (if value then 1 else 0)
  | some value => runtime.toNumber value

def usageOf (runtime : ChatRuntime) (response : Option (JsonObject JsNumber)) : Option ChatUsage :=
  (obj (get? response "usage")).map fun usage =>
    let input := numberOf runtime (usage.get "input_tokens")
    let output := numberOf runtime (usage.get "output_tokens")
    { promptTokens := input
      completionTokens := output
      totalTokens := input.add output
      cachedTokens := numberOf runtime (get? (obj (usage.get "input_tokens_details")) "cached_tokens")
      reasoningTokens := numberOf runtime (get? (obj (usage.get "output_tokens_details")) "reasoning_tokens") }

def finishReason (response : Option (JsonObject JsNumber)) (hasToolCalls : Bool) : JsString :=
  if hasToolCalls then js "tool_calls"
  else if str (get? response "status") = some (js "incomplete") then
    if str (get? (obj (get? response "incomplete_details")) "reason") = some (js "content_filter") then
      js "content_filter"
    else js "length"
  else js "stop"

structure ChatToolCall where
  id : JsString
  name : Option JsValue
  arguments : JsString

structure ChatCompletion where
  id : JsString
  model : JsString
  content : Option JsString
  toolCalls : List ChatToolCall
  finishReason : JsString
  usage : Option ChatUsage

def outputItems (response : JsonObject JsNumber) : List (JsonObject JsNumber) :=
  (((response.get "output").bind Json.items?).getD []).filterMap Json.fields?

def isType (item : JsonObject JsNumber) (type : String) : Bool := str (item.get "type") = some (js type)

def messageText (item : JsonObject JsNumber) : JsString :=
  ((((item.get "content").bind Json.items?).getD []).filterMap Json.fields?).flatMap fun part =>
    if isType part "output_text" then (str (part.get "text")).getD [] else []

def toolCall (item : JsonObject JsNumber) : ChatToolCall :=
  { id := (str (item.get "call_id") <|> str (item.get "id")).getD []
    name := item.get "name"
    arguments := (str (item.get "arguments")).getD [] }

def responseToChatCompletion (runtime : ChatRuntime) (response : JsonObject JsNumber)
    (fallbackModel : JsString) : ChatCompletion :=
  let output := outputItems response
  let text := output.flatMap fun item => if isType item "message" then messageText item else []
  let toolCalls := (output.filter fun item => isType item "function_call").map toolCall
  { id := js "chatcmpl-" ++ (str (response.get "id")).getD (js "gateway")
    model := (str (response.get "model")).getD fallbackModel
    content := if toolCalls ≠ [] ∧ text = [] then none else some text
    toolCalls
    finishReason := finishReason (some response) (!toolCalls.isEmpty)
    usage := usageOf runtime (some response) }

inductive ChatDelta where
  | role
  | content (text : JsString)
  | toolStart (index : Nat) (id : JsString) (name : Option JsValue)
  | toolArguments (index : Nat) (text : JsString)
  | nothing

/-- One `data:` line of the chunk stream. -/
inductive ChatEmission where
  | chunk (id model : JsString) (delta : ChatDelta) (finish : Option JsString)
  | usage (id model : JsString) (usage : Option ChatUsage)
  | error (message code : JsString)
  | done

structure ChatStreamTranslator where
  id : JsString := js "chatcmpl-gateway"
  model : JsString
  includeUsage : Bool
  sentRole : Bool := false
  /-- The latest entry of a key counts. -/
  toolIndexes : List (JsString × Nat) := []
  toolCount : Nat := 0
  streamedArguments : List Nat := []
  finished : Bool := false

def numberText (runtime : ChatRuntime) : JsNumber → JsString
  | .finite value => runtime.decimal value
  | .infinite false => js "Infinity"
  | .infinite true => js "-Infinity"
  | .nan => js "NaN"

def outputKey (runtime : ChatRuntime) (event : JsonObject JsNumber) : Option JsString :=
  ((event.get "output_index").bind Json.number?).map fun index => js "output:" ++ numberText runtime index

def presentKeys (keys : List (Option JsString)) : List JsString :=
  keys.filterMap fun key => key.filter (· ≠ [])

namespace ChatStreamTranslator

def chunk (translator : ChatStreamTranslator) (delta : ChatDelta) (finish : Option JsString := none) :
    ChatEmission :=
  .chunk translator.id translator.model delta finish

/-- The role chunk comes once, before the first content or tool call. -/
def role (translator : ChatStreamTranslator) : ChatStreamTranslator × List ChatEmission :=
  if translator.sentRole then (translator, [])
  else ({ translator with sentRole := true }, [translator.chunk .role])

/-- The call an argument event names, else the last one added. -/
def toolIndex (runtime : ChatRuntime) (translator : ChatStreamTranslator) (event : JsonObject JsNumber)
    (item : Option (JsonObject JsNumber)) : Nat :=
  let keys := presentKeys
    [str (event.get "item_id"), str (get? item "id"), str (get? item "call_id"), outputKey runtime event]
  (keys.findSome? fun key => translator.toolIndexes.lookup key).getD (translator.toolCount - 1)

def created (translator : ChatStreamTranslator) (response : Option (JsonObject JsNumber)) :
    ChatStreamTranslator :=
  { translator with
    id := match (str (get? response "id")).filter (· ≠ []) with
      | some id => js "chatcmpl-" ++ id
      | none => translator.id
    model := ((str (get? response "model")).filter (· ≠ [])).getD translator.model }

def toolAdded (runtime : ChatRuntime) (translator : ChatStreamTranslator) (event item : JsonObject JsNumber) :
    ChatStreamTranslator × List ChatEmission :=
  let index := translator.toolCount
  let keys := presentKeys [str (item.get "id"), str (item.get "call_id"), outputKey runtime event]
  let added := { translator with
    toolCount := index + 1
    toolIndexes := (keys.map fun key => (key, index)).reverse ++ translator.toolIndexes }
  let (next, first) := added.role
  (next, first ++ [next.chunk (.toolStart index ((str (item.get "call_id")).getD []) (item.get "name"))])

def argumentsDelta (runtime : ChatRuntime) (translator : ChatStreamTranslator) (event : JsonObject JsNumber)
    (text : JsString) : ChatStreamTranslator × List ChatEmission :=
  let index := translator.toolIndex runtime event none
  ({ translator with streamedArguments := index :: translator.streamedArguments },
    [translator.chunk (.toolArguments index text)])

def argumentsDone (runtime : ChatRuntime) (translator : ChatStreamTranslator) (event : JsonObject JsNumber)
    (item : Option (JsonObject JsNumber)) : ChatStreamTranslator × List ChatEmission :=
  let index := translator.toolIndex runtime event item
  let text := (str (event.get "arguments") <|> str (get? item "arguments")).getD []
  if translator.streamedArguments.contains index ∨ text = [] then (translator, [])
  else
    ({ translator with streamedArguments := index :: translator.streamedArguments },
      [translator.chunk (.toolArguments index text)])

def completed (runtime : ChatRuntime) (translator : ChatStreamTranslator)
    (response : Option (JsonObject JsNumber)) : ChatStreamTranslator × List ChatEmission :=
  let (next, first) := { translator with finished := true }.role
  let last := next.chunk .nothing (some (finishReason response (0 < next.toolCount)))
  let usage := if next.includeUsage then [.usage next.id next.model (usageOf runtime response)] else []
  (next, first ++ [last] ++ usage ++ [.done])

def failed (translator : ChatStreamTranslator) (event : JsonObject JsNumber) :
    ChatStreamTranslator × List ChatEmission :=
  let error := (obj (get? (obj (event.get "response")) "error")) <|> obj (event.get "error")
  ({ translator with finished := true },
    [.error ((str (get? error "message")).getD (js "The upstream response failed."))
      ((str (get? error "code")).getD (js "upstream_error")), .done])

def handle (runtime : ChatRuntime) (translator : ChatStreamTranslator) (event : JsonObject JsNumber) :
    ChatStreamTranslator × List ChatEmission :=
  let type := isType event
  if type "response.created" || type "response.in_progress" then
    (translator.created (obj (event.get "response")), [])
  else if type "response.output_text.delta" && (str (event.get "delta")).isSome then
    let (next, first) := translator.role
    (next, first ++ [next.chunk (.content ((str (event.get "delta")).getD []))])
  else if type "response.output_item.added" then
    match obj (event.get "item") with
    | some item => if isType item "function_call" then translator.toolAdded runtime event item else (translator, [])
    | none => (translator, [])
  else if type "response.function_call_arguments.delta" && (str (event.get "delta")).isSome then
    translator.argumentsDelta runtime event ((str (event.get "delta")).getD [])
  else if type "response.function_call_arguments.done" then
    translator.argumentsDone runtime event (obj (event.get "item"))
  else if type "response.output_item.done" then
    match obj (event.get "item") with
    | some item =>
        if isType item "function_call" then translator.argumentsDone runtime event (some item)
        else (translator, [])
    | none => (translator, [])
  else if type "response.completed" || type "response.incomplete" then
    translator.completed runtime (obj (event.get "response"))
  else if type "response.failed" || type "error" then translator.failed event
  else (translator, [])

/-- One block of the stream; what is not a JSON object is passed over. -/
def handleBlock (runtime : ChatRuntime) (translator : ChatStreamTranslator) (block : JsString) :
    ChatStreamTranslator × List ChatEmission :=
  let data := blockData block
  if data = [] ∨ data = js "[DONE]" then (translator, [])
  else
    match obj (parseJs data) with
    | none => (translator, [])
    | some event => translator.handle runtime event

def finish (translator : ChatStreamTranslator) : List ChatEmission :=
  if translator.finished then [] else [.done]

end ChatStreamTranslator

section Rendering

variable (runtime : ChatRuntime) (createdSeconds : ℚ)

def field (name : String) (value : JsValue) : JsString × JsValue := (js name, value)

def text (content : String) : JsValue := .string (js content)

def natural (value : Nat) : JsValue := .number (.finite value)

def ChatDelta.json : ChatDelta → JsValue
  | .role => .object [field "role" (text "assistant"), field "content" (text "")]
  | .content piece => .object [field "content" (.string piece)]
  | .toolStart index id name =>
      .object [field "tool_calls" (.array [.object
        [field "index" (natural index), field "id" (.string id), field "type" (text "function"),
          field "function" (.object ((name.map (field "name")).toList ++ [field "arguments" (text "")]))]])]
  | .toolArguments index piece =>
      .object [field "tool_calls" (.array [.object
        [field "index" (natural index), field "function" (.object [field "arguments" (.string piece)])]])]
  | .nothing => .object []

def ChatUsage.json (usage : ChatUsage) : JsValue :=
  .object
    [field "prompt_tokens" (.number usage.promptTokens),
      field "completion_tokens" (.number usage.completionTokens),
      field "total_tokens" (.number usage.totalTokens),
      field "prompt_tokens_details" (.object [field "cached_tokens" (.number usage.cachedTokens)]),
      field "completion_tokens_details" (.object [field "reasoning_tokens" (.number usage.reasoningTokens)])]

def chunkHead (id model : JsString) : JsonObject JsNumber :=
  [field "id" (.string id), field "object" (text "chat.completion.chunk"),
    field "created" (.number (.finite createdSeconds)), field "model" (.string model)]

def orNull {α : Type} (write : α → JsValue) (value : Option α) : JsValue := (value.map write).getD .null

def ChatEmission.data : ChatEmission → JsString
  | .chunk id model delta finish =>
      stringify runtime.decimal (.object (chunkHead createdSeconds id model ++
        [field "choices" (.array [.object
          [field "index" (natural 0), field "delta" delta.json,
            field "finish_reason" (orNull Json.string finish), field "logprobs" .null]])]))
  | .usage id model reported =>
      stringify runtime.decimal (.object (chunkHead createdSeconds id model ++
        [field "choices" (.array []), field "usage" (orNull ChatUsage.json reported)]))
  | .error message code =>
      stringify runtime.decimal (.object [field "error" (.object
        [field "message" (.string message), field "type" (text "server_error"), field "code" (.string code)])])
  | .done => js "[DONE]"

def ChatEmission.render (emission : ChatEmission) : JsString :=
  js "data: " ++ ChatEmission.data runtime createdSeconds emission ++ [LF, LF]

def ChatStreamTranslator.outputBlock (output : ChatStreamTranslator × JsString) (block : JsString) :
    ChatStreamTranslator × JsString :=
  let handled := output.1.handleBlock runtime block
  (handled.1, output.2 ++ handled.2.flatMap (ChatEmission.render runtime createdSeconds))

def ChatStreamTranslator.push (reader : BlockReader ChatStreamTranslator) (bytes : List UInt8) :
    BlockReader ChatStreamTranslator × List UInt8 :=
  let pushed := BlockReader.push none 0 (ChatStreamTranslator.outputBlock runtime createdSeconds)
    { state := (reader.state, []), decoder := reader.decoder, buffer := reader.buffer } bytes
  ({ state := pushed.state.1, decoder := pushed.decoder, buffer := pushed.buffer },
    TextEncoder.encode pushed.state.2)

end Rendering

end SpaceApp.Gateway.Codex.Chat
