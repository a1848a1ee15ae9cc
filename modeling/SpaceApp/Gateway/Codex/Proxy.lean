import SpaceApp.Foundation.Loop
import SpaceApp.Gateway.Codex.Chat
import SpaceApp.Gateway.Codex.PickAccount
import SpaceApp.Gateway.Codex.Stream
import SpaceApp.Gateway.Codex.UpstreamFailure

/-! The attempt loop of the Codex proxy (`handle`): pick an account, stream the reply through,
and move to another account when a failure happens before the client has seen any output.
-/

set_option autoImplicit false

namespace SpaceApp.Gateway.Codex

open SpaceApp.Foundation SpaceApp.Gateway.Router SpaceApp.Gateway.Accounts

inductive ReplyBody where
  | error (code message type : JsString)
  | raw (text : JsString)
  | chat (completion : Chat.ChatCompletion)
  | response (object : JsonObject JsNumber)
  | thrown

structure ClientReply where
  status : Nat
  requestId : Option JsString := none
  body : ReplyBody

/-- What the client has got: replies sent whole, or the bytes of a hijacked response. -/
structure Client where
  sent : List ClientReply := []
  hijacked : Bool := false
  written : List (List UInt8) := []
  ended : Nat := 0

def Client.send (client : Client) (reply : ClientReply) : Client := { client with sent := client.sent ++ [reply] }
def Client.write (client : Client) (bytes : List UInt8) : Client :=
  { client with written := client.written ++ [bytes] }

/-- One reply sent, or one hijacked response ended; not both. -/
def Client.AnsweredOnce (client : Client) : Prop :=
  (client.sent.length = 1 ∧ client.hijacked = false ∧ client.ended = 0) ∨
    (client.sent = [] ∧ client.hijacked = true ∧ client.ended = 1)

structure ProxyRuntime extends Chat.ChatRuntime where
  toText : JsValue → JsString

/-- An authenticated, well-formed request, as the handler has settled it before the loop. -/
structure ProxyRequest where
  requestId : JsString
  chat : Bool := false
  clientStreams : Bool := true
  includeUsage : Bool := false
  model : Option String := none
  createdSeconds : ℚ := 0
  scope : Option (List String) := none
  ownerAccountId : Option String := none
  settings : PickSettings := {}
  maxAttempts : Nat := 3
  bufferLimit : Nat := 4 * 1024 * 1024

/-- A read of a body that failed; `aborted` once the client has disconnected. -/
structure StreamBreak where
  message : Option JsString := none
  aborted : Bool := false

/-- A body: its chunks, and how it breaks off if it does. -/
structure ByteStream where
  chunks : List (List UInt8)
  broken : Option StreamBreak := none

structure UpstreamResponse where
  status : Nat
  body : Option ByteStream

def UpstreamResponse.ok (response : UpstreamResponse) : Bool := 200 ≤ response.status && response.status ≤ 299

inductive WebSocketAnswer where
  | opened (stream : ByteStream)
  | refused (status : Nat) (body : Option JsString) (aborted : Bool)
  | failed (aborted : Bool)

inductive HttpAnswer where
  | failed (message : Option JsString) (aborted : Bool)
  | answered (response : UpstreamResponse)

structure CredentialError where
  code : Option JsString := none
  message : Option JsString := none

structure PickWorld where
  runtime : Runtime
  accounts : List GatewayAccountRecord
  plans : Option (List String) := none
  stickyId : Option String := none
  moment : PickMoment

structure AttemptWorld where
  pool : PickWorld
  credentials : Option CredentialError := none
  webSocket : Option WebSocketAnswer := none
  http : HttpAnswer
  refreshed : Option GatewayAccountRecord := none

structure LoopState where
  attempt : Nat := 0
  lastFailure : Option UpstreamFailure := none
  retryWith : Option GatewayAccountRecord := none
  tried : List String := []
  client : Client := {}

section

variable (platform : Platform) (runtime : ProxyRuntime) (request : ProxyRequest)

/-- Accounts whose plan offers the model; all accounts when the model is unknown. -/
def eligible (plans : Option (List String)) (accounts : List GatewayAccountRecord) : List GatewayAccountRecord :=
  match plans with
  | none => accounts
  | some plans => accounts.filter fun account =>
      plans.contains (normalizePlanPriorityType platform account.planType)

def pickAccount (world : PickWorld) (tried : List String) : PickResult :=
  match beginPick world.runtime world.accounts request.scope tried request.ownerAccountId request.model
      (fun accounts _ => eligible platform world.plans accounts) with
  | .error answer => answer
  | .ok snapshot => (finishPick platform request.settings world.stickyId world.moment snapshot).1

def choose (state : LoopState) (world : AttemptWorld) : PickResult :=
  match state.retryWith with
  | some account => { account := some account }
  | none => pickAccount platform request world.pool state.tried

def noAccountsMessage : JsString := js "No accounts are available in Space Gateway."

def emptyPoolReply (explained : NoAccount) : ClientReply :=
  let status := if explained.errorCode = some USAGE_LIMIT_REACHED then 429 else 503
  { status
    body := .error (js (explained.errorCode.getD "no_accounts"))
      ((explained.errorMessage.map js).getD noAccountsMessage)
      (js (if status = 429 then "rate_limit_error" else "server_error")) }

def failureReply (lastFailure : Option UpstreamFailure) : ClientReply :=
  let failure := lastFailure.getD
    { kind := .transient, status := 503, code := js "no_accounts", message := noAccountsMessage }
  let status :=
    if failure.kind = .rateLimit ∨ failure.kind = .quota then 429
    else if 400 ≤ failure.status then failure.status
    else 502
  let error := .error failure.code failure.message
    (js (if status = 429 then "rate_limit_error" else "server_error"))
  match failure.kind, failure.body with
  | .surface, some body => { status := failure.status, requestId := some request.requestId, body := .raw body }
  | _, _ => { status, requestId := some request.requestId, body := error }

def failed (state : LoopState) : Client := state.client.send (failureReply request state.lastFailure)

def threw (state : LoopState) : Client := state.client.send { status := 500, body := .thrown }

/-- A failure that is kept for the final answer: the next account, but never away from the owner. -/
def moveOn (state : LoopState) (failure : UpstreamFailure) : LoopState ⊕ Client :=
  let next := { state with lastFailure := some failure }
  if request.ownerAccountId.isSome then .inr (failed request next)
  else .inl { next with attempt := state.attempt + 1 }

def credentialFailure (error : CredentialError) : UpstreamFailure :=
  { kind := .permanent
    status := 401
    code := error.code.getD (js "credential_error")
    message := error.message.getD (js "Account credentials are unavailable.") }

def unavailableFailure (message : Option JsString) : UpstreamFailure :=
  { kind := .transient
    status := 502
    code := js "upstream_unavailable"
    message := message.getD (js "Upstream unavailable") }

def interruptedFailure (message : Option JsString) : UpstreamFailure :=
  { kind := .transient
    status := 502
    code := js "stream_incomplete"
    message := message.getD (js "Stream interrupted") }

/-- `readBounded`; none where the body breaks off. -/
def readBounded (response : UpstreamResponse) : Option JsString :=
  match response.body with
  | none => some []
  | some stream =>
      let chunks := boundedChunks MAX_ERROR_BODY_BYTES 0 stream.chunks
      -- a body past the limit is not read further, so it cannot break off
      if stream.broken.isSome ∧ chunks.length = stream.chunks.length then none
      else some (bufferText chunks.flatten)

def recordFailure (world : AttemptWorld) (failure : UpstreamFailure) : Option GatewayAccountRecord :=
  if failure.kind = .permanent ∧ failure.status = 401 then world.refreshed else none

def rejectedFailure (response : UpstreamResponse) : Option UpstreamFailure :=
  (readBounded response).bind fun text => parseUpstreamError runtime.toText text response.status

def rejected (state : LoopState) (world : AttemptWorld) (response : UpstreamResponse) : LoopState ⊕ Client :=
  match rejectedFailure runtime response with
  | none => .inr (threw state)
  | some failure =>
      if failure.kind = .surface then .inr (failed request { state with lastFailure := some failure })
      else
        match recordFailure world failure with
        | some account => .inl { state with lastFailure := some failure, retryWith := some account }
        | none => moveOn request state failure

def accountHandshakeStatuses : List Nat := [401, 404, 429]

inductive Connected where
  | aborted
  | failed (message : Option JsString)
  | response (response : UpstreamResponse)

def fetchUpstream : HttpAnswer → Connected
  | .failed message aborted => if aborted then .aborted else .failed message
  | .answered response => .response response

/-- The WebSocket where the request is promoted to one, HTTP where it fails as a transport. -/
def connect (world : AttemptWorld) : Connected :=
  match world.webSocket with
  | none => fetchUpstream world.http
  | some (.opened stream) => .response { status := 200, body := some stream }
  | some (.refused status body aborted) =>
      if aborted then .aborted
      else if accountHandshakeStatuses.contains status then
        .response { status, body := some { chunks := [TextEncoder.encode (body.getD [])] } }
      else fetchUpstream world.http
  | some (.failed aborted) => if aborted then .aborted else fetchUpstream world.http

/-- The start of the reply is held until output begins. -/
structure Reading where
  inspector : ResponseStreamInspector := ResponseStreamInspector.new
  held : List (List UInt8) := []
  heldBytes : Nat := 0
  committed : Bool := false
  translator : Option (BlockReader Chat.ChatStreamTranslator) := none
  client : Client := {}

def startReading (client : Client) : Reading :=
  { client
    translator :=
      if request.chat then
        some { state := {
          model := js (request.model.getD "unknown")
          includeUsage := request.includeUsage } }
      else none }

def forward (reading : Reading) (chunk : List UInt8) : Reading :=
  match reading.translator with
  | none => if chunk = [] then reading else { reading with client := reading.client.write chunk }
  | some translator =>
      let pushed := Chat.ChatStreamTranslator.push runtime.toChatRuntime request.createdSeconds translator chunk
      let next := { reading with translator := some pushed.1 }
      if pushed.2 = [] then next else { next with client := reading.client.write pushed.2 }

def hijack (reading : Reading) : Reading :=
  { reading with committed := true, client := { reading.client with hijacked := true } }

def commit (reading : Reading) : Reading :=
  if request.clientStreams then
    { reading.held.foldl (forward runtime request) (hijack reading) with held := [] }
  else { reading with committed := true }

def earlyFailure (state : LoopState) (view : StreamView) : Option UpstreamFailure :=
  if view.outcome.status = .failed ∧ view.outputStarted = false ∧ request.ownerAccountId = none then
    let text := stringify runtime.decimal (.object [Chat.field "error" (.object
      [Chat.field "code" (Chat.orNull Json.string view.outcome.errorCode),
        Chat.field "message" (Chat.orNull Json.string view.outcome.errorMessage)])])
    (parseUpstreamError runtime.toText text 200).filter fun failure =>
      failure.kind ≠ .surface ∧ state.attempt + 1 < request.maxAttempts
  else none

def readChunk (state : LoopState) (reading : Reading) (chunk : List UInt8) :
    Except (UpstreamFailure × Client) Reading :=
  let seen := { reading with inspector := (reading.inspector.push chunk).1 }
  if reading.committed then .ok (if request.clientStreams then forward runtime request seen chunk else seen)
  else
    let holding := { seen with held := seen.held ++ [chunk], heldBytes := seen.heldBytes + chunk.length }
    match earlyFailure runtime request state holding.inspector.state with
    | some failure => .error (failure, holding.client)
    | none =>
        .ok (if holding.inspector.state.outputStarted ∨ request.bufferLimit < holding.heldBytes then
          commit runtime request holding
        else holding)

def readChunks (state : LoopState) : Reading → List (List UInt8) → Except (UpstreamFailure × Client) Reading
  | reading, [] => .ok reading
  | reading, chunk :: rest =>
      match readChunk runtime request state reading chunk with
      | .error moved => .error moved
      | .ok next => readChunks state next rest

def endStream (reading : Reading) : Client :=
  let client := match reading.translator with
    | none => reading.client
    | some translator =>
        reading.client.write (TextEncoder.encode (translator.state.finish.flatMap
          (Chat.ChatEmission.render runtime.toChatRuntime request.createdSeconds)))
  { client with ended := client.ended + 1 }

/-- The stream ended: a streaming client's response is ended, any other gets the final response. -/
def finished (reading : Reading) : Client :=
  let reading := if reading.committed then reading else commit runtime request reading
  let view := reading.inspector.state
  if request.clientStreams then endStream runtime request reading
  else
    match view.outcome.status, view.finalResponse with
    | .success, some response =>
        reading.client.send {
          status := 200
          requestId := some request.requestId
          body :=
            if request.chat then
              .chat (Chat.responseToChatCompletion runtime.toChatRuntime response
                (js (request.model.getD "unknown")))
            else .response response }
    | _, _ =>
        reading.client.send {
          status := 502
          requestId := some request.requestId
          body := .error (view.outcome.errorCode.getD (js "upstream_error"))
            (view.outcome.errorMessage.getD (js "The upstream response did not complete.")) (js "server_error") }

def interrupted (state : LoopState) (reading : Reading) (cut : StreamBreak) : LoopState ⊕ Client :=
  if cut.aborted then .inr reading.client
  else if reading.committed = false ∧ request.ownerAccountId = none then
    .inl { state with
      lastFailure := some (interruptedFailure cut.message)
      attempt := state.attempt + 1
      client := reading.client }
  else if request.clientStreams ∧ reading.committed = true then .inr (endStream runtime request reading)
  else .inr reading.client

def streamed (state : LoopState) (response : UpstreamResponse) : LoopState ⊕ Client :=
  match response.body with
  | none => .inr (threw state)
  | some stream =>
      match readChunks runtime request state (startReading request state.client) stream.chunks with
      | .error (failure, client) =>
          .inl { state with lastFailure := some failure, attempt := state.attempt + 1, client }
      | .ok reading =>
          match stream.broken with
          | none => .inr (finished runtime request reading)
          | some cut => interrupted runtime request state reading cut

def attemptWith (state : LoopState) (world : AttemptWorld) : LoopState ⊕ Client :=
  match world.credentials with
  | some error => moveOn request state (credentialFailure error)
  | none =>
      match connect world with
      | .aborted => .inr state.client
      | .failed message => moveOn request state (unavailableFailure message)
      | .response response =>
          if response.ok then streamed runtime request state response
          else rejected runtime request state world response

def pass (state : LoopState) (world : AttemptWorld) : LoopState ⊕ Client :=
  if state.attempt < request.maxAttempts then
    let picked := choose platform request state world
    match picked.account with
    | some account =>
        attemptWith runtime request
          { state with retryWith := none, tried := state.tried ++ [account.id] } world
    | none =>
        match picked.none with
        | some explained =>
            if state.attempt = 0 then .inr (state.client.send (emptyPoolReply explained))
            else .inr (failed request state)
        | none => .inr (failed request state)
  else .inr (failed request state)

/-- What the client has got when the handler returns within `fuel` passes. -/
def handle (worlds : Nat → AttemptWorld) (fuel : Nat) : Option Client :=
  runLoop (pass platform runtime request) worlds fuel 0 {}

end

end SpaceApp.Gateway.Codex
