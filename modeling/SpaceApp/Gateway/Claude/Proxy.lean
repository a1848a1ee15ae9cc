import SpaceApp.Gateway.Accounts.Rejections
import SpaceApp.Gateway.Claude.Stream
import SpaceApp.Gateway.Claude.UpstreamFailure
import SpaceApp.Gateway.Codex.Proxy

/-! The attempt loop of the Claude proxy (`messages`): pick an account, stream its reply through,
and move to another account when a failure happens before any content reached the client.
-/

set_option autoImplicit false

namespace SpaceApp.Gateway.Claude

open SpaceApp.Foundation SpaceApp.Gateway.Router SpaceApp.Gateway.Accounts
open SpaceApp.Gateway.Codex (ByteStream StreamBreak Client ClientReply ReplyBody CredentialError PickSettings inScope
  checkSticky pickOptions replaceState noAccountsMessage)

/-- An authenticated, well-formed request, as `messages` has settled it before the loop. -/
structure MessagesRequest where
  requestId : JsString
  body : JsonObject JsNumber := []
  scope : Option (List String) := none
  settings : PickSettings := {}
  claudeApiKeyFallback : Bool := false
  keyAllowed : Bool := true
  maxAttempts : Nat := 3
  bufferLimit : Nat := 4 * 1024 * 1024
  /-- `HH:MM` on the server's clock. -/
  clockTime : ℚ → JsString := fun _ => []

structure UpstreamResponse where
  status : Nat
  headers : UpstreamHeaders := {}
  body : Option ByteStream

def UpstreamResponse.ok (response : UpstreamResponse) : Bool := 200 ≤ response.status && response.status ≤ 299

inductive HttpAnswer where
  | failed (message : Option JsString) (aborted : Bool)
  | answered (response : UpstreamResponse)

/-- The pace of the API key, where it stops the key. -/
structure StoppedKey where
  code : String
  message : String

/-- The pool as one pick meets it. -/
structure PickWorld where
  runtime : Runtime
  accounts : List GatewayAccountRecord
  isClaudeApiKeyAccount : GatewayAccountRecord → Bool := fun _ => false
  stickyId : Option String := none
  moment : Codex.PickMoment
  keyMoment : ℚ := 0
  stop : Option StoppedKey := none
  answeredAt : ℚ := 0

structure AttemptWorld where
  pool : Option PickWorld
  credentials : Option CredentialError := none
  http : HttpAnswer
  rejection : RejectionWorld

structure NoClaudeAccount where
  errorCode : Option String
  errorMessage : Option String
  resetsAt : Option ℚ := none

structure PickResult where
  account : Option GatewayAccountRecord := none
  result : Option NoClaudeAccount := none
  pooled : Nat := 0
  fallback : Bool := false

def noAccount (result : SelectionResult) : NoClaudeAccount :=
  { errorCode := result.errorCode, errorMessage := result.errorMessage, resetsAt := result.resetsAt }

def keyOptions (now : ℚ) : SelectAccountOptions :=
  { now, routingStrategy := .roundRobin, allowUsageExhaustionError := false }

section

variable (platform : Platform) (request : MessagesRequest)

/-- The API-key account, where the subscription accounts cannot serve. -/
def pickKey (world : PickWorld) (keys : List GatewayAccountRecord) (result : NoClaudeAccount) (pooled : Nat) : PickResult :=
  match if keys = [] then none else world.stop with
  | some stop => { result := some { errorCode := some stop.code, errorMessage := some stop.message }, pooled }
  | none =>
      let pick := (selectAccount platform (keys.map (toBalancerState world.runtime)) (keyOptions world.keyMoment)).1
      let key := pick.account.bind fun chosen => keys.find? fun candidate => candidate.id = chosen.accountId
      { account := key, result := some result, pooled, fallback := key.isSome }

def pickAccount (world : PickWorld) (tried : List String) : PickResult :=
  let candidates := inScope world.accounts request.scope tried
  let accounts := candidates.filter fun account => !world.isClaudeApiKeyAccount account
  let states := accounts.map (toBalancerState world.runtime)
  let pooled := (accounts.filter fun account => account.status ≠ .paused ∧ account.status ≠ .deactivated).length
  let recordOf := fun accountId : String => accounts.find? fun candidate => candidate.id = accountId
  let route := fun states : List AccountState =>
    let result := (selectAccount platform states (pickOptions request.settings world.moment)).1
    let account := result.account.bind fun chosen => recordOf chosen.accountId
    if account.isSome ∨ request.claudeApiKeyFallback = false ∨ request.keyAllowed = false then
      { account, result := some (noAccount result), pooled }
    else pickKey platform world (candidates.filter world.isClaudeApiKeyAccount) (noAccount result) pooled
  match world.stickyId.bind fun stickyId => states.find? fun state => state.accountId = stickyId with
  | none => route states
  | some sticky =>
      let (serves, after) := checkSticky platform request.settings world.moment sticky
      if serves then { account := recordOf sticky.accountId, pooled } else route (replaceState sticky.accountId after states)

end

structure UpstreamCall where
  account : GatewayAccountRecord
  body : JsonObject JsNumber
  extraBetas : List String

/-- `calls` is read by no code: the upstream calls made. -/
structure LoopState where
  attempt : Nat := 0
  lastFailure : Option UpstreamFailure := none
  retryWith : Option (GatewayAccountRecord × Bool) := none
  tried : List String := []
  upstreamBody : JsonObject JsNumber
  extraBetas : List String := []
  client : Client := {}
  calls : List UpstreamCall := []

def startMessages (request : MessagesRequest) : LoopState := { upstreamBody := request.body }

structure Exit where
  client : Client
  calls : List UpstreamCall

section

variable (platform : Platform) (request : MessagesRequest)

def LoopState.exit (state : LoopState) (client : Client) : LoopState ⊕ Exit := .inr { client, calls := state.calls }

def hours (minutes : ℤ) : JsString :=
  if minutes < 60 then js s!"{minutes}m"
  else js s!"{minutes / 60}h" ++ if minutes % 60 = 0 then [] else js s!" {minutes % 60}m"

def claudePoolLimitMessage (accounts : Nat) (resetsAt : Option ℚ) (nowSeconds : ℚ) : JsString :=
  let subject :=
    if accounts = 1 then js "The Claude account in Space Gateway reached its usage limit"
    else js s!"All {accounts} Claude accounts in Space Gateway reached their usage limit"
  match resetsAt.filter fun resetsAt => nowSeconds < resetsAt with
  | none => subject ++ js "."
  | some resetsAt =>
      let first := if accounts = 1 then js "It is" else js "The first one is"
      subject ++ js ". " ++ first ++ js " back in " ++ hours ⌈(resetsAt - nowSeconds) / 60⌉ ++ js " (at " ++
        request.clockTime resetsAt ++ js ")."

def budgetCodes : List String := ["MONTHLY_BUDGET_REACHED", "DAILY_ALLOWANCE_REACHED"]

/-- An empty pool, found on the first attempt. -/
def emptyPoolReply (world : PickWorld) (pooled : Nat) (result : NoClaudeAccount) : ClientReply :=
  let budget := result.errorCode.any fun code => budgetCodes.contains code
  let limited := budget ∨ result.errorCode = some USAGE_LIMIT_REACHED
  let message :=
    if budget = true then js (result.errorMessage.getD "undefined")
    else if limited then claudePoolLimitMessage request pooled result.resetsAt (world.answeredAt / 1000)
    else (result.errorMessage.map js).getD noAccountsMessage
  { status := if limited then 429 else 503
    body := .error (js (result.errorCode.getD "no_accounts")) message
      (js (if limited then "rate_limit_error" else "api_error")) }

def failureReply (lastFailure : Option UpstreamFailure) : ClientReply :=
  let failure := lastFailure.getD
    { kind := .transient, status := 503, code := js "no_accounts", message := noAccountsMessage }
  let status := if failure.kind = .rateLimit then 429 else if 400 ≤ failure.status then failure.status else 502
  let error := .error failure.code failure.message (js (if status = 429 then "rate_limit_error" else "api_error"))
  match failure.kind, failure.body with
  | .surface, some body => { status := failure.status, requestId := some request.requestId, body := .raw body }
  | _, _ => { status, requestId := some request.requestId, body := error }

def failed (state : LoopState) : LoopState ⊕ Exit := state.exit (state.client.send (failureReply request state.lastFailure))

def threw (state : LoopState) : LoopState ⊕ Exit := state.exit (state.client.send { status := 500, body := .thrown })

def continueAfter (state : LoopState) (failure : UpstreamFailure) : LoopState ⊕ Exit :=
  .inl { state with attempt := state.attempt + 1, lastFailure := some failure }

def transportFailure (code : String) (fallback : String) (message : Option JsString) : UpstreamFailure :=
  { kind := .transient, status := 502, code := js code, message := message.getD (js fallback) }

def unavailable (error : CredentialError) : UpstreamFailure :=
  { kind := .permanent
    status := 401
    code := error.code.getD (js "credential_error")
    message := error.message.getD (js "Account credentials are unavailable.") }

/-- The account to retry on when its rejected access token was refreshed; an error is a thrown one. -/
def recordFailure (world : AttemptWorld) (account : GatewayAccountRecord) (failure : UpstreamFailure) :
    Except Unit (Option GatewayAccountRecord) :=
  let known := Codex.isOneOf (Codex.permanentFailureCodes ++ Codex.inheritedNames) failure.code
  let code := if known then failure.code else js "token_invalidated"
  if failure.kind = .permanent ∧ failure.status = 401 then refreshRejectedToken platform world.rejection account code
  else if failure.kind ≠ .transient ∧ failure.kind ≠ .surface ∧ world.rejection.marksFail then .error ()
  else .ok none

/-- The request once more, with its stale thinking dropped. -/
def droppedThinking (state : LoopState) (failure : UpstreamFailure) : Option (JsonObject JsNumber) :=
  if state.extraBetas = [] ∧ boundElsewhere failure = true then withStaleThinkingDropped request.body else none

def rejected (state : LoopState) (world : AttemptWorld) (account : GatewayAccountRecord) (fallback : Bool)
    (response : UpstreamResponse) : LoopState ⊕ Exit :=
  let answer := (Codex.readBounded { status := response.status, body := response.body }).bind fun text =>
    parseClaudeError text response.status (some response.headers)
  match answer with
  | none => threw state
  | some failure =>
      let next := { state with lastFailure := some failure }
      if fallback = true ∧ claudeCreditsExhausted failure = true ∧ world.rejection.marksFail = true then threw next
      else
        match droppedThinking request state failure with
        | some dropped =>
            .inl { next with
              upstreamBody := dropped
              extraBetas := [THINKING_BINDING_BETA]
              retryWith := some (account, fallback) }
        | none =>
            if failure.kind = .surface then failed request next
            else
              match recordFailure platform world account failure with
              | .error _ => threw next
              -- the same account once more does not count as another attempt
              | .ok (some renewed) => .inl { next with retryWith := some (renewed, fallback) }
              | .ok none => .inl { next with attempt := next.attempt + 1 }

/-- `Response.text`; none where the body breaks off. -/
def responseText (body : Option ByteStream) : Option JsString :=
  match body with
  | none => some []
  | some stream =>
      if stream.broken.isSome then none
      else
        let decoded := ({} : TextDecoder).decode stream.chunks.flatten
        some (decoded.2 ++ if decoded.1.partial_.isSome then unitsOf TextDecoder.replacement else [])

def whole (state : LoopState) (response : UpstreamResponse) : LoopState ⊕ Exit :=
  match responseText response.body with
  | none => threw state
  | some text =>
      state.exit (state.client.send {
        status := response.status, requestId := some request.requestId, body := .raw text })

/-- The start of the reply is held until content begins. -/
structure Reading where
  inspector : ClaudeStreamInspector := ClaudeStreamInspector.new
  held : List (List UInt8) := []
  heldBytes : Nat := 0
  committed : Bool := false
  client : Client := {}

def commit (reading : Reading) : Reading :=
  { reading with
    committed := true
    held := []
    client := reading.held.foldl Client.write { reading.client with hijacked := true } }

def orNull : Option JsString → JsValue
  | some text => .string text
  | none => .null

/-- A failure before any content, if it may move the request to another account. -/
def earlyFailure (state : LoopState) (view : ClaudeStreamView) : Option UpstreamFailure :=
  if view.status = .failed ∧ view.outputStarted = false then
    let text := stringify (fun _ => []) (.object [(js "error", .object
      [(js "type", orNull view.errorType), (js "message", orNull view.errorMessage)])])
    (parseClaudeError text 200 none).filter fun failure =>
      failure.kind ≠ .surface ∧ state.attempt + 1 < request.maxAttempts
  else none

/-- One chunk; an error is a failure that moves the request on, with the client as it is then. -/
def readChunk (state : LoopState) (reading : Reading) (chunk : List UInt8) :
    Except (UpstreamFailure × Client) Reading :=
  let seen := { reading with inspector := (reading.inspector.push chunk).1 }
  if reading.committed then .ok { seen with client := seen.client.write chunk }
  else
    let holding := { seen with held := seen.held ++ [chunk], heldBytes := seen.heldBytes + chunk.length }
    match earlyFailure request state holding.inspector.state with
    | some failure => .error (failure, holding.client)
    | none =>
        .ok (if holding.inspector.state.outputStarted ∨ request.bufferLimit < holding.heldBytes then commit holding
        else holding)

def readChunks (state : LoopState) : Reading → List (List UInt8) → Except (UpstreamFailure × Client) Reading
  | reading, [] => .ok reading
  | reading, chunk :: rest =>
      match readChunk request state reading chunk with
      | .error moved => .error moved
      | .ok next => readChunks state next rest

def endReply (client : Client) : Client := { client with ended := client.ended + 1 }

/-- The stream broke off: only before any commitment can the request move on. -/
def interrupted (state : LoopState) (reading : Reading) (cut : StreamBreak) : LoopState ⊕ Exit :=
  if cut.aborted then state.exit reading.client
  else if reading.committed then state.exit (endReply reading.client)
  else
    continueAfter { state with client := reading.client }
      (transportFailure "stream_incomplete" "Stream interrupted" cut.message)

/-- A failure recorded inside the stream's `try`: one that cannot be stored breaks the stream off. -/
def movedOn (state : LoopState) (world : AttemptWorld) (account : GatewayAccountRecord) (failure : UpstreamFailure)
    (client : Client) : LoopState ⊕ Exit :=
  let next := { state with client }
  match recordFailure platform world account failure with
  | .ok _ => continueAfter next failure
  | .error _ => continueAfter next (transportFailure "stream_incomplete" "Stream interrupted" none)

def streamed (state : LoopState) (world : AttemptWorld) (account : GatewayAccountRecord) (response : UpstreamResponse) :
    LoopState ⊕ Exit :=
  match response.body with
  | none => threw state
  | some stream =>
      match readChunks request state { client := state.client } stream.chunks with
      | .error (failure, client) => movedOn platform state world account failure client
      | .ok reading =>
          match stream.broken with
          | some cut => interrupted state reading cut
          | none => state.exit (endReply (if reading.committed then reading else commit reading).client)

def called (state : LoopState) (account : GatewayAccountRecord) : LoopState :=
  { state with
    calls := state.calls ++ [{ account, body := state.upstreamBody, extraBetas := state.extraBetas }] }

def answered (state : LoopState) (world : AttemptWorld) (account : GatewayAccountRecord) (fallback : Bool)
    (response : UpstreamResponse) : LoopState ⊕ Exit :=
  if response.headers.readable = false then threw state
  else if response.ok = false then rejected platform request state world account fallback response
  else if response.headers.eventStream then streamed platform request state world account response
  else whole request state response

def attemptWith (state : LoopState) (world : AttemptWorld) (account : GatewayAccountRecord) (fallback : Bool) :
    LoopState ⊕ Exit :=
  match world.credentials with
  | some error => continueAfter state (unavailable error)
  | none =>
      match world.http with
      | .failed _ true => (called state account).exit state.client
      | .failed message false =>
          continueAfter (called state account) (transportFailure "upstream_unavailable" "Upstream unavailable" message)
      | .answered response => answered platform request (called state account) world account fallback response

/-- The account of this pass, or what the handler does without one. -/
def choose (state : LoopState) (world : AttemptWorld) : (GatewayAccountRecord × Bool) ⊕ (LoopState ⊕ Exit) :=
  match state.retryWith with
  | some retry => .inl retry
  | none =>
      match world.pool with
      | none => .inr (threw state)
      | some pool =>
          let picked := pickAccount platform request pool state.tried
          match picked.account, picked.result with
          | some account, _ => .inl (account, picked.fallback)
          | none, some result =>
              .inr (if state.attempt = 0 then state.exit (state.client.send (emptyPoolReply request pool picked.pooled result))
                else failed request state)
          | none, none => .inr (failed request state)

def pass (state : LoopState) (world : AttemptWorld) : LoopState ⊕ Exit :=
  if state.attempt < request.maxAttempts then
    match choose platform request state world with
    | .inr outcome => outcome
    | .inl (account, fallback) =>
        attemptWith platform request
          { state with retryWith := none, tried := state.tried ++ [account.id] } world account fallback
  else failed request state

/-- How the handler returns within `fuel` passes. -/
def messages (worlds : Nat → AttemptWorld) (fuel : Nat) : Option Exit :=
  runLoop (pass platform request) worlds fuel 0 (startMessages request)

end

end SpaceApp.Gateway.Claude
