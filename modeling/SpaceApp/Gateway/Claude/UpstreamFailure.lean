import SpaceApp.Gateway.Codex.UpstreamFailure

/-! What an Anthropic error says (`parseClaudeError`), and the request with its stale thinking
dropped (`withStaleThinkingDropped`).
-/

set_option autoImplicit false

namespace SpaceApp.Gateway.Claude

open SpaceApp.Foundation

inductive FailureKind where
  | rateLimit | transient | permanent | surface
  deriving DecidableEq, Repr

structure UpstreamFailure where
  kind : FailureKind
  status : Nat
  code : JsString
  message : JsString
  body : Option JsString := none
  deriving DecidableEq

/-- The headers of an answer, as far as they are read; a number is a header's `Number(…)` where it
is finite. -/
structure UpstreamHeaders where
  contentType : Option JsString := none
  unifiedStatus : Option JsString := none
  retryAfter : Option ℚ := none
  fiveHourReset : Option ℚ := none
  weeklyReset : Option ℚ := none

/-- `new Date(value * 1000).toISOString()` does not throw. -/
def isDate (seconds : ℚ) : Bool := |seconds * 1000| ≤ 8640000000000000

/-- `readClaudeRateLimitHeaders` does not throw. -/
def UpstreamHeaders.readable (headers : UpstreamHeaders) : Bool :=
  headers.fiveHourReset.all isDate && headers.weeklyReset.all isDate

def UpstreamHeaders.eventStream (headers : UpstreamHeaders) : Bool :=
  js "text/event-stream" <:+: headers.contentType.getD []

def errorFields (payload : JsValue) : JsonObject JsNumber :=
  ((get? payload.fields? "error").bind Json.fields?).getD []

def claudeKind (code : JsString) (status : Nat) (requestRejected : Bool) : FailureKind :=
  if requestRejected then .surface
  else if status = 429 ∨ code = js "rate_limit_error" then .rateLimit
  else if status = 401 ∨ code = js "authentication_error" then .permanent
  else if 500 ≤ status ∨ code = js "overloaded_error" ∨ code = js "api_error" then .transient
  else .surface

/-- A bare 429, without the headers every reply to a subscription token carries, is about the request. -/
def isRequestRejected (status : Nat) (headers : Option UpstreamHeaders) : Bool :=
  status = 429 && headers.any fun headers =>
    headers.unifiedStatus.isNone && !headers.retryAfter.any fun seconds => decide (0 < seconds)

/-- None where it throws: on the payload `null`, and on dates out of range. -/
def parseClaudeError (text : JsString) (status : Nat) (headers : Option UpstreamHeaders) : Option UpstreamFailure :=
  match parseJs text, headers.all UpstreamHeaders.readable with
  | some .null, _ | _, false => none
  | parsed, true =>
      let error := errorFields (parsed.getD (.object []))
      let code := ((error.get "type").bind Json.text?).getD
        (if 500 ≤ status then js "api_error" else js "http_" ++ Codex.natText status)
      let message := ((error.get "message").bind Json.text?).getD
        (if text = [] then js "Upstream returned HTTP " ++ Codex.natText status else text.take 300)
      some {
        kind := claudeKind code status (isRequestRejected status headers)
        status
        code
        message
        body := if text = [] then none else some text }

def THINKING_BINDING_BETA : String := "thinking-binding-controls-2026-08-01"

def dropBlock : JsValue :=
  .object [(js "prefix_mismatch_behavior", .string (js "drop_block"))]

/-- None when thinking is off, or the client chose its own binding. -/
def withStaleThinkingDropped (body : JsonObject JsNumber) : Option (JsonObject JsNumber) :=
  let thinking : JsValue :=
    match body.get "thinking" with
    | none | some .null => .object [(js "type", .string (js "adaptive"))]
    | some thinking => thinking
  match thinking.fields? with
  | none => none
  | some fields =>
      let type := (fields.get "type").bind Json.text?
      if (type ≠ some (js "adaptive") ∧ type ≠ some (js "enabled")) ∨ (fields.get "block_binding").isSome then none
      else some (setProperty body (js "thinking") (.object (setProperty fields (js "block_binding") dropBlock)))

def boundElsewhere (failure : UpstreamFailure) : Bool :=
  failure.status = 400 && js "bound to a different conversation" <:+: failure.message

/-- `/credit balance/i` in a 400. -/
def claudeCreditsExhausted (failure : UpstreamFailure) : Bool :=
  failure.status = 400 && Codex.mentions "credit balance" failure.message

end SpaceApp.Gateway.Claude
