import SpaceApp.Foundation.Json
import SpaceApp.Foundation.Utf8

/-! What a Codex upstream error says: `parseUpstreamError` reads its code and message, and
`classify` says whether another account may do better.
-/

set_option autoImplicit false

namespace SpaceApp.Gateway.Codex

open SpaceApp.Foundation

inductive FailureKind where
  | rateLimit | quota | transient | permanent | surface
  deriving DecidableEq, Repr

structure UpstreamFailure where
  kind : FailureKind
  status : Nat
  code : JsString
  message : JsString
  resetsAt : Option JsNumber := none
  resetsInSeconds : Option JsNumber := none
  body : Option JsString := none
  deriving DecidableEq

def permanentFailureCodes : List String :=
  ["refresh_token_expired", "refresh_token_reused", "refresh_token_invalidated", "invalid_grant",
    "token_invalidated", "token_expired", "app_session_terminated", "account_session_expired",
    "account_auth_invalidated", "invalid_refresh_token", "account_deactivated", "account_suspended",
    "account_deleted"]

/-- Names `in` finds in every object. -/
def inheritedNames : List String :=
  ["constructor", "hasOwnProperty", "isPrototypeOf", "propertyIsEnumerable", "toLocaleString", "toString",
    "valueOf", "__defineGetter__", "__defineSetter__", "__lookupGetter__", "__lookupSetter__", "__proto__"]

def rateLimitCodes : List String := ["rate_limit_exceeded", "usage_limit_reached"]
def quotaCodes : List String := ["insufficient_quota", "usage_not_included", "quota_exceeded"]
def transientCodes : List String :=
  ["server_error", "upstream_error", "stream_incomplete", "overloaded_error", "server_is_overloaded"]
def usageLimitPhrases : List String := ["usage limit", "you've hit your limit", "purchase more credits"]
def capacityPhrase : String := "selected model is at capacity"

def isOneOf (codes : List String) (code : JsString) : Bool := codes.any fun name => js name = code

def asciiLower (unit : CodeUnit) : CodeUnit := if 0x41 ≤ unit ∧ unit ≤ 0x5A then unit + 0x20 else unit

def mentions (phrase : String) (text : JsString) : Bool := js phrase <:+: text.map asciiLower

def classify (code message : JsString) (status : Nat) : FailureKind :=
  if isOneOf (permanentFailureCodes ++ inheritedNames) code then .permanent
  else if isOneOf rateLimitCodes code then .rateLimit
  else if isOneOf quotaCodes code then .quota
  else if usageLimitPhrases.any fun phrase => mentions phrase message then .rateLimit
  else if isOneOf transientCodes code || 500 ≤ status || mentions capacityPhrase message then .transient
  else if status = 429 then .transient
  else if status = 401 then .permanent
  else .surface

section

-- `String(value)` of a value that is no string
variable (toText : JsValue → JsString)

def present : Option JsValue → Option JsValue
  | some .null => none
  | value => value

def firstText (values : List (Option JsValue)) (fallback : JsString) : JsString :=
  match values.findSome? present with
  | none => fallback
  | some (.string text) => text
  | some value => toText value

def natText (value : Nat) : JsString := js (toString value)

def defaultCode (status : Nat) : JsString :=
  if status = 401 then js "token_invalidated"
  else if 500 ≤ status then js "upstream_error"
  else js "http_" ++ natText status

/-- The fields of the error: those of the payload's `error`, if that is an object, else the payload's. -/
def errorFields (payload : JsValue) : JsonObject JsNumber :=
  match get? payload.fields? "error" with
  | some (.object fields) => fields
  | some (.array _) => []
  | _ => payload.fields?.getD []

/-- None where reading the error of a `null` payload throws. -/
def parseUpstreamError (text : JsString) (status : Nat) : Option UpstreamFailure :=
  match parseJs text with
  | some .null => none
  | parsed =>
      let error := errorFields (parsed.getD (.object []))
      let code := firstText toText [error.get "code", error.get "type"] (defaultCode status)
      let message := ((error.get "message").bind Json.text?).getD
        (if text = [] then js "Upstream returned HTTP " ++ natText status else text.take 300)
      some {
        kind := classify code message status
        status
        code
        message
        resetsAt := (error.get "resets_at").bind Json.number?
        resetsInSeconds := (error.get "resets_in_seconds").bind Json.number?
        body := if text = [] then none else some text }

end

/-- `Buffer.toString("utf8")`: all bytes at once, a byte order mark kept. -/
def bufferText (bytes : List UInt8) : JsString :=
  let decoded := ({ started := true } : TextDecoder).decode bytes
  decoded.2 ++ if decoded.1.partial_.isSome then unitsOf TextDecoder.replacement else []

def MAX_ERROR_BODY_BYTES : Nat := 64 * 1024

def boundedChunks (limit : Nat) : Nat → List (List UInt8) → List (List UInt8)
  | _, [] => []
  | size, chunk :: rest =>
      if limit < size + chunk.length then [] else chunk :: boundedChunks limit (size + chunk.length) rest

end SpaceApp.Gateway.Codex
