import SpaceApp.Foundation.Regex
import SpaceApp.Gateway.Router.Balancer

/-! Retry hints and backoff (`router/retry.ts`) and the limits an upstream answer
puts on an account (`handleRateLimit`, `handleQuotaExceeded`).
-/

set_option autoImplicit false

namespace SpaceApp.Gateway.Router

open SpaceApp.Foundation

def unitAlternation : Regex :=
  Regex.anyCaseWords ["ms", "milliseconds", "millisecond", "hours", "hour", "hrs", "hr", "h", "minutes",
    "minute", "mins", "min", "m", "seconds", "second", "secs", "sec", "s"]

/-- A unit is valid only when no letter follows it, so `m` never swallows the start of `month`. -/
def unitBoundary : Regex := .notAhead (.symbol Regex.isLetter)

def durationNumber : Regex :=
  .seq Regex.digits (Regex.opt (.seq (Regex.one '.') Regex.digits))

def retryPattern : Regex :=
  Regex.concat [Regex.anyCase "try again in", Regex.spaces,
    .group 1 (Regex.plus (Regex.concat
      [durationNumber, Regex.spaces, unitAlternation, unitBoundary, Regex.spaces]))]

def durationToken : Regex :=
  Regex.concat [.group 1 durationNumber, Regex.spaces, .group 2 unitAlternation, unitBoundary]

def unitSeconds : List (String × ℚ) :=
  [("ms", 1 / 1000), ("millisecond", 1 / 1000), ("milliseconds", 1 / 1000),
    ("h", 3600), ("hr", 3600), ("hrs", 3600), ("hour", 3600), ("hours", 3600),
    ("m", 60), ("min", 60), ("mins", 60), ("minute", 60), ("minutes", 60),
    ("s", 1), ("sec", 1), ("secs", 1), ("second", 1), ("seconds", 1)]

/-- `Number` of digits with at most one dot among them. -/
def decimalValue (digits : List Nat) : ℚ :=
  let whole := digits.takeWhile Regex.isDigit
  let fraction := (digits.dropWhile Regex.isDigit).drop 1
  let value := fun digits : List Nat =>
    digits.foldl (fun (total : Nat) digit => 10 * total + (digit - 0x30)) 0
  (value whole : ℚ) + (value fraction : ℚ) / 10 ^ fraction.length

/-- Reads "try again in 6m0s" hints, compound units included; `none` when there is none. -/
def parseRetryAfter (message : Option String) : Option ℚ :=
  match retryPattern.exec (symbolsOf (message.getD "")) with
  | none => none
  | some found =>
      let durations := (durationToken.all ((found.cursor.group 1).getD [])).filterMap fun duration =>
        let unit := ((duration.cursor.group 2).getD []).map Regex.lower
        ((unitSeconds.find? fun entry => symbolsOf entry.1 = unit).map Prod.snd).map fun multiplier =>
          decimalValue ((duration.cursor.group 1).getD []) * multiplier
      if durations = [] then none else some durations.sum

def backoffInitialDelayMs : ℚ := 200
def backoffFactor : ℚ := 2
def backoffJitterMin : ℚ := 9 / 10
def backoffJitterMax : ℚ := 11 / 10

/-- Exponential backoff with ±10% jitter, in seconds. -/
def backoffSeconds (platform : Platform) (attempt random : ℚ) : ℚ :=
  let base := backoffInitialDelayMs * platform.pow backoffFactor (max 1 attempt - 1)
  let jitter := backoffJitterMin + random * (backoffJitterMax - backoffJitterMin)
  base * jitter / 1000

structure UpstreamError where
  message : Option String := none
  resetsAt : Option ℚ := none
  resetsInSeconds : Option ℚ := none

def RATE_LIMITED_MIN_COOLDOWN_SECONDS : ℚ := 30
def QUOTA_EXCEEDED_COOLDOWN_SECONDS : ℚ := 120

/-- A near-future reset deadline, or none when the value is missing, past, or implausibly far away. -/
def plausibleRateLimitResetAt (resetAt : Option ℚ) (now : ℚ) (allowRoundingSlack : Bool) : Option ℚ :=
  let horizon := RATE_LIMIT_RESET_MAX_HORIZON_SECONDS +
    if allowRoundingSlack then RATE_LIMIT_RESET_ROUNDING_TOLERANCE_SECONDS else 0
  resetAt.filter fun reset => ¬ (reset ≤ now ∨ now + horizon < reset)

def extractResetAt (error : UpstreamError) (now : ℚ) : Option ℚ :=
  let roundedUp := fun reset : ℚ => plausibleRateLimitResetAt (some (⌈reset⌉ : ℚ)) now true
  match plausibleRateLimitResetAt error.resetsAt now false with
  | some reset => roundedUp reset
  | none =>
      match error.resetsInSeconds with
      | none => none
      | some resetIn =>
          if resetIn ≤ 0 ∨ RATE_LIMIT_RESET_MAX_HORIZON_SECONDS < resetIn then none
          else roundedUp (now + resetIn)

def handleRateLimit (platform : Platform) (state : AccountState) (error : UpstreamError) (now random : ℚ) :
    AccountState :=
  let errorCount := state.errorCount + 1
  let hint := match error.message with
    | some message => if message ≠ "" then parseRetryAfter (some message) else none
    | none => none
  let delay := hint.getD (backoffSeconds platform errorCount random)
  let persistedDelay := match hint with
    | some delay => delay
    | none => max delay RATE_LIMITED_MIN_COOLDOWN_SECONDS
  { state with
    status := .rateLimited
    errorCount
    lastErrorAt := some now
    blockedAt := some now
    cooldownUntil := some (now + delay)
    resetAt := some ((extractResetAt error now).getD (⌈now + persistedDelay⌉ : ℚ)) }

def handleQuotaExceeded (state : AccountState) (error : UpstreamError) (now : ℚ) : AccountState :=
  { state with
    status := .quotaExceeded
    usedPercent := some 100
    blockedAt := some now
    cooldownUntil := some (now + QUOTA_EXCEEDED_COOLDOWN_SECONDS)
    resetAt := some ((extractResetAt error now).getD (trunc (now + 3600))) }

example : parseRetryAfter (some "Please Try again in 6m0.5s or 2 months") = some (721 / 2) := by
  decide +kernel

end SpaceApp.Gateway.Router
