import Mathlib.Tactic.Linarith
import SpaceApp.Gateway.Accounts.Pool

/-! When a rate limit ends (`handleRateLimit`, `persistBlock`): a reset the provider names is
bounded where it is read, a hint in its message and the backoff are not.
-/

set_option autoImplicit false

namespace SpaceApp.Gateway.Accounts

open SpaceApp.Foundation SpaceApp.Gateway.Router

def maxTimeValue : ℚ := 8640000000000000

/-- `seconds ? new Date(seconds * 1000).toISOString() : null`, read back as seconds; a date holds no time past its last. -/
def toIsoOrThrow (seconds : Option ℚ) : Except String (Option ℚ) :=
  match seconds with
  | none => .ok none
  | some seconds =>
      if seconds = 0 then .ok none
      else if maxTimeValue < |seconds * 1000| then .error "RangeError: Invalid time value"
      else .ok (some (trunc (seconds * 1000) / 1000))

def blockedUntil (state : AccountState) : Except String (Option ℚ) := toIsoOrThrow state.resetAt

/-- The last second a plausible reset may name, rounding included. -/
def latestReset (now : ℚ) : ℚ :=
  now + (RATE_LIMIT_RESET_MAX_HORIZON_SECONDS + RATE_LIMIT_RESET_ROUNDING_TOLERANCE_SECONDS)

/-- The block ends, and within the horizon of provider-supplied resets. -/
def EndsInTime (state : AccountState) (now : ℚ) : Prop :=
  ∃ reset, state.resetAt = some reset ∧ now ≤ reset ∧ reset ≤ latestReset now

theorem EndsInTime.stored {state : AccountState} {now : ℚ} (ends : EndsInTime state now) (since : 0 ≤ now)
    (dated : latestReset now * 1000 ≤ maxTimeValue) : ∃ stored, blockedUntil state = .ok stored := by
  obtain ⟨reset, same, from_, until_⟩ := ends
  have small : ¬ maxTimeValue < |reset * 1000| := by
    rw [abs_of_nonneg (by linarith)]
    linarith
  unfold blockedUntil toIsoOrThrow
  rw [same]
  by_cases zero : reset = 0
  · exact ⟨none, if_pos zero⟩
  · exact ⟨some (trunc (reset * 1000) / 1000), (if_neg zero).trans (if_neg small)⟩

/-- The provider names a reset within the horizon, as a time or as a duration. -/
def NamesReset (error : UpstreamError) (now : ℚ) : Prop :=
  (∃ reset, error.resetsAt = some reset ∧ now < reset ∧ reset ≤ now + RATE_LIMIT_RESET_MAX_HORIZON_SECONDS) ∨
    ∃ duration, error.resetsInSeconds = some duration ∧ 0 < duration ∧ duration ≤ RATE_LIMIT_RESET_MAX_HORIZON_SECONDS

instance (error : UpstreamError) (now : ℚ) : Decidable (NamesReset error now) :=
  decidable_of_iff
    ((error.resetsAt.any fun reset => now < reset ∧ reset ≤ now + RATE_LIMIT_RESET_MAX_HORIZON_SECONDS) ∨
      error.resetsInSeconds.any fun duration => 0 < duration ∧ duration ≤ RATE_LIMIT_RESET_MAX_HORIZON_SECONDS)
    (by simp [NamesReset, Option.any_eq_true])

theorem plausibleRateLimitResetAt_eq {resetAt : Option ℚ} {now reset : ℚ} {slack : Bool} :
    plausibleRateLimitResetAt resetAt now slack = some reset ↔
      resetAt = some reset ∧ now < reset ∧ reset ≤ now + (RATE_LIMIT_RESET_MAX_HORIZON_SECONDS +
        if slack then RATE_LIMIT_RESET_ROUNDING_TOLERANCE_SECONDS else 0) := by
  simp [plausibleRateLimitResetAt, Option.filter_eq_some_iff]

theorem rounded_usable {now reset : ℚ} (after : now < reset)
    (within : reset ≤ now + RATE_LIMIT_RESET_MAX_HORIZON_SECONDS) :
    plausibleRateLimitResetAt (some (⌈reset⌉ : ℚ)) now true = some (⌈reset⌉ : ℚ) := by
  have up := Int.le_ceil reset
  have less := Int.ceil_lt_add_one reset
  refine plausibleRateLimitResetAt_eq.mpr ⟨rfl, by linarith, ?_⟩
  simp only [if_true, RATE_LIMIT_RESET_ROUNDING_TOLERANCE_SECONDS]
  linarith

theorem extractResetAt_bounded {error : UpstreamError} {now reset : ℚ} (found : extractResetAt error now = some reset) :
    now < reset ∧ reset ≤ latestReset now := by
  have rounded : ∀ resetAt : Option ℚ, plausibleRateLimitResetAt resetAt now true = some reset →
      now < reset ∧ reset ≤ latestReset now := fun _ usable => (plausibleRateLimitResetAt_eq.mp usable).2
  unfold extractResetAt at found
  split at found
  · exact rounded _ found
  · split at found
    · cases found
    · split at found
      · cases found
      · exact rounded _ found

theorem extractResetAt_none {error : UpstreamError} {now : ℚ} :
    extractResetAt error now = none ↔ ¬ NamesReset error now := by
  unfold extractResetAt NamesReset
  cases named : plausibleRateLimitResetAt error.resetsAt now false with
  | some reset =>
    obtain ⟨same, after, within⟩ := plausibleRateLimitResetAt_eq.mp named
    have within : reset ≤ now + RATE_LIMIT_RESET_MAX_HORIZON_SECONDS := by simpa using within
    simp only [rounded_usable after within, reduceCtorEq, false_iff, not_not]
    exact .inl ⟨reset, same, after, within⟩
  | none =>
    have unnamed : ¬ ∃ reset, error.resetsAt = some reset ∧ now < reset ∧
        reset ≤ now + RATE_LIMIT_RESET_MAX_HORIZON_SECONDS := by
      rintro ⟨reset, same, after, within⟩
      have usable : plausibleRateLimitResetAt error.resetsAt now false = some reset :=
        plausibleRateLimitResetAt_eq.mpr ⟨same, after, by simpa using within⟩
      rw [named] at usable
      cases usable
    cases error.resetsInSeconds with
    | none => simpa using unnamed
    | some duration =>
      by_cases far : duration ≤ 0 ∨ RATE_LIMIT_RESET_MAX_HORIZON_SECONDS < duration
      · simp only [far, if_true, unnamed, Option.some.injEq, exists_eq_left', false_or, true_iff]
        intro near
        rcases far with past | late <;> linarith
      · obtain ⟨positive, short⟩ := not_or.mp far
        have usable := @rounded_usable now (now + duration) (by linarith) (by linarith)
        simp only [far, if_false, usable, reduceCtorEq, unnamed, Option.some.injEq, exists_eq_left', false_or, false_iff, not_not]
        exact ⟨not_le.mp positive, not_lt.mp short⟩

def hinted (error : UpstreamError) : Option ℚ :=
  match error.message with
  | some message => if message ≠ "" then parseRetryAfter (some message) else none
  | none => none

/-- The delay without a reset of the provider: its hint, or the backoff after so many errors. -/
def ownDelay (errorCount : ℕ) (error : UpstreamError) (random : ℚ) : ℚ :=
  (hinted error).getD (max (200 * 2 ^ errorCount * (9 / 10 + random * (11 / 10 - 9 / 10)) / 1000) 30)

def LimitsInTime (errorCount : ℕ) (error : UpstreamError) (now random : ℚ) : Prop :=
  NamesReset error now ∨ ownDelay errorCount error random ≤
    RATE_LIMIT_RESET_MAX_HORIZON_SECONDS + RATE_LIMIT_RESET_ROUNDING_TOLERANCE_SECONDS - Int.fract now

section

variable {platform : Platform} (power : ∀ exponent : ℕ, platform.pow 2 exponent = 2 ^ exponent)

include power

theorem backoffSeconds_count (errorCount : ℕ) (random : ℚ) : backoffSeconds platform (errorCount + 1) random =
      200 * 2 ^ errorCount * (9 / 10 + random * (11 / 10 - 9 / 10)) / 1000 := by
  have attempt : max 1 ((errorCount : ℚ) + 1) - 1 = errorCount := by
    rw [max_eq_right (by simp)]
    ring
  simp only [backoffSeconds, backoffFactor, attempt, power, backoffInitialDelayMs, backoffJitterMin, backoffJitterMax]

theorem handleRateLimit_resetAt {state : AccountState} {errorCount : ℕ} (counted : state.errorCount = errorCount)
    (error : UpstreamError) (now random : ℚ) : (handleRateLimit platform state error now random).resetAt =
      some ((extractResetAt error now).getD (⌈now + ownDelay errorCount error random⌉ : ℚ)) := by
  refine congrArg (fun delay : ℚ => some ((extractResetAt error now).getD (⌈now + delay⌉ : ℚ))) ?_
  rw [counted, backoffSeconds_count power, ownDelay]
  split
  · next found =>
    rw [show hinted error = _ from found]
    rfl
  · next found =>
    change max ((hinted error).getD _) _ = _
    rw [show hinted error = _ from found]
    rfl

end

theorem ceil_le_latestReset (now delay : ℚ) : (⌈now + delay⌉ : ℚ) ≤ latestReset now ↔
    delay ≤ RATE_LIMIT_RESET_MAX_HORIZON_SECONDS + RATE_LIMIT_RESET_ROUNDING_TOLERANCE_SECONDS - Int.fract now := by
  have horizon : RATE_LIMIT_RESET_MAX_HORIZON_SECONDS + RATE_LIMIT_RESET_ROUNDING_TOLERANCE_SECONDS = ((31622401 : ℤ) : ℚ) := by
    norm_num [RATE_LIMIT_RESET_MAX_HORIZON_SECONDS, RATE_LIMIT_RESET_ROUNDING_TOLERANCE_SECONDS, SECONDS_PER_DAY]
  have part := Int.floor_add_fract now
  calc (⌈now + delay⌉ : ℚ) ≤ latestReset now ↔ ⌈now + delay⌉ ≤ ⌊now + ((31622401 : ℤ) : ℚ)⌋ := by
        rw [Int.le_floor, latestReset, horizon]
    _ ↔ now + delay ≤ ⌊now⌋ + ((31622401 : ℤ) : ℚ) := by
        rw [Int.floor_add_intCast, Int.ceil_le, Int.cast_add]
    _ ↔ delay ≤ RATE_LIMIT_RESET_MAX_HORIZON_SECONDS + RATE_LIMIT_RESET_ROUNDING_TOLERANCE_SECONDS - Int.fract now := by
        rw [horizon]
        constructor
        · intro early
          linarith
        · intro short
          linarith

theorem decimalValue_nonneg (digits : List Nat) : 0 ≤ decimalValue digits := by
  unfold decimalValue
  positivity

theorem unitSeconds_nonneg {entry : String × ℚ} (member : entry ∈ unitSeconds) : 0 ≤ entry.2 := by
  have all : ∀ entry ∈ unitSeconds, 0 ≤ entry.2 := by simp [unitSeconds]
  exact all entry member

theorem parseRetryAfter_nonneg {message : Option String} {delay : ℚ} (found : parseRetryAfter message = some delay) : 0 ≤ delay := by
  unfold parseRetryAfter at found
  split at found
  · cases found
  · dsimp only at found
    split at found
    · cases found
    · rw [Option.some.injEq] at found
      rw [← found]
      refine List.sum_nonneg fun duration member => ?_
      obtain ⟨token, -, read⟩ := List.mem_filterMap.mp member
      obtain ⟨multiplier, unit, equal⟩ := Option.map_eq_some_iff.mp read
      obtain ⟨entry, named, same⟩ := Option.map_eq_some_iff.mp unit
      have := unitSeconds_nonneg (List.mem_of_find?_eq_some named)
      rw [← equal, ← same]
      exact mul_nonneg (decimalValue_nonneg _) this

theorem ownDelay_nonneg (errorCount : ℕ) (error : UpstreamError) (random : ℚ) : 0 ≤ ownDelay errorCount error random := by
  unfold ownDelay
  cases found : hinted error with
  | none => exact le_max_of_le_right (by norm_num)
  | some delay =>
    unfold hinted at found
    split at found
    · split at found
      · exact parseRetryAfter_nonneg found
      · cases found
    · cases found

/-- What failures make of a pool. -/
inductive Failing (platform : Platform) : Runtime → Prop where
  | fresh : Failing platform .fresh
  | transient {runtime : Runtime} (failing : Failing platform runtime) (accountId : String) (now : ℚ) :
      Failing platform (markTransientError runtime accountId now)
  | rateLimited {runtime : Runtime} (failing : Failing platform runtime) (account : GatewayAccountRecord) (error : UpstreamError)
      (now random : ℚ) : Failing platform (markRateLimited platform runtime account error now random)

def CountReached (platform : Platform) (errorCount : ℚ) : Prop :=
  ∃ runtime accountId, Failing platform runtime ∧ (runtime accountId).errorCount = errorCount

theorem Failing.counts {platform : Platform} {runtime : Runtime} (failing : Failing platform runtime) (accountId : String) :
    ∃ count : ℕ, (runtime accountId).errorCount = count := by
  induction failing with
  | fresh => exact ⟨0, by simp [Runtime.fresh]⟩
  | transient _ failed now ih =>
    obtain ⟨count, same⟩ := ih
    by_cases own : accountId = failed
    · subst own
      exact ⟨count + 1, by simp [markTransientError, same]⟩
    · exact ⟨count, by rw [markTransientError, Runtime.modify_other _ _ own, same]⟩
  | rateLimited _ account error now random ih =>
    obtain ⟨count, same⟩ := ih
    by_cases own : accountId = account.id
    · subst own
      exact ⟨count + 1, by simp [markRateLimited, persistBlock, handleRateLimit, toBalancerState, same]⟩
    · exact ⟨count, by rw [markRateLimited, persistBlock, Runtime.modify_other _ _ own, same]⟩

/-- Every count is reached, by errors alone. -/
theorem every_count (platform : Platform) (count : ℕ) : CountReached platform count := by
  have failed : ∃ runtime, Failing platform runtime ∧ (runtime "a").errorCount = count := by
    induction count with
    | zero => exact ⟨.fresh, .fresh, by simp [Runtime.fresh]⟩
    | succ count ih =>
      obtain ⟨runtime, failing, same⟩ := ih
      exact ⟨markTransientError runtime "a" 0, failing.transient "a" 0, by simp [markTransientError, same]⟩
  obtain ⟨runtime, failing, same⟩ := failed
  exact ⟨runtime, "a", failing, same⟩

theorem handleRateLimit_endsInTime {platform : Platform} (power : ∀ exponent : ℕ, platform.pow 2 exponent = 2 ^ exponent)
    {state : AccountState} {errorCount : ℕ} (counted : state.errorCount = errorCount) (error : UpstreamError) (now random : ℚ) :
    EndsInTime (handleRateLimit platform state error now random) now ↔ LimitsInTime errorCount error now random := by
  unfold EndsInTime LimitsInTime
  rw [handleRateLimit_resetAt power counted]
  simp only [Option.some.injEq, exists_eq_left']
  cases found : extractResetAt error now with
  | some reset =>
    obtain ⟨after, within⟩ := extractResetAt_bounded found
    have named : NamesReset error now := by
      by_contra unnamed
      rw [extractResetAt_none.mpr unnamed] at found
      cases found
    simp only [Option.getD_some, named, true_or, iff_true]
    exact ⟨after.le, within⟩
  | none =>
    have later : now ≤ (⌈now + ownDelay errorCount error random⌉ : ℚ) := by
      have := Int.le_ceil (now + ownDelay errorCount error random)
      have := ownDelay_nonneg errorCount error random
      linarith
    simp only [Option.getD_none, later, true_and, extractResetAt_none.mp found, false_or]
    exact ceil_le_latestReset now _

/-- A rate limit ends in time, and so its end can be stored, exactly when the provider names a usable reset or
the gateway's own delay is within the horizon. -/
theorem rate_limit_ends (platform : Platform) (power : ∀ exponent : ℕ, platform.pow 2 exponent = 2 ^ exponent)
    (state : AccountState) (reached : CountReached platform state.errorCount) (error : UpstreamError) (now random : ℚ) :
    ∃ errorCount : ℕ, state.errorCount = errorCount ∧
      (EndsInTime (handleRateLimit platform state error now random) now ↔ LimitsInTime errorCount error now random) ∧
      (LimitsInTime errorCount error now random → 0 ≤ now → latestReset now * 1000 ≤ maxTimeValue →
        ∃ stored, blockedUntil (handleRateLimit platform state error now random) = .ok stored) := by
  obtain ⟨runtime, accountId, failing, same⟩ := reached
  obtain ⟨errorCount, counted⟩ := failing.counts accountId
  rw [same] at counted
  have ends := handleRateLimit_endsInTime power counted error now random
  exact ⟨errorCount, counted, ends, fun short since dated => (ends.mpr short).stored since dated⟩

def wholePowers : Platform where
  pow := fun base exponent => base ^ exponent.num
  sha256 := id
  toLowerCase := id
  replicaSalt := ""

theorem wholePowers_two (exponent : ℕ) : wholePowers.pow 2 exponent = 2 ^ exponent := by
  simp [wholePowers]

theorem rate_limit_ends_first_error : ∃ errorCount : ℕ, (0 : ℚ) = errorCount ∧
    (EndsInTime (handleRateLimit wholePowers { accountId := "a", status := .active } {} 1700000000 (1 / 2)) 1700000000 ↔
      LimitsInTime errorCount {} 1700000000 (1 / 2)) ∧
    (LimitsInTime errorCount {} 1700000000 (1 / 2) → (0 : ℚ) ≤ 1700000000 → latestReset 1700000000 * 1000 ≤ maxTimeValue →
      ∃ stored, blockedUntil (handleRateLimit wholePowers { accountId := "a", status := .active } {} 1700000000 (1 / 2)) = .ok stored) :=
  rate_limit_ends wholePowers wholePowers_two { accountId := "a", status := .active }
    (by simpa using every_count wholePowers 0) {} 1700000000 (1 / 2)

/-- A hint of any size becomes the end of the block. -/
def farHint : UpstreamError := { message := some "Please try again in 99999999999 hours" }

theorem farHint_delay : hinted farHint = some 359999999996400 := by decide +kernel

theorem far_hint_unbounded : ¬ ∀ (platform : Platform), (∀ exponent : ℕ, platform.pow 2 exponent = 2 ^ exponent) →
    ∀ (state : AccountState), CountReached platform state.errorCount → ∀ (error : UpstreamError) (now random : ℚ),
      EndsInTime (handleRateLimit platform state error now random) now ∧
        ∃ stored, blockedUntil (handleRateLimit platform state error now random) = .ok stored := by
  intro claimed
  have bounded := claimed wholePowers wholePowers_two { accountId := "a", status := .active }
    (by simpa using every_count wholePowers 0) farHint 1700000000 (1 / 2)
  obtain ⟨-, stored, fails⟩ := bounded
  have reset : (handleRateLimit wholePowers { accountId := "a", status := .active } farHint 1700000000 (1 / 2)).resetAt =
      some 360001699996400 := by
    rw [@handleRateLimit_resetAt wholePowers wholePowers_two _ 0 (by simp)]
    have unnamed : extractResetAt farHint 1700000000 = none := extractResetAt_none.mpr (by decide +kernel)
    rw [unnamed, ownDelay, farHint_delay]
    norm_num
  rw [blockedUntil, reset, toIsoOrThrow, if_neg (by norm_num), if_pos (by norm_num [maxTimeValue, abs_of_nonneg])] at fails
  cases fails

end SpaceApp.Gateway.Accounts
