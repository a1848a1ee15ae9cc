import SpaceApp.Gateway.Router.Completeness

/-! What the pass of `selectAccount` admits, said on the accounts as they come in,
and from it which accounts the selection can return.
-/

set_option autoImplicit false

namespace SpaceApp.Gateway.Router

open SpaceApp.Foundation

section Conditions

variable (platform : Platform) (options : SelectAccountOptions) (state : AccountState)

def LimitInForce : Prop :=
  (state.status = .rateLimited ∨ state.status = .quotaExceeded) ∧ passed state.resetAt options.now = false

/-- Nothing but an error backoff can keep the account from serving. -/
structure Servable : Prop where
  enabled : state.status ≠ .paused ∧ state.status ≠ .deactivated
  signedIn : knownExpiredReauth state options.now = false
  unlimited : LimitInForce options state → bypassed options state = true
  cooled : ahead state.cooldownUntil options.now = false

/-- Repeated errors whose backoff is not served. A rate limit whose reset came and a
cooldown that ended have cleared the errors. -/
structure BackoffInForce : Prop where
  repeated : ERROR_BACKOFF_THRESHOLD ≤ state.errorCount
  unserved : backoffUnserved platform options.now state = true
  noReset : ¬ (state.status = .rateLimited ∧ passed state.resetAt options.now = true)
  noCooldownEnd : passed state.cooldownUntil options.now = false

def Usable : Prop := Servable options state ∧ ¬ BackoffInForce platform options state

def InBackoff : Prop := Servable options state ∧ BackoffInForce platform options state

def HardBlocked : Prop :=
  state.status = .paused ∨ state.status = .deactivated ∨ LimitInForce options state ∨
    knownExpiredReauth state options.now = true

def backoffEnd : ℚ := state.lastErrorAt.getD 0 + backoffFor platform state

end Conditions

/-- What the words of the selection law mean of an account. -/
structure Reading where
  usable : AccountState → Prop
  inBackoff : AccountState → Prop
  hardBlocked : AccountState → Prop

/-- The reading of the code: a timestamp of 0 is none, and what a passed reset or an
ended cooldown has cleared no longer counts. -/
def effectiveReading (platform : Platform) (options : SelectAccountOptions) : Reading where
  usable := Usable platform options
  inBackoff := InBackoff platform options
  hardBlocked := HardBlocked options

/-- The fields taken as they stand. -/
def literalReading (platform : Platform) (options : SelectAccountOptions) : Reading :=
  let limited := fun state : AccountState =>
    (state.status = .rateLimited ∨ state.status = .quotaExceeded) ∧ ¬ ∃ reset ∈ state.resetAt, reset ≤ options.now
  let servable := fun state : AccountState =>
    state.status ≠ .paused ∧ state.status ≠ .deactivated ∧ knownExpiredReauth state options.now = false ∧
      (limited state → bypassed options state = true) ∧ ¬ ∃ until_ ∈ state.cooldownUntil, options.now < until_
  let backoff := fun state : AccountState => ERROR_BACKOFF_THRESHOLD ≤ state.errorCount ∧
    ∃ failed ∈ state.lastErrorAt, options.now - failed < backoffFor platform state
  { usable := fun state => servable state ∧ ¬ backoff state
    inBackoff := fun state => servable state ∧ backoff state
    hardBlocked := fun state => state.status = .paused ∨ state.status = .deactivated ∨ limited state ∨
      knownExpiredReauth state options.now = true }

/-- No account is usable, and an account in backoff stands beside one in backoff or hard-blocked. -/
structure FallbackApplies (reading : Reading) (options : SelectAccountOptions)
    (states : List AccountState) : Prop where
  allowed : options.allowBackoffFallback = true
  noneUsable : ∀ state ∈ states, ¬ reading.usable state
  backedOff : ∃ state ∈ states, reading.inBackoff state ∧
    ∃ other ∈ states, other.accountId ≠ state.accountId ∧
      (reading.inBackoff other ∨ reading.hardBlocked other)

/-- In backoff, and no backoff ends before. -/
structure EndsFirst (reading : Reading) (platform : Platform) (states : List AccountState)
    (state : AccountState) : Prop where
  inBackoff : reading.inBackoff state
  least : ∀ other ∈ states, reading.inBackoff other → backoffEnd platform state ≤ backoffEnd platform other

/-- An account is returned exactly when there is one to return, and it is one of the input:
a usable one, or in the fallback the one whose backoff ends first. -/
structure SelectionLaw (reading : Reading) (platform : Platform) (options : SelectAccountOptions)
    (states : List AccountState) (outcome : SelectionResult × List AccountState) : Prop where
  complete : outcome.1.account.isSome ↔
    (∃ state ∈ states, reading.usable state) ∨ FallbackApplies reading options states
  sound : ∀ account, outcome.1.account = some account →
    ∃ (position : Nat) (state : AccountState), states[position]? = some state ∧
      outcome.2[position]? = some account ∧ account.accountId = state.accountId ∧
      (reading.usable state ∨
        (FallbackApplies reading options states ∧ EndsFirst reading platform states state))

section Pass

variable (current : ℚ) (state : AccountState)

theorem passed_not_ahead {timestamp : Option ℚ} (same : passed timestamp current = true) :
    ahead timestamp current = false := by
  cases timestamp with
  | none => rfl
  | some time =>
    simp only [passed, ahead, Option.any_some, decide_eq_true_eq, decide_eq_false_iff_not] at same ⊢
    exact fun later => absurd later.2 (not_lt.mpr same.2)

theorem recoverRateLimit_status : (recoverRateLimit current state).status = .rateLimited ↔
      state.status = .rateLimited ∧ passed state.resetAt current = false := by
  unfold recoverRateLimit
  split
  · next recovered => simp [recovered.2]
  · next kept => simp_all

/-- The two recoveries lift a limit exactly when its reset has come. -/
theorem recoveries_status : (recoverQuota current (recoverRateLimit current state)).status =
      if (state.status = .rateLimited ∨ state.status = .quotaExceeded) ∧ passed state.resetAt current then
        .active
      else state.status := by
  unfold recoverQuota recoverRateLimit
  cases reset : passed state.resetAt current with
  | false => simp [reset]
  | true => cases status : state.status <;> simp [status, reset]

theorem recovered_quota_status : (recoverQuota current (recoverRateLimit current state)).status = .quotaExceeded ↔
      state.status = .quotaExceeded ∧ passed state.resetAt current = false := by
  rw [recoveries_status]
  cases passed state.resetAt current <;> cases state.status <;> simp

@[simp] theorem recoverQuota_errorCount : (recoverQuota current state).errorCount = state.errorCount := by
  unfold recoverQuota; split <;> rfl

@[simp] theorem recoverQuota_lastErrorAt : (recoverQuota current state).lastErrorAt = state.lastErrorAt := by
  unfold recoverQuota; split <;> rfl

@[simp] theorem recoverQuota_cooldownUntil : (recoverQuota current state).cooldownUntil = state.cooldownUntil := by
  unfold recoverQuota; split <;> rfl

@[simp] theorem recoverRateLimit_cooldownUntil : (recoverRateLimit current state).cooldownUntil = state.cooldownUntil := by
  unfold recoverRateLimit; split <;> rfl

/-- The account as the pass has it when it looks at the backoff. -/
def recovered (current : ℚ) (state : AccountState) : AccountState :=
  clearCooldown current (recoverQuota current (recoverRateLimit current state))

theorem recovered_ahead :
    ahead (recovered current state).cooldownUntil current = ahead state.cooldownUntil current := by
  simp only [recovered, clearCooldown, recoverQuota_cooldownUntil, recoverRateLimit_cooldownUntil]
  split
  · next ended => exact (passed_not_ahead current ended).symm
  · simp

/-- Past the limits and the cooldown, the errors that count are the ones nothing cleared. -/
theorem recovered_backoff (platform : Platform) (options : SelectAccountOptions) :
    (ERROR_BACKOFF_THRESHOLD ≤ (recovered options.now state).errorCount ∧
        backoffUnserved platform options.now (recovered options.now state) = true) ↔
      BackoffInForce platform options state := by
  simp only [recovered, clearCooldown, recoverQuota_cooldownUntil, recoverRateLimit_cooldownUntil]
  by_cases ended : passed state.cooldownUntil options.now = true
  · simp only [if_pos ended, backoffUnserved, Option.any_none]
    constructor
    · intro held
      exact absurd held.2 Bool.false_ne_true
    · intro force
      rw [force.noCooldownEnd] at ended
      exact absurd ended Bool.false_ne_true
  rw [if_neg ended]
  by_cases reset : state.status = .rateLimited ∧ passed state.resetAt options.now = true
  · have cleared : (recoverRateLimit options.now state).errorCount = 0 := by
      simp [recoverRateLimit, reset]
    simp only [recoverQuota_errorCount, cleared]
    constructor
    · intro held
      exact absurd held.1 (by decide +kernel)
    · intro force
      exact absurd reset force.noReset
  have kept : recoverRateLimit options.now state = state := by
    unfold recoverRateLimit
    rw [if_neg reset]
  simp only [kept, backoffUnserved, backoffFor, recoverQuota_errorCount, recoverQuota_lastErrorAt]
  constructor
  · rintro ⟨repeated, unserved⟩
    exact { repeated, unserved, noReset := reset, noCooldownEnd := by simpa using ended }
  · intro force
    exact ⟨force.repeated, force.unserved⟩

end Pass

section Admission

variable (platform : Platform) (options : SelectAccountOptions) (state : AccountState)

/-- An account that cannot serve leaves the pass as it came in. -/
theorem admit_unservable (blocked : ¬ Servable options state) :
    (admitAccount platform options state).2 = .excluded := by
  simp only [admitAccount]
  split
  · rfl
  split
  · rfl
  next signedIn =>
  split
  · rfl
  next rate =>
  split
  · rfl
  next quota =>
  change (if ahead (recovered options.now state).cooldownUntil options.now = true then _ else _ :
    AccountState × Admission).2 = _
  rw [recovered_ahead]
  split
  · rfl
  next cooled =>
  refine absurd { enabled := ?_, signedIn := ?_, unlimited := ?_, cooled := ?_ } blocked
  · tauto
  · simpa using signedIn
  · rintro ⟨limited | passed, waiting⟩
    · by_contra refused
      exact rate ⟨(recoverRateLimit_status _ _).mpr ⟨limited, waiting⟩, refused⟩
    · by_contra refused
      exact quota ⟨(recovered_quota_status _ _).mpr ⟨passed, waiting⟩, refused⟩
  · simpa using cooled

/-- A servable account reaches the backoff check with its expired blocks cleared. -/
theorem admit_servable (servable : Servable options state) : admitAccount platform options state =
      if ERROR_BACKOFF_THRESHOLD ≤ (recovered options.now state).errorCount then
        if backoffUnserved platform options.now (recovered options.now state) then
          (recovered options.now state, .inErrorBackoff)
        else ({ recovered options.now state with errorCount := 0, lastErrorAt := none }, .available)
      else (recovered options.now state, .available) := by
  have enabled : ¬ (state.status = .deactivated ∨ state.status = .paused) := by
    have := servable.enabled
    tauto
  have rate : ¬ ((recoverRateLimit options.now state).status = .rateLimited ∧
      ¬ bypassed options state = true) := by
    rintro ⟨limited, refused⟩
    obtain ⟨status, waiting⟩ := (recoverRateLimit_status _ _).mp limited
    exact refused (servable.unlimited ⟨.inl status, waiting⟩)
  have quota : ¬ ((recoverQuota options.now (recoverRateLimit options.now state)).status =
      .quotaExceeded ∧ ¬ bypassed options state = true) := by
    rintro ⟨passed, refused⟩
    obtain ⟨status, waiting⟩ := (recovered_quota_status _ _).mp passed
    exact refused (servable.unlimited ⟨.inr status, waiting⟩)
  have cooled : ¬ ahead (recovered options.now state).cooldownUntil options.now = true := by
    rw [recovered_ahead, servable.cooled]
    exact Bool.false_ne_true
  simp only [admitAccount]
  rw [if_neg enabled, if_neg (by simp [servable.signedIn]), if_neg rate, if_neg quota]
  exact if_neg cooled

theorem admit_inErrorBackoff :
    (admitAccount platform options state).2 = .inErrorBackoff ↔ InBackoff platform options state := by
  by_cases servable : Servable options state
  · rw [admit_servable platform options state servable]
    have force := recovered_backoff state platform options
    constructor
    · intro outcome
      split at outcome
      · next repeated =>
        split at outcome
        · next unserved => exact ⟨servable, force.mp ⟨repeated, unserved⟩⟩
        · cases outcome
      · cases outcome
    · intro backoff
      obtain ⟨repeated, unserved⟩ := force.mpr backoff.2
      rw [if_pos repeated, if_pos unserved]
  · rw [admit_unservable platform options state servable]
    constructor
    · intro outcome
      cases outcome
    · intro backoff
      exact absurd backoff.1 servable

theorem admit_available : (admitAccount platform options state).2 = .available ↔ Usable platform options state := by
  by_cases servable : Servable options state
  · have backoff := admit_inErrorBackoff platform options state
    have outcome : (admitAccount platform options state).2 ≠ .excluded := by
      rw [admit_servable platform options state servable]
      split
      · split <;> exact Admission.noConfusion
      · exact Admission.noConfusion
    cases same : (admitAccount platform options state).2 with
    | excluded => exact absurd same outcome
    | inErrorBackoff =>
      have force := (backoff.mp same).2
      simp [Usable, force]
    | available =>
      have free : ¬ BackoffInForce platform options state := by
        intro force
        rw [backoff.mpr ⟨servable, force⟩] at same
        cases same
      simp [Usable, servable, free]
  · rw [admit_unservable platform options state servable]
    constructor
    · intro outcome
      cases outcome
    · intro usable
      exact absurd usable.1 servable

/-- However far the account gets, its status is the one the two recoveries give it. -/
theorem admit_status : (admitAccount platform options state).1.status =
      (recoverQuota options.now (recoverRateLimit options.now state)).status := by
  have cleared : ∀ account : AccountState, (clearCooldown options.now account).status = account.status := by
    intro account
    unfold clearCooldown
    split <;> rfl
  simp only [admitAccount]
  split
  · next stopped => rcases stopped with status | status <;> simp [recoverQuota, recoverRateLimit, status]
  split
  · next expired =>
    have status : state.status = .reauthRequired := by
      simp only [knownExpiredReauth, Bool.and_eq_true, beq_iff_eq] at expired
      exact expired.1
    simp [recoverQuota, recoverRateLimit, status]
  split
  · next limited => simp [recoverQuota, limited.1]
  split
  · rfl
  split
  · exact cleared _
  split
  · split <;> exact cleared _
  · exact cleared _

/-- A field no recovery writes comes through the pass unchanged. -/
theorem admit_keeps {β : Type} (field : AccountState → β)
    (rate : ∀ account, field (recoverRateLimit options.now account) = field account)
    (quota : ∀ account, field (recoverQuota options.now account) = field account)
    (cool : ∀ account, field (clearCooldown options.now account) = field account)
    (serve : ∀ account : AccountState, field { account with errorCount := 0, lastErrorAt := none } = field account) :
    field (admitAccount platform options state).1 = field state := by
  simp only [admitAccount]
  split
  · rfl
  split
  · rfl
  split
  · exact rate state
  split
  · rw [quota, rate]
  split
  · rw [cool, quota, rate]
  split
  · split
    · rw [cool, quota, rate]
    · rw [serve, cool, quota, rate]
  · rw [cool, quota, rate]

theorem admit_accountId : (admitAccount platform options state).1.accountId = state.accountId := by
  apply admit_keeps platform options state AccountState.accountId
  · intro account; unfold recoverRateLimit; split <;> rfl
  · intro account; unfold recoverQuota; split <;> rfl
  · intro account; unfold clearCooldown; split <;> rfl
  · intro account; rfl

theorem admit_accessTokenExpiresAt :
    (admitAccount platform options state).1.accessTokenExpiresAt = state.accessTokenExpiresAt := by
  apply admit_keeps platform options state AccountState.accessTokenExpiresAt
  · intro account; unfold recoverRateLimit; split <;> rfl
  · intro account; unfold recoverQuota; split <;> rfl
  · intro account; unfold clearCooldown; split <;> rfl
  · intro account; rfl

/-- The hard blocks read after the pass are those of the accounts as they came in. -/
theorem admit_hardBlocked :
    hardBlocked options (admitAccount platform options state).1 = true ↔ HardBlocked options state := by
  simp only [hardBlocked, HardBlocked, LimitInForce, knownExpiredReauth, admit_accessTokenExpiresAt,
    admit_status, recoveries_status]
  cases passed state.resetAt options.now <;> cases state.status <;> simp

/-- In backoff, the pass has not touched what the end of the backoff is computed from. -/
theorem admit_backoffEnd (backoff : InBackoff platform options state) :
    backoffEnd platform (admitAccount platform options state).1 = backoffEnd platform state := by
  have force := backoff.2
  have outcome := (recovered_backoff state platform options).mpr force
  rw [admit_servable platform options state backoff.1, if_pos outcome.1, if_pos outcome.2]
  have limited : recoverRateLimit options.now state = state := by
    unfold recoverRateLimit
    rw [if_neg force.noReset]
  simp [recovered, clearCooldown, limited, force.noCooldownEnd, backoffEnd, backoffFor]

end Admission

section Pools

variable (platform : Platform) (options : SelectAccountOptions) (states : List AccountState)

theorem mem_admitted {admission : Admission} {account : AccountState} :
    account ∈ admitted platform options admission states ↔
      ∃ state ∈ states, (admitAccount platform options state).2 = admission ∧
        account = (admitAccount platform options state).1 := by
  simp only [admitted, List.mem_map, List.mem_filter, decide_eq_true_eq]
  constructor
  · rintro ⟨outcome, ⟨⟨state, member, rfl⟩, same⟩, rfl⟩
    exact ⟨state, member, same, rfl⟩
  · rintro ⟨state, member, same, rfl⟩
    exact ⟨_, ⟨⟨state, member, rfl⟩, same⟩, rfl⟩

theorem admitted_available_ne_nil :
    admitted platform options .available states ≠ [] ↔ ∃ state ∈ states, Usable platform options state := by
  constructor
  · intro some_
    obtain ⟨account, member⟩ := List.exists_mem_of_ne_nil _ some_
    obtain ⟨state, stateMember, same, _⟩ := (mem_admitted platform options states).mp member
    exact ⟨state, stateMember, (admit_available platform options state).mp same⟩
  · rintro ⟨state, member, usable⟩
    exact List.ne_nil_of_mem ((mem_admitted platform options states).mpr
      ⟨state, member, (admit_available platform options state).mpr usable, rfl⟩)

theorem admitted_accountIds_nodup (distinct : (states.map (·.accountId)).Nodup) (admission : Admission) :
    ((admitted platform options admission states).map (·.accountId)).Nodup := by
  have sub : (admitted platform options admission states).Sublist
      (states.map fun state => (admitAccount platform options state).1) := by
    have := (List.filter_sublist (l := states.map (admitAccount platform options))
      (p := fun outcome => outcome.2 = admission)).map Prod.fst
    simpa [admitted, List.map_map, Function.comp_def] using this
  have ids := sub.map (·.accountId)
  simp only [List.map_map, Function.comp_def, admit_accountId] at ids
  exact ids.nodup distinct

end Pools

section Law

variable {platform : Platform} {options : SelectAccountOptions} {states : List AccountState}

theorem serve_picks (platform : Platform) (foreground : options.trafficClass = .foreground)
    (recovery : options.recoveryProbeOnly = false) {pool : List AccountState} (some_ : pool ≠ []) :
    Picks pool (serve platform options pool).account := by
  have free : opportunistic options pool = .ok pool := by
    unfold opportunistic
    rw [foreground, if_neg (by simp)]
  simp only [serve, free]
  exact chooseAccount_picks platform options recovery some_

theorem unavailable_account (pool : List AccountState) : (unavailable pool options).account = none := by
  simp only [unavailable, poolUsageExhaustion]
  split
  · next result same =>
    split at same
    · split at same
      · cases same
      · split at same
        · cases same
        · cases same
          rfl
    · cases same
  · rfl

/-- The fallback of the code, said on the accounts as they came in. -/
theorem backoffFallbackApplies_iff (distinct : (states.map (·.accountId)).Nodup) :
    backoffFallbackApplies platform options states = true ↔
      options.allowBackoffFallback = true ∧ ∃ state ∈ states, InBackoff platform options state ∧
        ∃ other ∈ states, other.accountId ≠ state.accountId ∧
          (InBackoff platform options other ∨ HardBlocked options other) := by
  have ids := admitted_accountIds_nodup platform options states distinct .inErrorBackoff
  simp only [backoffFallbackApplies, Bool.and_eq_true, Bool.or_eq_true, decide_eq_true_eq,
    List.any_eq_true, List.mem_map]
  apply and_congr_right
  intro _
  constructor
  · rintro (several | ⟨one, account, ⟨other, otherMember, rfl⟩, blocked, apart⟩)
    · match pool : admitted platform options .inErrorBackoff states, several with
      | first :: second :: rest, _ =>
        have inPool : ∀ account ∈ first :: second :: rest, ∃ state ∈ states,
            InBackoff platform options state ∧ state.accountId = account.accountId := by
          intro account member
          obtain ⟨state, stateMember, same, rfl⟩ := (mem_admitted platform options states).mp (pool ▸ member)
          exact ⟨state, stateMember, (admit_inErrorBackoff platform options state).mp same,
            (admit_accountId platform options state).symm⟩
        obtain ⟨state, member, backoff, stateId⟩ := inPool first List.mem_cons_self
        obtain ⟨other, otherMember, otherBackoff, otherId⟩ :=
          inPool second (List.mem_cons_of_mem _ List.mem_cons_self)
        refine ⟨state, member, backoff, other, otherMember, ?_, .inl otherBackoff⟩
        rw [pool] at ids
        simp only [List.map_cons, List.nodup_cons, List.mem_cons, not_or] at ids
        rw [stateId, otherId]
        exact fun same => ids.1.1 same.symm
    · obtain ⟨account, member⟩ := List.exists_mem_of_length_pos one
      obtain ⟨state, stateMember, same, rfl⟩ := (mem_admitted platform options states).mp member
      refine ⟨state, stateMember, (admit_inErrorBackoff platform options state).mp same, other, otherMember,
        ?_, .inr ((admit_hardBlocked platform options other).mp blocked)⟩
      intro sameId
      have held : (admitAccount platform options other).1.accountId ∈
          (admitted platform options .inErrorBackoff states).map (·.accountId) := by
        refine List.mem_map.mpr ⟨_, member, ?_⟩
        rw [admit_accountId, admit_accountId, sameId]
      simp [held] at apart
  · rintro ⟨state, member, backoff, other, otherMember, apart, otherBlocked⟩
    have stateIn : (admitAccount platform options state).1 ∈ admitted platform options .inErrorBackoff states :=
      (mem_admitted platform options states).mpr
        ⟨state, member, (admit_inErrorBackoff platform options state).mpr backoff, rfl⟩
    by_cases otherBackoff : InBackoff platform options other
    · have otherIn : (admitAccount platform options other).1 ∈ admitted platform options .inErrorBackoff states :=
        (mem_admitted platform options states).mpr
          ⟨other, otherMember, (admit_inErrorBackoff platform options other).mpr otherBackoff, rfl⟩
      left
      match pool : admitted platform options .inErrorBackoff states, stateIn, otherIn with
      | [only], stateIn, otherIn =>
        have same : (admitAccount platform options other).1 = (admitAccount platform options state).1 :=
          (List.mem_singleton.mp otherIn).trans (List.mem_singleton.mp stateIn).symm
        refine absurd ?_ apart
        rw [← admit_accountId platform options other, same, admit_accountId]
      | _ :: _ :: _, _, _ => simp
    · right
      refine ⟨List.length_pos_of_mem stateIn, _, ⟨other, otherMember, rfl⟩, ?_, ?_⟩
      · exact (admit_hardBlocked platform options other).mpr (otherBlocked.resolve_left otherBackoff)
      · rw [Bool.not_eq_true', ← Bool.not_eq_true, List.contains_iff_mem]
        intro held
        obtain ⟨account, accountMember, sameId⟩ := List.mem_map.mp held
        obtain ⟨third, thirdMember, thirdSame, rfl⟩ := (mem_admitted platform options states).mp accountMember
        simp only [admit_accountId] at sameId
        have same : third = other := List.inj_on_of_nodup_map distinct thirdMember otherMember sameId
        exact otherBackoff (same ▸ (admit_inErrorBackoff platform options third).mp thirdSame)

theorem firstBackoffEnd_least {account : AccountState}
    (found : firstBackoffEnd platform (admitted platform options .inErrorBackoff states) = some account) :
    ∃ state ∈ states, account = (admitAccount platform options state).1 ∧
      EndsFirst (effectiveReading platform options) platform states state := by
  obtain ⟨state, member, same, rfl⟩ := (mem_admitted platform options states).mp (firstLeast_mem found)
  have backoff := (admit_inErrorBackoff platform options state).mp same
  refine ⟨state, member, rfl, backoff, ?_⟩
  intro other otherMember otherBackoff
  have compares : ∀ a b : AccountState,
      (compareKeys [num (backoffEnd platform a)] [num (backoffEnd platform b)] = .lt : Bool) = true ↔
        backoffEnd platform a < backoffEnd platform b := by
    intro a b
    by_cases equal : backoffEnd platform a = backoffEnd platform b
    · simp [compareKeys, equal]
    · simp only [compareKeys, KeyPart.less, num, finite, decide_eq_true_eq,
        WithBot.coe_lt_coe, WithTop.coe_lt_coe]
      split <;> simp_all
  have least := firstLeast_le (backoffEnd platform) compares found _
    ((mem_admitted platform options states).mpr
      ⟨other, otherMember, (admit_inErrorBackoff platform options other).mpr otherBackoff, rfl⟩)
  rwa [admit_backoffEnd platform options state backoff, admit_backoffEnd platform options other otherBackoff]
    at least

theorem fallbackApplies_iff (distinct : (states.map (·.accountId)).Nodup)
    (noneUsable : admitted platform options .available states = []) :
    FallbackApplies (effectiveReading platform options) options states ↔
      backoffFallbackApplies platform options states = true := by
  rw [backoffFallbackApplies_iff distinct]
  constructor
  · intro applies
    exact ⟨applies.allowed, applies.backedOff⟩
  · rintro ⟨allowed, backedOff⟩
    refine ⟨allowed, ?_, backedOff⟩
    intro state member usable
    exact (admitted_available_ne_nil platform options states).mpr ⟨state, member, usable⟩ noneUsable

/-- An account of the pool that serves is one of the input, as the pass leaves it. -/
theorem selectAccount_position {state : AccountState} (member : state ∈ states) :
    ∃ (position : Nat), states[position]? = some state ∧
      (selectAccount platform states options).2[position]? = some (admitAccount platform options state).1 := by
  obtain ⟨position, bound, same⟩ := List.getElem_of_mem member
  refine ⟨position, ?_, ?_⟩
  · rw [List.getElem?_eq_getElem bound, same]
  · simp [selectAccount, List.getElem?_eq_getElem bound, same]

theorem selectAccount_selectionLaw (distinct : (states.map (·.accountId)).Nodup)
    (foreground : options.trafficClass = .foreground) (recovery : options.recoveryProbeOnly = false) :
    SelectionLaw (effectiveReading platform options) platform options states
      (selectAccount platform states options) := by
  by_cases some_ : admitted platform options .available states = []
  · have noneUsable : ¬ ∃ state ∈ states, Usable platform options state := by
      rw [← admitted_available_ne_nil]
      exact not_not.mpr some_
    have applies := fallbackApplies_iff distinct some_
    by_cases fallback : backoffFallbackApplies platform options states = true
    · have result : (selectAccount platform states options).1 = serve platform options
          (firstBackoffEnd platform (admitted platform options .inErrorBackoff states)).toList := by
        simp [selectAccount, some_, fallback]
      have backedOff : admitted platform options .inErrorBackoff states ≠ [] := by
        obtain ⟨_, state, member, backoff, _⟩ := (backoffFallbackApplies_iff distinct).mp fallback
        exact List.ne_nil_of_mem ((mem_admitted platform options states).mpr
          ⟨state, member, (admit_inErrorBackoff platform options state).mpr backoff, rfl⟩)
      obtain ⟨first, _, found⟩ := minBy_picks _ backedOff
      have found : firstBackoffEnd platform (admitted platform options .inErrorBackoff states) = some first :=
        found
      obtain ⟨chosen, member, same⟩ := serve_picks platform foreground recovery
        (List.cons_ne_nil first [])
      rw [List.mem_singleton.mp member] at same
      rw [found, Option.toList_some] at result
      constructor
      · rw [result, same]
        exact iff_of_true rfl (.inr (applies.mpr fallback))
      · intro account returned
        rw [result, same] at returned
        cases returned
        obtain ⟨state, stateMember, rfl, first⟩ := firstBackoffEnd_least found
        obtain ⟨position, at_, after⟩ := selectAccount_position stateMember
        exact ⟨position, state, at_, after, admit_accountId platform options state,
          .inr ⟨applies.mpr fallback, first⟩⟩
    · have result : (selectAccount platform states options).1.account = none := by
        simp [selectAccount, some_, fallback, unavailable_account]
      constructor
      · rw [result]
        refine iff_of_false Bool.false_ne_true ?_
        rintro (usable | held)
        · exact noneUsable usable
        · exact fallback (applies.mp held)
      · intro account returned
        rw [result] at returned
        cases returned
  · have result : (selectAccount platform states options).1 =
        serve platform options (admitted platform options .available states) := by
      simp [selectAccount, some_]
    obtain ⟨chosen, member, same⟩ := serve_picks platform foreground recovery some_
    constructor
    · rw [result, same]
      exact iff_of_true rfl (.inl ((admitted_available_ne_nil platform options states).mp some_))
    · intro account returned
      rw [result, same] at returned
      cases returned
      obtain ⟨state, stateMember, outcome, rfl⟩ := (mem_admitted platform options states).mp member
      obtain ⟨position, at_, after⟩ := selectAccount_position stateMember
      exact ⟨position, state, at_, after, admit_accountId platform options state,
        .inl ((admit_available platform options state).mp outcome)⟩

end Law

/-- Powers with a whole exponent; texts are plain ASCII and no hash is drawn. -/
def samplePlatform : Platform where
  pow base exponent := base ^ exponent.num
  sha256 _ := ""
  toLowerCase text := text
  replicaSalt := "replica"

def sampleOptions : SelectAccountOptions := { now := 1000, routingStrategy := .singleAccount }

/-- Two accounts in backoff: the law holds at them and the one whose backoff ends first serves. -/
theorem selectAccount_selectionLaw_backoff :
    SelectionLaw (effectiveReading samplePlatform sampleOptions) samplePlatform sampleOptions
      [{ accountId := "a", status := .active, errorCount := 4, lastErrorAt := some 990 },
        { accountId := "b", status := .active, errorCount := 3, lastErrorAt := some 995 }]
      (selectAccount samplePlatform
        [{ accountId := "a", status := .active, errorCount := 4, lastErrorAt := some 990 },
          { accountId := "b", status := .active, errorCount := 3, lastErrorAt := some 995 }] sampleOptions) :=
  selectAccount_selectionLaw (by decide) rfl rfl

/-- Its errors are fresh, and its cooldown has just ended. -/
def cooledAccount : AccountState where
  accountId := "a"
  status := .active
  errorCount := 3
  lastErrorAt := some 995
  cooldownUntil := some 999

/-- Read literally the law fails: the errors of an account whose cooldown just ended are
cleared, so the account serves while its fields still say it is in backoff. -/
theorem literal_selectionLaw_fails :
    ¬ SelectionLaw (literalReading samplePlatform sampleOptions) samplePlatform sampleOptions [cooledAccount]
      (selectAccount samplePlatform [cooledAccount] sampleOptions) := by
  intro law
  have returned : (selectAccount samplePlatform [cooledAccount] sampleOptions).1.account.isSome = true := by
    decide +kernel
  have backoff : (3 : ℚ) ≤ 3 ∧ (1000 : ℚ) - 995 < min 300 (30 * 2 ^ (((3 : ℚ) - 3).num)) := by
    decide +kernel
  rcases law.complete.mp returned with ⟨state, member, usable⟩ | applies
  · rw [List.mem_singleton] at member
    subst member
    exact usable.2 ⟨backoff.1, 995, rfl, backoff.2⟩
  · obtain ⟨state, member, _, other, otherMember, apart, _⟩ := applies.backedOff
    rw [List.mem_singleton] at member otherMember
    exact apart (by rw [member, otherMember])

end SpaceApp.Gateway.Router
