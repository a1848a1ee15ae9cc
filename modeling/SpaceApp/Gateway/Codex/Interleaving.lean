import SpaceApp.Foundation.Reach
import SpaceApp.Gateway.Codex.PickAccount
import SpaceApp.Gateway.Router.Soundness

/-! Requests on one account pool, interleaved at their awaits: when a pick writes its
snapshot back, does a block that another request recorded survive?
-/

set_option autoImplicit false

namespace SpaceApp.Gateway.Codex

open SpaceApp.Foundation SpaceApp.Gateway.Router SpaceApp.Gateway.Accounts

/-- A block as `markRateLimited` or `markQuotaExceeded` wrote it, and the step that did. -/
structure Block where
  resetAt : ℚ
  errorCount : ℚ
  recordedAt : Nat
  deriving DecidableEq

structure Pending where
  takenAt : Nat
  snapshot : PickSnapshot

/-- The pool and its waiting picks. The code reads neither `blocks`, the last block of each
account that nothing has lifted, nor the step count. -/
structure World where
  runtime : Runtime
  clock : ℚ
  pending : Nat → Option Pending := fun _ => none
  blocks : String → Option Block := fun _ => none
  steps : Nat := 0

inductive Event where
  | snapshot (request : Nat) (accounts : List GatewayAccountRecord)
  | resume (request : Nat) (settings : PickSettings) (stickyId : Option String) (moment : PickMoment)
  | markRateLimited (account : GatewayAccountRecord) (error : UpstreamError) (random : ℚ)
  | markQuotaExceeded (account : GatewayAccountRecord) (error : UpstreamError)
  | markTransientError (accountId : String)
  | markSuccess (accountId : String) (stored : Option BalancerAccountStatus)
  | liftExpiredBlock (account : GatewayAccountRecord) (usageClear : Bool)
  | signedIn (accountId : String)
  | markSelected (accountId : String)
  | recordUsage (accountId : String) (primary secondary : Option ℚ)
  | tick (now : ℚ)

namespace World

def recordBlock (world : World) (accountId : String) (runtime : Runtime) : World :=
  let live := runtime accountId
  { world with
    runtime
    blocks := Function.update world.blocks accountId
      (live.resetAt.map fun resetAt => { resetAt, errorCount := live.errorCount, recordedAt := world.steps }) }

def lift (world : World) (accountId : String) (runtime : Runtime) : World :=
  { world with runtime, blocks := Function.update world.blocks accountId none }

@[grind] def perform (platform : Platform) (world : World) : Event → World
  | .snapshot request accounts =>
      { world with
        pending := Function.update world.pending request (some {
          takenAt := world.steps
          snapshot := { accounts, states := accounts.map (toBalancerState world.runtime) } }) }
  | .resume request settings stickyId moment =>
      match world.pending request with
      | none => world
      | some pending =>
          { world with
            runtime := (finishPick platform settings stickyId moment pending.snapshot).2.foldl absorb world.runtime
            clock := moment.selectedAt
            pending := Function.update world.pending request none }
  | .markRateLimited account error random =>
      world.recordBlock account.id
        (markRateLimited platform world.runtime account error world.clock random)
  | .markQuotaExceeded account error =>
      world.recordBlock account.id (markQuotaExceeded world.runtime account error world.clock)
  | .markTransientError accountId =>
      { world with runtime := markTransientError world.runtime accountId world.clock }
  | .markSuccess accountId stored => world.lift accountId (markSuccess world.runtime accountId stored)
  | .liftExpiredBlock account usageClear =>
      match liftExpiredBlock world.runtime account usageClear world.clock with
      | none => world
      | some runtime => world.lift account.id runtime
  | .signedIn accountId => world.lift accountId (signedIn world.runtime accountId)
  | .markSelected accountId =>
      { world with runtime := markSelected world.runtime accountId world.clock }
  | .recordUsage accountId primary secondary =>
      { world with runtime := recordUsage world.runtime accountId primary secondary }
  | .tick now => { world with clock := now }

@[grind] def step (platform : Platform) (world : World) (event : Event) : World :=
  { perform platform world event with steps := world.steps + 1 }

def start (world : World) : Prop := ∃ clock, world = { runtime := Runtime.fresh, clock }

end World

def Timely (world : World) : Event → Prop
  | .resume _ _ _ moment => world.clock ≤ moment.checkedAt ∧ moment.checkedAt ≤ moment.selectedAt
  | .tick now => world.clock ≤ now
  | _ => True

/-- The account's runtime still carries the block. -/
structure Holds (live : RuntimeState) (block : Block) : Prop where
  status : live.status = some .rateLimited ∨ live.status = some .quotaExceeded
  resetAt : live.resetAt = some block.resetAt
  cooldown : live.cooldownUntil.isSome
  errors : block.errorCount ≤ live.errorCount

/-- Every block is still there while the clock is before its reset. -/
def Intact (world : World) : Prop :=
  ∀ accountId block, world.blocks accountId = some block → world.clock < block.resetAt →
    Holds (world.runtime accountId) block

/-- A selection at any instant from `since` to `now` stops at the account and changes nothing. -/
def Stopped (state : AccountState) (since now : ℚ) : Prop :=
  state.status = .paused ∨ state.status = .deactivated ∨ knownExpiredReauth state since = true ∨
    (state.status = .reauthRequired ∧ ahead state.cooldownUntil now = true) ∨
    ((state.status = .rateLimited ∨ state.status = .quotaExceeded) ∧ passed state.resetAt now = false)

/-- The snapshot's own state of the account shows a block at least as strong. -/
structure Shows (state : AccountState) (block : Block) (since now : ℚ) : Prop where
  stopped : Stopped state since now
  cooldown : state.cooldownUntil.isSome
  errors : block.errorCount ≤ state.errorCount

/-- The pick writes back no state that is older than a block in force on its account and
does not show one as strong. -/
def Current (world : World) : Event → Prop
  | .resume request _ _ moment =>
      ∀ pending, world.pending request = some pending → ∀ state ∈ pending.snapshot.states,
        ∀ block, world.blocks state.accountId = some block → moment.selectedAt < block.resetAt →
          pending.takenAt ≤ block.recordedAt → Shows state block world.clock moment.selectedAt
  | _ => True

def Careful (world : World) (event : Event) : Prop := Timely world event ∧ Current world event

section

variable {earlier later : ℚ} (order : earlier ≤ later)

include order

theorem passed_mono {timestamp : Option ℚ} (notYet : passed timestamp later = false) :
    passed timestamp earlier = false := by
  cases timestamp with
  | none => rfl
  | some time =>
    simp only [passed, Option.any_some, decide_eq_false_iff_not] at notYet ⊢
    rintro ⟨set, before⟩
    exact notYet ⟨set, before.trans order⟩

theorem ahead_mono {timestamp : Option ℚ} (still : ahead timestamp later = true) : ahead timestamp earlier = true := by
  cases timestamp with
  | none => exact absurd still Bool.false_ne_true
  | some time =>
    simp only [ahead, Option.any_some, decide_eq_true_eq] at still ⊢
    exact ⟨still.1, order.trans_lt still.2⟩

theorem knownExpiredReauth_mono {state : AccountState} (expired : knownExpiredReauth state earlier = true) :
    knownExpiredReauth state later = true := by
  simp only [knownExpiredReauth, Bool.and_eq_true] at expired ⊢
  refine ⟨expired.1, ?_⟩
  cases expiry : state.accessTokenExpiresAt with
  | none => simp [expiry] at expired
  | some time =>
    simp only [expiry, Option.any_some, decide_eq_true_eq] at expired ⊢
    exact expired.2.trans order

end

theorem admit_stopped (platform : Platform) {options : SelectAccountOptions} {state : AccountState} {since now : ℚ}
    (stopped : Stopped state since now) (after : since ≤ options.now) (before : options.now ≤ now)
    (strict : bypassed options state = false) : (admitAccount platform options state).1 = state := by
  rcases stopped with paused | deactivated | expired | ⟨reauth, cooling⟩ | ⟨limited, waiting⟩
  · simp [admitAccount, paused]
  · simp [admitAccount, deactivated]
  · have expired := knownExpiredReauth_mono after expired
    simp only [admitAccount, expired]
    split <;> rfl
  · have cooling := ahead_mono before cooling
    have notEnded : passed state.cooldownUntil options.now = false := by
      cases ended : passed state.cooldownUntil options.now with
      | false => rfl
      | true => rw [passed_not_ahead options.now ended] at cooling; cases cooling
    simp [admitAccount, reauth, recoverRateLimit, recoverQuota, clearCooldown, notEnded, cooling]
  · have waiting := passed_mono before waiting
    rcases limited with limited | limited <;>
      simp [admitAccount, limited, recoverRateLimit, recoverQuota, waiting, strict, knownExpiredReauth]

/-- A written-back state leaves the block standing. -/
structure Spares (state : AccountState) (block : Block) : Prop where
  status : state.status ≠ .active
  cooldown : state.cooldownUntil.isSome
  errors : block.errorCount ≤ state.errorCount

theorem Shows.spares {state : AccountState} {block : Block} {since now : ℚ}
    (shows : Shows state block since now) : Spares state block where
  status := by
    have stopped := shows.stopped
    intro active
    simp [Stopped, active, knownExpiredReauth] at stopped
  __ := shows

section

variable {runtime : Runtime} {accountId : String} {block : Block} (holds : Holds (runtime accountId) block)

include holds

theorem absorb_holds {state : AccountState} (spares : state.accountId = accountId → Spares state block) :
    Holds (absorb runtime state accountId) block := by
  by_cases same : state.accountId = accountId
  · have kept := spares same
    have notActive : ¬ (state.status = .active ∧
        (runtime accountId).status.any (fun status => decide (status ≠ .active)) = true) :=
      fun both => kept.status both.1
    rw [← same] at holds notActive ⊢
    rw [absorb, Runtime.modify_same, if_neg notActive]
    exact { status := holds.status, resetAt := holds.resetAt, cooldown := kept.cooldown, errors := kept.errors }
  · unfold absorb
    rw [Runtime.modify_other runtime _ (Ne.symm same)]
    exact holds

theorem absorbAll_holds {states : List AccountState}
    (spares : ∀ state ∈ states, state.accountId = accountId → Spares state block) :
    Holds (states.foldl absorb runtime accountId) block := by
  induction states generalizing runtime with
  | nil => exact holds
  | cons state rest ih =>
    apply ih
    · exact absorb_holds holds (spares state List.mem_cons_self)
    · intro later member
      exact spares later (List.mem_cons_of_mem _ member)

end

theorem mem_replaceState {accountId : String} {state other : AccountState} {states : List AccountState}
    (member : other ∈ replaceState accountId state states) : other = state ∨ other ∈ states := by
  induction states with
  | nil => cases member
  | cons first rest ih =>
    simp only [replaceState] at member
    split at member
    · rcases List.mem_cons.mp member with same | member
      · exact .inl same
      · exact .inr (List.mem_cons_of_mem _ member)
    · rcases List.mem_cons.mp member with same | member
      · exact .inr (List.mem_cons.mpr (.inl same))
      · exact (ih member).imp_right (List.mem_cons_of_mem _)

/-- Every absorbed state went through the selection, once or, checked first as the sticky one, twice. -/
theorem finishPick_absorbed {platform : Platform} {settings : PickSettings} {stickyId : Option String}
    {moment : PickMoment} {snapshot : PickSnapshot} {written : AccountState}
    (member : written ∈ (finishPick platform settings stickyId moment snapshot).2) : ∃ state ∈ snapshot.states,
      written = (admitAccount platform (pickOptions settings moment) state).1 ∨
      written = (admitAccount platform (pickOptions settings moment)
        (admitAccount platform (stickyOptions moment) state).1).1 := by
  have routed : ∀ states : List AccountState,
      written ∈ (selectAccount platform states (pickOptions settings moment)).2 →
      ∃ state ∈ states, written = (admitAccount platform (pickOptions settings moment) state).1 := by
    intro states member
    obtain ⟨state, stateMember, same⟩ := List.mem_map.mp member
    exact ⟨state, stateMember, same.symm⟩
  simp only [finishPick] at member
  split at member
  · obtain ⟨state, stateMember, same⟩ := routed _ member
    exact ⟨state, stateMember, .inl same⟩
  · next sticky found =>
    have within : sticky ∈ snapshot.states := by
      obtain ⟨accountId, _, chosen⟩ := Option.bind_eq_some_iff.mp found
      split at chosen
      · exact List.mem_of_find?_eq_some chosen
      · cases chosen
    split at member
    · cases member
    · obtain ⟨state, stateMember, same⟩ := routed _ member
      rcases mem_replaceState stateMember with rfl | kept
      · exact ⟨sticky, within, .inr same⟩
      · exact ⟨state, kept, .inl same⟩

def Remembers (state : AccountState) (block : Block) : Prop :=
  ∀ since now, now < block.resetAt → Shows state block since now

theorem toBalancerState_remembers {runtime : Runtime} {account : GatewayAccountRecord} {block : Block}
    (holds : Holds (runtime account.id) block) : Remembers (toBalancerState runtime account) block := by
  intro since now before
  have waiting : passed (some block.resetAt) now = false := by
    simp only [passed, Option.any_some, decide_eq_false_iff_not]
    exact fun passed => absurd passed.2 (not_le.mpr before)
  constructor
  · by_cases paused : account.status = .paused
    · exact .inl (by simp [toBalancerState, paused])
    · have limit := holds.status
      refine .inr (.inr (.inr (.inr ⟨?_, ?_⟩)))
      · rcases limit with limit | limit <;> simp [toBalancerState, paused, limit]
      · simpa [toBalancerState, holds.resetAt] using waiting
  · exact holds.cooldown
  · exact holds.errors

structure Sound (world : World) : Prop where
  intact : Intact world
  stamped : ∀ request pending, world.pending request = some pending → pending.takenAt < world.steps
  plain : ∀ request pending, world.pending request = some pending →
    ∀ state ∈ pending.snapshot.states, state.ignoreStandardQuota = false
  remembered : ∀ request pending, world.pending request = some pending →
    ∀ state ∈ pending.snapshot.states, ∀ block, world.blocks state.accountId = some block →
      block.recordedAt < pending.takenAt → world.clock < block.resetAt → Remembers state block

theorem Sound.of_runtime {world next : World} (sound : Sound world) (clock : world.clock ≤ next.clock)
    (steps : next.steps = world.steps + 1)
    (pending : ∀ request waiting, next.pending request = some waiting → world.pending request = some waiting)
    (blocks : ∀ accountId block, next.blocks accountId = some block → world.blocks accountId = some block)
    (holds : ∀ accountId block, next.blocks accountId = some block → next.clock < block.resetAt →
      Holds (world.runtime accountId) block → Holds (next.runtime accountId) block) :
    Sound next where
  intact accountId block recorded before :=
    holds accountId block recorded before
      (sound.intact accountId block (blocks accountId block recorded) (clock.trans_lt before))
  stamped request waiting here := by
    have := sound.stamped request waiting (pending request waiting here)
    omega
  plain request waiting here := sound.plain request waiting (pending request waiting here)
  remembered request waiting here state member block recorded older before :=
    sound.remembered request waiting (pending request waiting here) state member block
      (blocks _ block recorded) older (clock.trans_lt before)

section
variable {world : World} (sound : Sound world)

include sound

theorem Sound.unchanged : Sound { world with steps := world.steps + 1 } :=
  sound.of_runtime (le_refl _) rfl (fun _ _ here => here) (fun _ _ here => here) fun _ _ _ _ holds => holds

theorem Sound.modify (accountId : String) (change : RuntimeState → RuntimeState)
    (stands : ∀ live block, Holds live block → Holds (change live) block) :
    Sound { world with runtime := world.runtime.modify accountId change, steps := world.steps + 1 } := by
  refine sound.of_runtime (le_refl _) rfl (fun _ _ here => here) (fun _ _ here => here) ?_
  intro other block _ _ holds
  by_cases same : other = accountId
  · subst same
    simp only [Runtime.modify_same]
    exact stands _ _ holds
  · simp only [Runtime.modify_other _ _ same]
    exact holds

theorem Sound.lift (accountId : String) (change : RuntimeState → RuntimeState) :
    Sound { world.lift accountId (world.runtime.modify accountId change) with steps := world.steps + 1 } := by
  refine sound.of_runtime (le_refl _) rfl (fun _ _ here => here) ?_ ?_
  · intro other block recorded
    by_cases same : other = accountId
    · simp [World.lift, same] at recorded
    · simpa [World.lift, same] using recorded
  · intro other block recorded _ holds
    by_cases same : other = accountId
    · simp [World.lift, same] at recorded
    · simpa [World.lift, Runtime.modify_other _ _ same] using holds

theorem Sound.recordBlock (account : GatewayAccountRecord) (state : AccountState)
    (limited : state.status = .rateLimited ∨ state.status = .quotaExceeded) (cooldown : state.cooldownUntil.isSome) :
    Sound { world.recordBlock account.id (persistBlock world.runtime account.id state) with
      steps := world.steps + 1 } where
  intact other block recorded before := by
    by_cases same : other = account.id
    · subst same
      simp only [World.recordBlock, persistBlock, Runtime.modify_same, Function.update_self,
        Option.map_eq_some_iff] at recorded ⊢
      obtain ⟨resetAt, found, rfl⟩ := recorded
      exact {
        status := by rcases limited with limited | limited <;> simp [limited]
        resetAt := found
        cooldown
        errors := le_refl _ }
    · simp only [World.recordBlock, Function.update_of_ne same] at recorded
      simp only [World.recordBlock, persistBlock, Runtime.modify_other _ _ same]
      exact sound.intact other block recorded before
  stamped request waiting here := by
    have := sound.stamped request waiting here
    change waiting.takenAt < world.steps + 1
    omega
  plain := sound.plain
  remembered request waiting here known member block recorded older before := by
    by_cases same : known.accountId = account.id
    · have taken := sound.stamped request waiting here
      simp only [World.recordBlock, same, Function.update_self, Option.map_eq_some_iff] at recorded
      obtain ⟨resetAt, _, rfl⟩ := recorded
      simp only at older
      omega
    · simp only [World.recordBlock, Function.update_of_ne same] at recorded
      exact sound.remembered request waiting here known member block recorded older before

theorem Sound.snapshot (request : Nat) (accounts : List GatewayAccountRecord) (platform : Platform) :
    Sound (world.step platform (.snapshot request accounts)) where
  intact := sound.intact
  stamped other waiting here := by
    simp only [World.step, World.perform] at here ⊢
    by_cases same : other = request
    · simp only [same, Function.update_self, Option.some.injEq] at here
      rw [← here]
      exact Nat.lt_succ_self _
    · rw [Function.update_of_ne same] at here
      exact (sound.stamped other waiting here).trans (Nat.lt_succ_self _)
  plain other waiting here state member := by
    simp only [World.step, World.perform] at here
    by_cases same : other = request
    · simp only [same, Function.update_self, Option.some.injEq] at here
      rw [← here] at member
      obtain ⟨account, _, rfl⟩ := List.mem_map.mp member
      rfl
    · rw [Function.update_of_ne same] at here
      exact sound.plain other waiting here state member
  remembered other waiting here state member block recorded older before := by
    simp only [World.step, World.perform] at here recorded before
    by_cases same : other = request
    · simp only [same, Function.update_self, Option.some.injEq] at here
      rw [← here] at member
      obtain ⟨account, _, rfl⟩ := List.mem_map.mp member
      exact toBalancerState_remembers (sound.intact account.id block recorded before)
    · rw [Function.update_of_ne same] at here
      exact sound.remembered other waiting here state member block recorded older before

/-- A careful pick writes back only states that leave every block in force standing. -/
theorem Sound.resume (platform : Platform) (request : Nat) (settings : PickSettings) (stickyId : Option String)
    (moment : PickMoment) (careful : Careful world (.resume request settings stickyId moment)) :
    Sound (world.step platform (.resume request settings stickyId moment)) := by
  obtain ⟨⟨after, order⟩, current⟩ := careful
  simp only [World.step, World.perform]
  cases waiting : world.pending request with
  | none => exact sound.unchanged
  | some pending =>
    refine sound.of_runtime (after.trans order) rfl ?_ (fun _ _ here => here) ?_
    · intro other known here
      by_cases same : other = request
      · simp [same] at here
      · simpa [same] using here
    · intro accountId block recorded before holds
      refine absorbAll_holds holds ?_
      intro written member same
      obtain ⟨state, stateMember, origin⟩ := finishPick_absorbed member
      have plain := sound.plain request pending waiting state stateMember
      have sameId : state.accountId = accountId := by
        rcases origin with rfl | rfl
        · rwa [admit_accountId] at same
        · rwa [admit_accountId, admit_accountId] at same
      have recorded : world.blocks state.accountId = some block := sameId ▸ recorded
      have shows : Shows state block world.clock moment.selectedAt := by
        by_cases older : block.recordedAt < pending.takenAt
        · exact sound.remembered request pending waiting state stateMember block recorded older
            ((after.trans order).trans_lt before) _ _ before
        · exact current pending waiting state stateMember block recorded before (not_lt.mp older)
      have strictPick : bypassed (pickOptions settings moment) state = false := by
        simp [bypassed, pickOptions, plain]
      have strictCheck : bypassed (stickyOptions moment) state = false := by
        simp [bypassed, stickyOptions, plain]
      have kept := admit_stopped platform shows.stopped (after.trans order) (le_refl _) strictPick
      rcases origin with rfl | rfl
      · rw [kept]
        exact shows.spares
      · rw [admit_stopped platform shows.stopped after order strictCheck, kept]
        exact shows.spares

theorem Sound.step (platform : Platform) {event : Event}
    (careful : Careful world event) : Sound (world.step platform event) := by
  cases event with
  | snapshot request accounts => exact sound.snapshot request accounts platform
  | resume request settings stickyId moment => exact sound.resume platform request settings stickyId moment careful
  | markRateLimited account error random =>
    exact sound.recordBlock account _ (.inl rfl) rfl
  | markQuotaExceeded account error =>
    exact sound.recordBlock account _ (.inr rfl) rfl
  | markSuccess accountId stored => exact sound.lift accountId _
  | signedIn accountId => exact sound.lift accountId _
  | liftExpiredBlock account usageClear =>
    simp only [World.step, World.perform]
    cases lifted : liftExpiredBlock world.runtime account usageClear world.clock with
    | none => exact sound.unchanged
    | some runtime =>
      simp only [liftExpiredBlock] at lifted
      split at lifted
      · cases lifted
      split at lifted
      · cases lifted
      cases lifted
      exact sound.lift account.id _
  | markTransientError accountId =>
    simp only [World.step, World.perform, markTransientError]
    refine sound.modify accountId _ fun live block holds => ?_
    exact { holds with errors := holds.errors.trans (by simp) }
  | markSelected accountId =>
    simp only [World.step, World.perform, markSelected]
    exact sound.modify accountId _ fun live block holds =>
      { holds with }
  | recordUsage accountId primary secondary =>
    simp only [World.step, World.perform, recordUsage]
    exact sound.modify accountId _ fun live block holds =>
      { holds with }
  | tick now =>
    exact sound.of_runtime careful.1 rfl (fun _ _ here => here) (fun _ _ here => here)
      fun _ _ _ _ holds => holds

end

theorem start_sound {world : World} (start : World.start world) : Sound world := by
  obtain ⟨clock, rfl⟩ := start
  exact {
    intact := fun _ _ recorded => by cases recorded
    stamped := fun _ _ here => by cases here
    plain := fun _ _ here => by cases here
    remembered := fun _ _ here => by cases here }

/-- Over any interleaving whose picks write back no state older than a block in force, every
block stays until its reset, a success, a lift or a new sign-in. -/
theorem careful_runs_intact (platform : Platform) {world : World}
    (reached : Reached World.start Careful (World.step platform) world) : Intact world :=
  (reached.invariant (fun _ start => start_sound start)
    (fun _ _ sound careful => Sound.step sound platform careful)).intact

def sampleAccount : GatewayAccountRecord where
  id := "a"

def sampleStart : World where
  runtime := Runtime.fresh
  clock := 1000

def sampleLimit : Event := .markRateLimited sampleAccount { resetsInSeconds := some 3600 } 0
def sampleSnapshot : Event := .snapshot 0 [sampleAccount]
def sampleResume : Event := .resume 0 {} none { checkedAt := 1001, selectedAt := 1001 }

def sampleRun (events : List Event) : World := events.foldl (World.step samplePlatform) sampleStart

/-- The snapshot is taken after the block, so the pick may write it back. -/
theorem careful_runs_intact_sample : Intact (sampleRun [sampleLimit, sampleSnapshot, sampleResume]) ∧
      (sampleRun [sampleLimit, sampleSnapshot, sampleResume]).blocks "a" =
        some { resetAt := 4600, errorCount := 1, recordedAt := 0 } := by
  refine ⟨careful_runs_intact samplePlatform ?_, by decide +kernel⟩
  refine .step (.step (.step (.start ⟨1000, rfl⟩) ⟨trivial, trivial⟩) ⟨trivial, trivial⟩) ⟨?_, ?_⟩
  · constructor <;> decide +kernel
  · intro pending waiting state member block recorded before newer
    have taken : pending.takenAt = 1 := by
      cases waiting
      rfl
    have account : state.accountId = "a" := by
      cases waiting
      rw [List.mem_singleton.mp member]
      rfl
    rw [account] at recorded
    have first : block.recordedAt = 0 := by
      cases recorded
      rfl
    omega

/-- A pick that took its snapshot before the block lifts it an hour early. -/
theorem stale_pick_lifts_block :
    ¬ ∀ world, Reached World.start Timely (World.step samplePlatform) world → Intact world := by
  intro always
  have reached : Reached World.start Timely (World.step samplePlatform)
      (sampleRun [sampleSnapshot, sampleLimit, sampleResume]) := by
    refine .step (.step (.step (.start ⟨1000, rfl⟩) trivial) trivial) ?_
    constructor <;> decide +kernel
  have lifted : ((sampleRun [sampleSnapshot, sampleLimit, sampleResume]).runtime "a").status = some .active := by
    decide +kernel
  have holds := always _ reached "a" { resetAt := 4600, errorCount := 1, recordedAt := 1 }
    (by decide +kernel) (by decide +kernel)
  rcases holds.status with limited | limited <;> rw [lifted] at limited <;> cases limited

end SpaceApp.Gateway.Codex
