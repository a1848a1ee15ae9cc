import SpaceApp.Gateway.Claude.Answers

/-! How many calls the Claude proxy makes: a token is refreshed at most twice in one attempt, and
stale thinking is dropped once in a request.
-/

set_option autoImplicit false

namespace SpaceApp.Gateway.Claude

open SpaceApp.Foundation SpaceApp.Gateway.Router SpaceApp.Gateway.Accounts

section

variable {platform : Platform} {request : MessagesRequest} {state : LoopState} {world : AttemptWorld}

theorem pass_goes (untouched : state.client = {}) (present : world.ClientStays) {next : LoopState}
    (goes : pass platform request state world = .inl next) :
    state.attempt < request.maxAttempts ∧ next.client = {} ∧ next.calls.length ≤ state.calls.length + 1 ∧
      ∃ account fallback, choose platform request state world = .inl (account, fallback) ∧
        Way platform { state with retryWith := none, tried := state.tried ++ [account.id] } world account next := by
  rcases pass_settles untouched present with ⟨exit, exits, _⟩ | ⟨within, account, fallback, chosen, settles⟩
  · rw [exits] at goes
    cases goes
  · rw [goes] at settles
    obtain ⟨client, calls, way⟩ := settles
    exact ⟨within, client, calls, account, fallback, chosen, way⟩

theorem pass_leaves (untouched : state.client = {}) (present : world.ClientStays) {exit : Exit}
    (exits : pass platform request state world = .inr exit) : Answers world exit.client ∧ (exit.calls = state.calls ∨
      state.attempt < request.maxAttempts ∧ exit.calls.length ≤ state.calls.length + 1) := by
  rcases pass_settles untouched present with ⟨other, same, answers, calls⟩ | ⟨within, account, fallback, _, settles⟩
  · rw [exits] at same
    cases same
    exact ⟨answers, .inl calls⟩
  · rw [exits] at settles
    exact ⟨settles.1, .inr ⟨within, settles.2⟩⟩

theorem choose_retry {account : GatewayAccountRecord} {fallback : Bool}
    (chosen : choose platform request state world = .inl (account, fallback)) :
    state.retryWith = none ∨ state.retryWith = some (account, fallback) := by
  unfold choose at chosen
  cases retry : state.retryWith with
  | none => exact .inl rfl
  | some picked =>
    rw [retry] at chosen
    cases chosen
    exact .inr rfl

end

section

variable {platform : Platform} {request : MessagesRequest} {worlds : Nat → AttemptWorld}
  (present : ∀ turn, (worlds turn).ClientStays)

include present

theorem turn_untouched {turn : Nat} {state : LoopState}
    (here : TurnAt (pass platform request) worlds (startMessages request) turn state) : state.client = {} := by
  apply TurnAt.invariant (fun _ state => state.client = {}) rfl _ here
  intro turn state next untouched goes
  exact (pass_goes untouched (present turn) goes).2.1

/-- The passes that count: attempts made, and the one that dropped stale thinking. -/
def LoopState.passes (state : LoopState) : Nat := state.attempt + if state.extraBetas = [] then 0 else 1

omit present in
theorem way_counts {state next : LoopState} {world : AttemptWorld} {account : GatewayAccountRecord}
    (way : Way platform state world account next) :
    next.passes = state.passes + 1 ∨ next.passes = state.passes ∧ ∃ renewed, Renews platform world account renewed := by
  unfold LoopState.passes
  cases way with
  | counted attempt _ betas =>
    left
    rw [attempt, betas]
    omega
  | dropped attempt _ _ before betas =>
    left
    rw [attempt, before, if_pos rfl, if_neg betas]
  | renewed attempt record _ _ betas renews =>
    right
    rw [attempt, betas]
    exact ⟨rfl, record, renews⟩

theorem turn_counts {turn : Nat} {state next : LoopState}
    (here : TurnAt (pass platform request) worlds (startMessages request) turn state)
    (goes : pass platform request state (worlds turn) = .inl next) :
    state.attempt < request.maxAttempts ∧ (next.passes = state.passes + 1 ∨
      next.passes = state.passes ∧ ∃ account renewed, Renews platform (worlds turn) account renewed) := by
  obtain ⟨within, _, _, account, _, _, way⟩ := pass_goes (turn_untouched present here) (present turn) goes
  refine ⟨within, ?_⟩
  rcases way_counts way with more | ⟨same, renewed, renews⟩
  · exact .inl more
  · exact .inr ⟨same, account, renewed, renews⟩

/-- From some turn on, every turn refreshes the token it is rejected with. -/
def RefreshesForever (platform : Platform) (request : MessagesRequest) (worlds : Nat → AttemptWorld) : Prop :=
  ∃ first, ∀ turn, first ≤ turn →
    (∃ state, TurnAt (pass platform request) worlds (startMessages request) turn state) ∧
      ∃ account renewed, Renews platform (worlds turn) account renewed

/-- A run that does not end goes on refreshing tokens. -/
theorem messages_ends : (∃ fuel exit, messages platform request worlds fuel = some exit) ∨
    RefreshesForever platform request worlds := by
  by_cases leaves : ∃ fuel exit, messages platform request worlds fuel = some exit
  · exact .inl leaves
  right
  have stays : ∀ turn state exit, TurnAt (pass platform request) worlds (startMessages request) turn state →
      pass platform request state (worlds turn) ≠ .inr exit := by
    intro turn state exit here exits
    obtain ⟨fuel, returns⟩ := (runLoop_leaves_iff exit).mpr ⟨turn, state, here, exits⟩
    exact leaves ⟨fuel, exit, returns⟩
  have rises : ∀ turn state next, TurnAt (pass platform request) worlds (startMessages request) turn state →
      pass platform request state (worlds turn) = .inl next → state.passes ≤ next.passes := by
    intro turn state next here goes
    rcases (turn_counts present here goes).2 with more | ⟨same, _⟩ <;> omega
  have bounded : ∀ turn state, TurnAt (pass platform request) worlds (startMessages request) turn state →
      state.passes ≤ request.maxAttempts + 1 := by
    intro turn state here
    cases goes : pass platform request state (worlds turn) with
    | inr exit => exact absurd goes (stays turn state exit here)
    | inl next =>
      have within := (turn_counts present here goes).1
      unfold LoopState.passes
      split <;> omega
  obtain ⟨first, settles⟩ := measure_settles (request.maxAttempts + 1) stays rises bounded
  refine ⟨first, fun turn order => ?_⟩
  obtain ⟨state, next, here, goes, same⟩ := settles turn order
  rcases (turn_counts present here goes).2 with more | ⟨_, renews⟩
  · omega
  · exact ⟨⟨state, here⟩, renews⟩

end

/-- Less than the age that a token is refreshed at passes during the request; a token refreshed
during it is as young, and a row changes only so. -/
structure WithinFiveMinutes (worlds : Nat → AttemptWorld) (startedAt : ℚ) : Prop where
  clock : ∀ turn, (worlds turn).rejection.now - startedAt < FORCED_REFRESH_MIN_AGE_MS
  refreshed : ∀ turn accountId row planType at_, (worlds turn).rejection.locked accountId = .row row →
    row.answer = .refreshed planType at_ → startedAt ≤ at_
  rows : ∀ earlier turn accountId before after, earlier < turn →
    (worlds earlier).rejection.locked accountId = .row before → (worlds turn).rejection.locked accountId = .row after →
    after.fresh.lastRefreshAt = before.fresh.lastRefreshAt ∨ startedAt ≤ after.fresh.lastRefreshAt.getD 0

section

variable (worlds : Nat → AttemptWorld) (startedAt : ℚ)

def Found (turn : Nat) (accountId : String) (stamp : Option ℚ) : Prop :=
  ∃ earlier row, earlier < turn ∧ (worlds earlier).rejection.locked accountId = .row row ∧
    row.fresh.lastRefreshAt = stamp

/-- How often the token of the account in hand was renewed in this attempt: not again once it was
refreshed during the request. -/
inductive Renewed (turn : Nat) (account : GatewayAccountRecord) : Nat → Prop where
  | never : Renewed turn account 0
  | elsewhere (found : Found worlds turn account.id account.lastRefreshAt) : Renewed turn account 1
  | young (times : Nat) (few : times ≤ 2) (young : startedAt ≤ account.lastRefreshAt.getD 0) : Renewed turn account times

variable {worlds startedAt} {turn times : Nat} {account : GatewayAccountRecord}

theorem renewed_few (renewed : Renewed worlds startedAt turn account times) : times ≤ 2 := by
  cases renewed with
  | never => omega
  | elsewhere _ => omega
  | young times few _ => exact few

theorem renewed_later (renewed : Renewed worlds startedAt turn account times) :
    Renewed worlds startedAt (turn + 1) account times := by
  cases renewed with
  | never => exact .never
  | elsewhere found =>
    obtain ⟨earlier, row, before, locked, stamp⟩ := found
    exact .elsewhere ⟨earlier, row, by omega, locked, stamp⟩
  | young times few young => exact .young times few young

/-- A renewal is the first of its attempt, or the second and with a token of this request. -/
theorem renewed_more (brief : WithinFiveMinutes worlds startedAt) (renewed : Renewed worlds startedAt turn account times)
    {platform : Platform} {record : GatewayAccountRecord} (renews : Renews platform (worlds turn) account record) :
    Renewed worlds startedAt (turn + 1) record (times + 1) := by
  obtain ⟨code, returns⟩ := renews
  obtain ⟨old, row, locked, own, stamp⟩ := refreshRejectedToken_renews returns
  have clock := brief.clock turn
  have fresh : ∀ planType at_, row.answer = .refreshed planType at_ → record.lastRefreshAt = some at_ →
      startedAt ≤ record.lastRefreshAt.getD 0 := by
    intro planType at_ answer stamp
    rw [stamp]
    exact brief.refreshed turn account.id row planType at_ locked answer
  cases renewed with
  | never =>
    rcases stamp with ⟨_, stamp⟩ | ⟨planType, at_, answer, stamp⟩
    · have found : Found worlds (turn + 1) record.id record.lastRefreshAt := by
        rw [own]
        exact ⟨turn, row, Nat.lt_succ_self turn, locked, stamp.symm⟩
      exact .elsewhere found
    · exact .young 1 (by omega) (fresh planType at_ answer stamp)
  | elsewhere found =>
    obtain ⟨earlier, before, order, lockedBefore, same⟩ := found
    refine .young 2 (by omega) ?_
    rcases stamp with ⟨other, stamp⟩ | ⟨planType, at_, answer, stamp⟩
    · rcases brief.rows earlier turn account.id before row order lockedBefore locked with kept | young
      · exact absurd (kept.trans same) other
      · rwa [stamp]
    · exact fresh planType at_ answer stamp
  | young times few young =>
    -- a token of this request is not old enough
    linarith

end

section

variable (request : MessagesRequest) (worlds : Nat → AttemptWorld) (startedAt : ℚ)

/-- How often the token was renewed for the retry that stands, if one does. -/
def RenewedFor (turn times : Nat) : Option (GatewayAccountRecord × Bool) → Prop
  | none => times = 0
  | some (account, _) => Renewed worlds startedAt turn account times

/-- Every turn is an attempt made, a renewal in the attempt that is made, or the dropping of stale thinking. -/
structure Progress (turn : Nat) (state : LoopState) : Prop where
  untouched : state.client = {}
  within : state.attempt < request.maxAttempts ∨ state.attempt = request.maxAttempts ∧ state.retryWith = none
  calls : state.calls.length ≤ turn
  turns : ∃ times, RenewedFor worlds startedAt turn times state.retryWith ∧
    turn ≤ 3 * state.attempt + times + if state.extraBetas = [] then 0 else 1

variable {request worlds startedAt}

theorem start_progress : Progress request worlds startedAt 0 (startMessages request) where
  untouched := rfl
  within := by
    rcases Nat.eq_zero_or_pos request.maxAttempts with zero | some_
    · exact .inr ⟨zero.symm, rfl⟩
    · exact .inl some_
  calls := Nat.le_refl 0
  turns := ⟨0, rfl, Nat.zero_le _⟩

variable {platform : Platform} {turn : Nat} {state : LoopState}

theorem pass_progress (present : (worlds turn).ClientStays) (brief : WithinFiveMinutes worlds startedAt)
    (progress : Progress request worlds startedAt turn state) {next : LoopState}
    (goes : pass platform request state (worlds turn) = .inl next) :
    Progress request worlds startedAt (turn + 1) next := by
  obtain ⟨within, client, calls, account, fallback, chosen, way⟩ := pass_goes progress.untouched present goes
  obtain ⟨times, standing, turns⟩ := progress.turns
  have made := progress.calls
  have renewed : Renewed worlds startedAt turn account times := by
    rcases choose_retry chosen with none_ | retry
    · rw [none_] at standing
      cases standing
      exact .never
    · rwa [retry] at standing
  have few := renewed_few renewed
  cases way with
  | counted attempt retry betas =>
    dsimp only at attempt betas
    refine ⟨client, ?_, by omega, 0, ?_, ?_⟩
    · rcases Nat.lt_or_ge next.attempt request.maxAttempts with more | enough
      · exact .inl more
      · exact .inr ⟨by omega, retry⟩
    · rw [retry]
      rfl
    · rw [attempt, betas]
      omega
  | dropped attempt fallback retry before betas =>
    dsimp only at attempt before
    rw [if_pos before] at turns
    refine ⟨client, .inl (by omega), by omega, times, ?_, ?_⟩
    · rw [retry]
      exact renewed_later renewed
    · rw [attempt, if_neg betas]
      omega
  | renewed attempt record fallback retry betas renews =>
    dsimp only at attempt betas
    refine ⟨client, .inl (by omega), by omega, times + 1, ?_, ?_⟩
    · rw [retry]
      exact renewed_more brief renewed renews
    · rw [attempt, betas]
      omega

theorem turn_progress (present : ∀ turn, (worlds turn).ClientStays) (brief : WithinFiveMinutes worlds startedAt)
    (here : TurnAt (pass platform request) worlds (startMessages request) turn state) :
    Progress request worlds startedAt turn state := by
  apply TurnAt.invariant (Progress request worlds startedAt) start_progress _ here
  intro turn state next progress goes
  exact pass_progress (present turn) brief progress goes

theorem Progress.bound (progress : Progress request worlds startedAt turn state) :
    turn ≤ 3 * request.maxAttempts + 1 ∧ (state.attempt < request.maxAttempts → turn ≤ 3 * request.maxAttempts) := by
  obtain ⟨times, standing, turns⟩ := progress.turns
  have once : (if state.extraBetas = [] then 0 else 1) ≤ 1 := by
    split <;> omega
  have few : times ≤ 2 := by
    cases retry : state.retryWith with
    | none =>
      rw [retry] at standing
      cases standing
      omega
    | some picked =>
      rw [retry] at standing
      exact renewed_few standing
  rcases progress.within with within | ⟨all, none_⟩
  · omega
  · rw [none_] at standing
    cases standing
    omega

theorem messages_bounded (present : ∀ turn, (worlds turn).ClientStays) (brief : WithinFiveMinutes worlds startedAt) :
    ∃ exit, messages platform request worlds (3 * request.maxAttempts + 2) = some exit ∧
      exit.calls.length ≤ 3 * request.maxAttempts + 1 := by
  cases returns : messages platform request worlds (3 * request.maxAttempts + 2) with
  | none =>
    obtain ⟨after, there⟩ := runLoop_stays .start _ returns
    have limit := (turn_progress present brief there).bound.1
    omega
  | some exit =>
    refine ⟨exit, rfl, ?_⟩
    obtain ⟨turn, state, here, exits⟩ := (runLoop_leaves_iff exit).mp ⟨_, returns⟩
    have progress := turn_progress present brief here
    have limit := progress.bound
    have made := progress.calls
    rcases (pass_leaves progress.untouched (present turn) exits).2 with same | ⟨within, one⟩
    · rw [same]
      omega
    · omega

end

/-- With a client that stays: a run that returns has sent one completed response, of the turn it
returns at and, when streamed, of that turn's upstream stream; the turns before sent nothing; only
tokens refreshed without end keep it from returning; and within five minutes it returns after at
most three calls an attempt and one more. -/
theorem messages_answers (platform : Platform) (request : MessagesRequest) (worlds : Nat → AttemptWorld)
    (present : ∀ turn, (worlds turn).ClientStays) :
    (∀ fuel exit, messages platform request worlds fuel = some exit → ∃ turn, Answers (worlds turn) exit.client ∧
      ∃ state, TurnAt (pass platform request) worlds (startMessages request) turn state ∧
        pass platform request state (worlds turn) = .inr exit) ∧
    (∀ turn state, TurnAt (pass platform request) worlds (startMessages request) turn state → state.client = {}) ∧
    ((∃ fuel exit, messages platform request worlds fuel = some exit) ∨ RefreshesForever platform request worlds) ∧
    ∀ startedAt, WithinFiveMinutes worlds startedAt →
      ∃ exit, messages platform request worlds (3 * request.maxAttempts + 2) = some exit ∧
        exit.calls.length ≤ 3 * request.maxAttempts + 1 := by
  refine ⟨?_, ?_, messages_ends present, fun startedAt brief => messages_bounded present brief⟩
  · intro fuel exit returns
    obtain ⟨turn, state, here, exits⟩ := (runLoop_leaves_iff exit).mp ⟨fuel, returns⟩
    exact ⟨turn, (pass_leaves (turn_untouched present here) (present turn) exits).1, state, here, exits⟩
  · intro turn state here
    exact turn_untouched present here

def oneAttempt : MessagesRequest :=
  { requestId := js "r", body := [(js "model", .string (js "claude"))], maxAttempts := 1 }

def staleAccount : GatewayAccountRecord := { id := "a", lastRefreshAt := some 0 }

def sampleRow (answeredAt : ℚ) (accountId : String) : LockedRow accountId where
  fresh := { id := accountId, lastRefreshAt := some 9999000 }
  own := rfl
  answer := .refreshed none answeredAt

def answeringWorld (now : ℚ) (status : Nat) (body : JsString) : AttemptWorld where
  pool := some {
    runtime := fun _ => {}
    accounts := [staleAccount]
    moment := { checkedAt := 10000, selectedAt := 10000 } }
  http := .answered { status, body := some { chunks := [TextEncoder.encode body] } }
  rejection := { now, locked := fun accountId => .row (sampleRow now accountId) }

/-- Thinking bound to another conversation, two rejected tokens and a reply, all within five minutes. -/
def fourCalls : Nat → AttemptWorld
  | 0 => answeringWorld 10000000 400
      (js "\x7b\"error\":\x7b\"message\":\"thinking is bound to a different conversation\"\x7d\x7d")
  | 1 => answeringWorld 10001000 401 (js "\x7b\x7d")
  | 2 => answeringWorld 10299500 401 (js "\x7b\x7d")
  | _ => answeringWorld 10299600 200 (js "\x7b\x7d")

theorem fourCalls_stays (turn : Nat) : (fourCalls turn).ClientStays := by
  have none_ : ∀ now status body, (answeringWorld now status body).ClientStays := by
    rintro now status body stream cut ⟨⟩ broken
    cases broken
  unfold fourCalls
  split <;> exact none_ _ _ _

theorem fourCalls_rejection (turn : Nat) : ∃ now : ℚ, 10000000 ≤ now ∧ now ≤ 10299600 ∧
    (fourCalls turn).rejection = { now, locked := fun accountId => .row (sampleRow now accountId) } := by
  unfold fourCalls
  split
  · exact ⟨10000000, by norm_num, by norm_num, rfl⟩
  · exact ⟨10001000, by norm_num, by norm_num, rfl⟩
  · exact ⟨10299500, by norm_num, by norm_num, rfl⟩
  · exact ⟨10299600, by norm_num, by norm_num, rfl⟩

theorem fourCalls_brief : WithinFiveMinutes fourCalls 10000000 where
  clock turn := by
    obtain ⟨now, _, late, same⟩ := fourCalls_rejection turn
    rw [same]
    unfold FORCED_REFRESH_MIN_AGE_MS
    linarith
  refreshed turn accountId row planType at_ locked answer := by
    obtain ⟨now, early, _, same⟩ := fourCalls_rejection turn
    rw [same] at locked
    cases locked
    cases answer
    exact early
  rows earlier turn accountId before after _ lockedBefore lockedAfter := by
    obtain ⟨now, _, _, same⟩ := fourCalls_rejection earlier
    obtain ⟨later, _, _, also⟩ := fourCalls_rejection turn
    rw [same] at lockedBefore
    rw [also] at lockedAfter
    cases lockedBefore
    cases lockedAfter
    exact .inl rfl

theorem messages_answers_fourCalls :
    ∃ exit, messages Router.samplePlatform oneAttempt fourCalls 5 = some exit ∧ exit.calls.length ≤ 4 :=
  (messages_answers Router.samplePlatform oneAttempt fourCalls fourCalls_stays).2.2.2 10000000 fourCalls_brief

/-- The stale thinking, the token of another holder and the token refreshed after it: four calls
with one attempt. -/
theorem messages_calls_exceed :
    ¬ ∀ (platform : Platform) (request : MessagesRequest) (worlds : Nat → AttemptWorld) (startedAt : ℚ) (fuel : Nat)
        (exit : Exit), (∀ turn, (worlds turn).ClientStays) → WithinFiveMinutes worlds startedAt →
      messages platform request worlds fuel = some exit → exit.calls.length ≤ 2 * request.maxAttempts + 1 := by
  intro claim
  have four : ((messages Router.samplePlatform oneAttempt fourCalls 5).map fun exit => exit.calls.length) = some 4 := by
    decide +kernel
  cases returns : messages Router.samplePlatform oneAttempt fourCalls 5 with
  | none =>
    rw [returns] at four
    cases four
  | some exit =>
    rw [returns] at four
    have calls : exit.calls.length = 4 := Option.some.inj four
    have bound := claim Router.samplePlatform oneAttempt fourCalls 10000000 5 exit fourCalls_stays fourCalls_brief returns
    rw [calls] at bound
    exact absurd bound (by decide)

end SpaceApp.Gateway.Claude
