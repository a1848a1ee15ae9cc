import SpaceApp.Gateway.Codex.ProxyStream
import SpaceApp.Gateway.Router.Soundness

/-! Whether the proxy answers: exactly one completed response, unless a stream breaks off where
the handler has neither answered nor may move on.
-/

set_option autoImplicit false

namespace SpaceApp.Gateway.Codex

open SpaceApp.Foundation SpaceApp.Gateway.Router SpaceApp.Gateway.Accounts

def UpstreamResponse.ClientStays (response : UpstreamResponse) : Prop :=
  ∀ stream cut, response.body = some stream → stream.broken = some cut → cut.aborted = false

def HttpAnswer.ClientStays : HttpAnswer → Prop
  | .failed _ aborted => aborted = false
  | .answered response => response.ClientStays

def AttemptWorld.ClientStays (world : AttemptWorld) : Prop :=
  world.http.ClientStays ∧
    match world.webSocket with
    | none => True
    | some (.opened stream) => ∀ cut, stream.broken = some cut → cut.aborted = false
    | some (.refused _ _ aborted) => aborted = false
    | some (.failed aborted) => aborted = false

theorem fetch_stays {answer : HttpAnswer} (stays : answer.ClientStays) :
    (∃ message, fetchUpstream answer = .failed message) ∨
      ∃ response, fetchUpstream answer = .response response ∧ response.ClientStays := by
  cases answer with
  | failed message aborted =>
    cases stays
    exact .inl ⟨message, rfl⟩
  | answered response => exact .inr ⟨response, rfl, stays⟩

theorem connect_stays {world : AttemptWorld} (stays : world.ClientStays) :
    (∃ message, connect world = .failed message) ∨
      ∃ response, connect world = .response response ∧ response.ClientStays := by
  obtain ⟨http, socket⟩ := stays
  unfold connect
  cases answer : world.webSocket with
  | none => exact fetch_stays http
  | some answered =>
    rw [answer] at socket
    cases answered with
    | opened stream =>
      refine .inr ⟨_, rfl, ?_⟩
      rintro _ cut ⟨⟩ broken
      exact socket cut broken
    | refused status body aborted =>
      subst socket
      simp only [Bool.false_eq_true, if_false]
      split
      · refine .inr ⟨_, rfl, ?_⟩
        rintro _ cut ⟨⟩ broken
        cases broken
      · exact fetch_stays http
    | failed aborted =>
      subst socket
      exact fetch_stays http

theorem Client.AnsweredOnce.of_send (reply : ClientReply) : (({} : Client).send reply).AnsweredOnce :=
  .inl ⟨rfl, rfl, rfl⟩

section

variable {platform : Platform} {runtime : ProxyRuntime} {request : ProxyRequest} {state : LoopState}
  {world : AttemptWorld}

/-- The handler has given up before it answered, and says so. -/
inductive GaveUp (request : ProxyRequest) : Client → Prop where
  | failed {state : LoopState} (untouched : state.client = {}) : GaveUp request (failed request state)
  | threw {state : LoopState} (untouched : state.client = {}) : GaveUp request (threw state)

theorem GaveUp.answered {client : Client} (gaveUp : GaveUp request client) : client.AnsweredOnce := by
  cases gaveUp with
  | failed untouched =>
    rw [Codex.failed, untouched]
    exact .of_send _
  | threw untouched =>
    rw [Codex.threw, untouched]
    exact .of_send _

theorem endStream_answered {chunks : List (List UInt8)} {reading : Reading} (wrote : Wrote request chunks reading)
    (streams : request.clientStreams = true) : (endStream runtime request reading).AnsweredOnce := by
  have hijacked := wrote.hijacked
  rw [streams] at hijacked
  unfold endStream
  split
  · exact .inr ⟨wrote.sent, hijacked, by simp [wrote.ended]⟩
  · exact .inr ⟨wrote.sent, hijacked, by simp [Client.write, wrote.ended]⟩

theorem finished_answered {chunks : List (List UInt8)} {reading : Reading} (read : ReadUpTo request chunks reading) :
    (finished runtime request reading).AnsweredOnce := by
  have wrote := read.wrote runtime
  unfold finished
  dsimp only
  generalize (if reading.committed = true then reading else commit runtime request reading) = final at wrote
  split
  · next streams => exact endStream_answered wrote streams
  · next single =>
    have quiet : final.client.hijacked = false := by
      rw [wrote.hijacked]
      simpa using single
    split <;> exact .inl ⟨by simp [Client.send, wrote.sent], quiet, wrote.ended⟩

/-- The stream breaks off where the request cannot move on and no response is open to end: with
nothing committed on a request bound to its owner, or committed for a client that does not stream. -/
def BreaksUnanswered (runtime : ProxyRuntime) (request : ProxyRequest) (state : LoopState) (stream : ByteStream) :
    Prop :=
  stream.broken.isSome = true ∧ ¬ MovesEarly runtime request state stream.chunks ∧
    if Commits request stream.chunks then request.clientStreams = false else request.ownerAccountId.isSome = true

/-- A turn that is not `broken` goes on or answers. -/
def AnswersUnless (broken : Prop) : LoopState ⊕ Client → Prop
  | .inl _ => ¬ broken
  | .inr client => client.AnsweredOnce ↔ ¬ broken

theorem AnswersUnless.of_answered {broken : Prop} {turn : LoopState ⊕ Client} (whole : ¬ broken)
    (answered : ∀ client, turn = .inr client → client.AnsweredOnce) : AnswersUnless broken turn := by
  cases turn with
  | inl next => exact whole
  | inr client => exact ⟨fun _ => whole, fun _ => answered client rfl⟩

theorem interrupted_answers {stream : ByteStream} {reading : Reading} (read : ReadUpTo request stream.chunks reading)
    (stays : ¬ MovesEarly runtime request state stream.chunks) {cut : StreamBreak} (broken : stream.broken = some cut)
    (present : cut.aborted = false) :
    AnswersUnless (BreaksUnanswered runtime request state stream) (interrupted runtime request state reading cut) := by
  have breaks : BreaksUnanswered runtime request state stream ↔
      if reading.committed = true then request.clientStreams = false else request.ownerAccountId.isSome = true := by
    unfold BreaksUnanswered
    rw [broken]
    by_cases commits : Commits request stream.chunks
    · simp [stays, commits, read.committed.mpr commits]
    · have closed : ¬ reading.committed = true := fun committed => commits (read.committed.mp committed)
      simp [stays, commits, closed]
  have unanswered : ¬ reading.client.AnsweredOnce := by
    rintro (⟨one, _⟩ | ⟨_, _, one⟩)
    · rw [read.sent] at one
      cases one
    · rw [read.ended] at one
      cases one
  unfold interrupted
  rw [present, if_neg Bool.false_ne_true, breaks]
  cases committed : reading.committed with
  | false => cases owner : request.ownerAccountId <;> simp [AnswersUnless, unanswered]
  | true =>
    cases streams : request.clientStreams with
    | false => simp [AnswersUnless, unanswered]
    | true =>
      have wrote := read.wrote runtime
      rw [if_pos committed] at wrote
      have answered : (endStream runtime request reading).AnsweredOnce := endStream_answered wrote streams
      simp [AnswersUnless, answered]

theorem streamed_answers (untouched : state.client = {}) {response : UpstreamResponse} {stream : ByteStream}
    (body : response.body = some stream) (present : response.ClientStays) :
    AnswersUnless (BreaksUnanswered runtime request state stream) (streamed runtime request state response) := by
  unfold streamed
  rw [body, untouched]
  dsimp only
  rcases stream_read runtime request state stream.chunks with ⟨reading, same, read, stays⟩ | ⟨failure, same, moves⟩
  · rw [same]
    cases broken : stream.broken with
    | some cut => exact interrupted_answers read stays broken (present stream cut body broken)
    | none =>
      have ended : ¬ BreaksUnanswered runtime request state stream := by
        rintro ⟨absurd_, _⟩
        rw [broken] at absurd_
        cases absurd_
      simp [AnswersUnless, ended, finished_answered read]
  · rw [same]
    exact fun breaks => breaks.2.1 moves

def LeavesUnanswered (runtime : ProxyRuntime) (request : ProxyRequest) (state : LoopState) (world : AttemptWorld) :
    Prop :=
  ∃ stream, StreamsTo world stream ∧ BreaksUnanswered runtime request state stream

theorem moveOn_gaveUp (untouched : state.client = {}) {failure : UpstreamFailure} {client : Client}
    (exits : moveOn request state failure = .inr client) : GaveUp request client := by
  unfold moveOn at exits
  split at exits
  · cases exits
    exact .failed untouched
  · cases exits

theorem rejected_gaveUp (untouched : state.client = {}) {response : UpstreamResponse} {client : Client}
    (exits : rejected runtime request state world response = .inr client) : GaveUp request client := by
  unfold rejected at exits
  split at exits
  · cases exits
    exact .threw untouched
  · split at exits
    · cases exits
      exact .failed untouched
    · split at exits
      · cases exits
      · exact moveOn_gaveUp untouched exits

theorem attemptWith_answers (untouched : state.client = {}) (present : world.ClientStays) :
    AnswersUnless (LeavesUnanswered runtime request state world) (attemptWith runtime request state world) := by
  -- without a stream there is nothing to break off
  have settled : (∀ stream, ¬ StreamsTo world stream) →
      (∀ client, attemptWith runtime request state world = .inr client → client.AnsweredOnce) →
      AnswersUnless (LeavesUnanswered runtime request state world) (attemptWith runtime request state world) :=
    fun none_ => .of_answered fun ⟨stream, streams, _⟩ => none_ stream streams
  cases credentials : world.credentials with
  | some error =>
    apply settled
    · rintro stream ⟨absurd_, _⟩
      rw [credentials] at absurd_
      cases absurd_
    · intro client exits
      unfold attemptWith at exits
      rw [credentials] at exits
      exact (moveOn_gaveUp untouched exits).answered
  | none =>
    rcases connect_stays present with ⟨message, connected⟩ | ⟨response, connected, here⟩
    · apply settled
      · rintro stream ⟨_, response, other, _⟩
        rw [connected] at other
        cases other
      · intro client exits
        unfold attemptWith at exits
        rw [credentials, connected] at exits
        exact (moveOn_gaveUp untouched exits).answered
    · have same : ∀ stream, StreamsTo world stream → response.ok = true ∧ response.body = some stream := by
        rintro stream ⟨_, other, also, ok, body⟩
        rw [connected] at also
        cases also
        exact ⟨ok, body⟩
      cases ok : response.ok with
      | false =>
        apply settled
        · intro stream streams
          rw [ok] at same
          cases (same stream streams).1
        · intro client exits
          unfold attemptWith at exits
          rw [credentials, connected] at exits
          dsimp only at exits
          rw [ok] at exits
          exact (rejected_gaveUp untouched exits).answered
      | true =>
        have streams_ : attemptWith runtime request state world = streamed runtime request state response := by
          unfold attemptWith
          rw [credentials, connected]
          exact if_pos ok
        cases body : response.body with
        | none =>
          apply settled
          · intro stream streams
            have := (same stream streams).2
            rw [body] at this
            cases this
          · intro client exits
            rw [streams_, streamed, body] at exits
            cases exits
            exact (@GaveUp.threw request _ untouched).answered
        | some stream =>
          have leaves : LeavesUnanswered runtime request state world ↔ BreaksUnanswered runtime request state stream := by
            constructor
            · rintro ⟨other, streams, breaks⟩
              have := (same other streams).2
              rw [body] at this
              cases this
              exact breaks
            · exact fun breaks => ⟨stream, ⟨credentials, response, connected, ok, body⟩, breaks⟩
          rw [streams_, leaves]
          exact streamed_answers untouched body here

def TurnUnanswered (platform : Platform) (runtime : ProxyRuntime) (request : ProxyRequest) (state : LoopState)
    (world : AttemptWorld) : Prop :=
  state.attempt < request.maxAttempts ∧ (choose platform request state world).account.isSome = true ∧
    LeavesUnanswered runtime request state world

theorem pass_answers (untouched : state.client = {}) (present : world.ClientStays) :
    AnswersUnless (TurnUnanswered platform runtime request state world) (pass platform runtime request state world) := by
  have failed_ : (failed request state).AnsweredOnce := (GaveUp.failed untouched).answered
  unfold pass
  by_cases within : state.attempt < request.maxAttempts
  · rw [if_pos within]
    dsimp only
    cases picked : (choose platform request state world).account with
    | some account =>
      have turn : TurnUnanswered platform runtime request state world ↔
          LeavesUnanswered runtime request
            { state with retryWith := none, tried := state.tried ++ [account.id] } world := by
        unfold TurnUnanswered
        rw [picked]
        exact ⟨fun leaves => leaves.2.2, fun leaves => ⟨within, rfl, leaves⟩⟩
      rw [turn]
      apply attemptWith_answers _ present
      exact untouched
    | none =>
      have leaves : ¬ TurnUnanswered platform runtime request state world := by
        rintro ⟨_, absurd_, _⟩
        rw [picked] at absurd_
        cases absurd_
      refine .of_answered leaves fun client exits => ?_
      dsimp only at exits
      split at exits
      · split at exits
        · cases exits
          rw [untouched]
          exact .of_send _
        · cases exits
          exact failed_
      · cases exits
        exact failed_
  · rw [if_neg within]
    exact .of_answered (fun turn => within turn.1) fun client exits => Sum.inr.inj exits ▸ failed_

variable {worlds : Nat → AttemptWorld}

theorem turn_counts {turn : Nat} {next : LoopState} (here : TurnAt (pass platform runtime request) worlds {} turn state)
    (goes : pass platform runtime request state (worlds turn) = .inl next) : state.attempt < request.maxAttempts ∧
      (next.attempt = state.attempt + 1 ∨
        next.attempt = state.attempt ∧ ∃ account, RefreshesToken runtime (worlds turn) account) := by
  obtain ⟨within, account, _, step⟩ := pass_goes (turn_untouched here) goes
  refine ⟨within, ?_⟩
  rcases step.counts with ⟨counted, _⟩ | ⟨kept, refreshed, token, _⟩
  · exact .inl counted
  · exact .inr ⟨kept, refreshed, token⟩

theorem attempt_mono {turn later : Nat} {after : LoopState}
    (here : TurnAt (pass platform runtime request) worlds {} turn state)
    (there : TurnAt (pass platform runtime request) worlds {} later after) (order : turn ≤ later) :
    state.attempt ≤ after.attempt := by
  induction there with
  | start =>
    obtain rfl : turn = 0 := by omega
    cases here
    exact Nat.le_refl _
  | @next last middle after there goes ih =>
    by_cases same : turn = last + 1
    · subst same
      rw [here.unique (.next there goes)]
    · rcases (turn_counts there goes).2 with counted | ⟨kept, _⟩ <;> omega

/-- A loop that never leaves ends up refreshing tokens only. -/
theorem refreshes_forever (stays : ∀ turn state client, TurnAt (pass platform runtime request) worlds {} turn state →
    pass platform runtime request state (worlds turn) ≠ .inr client) :
    ∃ first, ∀ turn, first ≤ turn → ∃ account, RefreshesToken runtime (worlds turn) account := by
  by_contra sometimes
  push Not at sometimes
  -- every turn that refreshes nothing counts an attempt, so any count is passed
  have passes : ∀ count, ∃ turn state, TurnAt (pass platform runtime request) worlds {} turn state ∧
      count ≤ state.attempt := by
    intro count
    induction count with
    | zero => exact ⟨0, {}, .start, Nat.zero_le _⟩
    | succ count ih =>
      obtain ⟨turn, state, here, enough⟩ := ih
      obtain ⟨later, order, none_⟩ := sometimes turn
      obtain ⟨middle, there⟩ := turnAt_all stays later
      have before := attempt_mono here there order
      cases goes : pass platform runtime request middle (worlds later) with
      | inr client => exact absurd goes (stays later middle client there)
      | inl next =>
        refine ⟨later + 1, next, .next there goes, ?_⟩
        rcases (turn_counts there goes).2 with counted | ⟨_, account, token⟩
        · omega
        · exact absurd token (none_ account)
  obtain ⟨turn, state, here, enough⟩ := passes request.maxAttempts
  cases goes : pass platform runtime request state (worlds turn) with
  | inr client => exact absurd goes (stays turn state client here)
  | inl next =>
    have within := (turn_counts here goes).1
    omega

def RefreshesForever (platform : Platform) (runtime : ProxyRuntime) (request : ProxyRequest)
    (worlds : Nat → AttemptWorld) : Prop :=
  ∃ first, ∀ turn, first ≤ turn → (∃ state, TurnAt (pass platform runtime request) worlds {} turn state) ∧
    ∃ account, RefreshesToken runtime (worlds turn) account

end

/-- A client that stays gets exactly one completed response if and only if no attempt's stream
breaks off unanswered and tokens are not refreshed for ever. -/
theorem handle_answers_iff (platform : Platform) (runtime : ProxyRuntime) (request : ProxyRequest)
    (worlds : Nat → AttemptWorld) (present : ∀ turn, (worlds turn).ClientStays) :
    (∃ fuel client, handle platform runtime request worlds fuel = some client ∧ client.AnsweredOnce) ↔
      (∀ turn state, TurnAt (pass platform runtime request) worlds {} turn state →
        ¬ TurnUnanswered platform runtime request state (worlds turn)) ∧
      ¬ RefreshesForever platform runtime request worlds := by
  constructor
  · rintro ⟨fuel, client, returns, answered⟩
    obtain ⟨last, state, here, exits⟩ := (runLoop_leaves_iff client).mp ⟨fuel, returns⟩
    constructor
    · intro turn other there
      have order := here.last exits there
      rcases Nat.lt_or_ge turn last with before | _
      · obtain ⟨first, next, there', goes⟩ := here.earlier before
        rw [there.unique there']
        exact (goes ▸ pass_answers (turn_untouched there') (present turn) : AnswersUnless _ (.inl next))
      · obtain rfl : turn = last := by omega
        rw [there.unique here]
        exact (exits ▸ pass_answers (turn_untouched here) (present turn) : AnswersUnless _ (.inr client)).mp answered
    · rintro ⟨first, forever⟩
      obtain ⟨after, there⟩ := (forever (max first (last + 1)) (by omega)).1
      have order := here.last exits there
      omega
  · rintro ⟨answers, ends⟩
    by_cases leaves : ∃ turn state client, TurnAt (pass platform runtime request) worlds {} turn state ∧
        pass platform runtime request state (worlds turn) = .inr client
    · obtain ⟨turn, state, client, here, exits⟩ := leaves
      obtain ⟨fuel, returns⟩ := (runLoop_leaves_iff client).mpr ⟨turn, state, here, exits⟩
      exact ⟨fuel, client, returns,
        (exits ▸ pass_answers (turn_untouched here) (present turn) : AnswersUnless _ (.inr client)).mpr (answers turn state here)⟩
    · have stays : ∀ turn state client, TurnAt (pass platform runtime request) worlds {} turn state →
          pass platform runtime request state (worlds turn) ≠ .inr client :=
        fun turn state client here exits => leaves ⟨turn, state, client, here, exits⟩
      obtain ⟨first, forever⟩ := refreshes_forever stays
      exact absurd ⟨first, fun turn order => ⟨turnAt_all stays turn, forever turn order⟩⟩ ends

def proxyRuntime : ProxyRuntime :=
  { decimal := fun _ => js "0", toNumber := fun _ => .nan, toText := fun _ => js "[object Object]" }

def streamingWorld (stream : ByteStream) : AttemptWorld :=
  { pool := {
      runtime := fun _ => {}
      accounts := [{ id := "a" }]
      moment := { checkedAt := 0, selectedAt := 0 } }
    http := .answered { status := 200, body := some stream } }

def continuation : ProxyRequest := { requestId := js "r", ownerAccountId := some "a" }

theorem streamingWorld_stays (stream : ByteStream) (present : ∀ cut, stream.broken = some cut → cut.aborted = false) :
    (streamingWorld stream).ClientStays := by
  refine ⟨?_, trivial⟩
  rintro _ cut ⟨⟩ broken
  exact present cut broken

theorem handle_answers_completed :
    let worlds := fun _ => streamingWorld { chunks := [TextEncoder.encode (js "event: response.completed\n\n")] }
    (∃ fuel client, handle Router.samplePlatform proxyRuntime continuation worlds fuel = some client ∧
        client.AnsweredOnce) ↔
      (∀ turn state, TurnAt (pass Router.samplePlatform proxyRuntime continuation) worlds {} turn state →
        ¬ TurnUnanswered Router.samplePlatform proxyRuntime continuation state (worlds turn)) ∧
      ¬ RefreshesForever Router.samplePlatform proxyRuntime continuation worlds :=
  handle_answers_iff Router.samplePlatform proxyRuntime continuation _
    fun _ => streamingWorld_stays _ (fun _ broken => by cases broken)

/-- A stream that breaks off before any output leaves a continuation's client waiting. -/
theorem broken_continuation_unanswered :
    ¬ ∀ (platform : Platform) (runtime : ProxyRuntime) (request : ProxyRequest) (worlds : Nat → AttemptWorld),
      (∀ turn, (worlds turn).ClientStays) →
        ∃ fuel client, handle platform runtime request worlds fuel = some client ∧ client.AnsweredOnce := by
  intro claim
  obtain ⟨fuel, client, returns, answered⟩ := claim Router.samplePlatform proxyRuntime continuation
    (fun _ => streamingWorld { chunks := [], broken := some {} })
    fun _ => streamingWorld_stays _ (fun cut broken => by cases broken; rfl)
  cases fuel with
  | zero => cases returns
  | succ fuel =>
    cases returns
    rcases answered with ⟨one, _⟩ | ⟨_, hijacked, _⟩
    · cases one
    · cases hijacked

end SpaceApp.Gateway.Codex
