import SpaceApp.Gateway.Codex.Answers

/-! Failover never mixes or repeats output: what a streaming client gets comes from one attempt's
stream, and an account is attempted again only with its refreshed token.
-/

set_option autoImplicit false

namespace SpaceApp.Gateway.Codex

open SpaceApp.Foundation SpaceApp.Gateway.Router SpaceApp.Gateway.Accounts

section

variable {platform : Platform} {runtime : ProxyRuntime} {request : ProxyRequest} {state : LoopState}
  {world : AttemptWorld}

/-- The bytes written are the start of this stream, or none. -/
def WritesFrom (world : AttemptWorld) (client : Client) : Prop :=
  client.written = [] ∨ ∃ stream, StreamsTo world stream ∧ client.written.flatten <+: stream.chunks.flatten

theorem GaveUp.written {client : Client} (gaveUp : GaveUp request client) : client.written = [] := by
  cases gaveUp with
  | failed untouched =>
    rw [Codex.failed, untouched]
    rfl
  | threw untouched =>
    rw [Codex.threw, untouched]
    rfl

theorem wrote_prefix {chunks : List (List UInt8)} {client : Client} (quiet : client.hijacked = false → client.written = [])
    (raw : client.hijacked = true → client.written.flatten = chunks.flatten) :
    client.written = [] ∨ client.written.flatten <+: chunks.flatten := by
  cases hijacked : client.hijacked with
  | false => exact .inl (quiet hijacked)
  | true =>
    right
    rw [raw hijacked]

theorem endStream_written {reading : Reading} (raw : reading.translator = none) :
    (endStream runtime request reading).written = reading.client.written := by
  unfold endStream
  rw [raw]

section
variable (untouched : state.client = {})

include untouched

section

variable {client : Client}

theorem streamed_written (responses : request.chat = false) (streams : request.clientStreams = true)
    {response : UpstreamResponse} (exits : streamed runtime request state response = .inr client) :
    client.written = [] ∨ ∃ stream, response.body = some stream ∧ client.written.flatten <+: stream.chunks.flatten := by
  unfold streamed at exits
  cases body : response.body with
  | none =>
    rw [body] at exits
    cases exits
    exact .inl (@GaveUp.threw request _ untouched).written
  | some stream =>
    rw [body, untouched] at exits
    dsimp only at exits
    suffices written : client.written = [] ∨ client.written.flatten <+: stream.chunks.flatten from
      written.imp_right fun front => ⟨stream, rfl, front⟩
    rcases stream_read runtime request state stream.chunks with ⟨reading, same, read, _⟩ | ⟨failure, same, _⟩
    · rw [same] at exits
      dsimp only at exits
      have here := wrote_prefix read.quiet (read.raw responses).2
      cases broken : stream.broken with
      | none =>
        rw [broken] at exits
        cases exits
        have wrote := read.wrote runtime
        unfold finished
        dsimp only
        generalize (if reading.committed = true then reading else commit runtime request reading) = final at wrote
        rw [if_pos streams, endStream_written (wrote.raw responses).1]
        exact wrote_prefix wrote.quiet (wrote.raw responses).2
      | some cut =>
        rw [broken] at exits
        dsimp only [interrupted] at exits
        split at exits
        · cases exits
          exact here
        · split at exits
          · cases exits
          · split at exits <;> cases exits
            · rw [endStream_written (read.raw responses).1]
              exact here
            · exact here
    · rw [same] at exits
      cases exits

theorem attemptWith_written (responses : request.chat = false) (streams : request.clientStreams = true)
    (exits : attemptWith runtime request state world = .inr client) : WritesFrom world client := by
  unfold attemptWith at exits
  cases credentials : world.credentials with
  | some error =>
    rw [credentials] at exits
    exact .inl (moveOn_gaveUp untouched exits).written
  | none =>
    rw [credentials] at exits
    dsimp only at exits
    cases connected : connect world with
    | aborted =>
      rw [connected] at exits
      cases exits
      exact .inl (by rw [untouched])
    | failed message =>
      rw [connected] at exits
      exact .inl (moveOn_gaveUp untouched exits).written
    | response response =>
      rw [connected] at exits
      dsimp only at exits
      split at exits
      · next ok =>
        rcases streamed_written untouched responses streams exits with none_ | ⟨stream, body, front⟩
        · exact .inl none_
        · exact .inr ⟨stream, ⟨credentials, response, connected, ok, body⟩, front⟩
      · exact .inl (rejected_gaveUp untouched exits).written

theorem pass_written (responses : request.chat = false) (streams : request.clientStreams = true)
    (exits : pass platform runtime request state world = .inr client) : WritesFrom world client := by
  have failed_ : (failed request state).written = [] := (GaveUp.failed untouched).written
  unfold pass at exits
  split at exits
  · dsimp only at exits
    split at exits
    · apply attemptWith_written _ responses streams exits
      exact untouched
    · split at exits
      · split at exits <;> cases exits
        · exact .inl (by rw [untouched]; rfl)
        · exact .inl failed_
      · cases exits
        exact .inl failed_
  · cases exits
    exact .inl failed_

end

end

theorem inScope_untried {accounts : List GatewayAccountRecord} {scope : Option (List String)} {tried : List String}
    {account : GatewayAccountRecord} (member : account ∈ inScope accounts scope tried) : account.id ∉ tried := by
  simp only [inScope, List.mem_filter, Bool.and_eq_true, Bool.not_eq_true', List.contains_eq_mem,
    decide_eq_false_iff_not] at member
  exact member.2.2

theorem finishPick_member {settings : PickSettings} {stickyId : Option String} {moment : PickMoment}
    {snapshot : PickSnapshot} {account : GatewayAccountRecord}
    (picked : (finishPick platform settings stickyId moment snapshot).1.account = some account) :
    account ∈ snapshot.accounts := by
  unfold finishPick at picked
  dsimp only at picked
  split at picked
  · split at picked
    · cases picked
    · exact List.mem_of_find?_eq_some picked
  · split at picked
    · exact List.mem_of_find?_eq_some picked
    · split at picked
      · cases picked
      · exact List.mem_of_find?_eq_some picked

theorem pickAccount_untried {world : PickWorld} {tried : List String} {account : GatewayAccountRecord}
    (picked : (pickAccount platform request world tried).account = some account) : account.id ∉ tried := by
  unfold pickAccount beginPick at picked
  cases owner : request.ownerAccountId with
  | some owner_ =>
    rw [owner] at picked
    exact inScope_untried (List.mem_of_find?_eq_some picked)
  | none =>
    rw [owner] at picked
    dsimp only at picked
    split at picked
    · next answer found =>
      split at found
      · cases found
        cases picked
      · cases found
    · next snapshot found =>
      split at found
      · cases found
      · cases found
        have member := finishPick_member picked
        have within : account ∈ inScope world.accounts request.scope tried := by
          unfold eligible at member
          split at member
          · exact member
          · exact List.mem_of_mem_filter member
        exact inScope_untried within

variable {worlds : Nat → AttemptWorld}

def Attempts (platform : Platform) (runtime : ProxyRuntime) (request : ProxyRequest) (worlds : Nat → AttemptWorld)
    (turn : Nat) (account : GatewayAccountRecord) : Prop :=
  ∃ state, TurnAt (pass platform runtime request) worlds {} turn state ∧ state.attempt < request.maxAttempts ∧
    (choose platform request state (worlds turn)).account = some account

/-- The accounts tried are remembered; an account to retry on had its token refreshed just before. -/
structure KnowsTried (platform : Platform) (runtime : ProxyRuntime) (request : ProxyRequest)
    (worlds : Nat → AttemptWorld) (turn : Nat) (state : LoopState) : Prop where
  tried : ∀ earlier account, earlier < turn → Attempts platform runtime request worlds earlier account →
    account.id ∈ state.tried
  retry : ∀ account, state.retryWith = some account → RefreshesToken runtime (worlds (turn - 1)) account

theorem turn_knowsTried {turn : Nat} (here : TurnAt (pass platform runtime request) worlds {} turn state) :
    KnowsTried platform runtime request worlds turn state := by
  induction here with
  | start => exact ⟨fun earlier _ before => by omega, fun account none_ => by cases none_⟩
  | @next turn state next here goes ih =>
    obtain ⟨_, account, picked, step⟩ := pass_goes (turn_untouched here) goes
    constructor
    · intro earlier other before attempts
      rw [step.tried]
      by_cases last : earlier = turn
      · subst last
        obtain ⟨first, there, _, chosen⟩ := attempts
        rw [there.unique here, picked] at chosen
        cases chosen
        exact List.mem_append_right _ (List.mem_singleton.mpr rfl)
      · exact List.mem_append_left _ (ih.tried earlier other (by omega) attempts)
    · intro refreshed retry
      rcases step.counts with ⟨_, same⟩ | ⟨_, token, refreshes, same⟩
      · rw [same] at retry
        cases retry
      · rw [same] at retry
        cases retry
        exact refreshes

theorem attempts_once {earlier later : Nat} {first second : GatewayAccountRecord}
    (left : Attempts platform runtime request worlds earlier first)
    (right : Attempts platform runtime request worlds later second) (order : earlier < later)
    (same : first.id = second.id) : RefreshesToken runtime (worlds (later - 1)) second := by
  obtain ⟨state, here, _, chosen⟩ := right
  have knows := turn_knowsTried here
  unfold choose at chosen
  cases retry : state.retryWith with
  | some account =>
    rw [retry] at chosen
    cases chosen
    exact knows.retry second retry
  | none =>
    rw [retry] at chosen
    have untried := pickAccount_untried chosen
    rw [← same] at untried
    exact absurd (knows.tried earlier first order left) untried

end

/-- A streaming client gets the start of the last attempt's stream: attempts moved away from
have written nothing, and no account is attempted twice but on its refreshed token. -/
theorem failover_one_stream (platform : Platform) (runtime : ProxyRuntime) (request : ProxyRequest)
    (worlds : Nat → AttemptWorld) (responses : request.chat = false) (streams : request.clientStreams = true) :
    (∀ fuel client, handle platform runtime request worlds fuel = some client →
      ∃ turn state, TurnAt (pass platform runtime request) worlds {} turn state ∧
        pass platform runtime request state (worlds turn) = .inr client ∧ WritesFrom (worlds turn) client) ∧
    (∀ turn state, TurnAt (pass platform runtime request) worlds {} turn state → state.client.written = []) ∧
    ∀ earlier later first second, Attempts platform runtime request worlds earlier first →
      Attempts platform runtime request worlds later second → earlier < later → first.id = second.id →
        RefreshesToken runtime (worlds (later - 1)) second := by
  refine ⟨?_, ?_, fun _ _ _ _ left right order same => attempts_once left right order same⟩
  · intro fuel client returns
    obtain ⟨turn, state, here, exits⟩ := (runLoop_leaves_iff client).mp ⟨fuel, returns⟩
    exact ⟨turn, state, here, exits, pass_written (turn_untouched here) responses streams exits⟩
  · intro turn state here
    rw [turn_untouched here]

/-- An account that is out of quota, then one that streams. -/
theorem failover_one_stream_sample :
    let worlds := fun turn : Nat =>
      if turn = 0 then { streamingWorld { chunks := [] } with http := .answered { status := 429, body := none } }
      else streamingWorld { chunks := [TextEncoder.encode (js "event: response.completed\\n\\n")] }
    let request : ProxyRequest := { requestId := js "r" }
    (∀ fuel client, handle Router.samplePlatform proxyRuntime request worlds fuel = some client →
      ∃ turn state, TurnAt (pass Router.samplePlatform proxyRuntime request) worlds {} turn state ∧
        pass Router.samplePlatform proxyRuntime request state (worlds turn) = .inr client ∧
          WritesFrom (worlds turn) client) ∧
    (∀ turn state, TurnAt (pass Router.samplePlatform proxyRuntime request) worlds {} turn state →
      state.client.written = []) ∧
    ∀ earlier later first second, Attempts Router.samplePlatform proxyRuntime request worlds earlier first →
      Attempts Router.samplePlatform proxyRuntime request worlds later second → earlier < later →
        first.id = second.id → RefreshesToken proxyRuntime (worlds (later - 1)) second :=
  failover_one_stream Router.samplePlatform proxyRuntime _ _ rfl rfl

end SpaceApp.Gateway.Codex
