import SpaceApp.Gateway.Codex.Proxy

/-! One attempt's stream: what is held, what is written and when the attempt moves on, as
facts about the chunks read so far.
-/

set_option autoImplicit false

namespace SpaceApp.Gateway.Codex

open SpaceApp.Foundation SpaceApp.Gateway.Router SpaceApp.Gateway.Accounts

section

variable (runtime : ProxyRuntime) (request : ProxyRequest) (state : LoopState)

/-- The chunks commit the reply: they show output, or are more than is held. -/
def Commits (chunks : List (List UInt8)) : Prop :=
  (ResponseStreamInspector.feed chunks).state.outputStarted = true ∨ request.bufferLimit < chunks.flatten.length

instance (chunks : List (List UInt8)) : Decidable (Commits request chunks) := inferInstanceAs (Decidable (_ ∨ _))

/-- A chunk that comes before any commitment brings a failure that moves the request on. -/
def MovesEarly (chunks : List (List UInt8)) : Prop :=
  ∃ front chunk rest, chunks = front ++ chunk :: rest ∧ ¬ Commits request front ∧
    (earlyFailure runtime request state (ResponseStreamInspector.feed (front ++ [chunk])).state).isSome = true

variable {request}

theorem not_commits_nil : ¬ Commits request [] := by
  rintro (started | long)
  · exact absurd started (by decide)
  · simp at long

theorem Commits.snoc {chunks : List (List UInt8)} (commits : Commits request chunks) (chunk : List UInt8) :
    Commits request (chunks ++ [chunk]) := by
  rcases commits with started | long
  · left
    rw [ResponseStreamInspector.feed_snoc]
    exact ResponseStreamInspector.push_outputStarted started chunk
  · right
    rw [List.flatten_append, List.length_append]
    omega

variable (request)

/-- Writing changes the bytes written and the translator, and nothing else. -/
structure SameBut (before after : Reading) : Prop where
  inspector : after.inspector = before.inspector
  held : after.held = before.held
  heldBytes : after.heldBytes = before.heldBytes
  committed : after.committed = before.committed
  sent : after.client.sent = before.client.sent
  hijacked : after.client.hijacked = before.client.hijacked
  ended : after.client.ended = before.client.ended

theorem SameBut.trans {first second third : Reading} (left : SameBut first second) (right : SameBut second third) :
    SameBut first third where
  inspector := right.inspector.trans left.inspector
  held := right.held.trans left.held
  heldBytes := right.heldBytes.trans left.heldBytes
  committed := right.committed.trans left.committed
  sent := right.sent.trans left.sent
  hijacked := right.hijacked.trans left.hijacked
  ended := right.ended.trans left.ended

theorem forward_same (reading : Reading) (chunk : List UInt8) :
    SameBut reading (forward runtime request reading chunk) := by
  unfold forward
  cases reading.translator with
  | none =>
    dsimp only
    split <;> exact ⟨rfl, rfl, rfl, rfl, rfl, rfl, rfl⟩
  | some writer =>
    dsimp only
    split <;> exact ⟨rfl, rfl, rfl, rfl, rfl, rfl, rfl⟩

theorem forwards_same (chunks : List (List UInt8)) (reading : Reading) :
    SameBut reading (chunks.foldl (forward runtime request) reading) := by
  induction chunks generalizing reading with
  | nil => exact ⟨rfl, rfl, rfl, rfl, rfl, rfl, rfl⟩
  | cons chunk rest ih => exact (forward_same runtime request reading chunk).trans (ih _)

theorem forward_raw {reading : Reading} (raw : reading.translator = none) (chunk : List UInt8) :
    (forward runtime request reading chunk).translator = none ∧
      (forward runtime request reading chunk).client.written.flatten =
        reading.client.written.flatten ++ chunk := by
  unfold forward
  rw [raw]
  dsimp only
  split
  · next empty => exact ⟨raw, by rw [empty, List.append_nil]⟩
  · exact ⟨rfl, by simp [Client.write]⟩

theorem forwards_raw (chunks : List (List UInt8)) {reading : Reading} (raw : reading.translator = none) :
    (chunks.foldl (forward runtime request) reading).translator = none ∧
      (chunks.foldl (forward runtime request) reading).client.written.flatten =
        reading.client.written.flatten ++ chunks.flatten := by
  induction chunks generalizing reading with
  | nil => exact ⟨raw, by simp⟩
  | cons chunk rest ih =>
    obtain ⟨still, written⟩ := forward_raw runtime request raw chunk
    obtain ⟨last, all⟩ := ih still
    exact ⟨last, by rw [List.foldl_cons, all, written, List.flatten_cons, List.append_assoc]⟩

/-- The reading of an attempt whose client had got nothing, after these chunks. -/
structure ReadUpTo (chunks : List (List UInt8)) (reading : Reading) : Prop where
  inspector : reading.inspector = ResponseStreamInspector.feed chunks
  committed : reading.committed = true ↔ Commits request chunks
  held : reading.committed = false → reading.held = chunks ∧ reading.heldBytes = chunks.flatten.length
  sent : reading.client.sent = []
  ended : reading.client.ended = 0
  hijacked : reading.client.hijacked = (reading.committed && request.clientStreams)
  quiet : reading.client.hijacked = false → reading.client.written = []
  raw : request.chat = false → reading.translator = none ∧
    (reading.client.hijacked = true → reading.client.written.flatten = chunks.flatten)

theorem startReading_read : ReadUpTo request [] (startReading request {}) where
  inspector := rfl
  committed := by simpa [startReading] using not_commits_nil
  held := fun _ => ⟨rfl, rfl⟩
  sent := rfl
  ended := rfl
  hijacked := rfl
  quiet := fun _ => rfl
  raw := fun noChat => ⟨by simp [startReading, noChat], fun _ => rfl⟩

/-- A committed reply: a streaming client has its response, any other client nothing yet. -/
structure Wrote (chunks : List (List UInt8)) (reading : Reading) : Prop where
  sent : reading.client.sent = []
  ended : reading.client.ended = 0
  hijacked : reading.client.hijacked = request.clientStreams
  quiet : reading.client.hijacked = false → reading.client.written = []
  raw : request.chat = false → reading.translator = none ∧
    (reading.client.hijacked = true → reading.client.written.flatten = chunks.flatten)

theorem commit_committed (reading : Reading) : (commit runtime request reading).committed = true ∧
    (commit runtime request reading).inspector = reading.inspector := by
  have same := forwards_same runtime request reading.held (hijack reading)
  unfold commit
  split
  · exact ⟨same.committed, same.inspector⟩
  · exact ⟨rfl, rfl⟩

theorem commit_wrote {chunks : List (List UInt8)} {reading : Reading} (held : reading.held = chunks)
    (client : reading.client = {}) (raw : request.chat = false → reading.translator = none) :
    Wrote request chunks (commit runtime request reading) := by
  unfold Codex.commit
  cases streams : request.clientStreams with
  | false =>
    exact {
      sent := by simp [client]
      ended := by simp [client]
      hijacked := by simp [client, streams]
      quiet := fun _ => by simp [client]
      raw := fun noChat => ⟨raw noChat, fun hijacked => by simp [client] at hijacked⟩ }
  | true =>
    have same := forwards_same runtime request reading.held (hijack reading)
    exact {
      sent := same.sent.trans (congrArg Client.sent client)
      ended := same.ended.trans (congrArg Client.ended client)
      hijacked := same.hijacked.trans streams.symm
      quiet := fun not_ => by cases same.hijacked.symm.trans not_
      raw := fun noChat => by
        obtain ⟨still, written⟩ := forwards_raw runtime request reading.held
          (show (hijack reading).translator = none from raw noChat)
        have nothing : (hijack reading).client.written = [] := congrArg Client.written client
        have all : (reading.held.foldl (forward runtime request) (hijack reading)).client.written.flatten =
            chunks.flatten := by
          rw [written, nothing, held]
          rfl
        exact ⟨still, fun _ => all⟩ }

theorem commit_read {chunks : List (List UInt8)} {reading : Reading}
    (inspector : reading.inspector = ResponseStreamInspector.feed chunks) (commits : Commits request chunks)
    (held : reading.held = chunks) (client : reading.client = {})
    (raw : request.chat = false → reading.translator = none) :
    ReadUpTo request chunks (commit runtime request reading) := by
  obtain ⟨committed, same⟩ := commit_committed runtime request reading
  have wrote := commit_wrote runtime request held client raw
  exact {
    inspector := same.trans inspector
    committed := ⟨fun _ => commits, fun _ => committed⟩
    held := fun open_ => by rw [committed] at open_; cases open_
    __ := wrote
    hijacked := by rw [wrote.hijacked, committed, Bool.true_and]
    raw := wrote.raw }

variable {request}

section

variable {chunks : List (List UInt8)}

theorem ReadUpTo.untouched {reading : Reading} (read : ReadUpTo request chunks reading)
    (quiet : reading.client.hijacked = false) : reading.client = {} := by
  have sent := read.sent
  have ended := read.ended
  have written := read.quiet quiet
  cases same : reading.client
  simp_all

theorem ReadUpTo.wrote {reading : Reading} (read : ReadUpTo request chunks reading) :
    Wrote request chunks (if reading.committed then reading else commit runtime request reading) := by
  cases committed : reading.committed with
  | true =>
    exact {
      __ := read
      hijacked := by simp [read.hijacked, committed]
      raw := read.raw }
  | false =>
    have quiet : reading.client.hijacked = false := by rw [read.hijacked, committed, Bool.false_and]
    exact commit_wrote runtime request (read.held committed).1 (read.untouched quiet) fun noChat => (read.raw noChat).1

theorem ReadUpTo.forwarded {reading seen : Reading} (read : ReadUpTo request chunks reading)
    (committed : reading.committed = true) (chunk : List UInt8)
    (seen_ : seen = { reading with inspector := (reading.inspector.push chunk).1 }) :
    ReadUpTo request (chunks ++ [chunk]) (if request.clientStreams then forward runtime request seen chunk else seen) := by
  have commits := (read.committed.mp committed).snoc chunk
  have inspector : seen.inspector = ResponseStreamInspector.feed (chunks ++ [chunk]) := by
    rw [seen_, ResponseStreamInspector.feed_snoc, read.inspector]
  have open_ : seen.committed = true := by
    rw [seen_]
    exact committed
  have client : seen.client = reading.client := by rw [seen_]
  cases streams : request.clientStreams with
  | false =>
    have quiet : reading.client.hijacked = false := by rw [read.hijacked, streams, Bool.and_false]
    have nothing := read.untouched quiet
    simp only [Bool.false_eq_true, if_false]
    exact {
      inspector := inspector
      committed := ⟨fun _ => commits, fun _ => open_⟩
      held := fun closed => by rw [open_] at closed; cases closed
      sent := by rw [client, nothing]
      ended := by rw [client, nothing]
      hijacked := by rw [client, quiet, streams, Bool.and_false]
      quiet := fun _ => by rw [client, nothing]
      raw := fun noChat => ⟨by rw [seen_]; exact (read.raw noChat).1,
        fun hijacked => by rw [client, quiet] at hijacked; cases hijacked⟩ }
  | true =>
    have hijacked : reading.client.hijacked = true := by rw [read.hijacked, committed, streams]; rfl
    have same := forward_same runtime request seen chunk
    simp only [if_true]
    exact {
      inspector := same.inspector.trans inspector
      committed := ⟨fun _ => commits, fun _ => same.committed.trans open_⟩
      held := fun closed => by rw [same.committed, open_] at closed; cases closed
      sent := by rw [same.sent, client, read.sent]
      ended := by rw [same.ended, client, read.ended]
      hijacked := by rw [same.hijacked, client, hijacked, same.committed, open_, streams]; rfl
      quiet := fun not_ => by rw [same.hijacked, client, hijacked] at not_; cases not_
      raw := fun noChat => by
        have raw : seen.translator = none := by
          rw [seen_]
          exact (read.raw noChat).1
        obtain ⟨still, written⟩ := forward_raw runtime request raw chunk
        refine ⟨still, fun _ => ?_⟩
        rw [written, client, (read.raw noChat).2 hijacked, List.flatten_append, List.flatten_singleton] }

theorem readChunk_read {reading : Reading} (read : ReadUpTo request chunks reading) (chunk : List UInt8) :
    (∃ next, readChunk runtime request state reading chunk = .ok next ∧ ReadUpTo request (chunks ++ [chunk]) next ∧
        (Commits request chunks ∨ earlyFailure runtime request state
          (ResponseStreamInspector.feed (chunks ++ [chunk])).state = none)) ∨
      (∃ failure, readChunk runtime request state reading chunk = .error (failure, {}) ∧ ¬ Commits request chunks ∧
        earlyFailure runtime request state (ResponseStreamInspector.feed (chunks ++ [chunk])).state = some failure) := by
  set seen : Reading := { reading with inspector := (reading.inspector.push chunk).1 } with seen_
  cases committed : reading.committed with
  | true =>
    refine .inl ⟨_, ?_, read.forwarded runtime committed chunk seen_, .inl (read.committed.mp committed)⟩
    exact if_pos committed
  | false =>
    have silent : ¬ Commits request chunks := fun commits => by
      rw [read.committed.mpr commits] at committed
      cases committed
    have quiet : reading.client.hijacked = false := by rw [read.hijacked, committed, Bool.false_and]
    have nothing := read.untouched quiet
    obtain ⟨held, heldBytes⟩ := read.held committed
    have inspector : (reading.inspector.push chunk).1 = ResponseStreamInspector.feed (chunks ++ [chunk]) := by
      rw [ResponseStreamInspector.feed_snoc, read.inspector]
    have length : reading.heldBytes + chunk.length = (chunks ++ [chunk]).flatten.length := by
      rw [heldBytes, List.flatten_append, List.length_append, List.flatten_singleton]
    have notYet : ¬ reading.committed = true := by
      rw [committed]
      exact Bool.false_ne_true
    unfold readChunk
    rw [if_neg notYet]
    dsimp only
    rw [inspector]
    cases early : earlyFailure runtime request state (ResponseStreamInspector.feed (chunks ++ [chunk])).state with
    | some failure => exact .inr ⟨failure, by rw [nothing], silent, rfl⟩
    | none =>
      refine .inl ⟨_, rfl, ?_, .inr rfl⟩
      rw [length]
      split
      · next commits =>
        exact commit_read runtime request rfl commits (by rw [held]) nothing fun noChat => (read.raw noChat).1
      · next still =>
        exact {
          inspector := rfl
          committed := ⟨fun open_ => absurd open_ notYet, fun commits => absurd commits still⟩
          held := fun _ => ⟨by rw [held], rfl⟩
          sent := by rw [nothing]
          ended := by rw [nothing]
          hijacked := by
            rw [quiet]
            exact (by rw [committed, Bool.false_and] : (reading.committed && request.clientStreams) = false).symm
          quiet := fun _ => by rw [nothing]
          raw := fun noChat => ⟨(read.raw noChat).1, fun hijacked => by rw [quiet] at hijacked; cases hijacked⟩ }

theorem MovesEarly.append (moves : MovesEarly runtime request state chunks) (more : List (List UInt8)) :
    MovesEarly runtime request state (chunks ++ more) := by
  obtain ⟨front, chunk, rest, rfl, silent, early⟩ := moves
  exact ⟨front, chunk, rest ++ more, by simp, silent, early⟩

theorem movesEarly_snoc {chunk : List UInt8} (before : ¬ MovesEarly runtime request state chunks)
    (moves : MovesEarly runtime request state (chunks ++ [chunk])) : ¬ Commits request chunks ∧
      (earlyFailure runtime request state (ResponseStreamInspector.feed (chunks ++ [chunk])).state).isSome = true := by
  obtain ⟨front, first, rest, same, silent, early⟩ := moves
  rcases List.eq_nil_or_concat rest with rfl | ⟨inner, last, rfl⟩
  · obtain ⟨rfl, last⟩ := List.append_inj' same rfl
    cases last
    exact ⟨silent, early⟩
  · rw [List.concat_eq_append, ← List.cons_append, ← List.append_assoc] at same
    obtain ⟨rfl, _⟩ := List.append_inj' same rfl
    exact absurd ⟨front, first, inner, rfl, silent, early⟩ before

theorem readChunks_read (rest : List (List UInt8)) {reading : Reading} (read : ReadUpTo request chunks reading)
    (before : ¬ MovesEarly runtime request state chunks) :
    (∃ last, readChunks runtime request state reading rest = .ok last ∧ ReadUpTo request (chunks ++ rest) last ∧
        ¬ MovesEarly runtime request state (chunks ++ rest)) ∨
      ∃ failure, readChunks runtime request state reading rest = .error (failure, {}) ∧
        MovesEarly runtime request state (chunks ++ rest) := by
  induction rest generalizing chunks reading with
  | nil =>
    rw [List.append_nil]
    exact .inl ⟨reading, rfl, read, before⟩
  | cons chunk rest ih =>
    rw [← List.singleton_append, ← List.append_assoc]
    rcases readChunk_read runtime state read chunk with ⟨next, goes, readNext, stays⟩ | ⟨failure, moves, silent, early⟩
    · have still : ¬ MovesEarly runtime request state (chunks ++ [chunk]) := by
        intro moves
        obtain ⟨silent, early⟩ := movesEarly_snoc runtime state before moves
        rcases stays with commits | none_
        · exact silent commits
        · rw [none_] at early
          cases early
      rw [List.singleton_append, readChunks, goes]
      exact ih readNext still
    · right
      refine ⟨failure, by rw [List.singleton_append, readChunks, moves], ?_⟩
      apply MovesEarly.append
      exact ⟨chunks, chunk, [], rfl, silent, by rw [early]; rfl⟩

end

variable (request) in
theorem stream_read (chunks : List (List UInt8)) :
    (∃ last, readChunks runtime request state (startReading request {}) chunks = .ok last ∧
        ReadUpTo request chunks last ∧ ¬ MovesEarly runtime request state chunks) ∨
      ∃ failure, readChunks runtime request state (startReading request {}) chunks = .error (failure, {}) ∧
        MovesEarly runtime request state chunks := by
  apply readChunks_read runtime state chunks (startReading_read request)
  rintro ⟨front, chunk, rest, absurd_, _⟩
  cases front <;> cases absurd_

end

def StreamsTo (world : AttemptWorld) (stream : ByteStream) : Prop :=
  world.credentials = none ∧
    ∃ response, connect world = .response response ∧ response.ok = true ∧ response.body = some stream

def RefreshesToken (runtime : ProxyRuntime) (world : AttemptWorld) (account : GatewayAccountRecord) : Prop :=
  world.credentials = none ∧ ∃ response failure, connect world = .response response ∧ response.ok = false ∧
    rejectedFailure runtime response = some failure ∧ failure.kind = .permanent ∧ failure.status = 401 ∧
    world.refreshed = some account

section

variable {platform : Platform} {runtime : ProxyRuntime} {request : ProxyRequest} {state : LoopState}
  {world : AttemptWorld}

/-- The client still has got nothing; the attempt counts, unless its token was refreshed. -/
structure Goes (runtime : ProxyRuntime) (state : LoopState) (world : AttemptWorld) (next : LoopState) : Prop where
  client : next.client = {}
  tried : next.tried = state.tried
  counts : (next.attempt = state.attempt + 1 ∧ next.retryWith = state.retryWith) ∨
    (next.attempt = state.attempt ∧ ∃ account, RefreshesToken runtime world account ∧ next.retryWith = some account)

section
variable (untouched : state.client = {})

include untouched

section

variable {next : LoopState}

theorem moveOn_goes {failure : UpstreamFailure} (goes : moveOn request state failure = .inl next) :
    Goes runtime state world next := by
  unfold moveOn at goes
  split at goes
  · cases goes
  · cases goes
    exact ⟨untouched, rfl, .inl ⟨rfl, rfl⟩⟩

theorem rejected_goes (credentials : world.credentials = none) {response : UpstreamResponse}
    (connected : connect world = .response response) (bad : response.ok = false)
    (goes : rejected runtime request state world response = .inl next) : Goes runtime state world next := by
  unfold rejected at goes
  cases failed_ : rejectedFailure runtime response with
  | none =>
    rw [failed_] at goes
    cases goes
  | some failure =>
    rw [failed_] at goes
    dsimp only at goes
    split at goes
    · cases goes
    · cases refreshed : recordFailure world failure with
      | none =>
        rw [refreshed] at goes
        exact moveOn_goes untouched goes
      | some account =>
        rw [refreshed] at goes
        cases goes
        unfold recordFailure at refreshed
        split at refreshed
        · next kind =>
          exact ⟨untouched, rfl, .inr ⟨rfl, account,
            ⟨credentials, response, failure, connected, bad, failed_, kind.1, kind.2, refreshed⟩, rfl⟩⟩
        · cases refreshed

theorem streamed_goes {response : UpstreamResponse} (goes : streamed runtime request state response = .inl next) :
    Goes runtime state world next := by
  unfold streamed at goes
  cases body : response.body with
  | none =>
    rw [body] at goes
    cases goes
  | some stream =>
    rw [body, untouched] at goes
    dsimp only at goes
    rcases stream_read runtime request state stream.chunks with ⟨reading, same, read, _⟩ | ⟨failure, same, _⟩
    · rw [same] at goes
      cases broken : stream.broken with
      | none =>
        rw [broken] at goes
        cases goes
      | some cut =>
        rw [broken] at goes
        dsimp only [interrupted] at goes
        split at goes
        · cases goes
        · split at goes
          · next early =>
            cases goes
            have quiet : reading.client.hijacked = false := by rw [read.hijacked, early.1, Bool.false_and]
            exact ⟨read.untouched quiet, rfl, .inl ⟨rfl, rfl⟩⟩
          · split at goes <;> cases goes
    · rw [same] at goes
      cases goes
      exact ⟨rfl, rfl, .inl ⟨rfl, rfl⟩⟩

theorem attemptWith_goes (goes : attemptWith runtime request state world = .inl next) :
    Goes runtime state world next := by
  unfold attemptWith at goes
  cases credentials : world.credentials with
  | some error =>
    rw [credentials] at goes
    exact moveOn_goes untouched goes
  | none =>
    rw [credentials] at goes
    cases connected : connect world with
    | aborted =>
      rw [connected] at goes
      cases goes
    | failed message =>
      rw [connected] at goes
      exact moveOn_goes untouched goes
    | response response =>
      rw [connected] at goes
      dsimp only at goes
      split at goes
      · exact streamed_goes untouched goes
      · next bad => exact rejected_goes untouched credentials connected (by simpa using bad) goes

theorem pass_goes (goes : pass platform runtime request state world = .inl next) :
    state.attempt < request.maxAttempts ∧ ∃ account, (choose platform request state world).account = some account ∧
      Goes runtime { state with retryWith := none, tried := state.tried ++ [account.id] } world next := by
  unfold pass at goes
  split at goes
  · next within =>
    dsimp only at goes
    cases picked : (choose platform request state world).account with
    | some account =>
      rw [picked] at goes
      refine ⟨within, account, rfl, ?_⟩
      apply attemptWith_goes _ goes
      exact untouched
    | none =>
      rw [picked] at goes
      dsimp only at goes
      split at goes
      · split at goes <;> cases goes
      · cases goes
  · cases goes

end

end

theorem turn_untouched {worlds : Nat → AttemptWorld} {turn : Nat} {state : LoopState}
    (here : TurnAt (pass platform runtime request) worlds {} turn state) : state.client = {} := by
  refine TurnAt.invariant (fun _ state => state.client = {}) rfl ?_ here
  intro turn state next untouched goes
  obtain ⟨_, account, _, step⟩ := pass_goes untouched goes
  exact step.client

end

end SpaceApp.Gateway.Codex
