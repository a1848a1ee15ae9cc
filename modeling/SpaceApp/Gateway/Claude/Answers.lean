import SpaceApp.Gateway.Claude.Proxy
import SpaceApp.Gateway.Codex.Answers

/-! What a client of the Claude proxy gets: one completed response, of one attempt, after a bounded
number of upstream calls.
-/

set_option autoImplicit false

namespace SpaceApp.Gateway.Claude

open SpaceApp.Foundation SpaceApp.Gateway.Router SpaceApp.Gateway.Accounts
open SpaceApp.Gateway.Codex (ByteStream StreamBreak Client ClientReply)

def UpstreamResponse.ClientStays (response : UpstreamResponse) : Prop :=
  ∀ stream cut, response.body = some stream → stream.broken = some cut → cut.aborted = false

/-- The client does not disconnect during the pass. -/
def AttemptWorld.ClientStays (world : AttemptWorld) : Prop :=
  match world.http with
  | .failed _ aborted => aborted = false
  | .answered response => response.ClientStays

theorem writes_all (chunks : List (List UInt8)) (client : Client) :
    chunks.foldl Client.write client = { client with written := client.written ++ chunks } := by
  induction chunks generalizing client with
  | nil => rw [List.append_nil]; rfl
  | cons chunk rest ih =>
    rw [List.foldl_cons, ih]
    simp only [Client.write, List.append_assoc, List.singleton_append]

def inProgress (chunks : List (List UInt8)) : Client := { hijacked := true, written := chunks }

theorem inProgress_answered (chunks : List (List UInt8)) : (endReply (inProgress chunks)).AnsweredOnce :=
  .inr ⟨rfl, rfl, rfl⟩

/-- The reading of an attempt whose client had got nothing, after these chunks. -/
structure ReadUpTo (chunks : List (List UInt8)) (reading : Reading) : Prop where
  waiting : reading.committed = false → reading.held = chunks ∧ reading.client = {}
  open_ : reading.committed = true → reading.client = inProgress chunks

theorem commit_open {chunks : List (List UInt8)} {reading : Reading} (held : reading.held = chunks)
    (untouched : reading.client = {}) : (commit reading).client = inProgress chunks := by
  unfold commit
  dsimp only
  rw [held, untouched, writes_all]
  rfl

theorem ReadUpTo.commit {chunks : List (List UInt8)} {reading : Reading} (read : ReadUpTo chunks reading) :
    (if reading.committed = true then reading else Claude.commit reading).client = inProgress chunks := by
  split
  · next committed => exact read.open_ committed
  · next closed =>
    obtain ⟨held, untouched⟩ := read.waiting (by simpa using closed)
    exact commit_open held untouched

section

variable {request : MessagesRequest} {state : LoopState}

theorem readChunk_read {chunks : List (List UInt8)} {reading : Reading} (read : ReadUpTo chunks reading)
    (chunk : List UInt8) :
    (∃ next, readChunk request state reading chunk = .ok next ∧ ReadUpTo (chunks ++ [chunk]) next) ∨
      ∃ failure, readChunk request state reading chunk = .error (failure, {}) := by
  unfold readChunk
  cases committed : reading.committed with
  | true =>
    left
    refine ⟨_, rfl, ?_, ?_⟩
    · intro closed
      cases closed
    · intro _
      dsimp only
      rw [read.open_ committed]
      rfl
  | false =>
    obtain ⟨held, untouched⟩ := read.waiting committed
    dsimp only
    split
    · next absurd_ => cases absurd_
    split
    · next failure _ => exact .inr ⟨failure, by rw [untouched]⟩
    · left
      refine ⟨_, rfl, ?_⟩
      split
      · constructor
        · intro closed
          cases closed
        · intro _
          refine commit_open ?_ untouched
          dsimp only
          rw [held]
      · constructor
        · exact fun _ => ⟨by rw [held], untouched⟩
        · intro opened
          dsimp only at opened
          cases opened

/-- All the chunks are read, or one of them moves the attempt on before the client has got anything. -/
theorem readChunks_read (rest : List (List UInt8)) {chunks : List (List UInt8)} {reading : Reading}
    (read : ReadUpTo chunks reading) :
    (∃ last, readChunks request state reading rest = .ok last ∧ ReadUpTo (chunks ++ rest) last) ∨
      ∃ failure, readChunks request state reading rest = .error (failure, {}) := by
  induction rest generalizing chunks reading with
  | nil =>
    rw [List.append_nil]
    exact .inl ⟨reading, rfl, read⟩
  | cons chunk rest ih =>
    rw [readChunks]
    rcases readChunk_read read chunk with ⟨next, goes, readNext⟩ | ⟨failure, moves⟩
    · rw [goes]
      have all := ih readNext
      rwa [List.append_assoc] at all
    · exact .inr ⟨failure, by rw [moves]⟩

variable (request state) in
theorem stream_read (chunks : List (List UInt8)) :
    (∃ last, readChunks request state {} chunks = .ok last ∧ ReadUpTo chunks last) ∨
      ∃ failure, readChunks request state {} chunks = .error (failure, {}) := by
  have read : ReadUpTo [] {} := ⟨fun _ => ⟨rfl, rfl⟩, fun opened => by cases opened⟩
  exact readChunks_read chunks read

end

def StreamsTo (world : AttemptWorld) (stream : ByteStream) : Prop :=
  world.credentials = none ∧ ∃ response, world.http = .answered response ∧ response.ok = true ∧
    response.headers.eventStream = true ∧ response.body = some stream

/-- One completed response, and in a streamed one the chunks of the attempt's stream. -/
structure Answers (world : AttemptWorld) (client : Client) : Prop where
  once : client.AnsweredOnce
  whole : client.hijacked = false → client.written = []
  streamed : client.hijacked = true → ∃ stream, StreamsTo world stream ∧ client.written = stream.chunks

def Renews (platform : Platform) (world : AttemptWorld) (account renewed : GatewayAccountRecord) : Prop :=
  ∃ code, refreshRejectedToken platform world.rejection account code = .ok (some renewed)

/-- How a pass with this account goes on. -/
inductive Way (platform : Platform) (state : LoopState) (world : AttemptWorld) (account : GatewayAccountRecord)
    (next : LoopState) : Prop where
  | counted (attempt : next.attempt = state.attempt + 1) (retry : next.retryWith = none)
      (betas : next.extraBetas = state.extraBetas)
  | dropped (attempt : next.attempt = state.attempt) (fallback : Bool) (retry : next.retryWith = some (account, fallback))
      (before : state.extraBetas = []) (betas : next.extraBetas ≠ [])
  | renewed (attempt : next.attempt = state.attempt) (record : GatewayAccountRecord) (fallback : Bool)
      (retry : next.retryWith = some (record, fallback)) (betas : next.extraBetas = state.extraBetas)
      (renews : Renews platform world account record)

/-- A pass that goes on has given the client nothing, and one that leaves has answered it; it made
no more than so many calls. -/
def Settles (platform : Platform) (world : AttemptWorld) (account : GatewayAccountRecord) (calls : Nat)
    (state : LoopState) : LoopState ⊕ Exit → Prop
  | .inl next => next.client = {} ∧ next.calls.length ≤ calls ∧ Way platform state world account next
  | .inr exit => Answers world exit.client ∧ exit.calls.length ≤ calls

/-- A pass that has chosen its account. -/
structure Begun (calls : Nat) (state : LoopState) : Prop where
  client : state.client = {}
  retry : state.retryWith = none
  calls : state.calls.length ≤ calls

theorem answers_send (world : AttemptWorld) (reply : ClientReply) : Answers world (({} : Client).send reply) where
  once := .of_send reply
  whole := fun _ => rfl
  streamed := by
    intro absurd_
    cases absurd_

section

variable {platform : Platform} {request : MessagesRequest} {state : LoopState} {world : AttemptWorld}
  {account : GatewayAccountRecord} {fallback : Bool} {calls : Nat}

theorem sent_settles (begun : Begun calls state) (reply : ClientReply) :
    Settles platform world account calls state (state.exit (state.client.send reply)) := by
  refine ⟨?_, begun.calls⟩
  rw [begun.client]
  exact answers_send world reply

theorem continueAfter_settles (begun : Begun calls state) (failure : UpstreamFailure) :
    Settles platform world account calls state (continueAfter state failure) :=
  ⟨begun.client, begun.calls, .counted rfl begun.retry rfl⟩

theorem recordFailure_renews {failure : UpstreamFailure} {renewed : GatewayAccountRecord}
    (records : recordFailure platform world account failure = .ok (some renewed)) :
    Renews platform world account renewed := by
  unfold recordFailure at records
  dsimp only at records
  split at records
  · exact ⟨_, records⟩
  · split at records <;> cases records

section
variable (begun : Begun calls state)

include begun

theorem rejected_settles (response : UpstreamResponse) :
    Settles platform world account calls state (rejected platform request state world account fallback response) := by
  unfold rejected
  dsimp only
  split
  · exact sent_settles begun _
  next failure _ =>
  split
  · exact sent_settles begun _
  · split
    · next dropped drops =>
      refine ⟨begun.client, begun.calls, .dropped rfl fallback rfl ?_ (by simp)⟩
      unfold droppedThinking at drops
      split at drops
      · next first => exact first.1
      · cases drops
    · split
      · exact sent_settles begun _
      · split
        · exact sent_settles begun _
        · next renewed records =>
          exact ⟨begun.client, begun.calls, .renewed rfl renewed fallback rfl rfl (recordFailure_renews records)⟩
        · exact ⟨begun.client, begun.calls, .counted rfl begun.retry rfl⟩

theorem whole_settles (response : UpstreamResponse) :
    Settles platform world account calls state (whole request state response) := by
  unfold whole
  split
  · exact sent_settles begun _
  · exact sent_settles begun _

theorem ended_settles {stream : ByteStream} (streams : StreamsTo world stream) :
    Settles platform world account calls state (state.exit (endReply (inProgress stream.chunks))) := by
  refine ⟨⟨inProgress_answered _, ?_, ?_⟩, begun.calls⟩
  · intro absurd_
    cases absurd_
  · exact fun _ => ⟨stream, streams, rfl⟩

theorem interrupted_settles {stream : ByteStream} (streams : StreamsTo world stream)
    {reading : Reading} (read : ReadUpTo stream.chunks reading) {cut : StreamBreak} (present : cut.aborted = false) :
    Settles platform world account calls state (interrupted state reading cut) := by
  unfold interrupted
  rw [present, if_neg Bool.false_ne_true]
  split
  · next committed =>
    rw [read.open_ committed]
    exact ended_settles begun streams
  · next closed =>
    have untouched := (read.waiting (by simpa using closed)).2
    exact ⟨untouched, begun.calls, .counted rfl begun.retry rfl⟩

theorem movedOn_settles (failure : UpstreamFailure) :
    Settles platform world account calls state (movedOn platform state world account failure {}) := by
  unfold movedOn
  dsimp only
  split
  · exact ⟨rfl, begun.calls, .counted rfl begun.retry rfl⟩
  · exact ⟨rfl, begun.calls, .counted rfl begun.retry rfl⟩

theorem streamed_settles {response : UpstreamResponse} (present : response.ClientStays)
    (streams : ∀ stream, response.body = some stream → StreamsTo world stream) :
    Settles platform world account calls state (streamed platform request state world account response) := by
  unfold streamed
  split
  · exact sent_settles begun _
  next stream body =>
  rw [begun.client]
  rcases stream_read request state stream.chunks with ⟨reading, same, read⟩ | ⟨failure, same⟩
  · rw [same]
    dsimp only
    split
    · next cut broken => exact interrupted_settles begun (streams stream body) read (present stream cut body broken)
    · rw [read.commit]
      exact ended_settles begun (streams stream body)
  · rw [same]
    exact movedOn_settles begun failure

theorem answered_settles (credentials : world.credentials = none)
    {response : UpstreamResponse} (http : world.http = .answered response) (present : response.ClientStays) :
    Settles platform world account calls state (answered platform request state world account fallback response) := by
  unfold answered
  split
  · exact sent_settles begun _
  · split
    · exact rejected_settles begun response
    · next good =>
      split
      · next events =>
        apply streamed_settles begun present
        exact fun stream body => ⟨credentials, response, http, by simpa using good, events, body⟩
      · exact whole_settles begun response

end

theorem attemptWith_settles (untouched : state.client = {}) (retry : state.retryWith = none)
    (present : world.ClientStays) : Settles platform world account (state.calls.length + 1) state
      (attemptWith platform request state world account fallback) := by
  have begun : Begun (state.calls.length + 1) state := ⟨untouched, retry, Nat.le_succ _⟩
  have one : Begun (state.calls.length + 1) (called state account) := by
    refine ⟨untouched, retry, ?_⟩
    unfold called
    simp
  -- a call changes none of what the pass is judged by
  suffices after : Settles platform world account (state.calls.length + 1) (called state account)
      (attemptWith platform request state world account fallback) ∨
      Settles platform world account (state.calls.length + 1) state
      (attemptWith platform request state world account fallback) by
    rcases after with after | after
    · generalize attemptWith platform request state world account fallback = outcome at after
      cases outcome with
      | inr exit => exact after
      | inl next =>
        obtain ⟨client, calls, way⟩ := after
        refine ⟨client, calls, ?_⟩
        cases way with
        | counted attempt retry betas => exact .counted attempt retry betas
        | dropped attempt fallback retry before betas => exact .dropped attempt fallback retry before betas
        | renewed attempt record fallback retry betas renews =>
          exact .renewed attempt record fallback retry betas renews
    · exact after
  unfold attemptWith
  split
  · exact .inr (continueAfter_settles begun _)
  · next credentials =>
    left
    unfold AttemptWorld.ClientStays at present
    split
    · next message http =>
      rw [http] at present
      cases present
    · exact continueAfter_settles one _
    · next response http =>
      rw [http] at present
      exact answered_settles one credentials http present

theorem pass_settles (untouched : state.client = {}) (present : world.ClientStays) :
    (∃ exit, pass platform request state world = .inr exit ∧ Answers world exit.client ∧ exit.calls = state.calls) ∨
      state.attempt < request.maxAttempts ∧ ∃ account fallback,
        choose platform request state world = .inl (account, fallback) ∧
        Settles platform world account (state.calls.length + 1)
          { state with retryWith := none, tried := state.tried ++ [account.id] }
          (pass platform request state world) := by
  have sent : ∀ reply, ∃ exit, state.exit (state.client.send reply) = .inr exit ∧ Answers world exit.client ∧
      exit.calls = state.calls := by
    intro reply
    refine ⟨_, rfl, ?_, rfl⟩
    dsimp only
    rw [untouched]
    exact answers_send world reply
  unfold pass
  split
  · next within =>
    cases chosen : choose platform request state world with
    | inl picked =>
      obtain ⟨account, fallback⟩ := picked
      exact .inr ⟨within, account, fallback, rfl, attemptWith_settles untouched rfl present⟩
    | inr outcome =>
      left
      dsimp only
      unfold choose at chosen
      dsimp only at chosen
      split at chosen
      · cases chosen
      · split at chosen
        · cases chosen
          exact sent _
        · split at chosen
          · cases chosen
          · cases chosen
            by_cases first : state.attempt = 0
            · rw [if_pos first]
              exact sent _
            · rw [if_neg first]
              exact sent _
          · cases chosen
            exact sent _
  · exact .inl (sent _)

end

end SpaceApp.Gateway.Claude
