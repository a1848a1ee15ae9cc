import Mathlib.Algebra.Ring.Nat
import SpaceApp.Foundation.Reach

/-! The measured-token budget of a Room Agent mission (`room-background-continuation.ts`).

One continuation is prepared at a time. Between any two of its calls an operator may ask, the mission may move and
its runs may end; it may stop at any of them, what it has written left behind. Turns stand newest first. -/

set_option autoImplicit false

namespace SpaceApp.Worker.Continuations

open SpaceApp.Foundation

inductive RunStatus where
  | queued | running | completed | failed | interrupted
  deriving DecidableEq

inductive MissionStatus where
  | queued | running | paused | completed | failed | interrupted
  deriving DecidableEq

structure Continuation where
  sourceRunId : String
  generation : Nat
  deriving DecidableEq

structure Turn where
  runId : String
  continuation : Option Continuation
  deriving DecidableEq

structure MissionTokenUsage where
  usedTokens : Nat
  countedThroughRunId : String
  deriving DecidableEq

/-- `executionState.tokenUsage` is all that is read of that record. -/
structure Mission where
  status : MissionStatus
  tokenUsage : Option MissionTokenUsage
  deriving DecidableEq

structure Limits where
  maxContinuations : Nat
  maxMissionTokens : Option Nat

def maxSafeInteger : Nat := 2 ^ 53 - 1

def recordedTokenUsage (mission : Mission) : Option MissionTokenUsage :=
  mission.tokenUsage.filter fun usage => usage.usedTokens ≤ maxSafeInteger

def recordedTokens (recorded : Option MissionTokenUsage) : Nat := (recorded.map (·.usedTokens)).getD 0

def countedThrough (recorded : Option MissionTokenUsage) (source : Turn) : Bool :=
  recorded.any fun usage => usage.countedThroughRunId = source.runId

def Turn.generation (source : Turn) : Nat := (source.continuation.map (·.generation)).getD 0 + 1

/-- The call of the store that `prepareBackgroundContinuation` waits for. -/
inductive Preparation where
  | existing (continuationId : String)
  | mission (continuationId : String)
  | source (continuationId : String) (mission : Mission)
  | actions (continuationId : String) (mission : Mission) (source : Turn)
  | failContinuations (mission : Mission) (source : Turn)
  | failTokens (mission : Mission) (source : Turn) (used : Nat)
  | count (continuationId : String) (mission : Mission) (source : Turn) (used : Nat)
  | enqueue (continuationId : String) (source : Turn)
  deriving DecidableEq

structure World where
  mission : Mission
  turns : List Turn
  status : String → RunStatus
  preparation : Option Preparation

def World.created : World := ⟨⟨.queued, none⟩, [], fun _ => .queued, none⟩

def continuationRunId (continuationId : String) : String := "agent_run:bg-" ++ continuationId

def World.has (world : World) (runId : String) : Bool := world.turns.any fun turn => turn.runId = runId

def World.isLatest (world : World) (runId : String) : Bool := world.turns.head?.any fun turn => turn.runId = runId

/-- `updateRoomAgentMission` under a guard: where it fails nothing is written, and nothing thrown. -/
def World.update (world : World) (expectedRunId : String) (expectedStatus : MissionStatus) (mission : Mission) : World :=
  if world.mission.status = expectedStatus ∧ world.isLatest expectedRunId then { world with mission } else world

inductive Event where
  | request (runId : String)
  | moves (status : MissionStatus)
  | runs (runId : String) (status : RunStatus)
  | prepares (continuationId : String)
  | answers (busy : Bool)
  | drops

section

/-! The ledger of a run that is completed holds the total of its usage where that is `MEASURED`. -/

variable (limits : Limits) (measured : String → Option Nat)

def sourceTokens (source : Turn) : Nat := (measured source.runId).getD 0

/-- What is compared with the budget. -/
def usedTokens (recorded : Option MissionTokenUsage) (source : Turn) : Nat :=
  if countedThrough recorded source then recordedTokens recorded
  else (if source.continuation.isSome then recordedTokens recorded else 0) + sourceTokens measured source

def World.answer (busy : Bool) (world : World) : World :=
  match world.preparation with
  | none => world
  | some (.existing id) =>
      { world with preparation := if world.has (continuationRunId id) then none else some (.mission id) }
  | some (.mission id) =>
      { world with preparation :=
          if world.mission.status = .queued ∨ world.mission.status = .running then some (.source id world.mission)
          else none }
  | some (.source id mission) =>
      { world with preparation :=
          (world.turns.head?.filter fun turn => world.status turn.runId = .completed).map fun source =>
            .actions id mission source }
  | some (.actions id mission source) =>
      let recorded := recordedTokenUsage mission
      let used := usedTokens measured recorded source
      { world with preparation :=
          if busy then none
          else if limits.maxContinuations < source.generation then some (.failContinuations mission source)
          else if limits.maxMissionTokens.any (· ≤ used) then some (.failTokens mission source used)
          else if 0 < used ∧ ¬ countedThrough recorded source then some (.count id mission source used)
          else some (.enqueue id source) }
  | some (.failContinuations mission source) =>
      { world.update source.runId mission.status { mission with status := .failed } with preparation := none }
  | some (.failTokens mission source used) =>
      { world.update source.runId mission.status ⟨.failed, some ⟨used, source.runId⟩⟩ with preparation := none }
  | some (.count id mission source used) =>
      { world.update source.runId mission.status { world.mission with tokenUsage := some ⟨used, source.runId⟩ } with
        preparation := some (.enqueue id source) }
  | some (.enqueue id source) =>
      if world.has (continuationRunId id) = false ∧ world.mission.status = .running ∧ world.isLatest source.runId then
        { world with
          turns := ⟨continuationRunId id, some ⟨source.runId, source.generation⟩⟩ :: world.turns
          preparation := none }
      else { world with preparation := none }

def World.step (world : World) : Event → World
  | .request runId => { world with turns := ⟨runId, none⟩ :: world.turns }
  | .moves status => { world with mission := { world.mission with status } }
  | .runs runId status => { world with status := Function.update world.status runId status }
  | .prepares id => { world with preparation := some (.existing id) }
  | .answers busy => world.answer limits measured busy
  | .drops => { world with preparation := none }

def World.allowed (world : World) : Event → Prop
  | .request runId => world.has runId = false
  | .prepares _ => world.preparation = none
  | _ => True

instance (world : World) (event : Event) : Decidable (world.allowed event) := by
  cases event <;> unfold World.allowed <;> infer_instance

def currentRequest : List Turn → List Turn
  | [] => []
  | turn :: earlier => if turn.continuation.isSome then turn :: currentRequest earlier else [turn]

def spent (turns : List Turn) : Nat := ((currentRequest turns).map (sourceTokens measured)).sum

/-- What a preparation is about to compare are the tokens of its source turn's request. -/
def World.CountsOnce (world : World) : Prop :=
  ∀ id mission source, world.preparation = some (.actions id mission source) →
    ∃ later earlier, world.turns = later ++ source :: earlier ∧
      usedTokens measured (recordedTokenUsage mission) source = spent measured (source :: earlier)

/-- An operator turn with no measured tokens is counted only where nothing is recorded, the mission has the status it
was read with when tokens are recorded, and the tokens of its turns make a safe integer. -/
def World.Recordable (world : World) : Prop :=
  (world.turns.map (sourceTokens measured)).sum ≤ maxSafeInteger ∧
  match world.preparation with
  | some (.actions _ mission source) =>
      source.continuation = none → sourceTokens measured source = 0 → recordedTokenUsage mission = none
  | some (.count _ mission _ _) => world.mission.status = mission.status
  | _ => True

instance (world : World) : Decidable (world.Recordable measured) := by
  unfold World.Recordable
  split <;> infer_instance

end

section

variable {limits : Limits} {measured : String → Option Nat} {turn source : Turn} {earlier later turns : List Turn}
  {recorded : Option MissionTokenUsage} {world : World}

variable (measured) in
/-- The counter holds the request of the newest turn, with or without that turn. -/
def Fits (recorded : Option MissionTokenUsage) : List Turn → Prop
  | [] => True
  | turn :: earlier =>
      (countedThrough recorded turn = true → recordedTokens recorded = spent measured (turn :: earlier)) ∧
        (countedThrough recorded turn = false → turn.continuation.isSome →
          recordedTokens recorded = spent measured earlier)

theorem spent_cons : spent measured (turn :: earlier) =
    (if turn.continuation.isSome then spent measured earlier else 0) + sourceTokens measured turn := by
  simp only [spent, currentRequest]
  split
  · simp [Nat.add_comm]
  · simp

theorem Fits.compared (fits : Fits measured recorded (source :: earlier)) :
    usedTokens measured recorded source = spent measured (source :: earlier) := by
  simp only [usedTokens]
  split
  · next counted => exact fits.1 counted
  · next fresh =>
    rw [spent_cons]
    split
    · next automatic => rw [fits.2 (Bool.not_eq_true _ ▸ fresh) automatic]
    · rfl

theorem spent_le (turns : List Turn) : spent measured turns ≤ (turns.map (sourceTokens measured)).sum := by
  induction turns with
  | nil => exact Nat.le_refl _
  | cons turn earlier ih =>
    rw [spent_cons, List.map_cons, List.sum_cons]
    split <;> omega

variable (measured) in
/-- What the preparation knows of the mission and of its source turn. -/
def Prepared (recorded : Option MissionTokenUsage) (turns : List Turn) : Preparation → Prop
  | .existing _ | .mission _ => True
  | .source _ mission => recordedTokenUsage mission = recorded
  | .actions _ mission source | .failContinuations mission source =>
      recordedTokenUsage mission = recorded ∧
        ∃ later earlier, turns = later ++ source :: earlier ∧ Fits measured recorded (source :: earlier)
  | .failTokens _ source used | .count _ _ source used =>
      ∃ later earlier, turns = later ++ source :: earlier ∧ used = spent measured (source :: earlier)
  | .enqueue _ source =>
      ∃ later earlier, turns = later ++ source :: earlier ∧
        (later = [] → recordedTokens recorded = spent measured (source :: earlier))

variable (measured) in
structure Counted (recorded : Option MissionTokenUsage) (turns : List Turn) : Prop where
  distinct : (turns.map Turn.runId).Nodup
  known : ∀ usage, recorded = some usage → ∃ turn ∈ turns, turn.runId = usage.countedThroughRunId
  fits : Fits measured recorded turns

theorem countedThrough_iff : countedThrough recorded source = true ↔
    ∃ usage, recorded = some usage ∧ usage.countedThroughRunId = source.runId := by
  simp [countedThrough, Option.any_eq_true]

theorem Counted.joined {next : Turn} (counted : Counted measured recorded turns)
    (new : ∀ turn ∈ turns, turn.runId ≠ next.runId)
    (goesOn : next.continuation.isSome → recordedTokens recorded = spent measured turns) :
    Counted measured recorded (next :: turns) := by
  refine ⟨?_, ?_, ?_, fun _ => goesOn⟩
  · rw [List.map_cons, List.nodup_cons]
    refine ⟨?_, counted.distinct⟩
    intro member
    obtain ⟨turn, inside, same⟩ := List.mem_map.mp member
    exact new turn inside same
  · intro usage found
    obtain ⟨turn, inside, same⟩ := counted.known usage found
    exact ⟨turn, List.mem_cons_of_mem _ inside, same⟩
  · intro through
    obtain ⟨usage, found, same⟩ := countedThrough_iff.mp through
    obtain ⟨turn, inside, named⟩ := counted.known usage found
    exact absurd (named.trans same) (new turn inside)

/-- All that was spent is counted through the newest turn. -/
theorem Counted.through (counted : Counted measured recorded (source :: earlier)) :
    Counted measured (some ⟨spent measured (source :: earlier), source.runId⟩) (source :: earlier) where
  distinct := counted.distinct
  known usage found := ⟨source, by simp, by simp [← Option.some.inj found]⟩
  fits := ⟨fun _ => rfl, fun fresh => by simp [countedThrough] at fresh⟩

variable (measured) in
structure World.Kept (world : World) : Prop where
  counted : Counted measured (recordedTokenUsage world.mission) world.turns
  prepared : ∀ preparation, world.preparation = some preparation →
    Prepared measured (recordedTokenUsage world.mission) world.turns preparation

theorem World.Kept.countsOnce (kept : world.Kept measured) : world.CountsOnce measured := by
  intro id mission source preparing
  obtain ⟨same, later, earlier, turns, fits⟩ := kept.prepared _ preparing
  exact ⟨later, earlier, turns, by rw [same, fits.compared]⟩

theorem latest_source (distinct : (world.turns.map Turn.runId).Nodup) (turns : world.turns = later ++ source :: earlier)
    (latest : world.isLatest source.runId = true) : later = [] := by
  cases later with
  | nil => rfl
  | cons turn later =>
    have same : turn.runId = source.runId := by simpa [World.isLatest, turns] using latest
    rw [turns] at distinct
    simp [same] at distinct

theorem recorded_safe {used : Nat} {status : MissionStatus} {runId : String} (safe : used ≤ maxSafeInteger) :
    recordedTokenUsage ⟨status, some ⟨used, runId⟩⟩ = some ⟨used, runId⟩ := by
  simp [recordedTokenUsage, safe]

theorem World.Kept.update (kept : world.Kept measured) (turns : world.turns = later ++ source :: earlier)
    (safe : (world.turns.map (sourceTokens measured)).sum ≤ maxSafeInteger) (expected status : MissionStatus) :
    Counted measured (recordedTokenUsage (world.update source.runId expected
      ⟨status, some ⟨spent measured (source :: earlier), source.runId⟩⟩).mission) world.turns := by
  unfold World.update
  split
  · next guarded =>
    obtain rfl := latest_source kept.counted.distinct turns guarded.2
    rw [List.nil_append] at turns
    have counted := kept.counted
    rw [turns] at counted safe ⊢
    rw [recorded_safe (Nat.le_trans (spent_le _) safe)]
    exact counted.through
  · exact kept.counted

theorem update_turns (runId : String) (expected : MissionStatus) (mission : Mission) :
    (world.update runId expected mission).turns = world.turns := by
  unfold World.update
  split <;> rfl

theorem Prepared.front {preparation : Preparation} (next : Turn) (prepared : Prepared measured recorded turns preparation) :
    Prepared measured recorded (next :: turns) preparation := by
  cases preparation with
  | existing | mission => trivial
  | source => exact prepared
  | actions | failContinuations =>
    obtain ⟨same, later, earlier, rfl, fits⟩ := prepared
    exact ⟨same, next :: later, earlier, rfl, fits⟩
  | failTokens | count =>
    obtain ⟨later, earlier, rfl, used⟩ := prepared
    exact ⟨next :: later, earlier, rfl, used⟩
  | enqueue =>
    obtain ⟨later, earlier, rfl, -⟩ := prepared
    exact ⟨next :: later, earlier, rfl, fun none_ => by cases none_⟩

/-- Where nothing is written before the continuation is enqueued, nothing is left to count. -/
theorem Fits.settled (fits : Fits measured recorded (source :: earlier))
    (settled : usedTokens measured recorded source = 0 ∨ countedThrough recorded source = true)
    (operators : source.continuation = none → sourceTokens measured source = 0 → recorded = none) :
    recordedTokens recorded = spent measured (source :: earlier) := by
  by_cases through : countedThrough recorded source = true
  · exact fits.1 through
  have nothing := settled.resolve_right through
  rw [← fits.compared, nothing]
  simp only [usedTokens, if_neg through] at nothing
  split at nothing
  · omega
  · next operator =>
    rw [operators (by simpa using operator) (by omega)]
    rfl

theorem World.Kept.answer (busy : Bool) (kept : world.Kept measured) (recordable : world.Recordable measured) :
    (world.answer limits measured busy).Kept measured := by
  obtain ⟨safe, met⟩ := recordable
  have counted := kept.counted
  unfold World.answer
  split
  · exact kept
  · refine ⟨counted, ?_⟩
    intro preparation found
    split at found
    · cases found
    · cases found
      trivial
  · refine ⟨counted, ?_⟩
    intro preparation found
    split at found
    · cases found
      rfl
    · cases found
  · next id mission preparing =>
    refine ⟨counted, ?_⟩
    intro preparation found
    obtain ⟨source, head, rfl⟩ := Option.map_eq_some_iff.mp found
    obtain ⟨earlier, turns⟩ := List.head?_eq_some_iff.mp (Option.filter_eq_some_iff.mp head).1
    have fits := counted.fits
    rw [turns] at fits
    exact ⟨kept.prepared _ preparing, [], earlier, turns, fits⟩
  · next id mission source preparing =>
    rw [preparing] at met
    obtain ⟨same, later, earlier, turns, fits⟩ := kept.prepared _ preparing
    dsimp only at met
    rw [same] at met
    refine ⟨counted, ?_⟩
    dsimp only
    intro preparation found
    rw [same] at found
    split at found
    · cases found
    split at found
    · cases found
      exact ⟨same, later, earlier, turns, fits⟩
    split at found
    · cases found
      exact ⟨later, earlier, turns, fits.compared⟩
    split at found
    · cases found
      exact ⟨later, earlier, turns, fits.compared⟩
    · next unwritten =>
      cases found
      refine ⟨later, earlier, turns, fun _ => fits.settled ?_ met⟩
      rw [not_and_or, not_not, Nat.pos_iff_ne_zero, not_not] at unwritten
      exact unwritten
  · next mission source preparing =>
    obtain ⟨same, -⟩ := kept.prepared _ preparing
    refine ⟨?_, by simp⟩
    unfold World.update
    split
    · have unchanged : recordedTokenUsage { mission with status := .failed } = recordedTokenUsage mission := rfl
      rw [unchanged, same]
      exact counted
    · exact counted
  · next mission source used preparing =>
    obtain ⟨later, earlier, turns, rfl⟩ := kept.prepared _ preparing
    refine ⟨?_, by simp⟩
    rw [update_turns]
    exact kept.update turns safe _ _
  · next id mission source used preparing =>
    rw [preparing] at met
    obtain ⟨later, earlier, turns, rfl⟩ := kept.prepared _ preparing
    refine ⟨?_, ?_⟩
    · rw [update_turns]
      exact kept.update turns safe _ _
    · rw [update_turns]
      intro preparation found
      cases found
      refine ⟨later, earlier, turns, ?_⟩
      rintro rfl
      rw [List.nil_append] at turns
      have latest : world.isLatest source.runId = true := by simp [World.isLatest, turns]
      rw [World.update, if_pos ⟨met, latest⟩, recorded_safe]
      · rfl
      · exact Nat.le_trans (spent_le _) (turns ▸ safe)
  · next id source preparing =>
    obtain ⟨later, earlier, turns, whole⟩ := kept.prepared _ preparing
    split
    · next enqueues =>
      obtain rfl := latest_source counted.distinct turns enqueues.2.2
      refine ⟨counted.joined ?_ ?_, by simp⟩
      · simpa [World.has] using enqueues.1
      · rw [turns]
        exact fun _ => whole rfl
    · exact ⟨counted, by simp⟩

theorem World.Kept.step (event : Event) (kept : world.Kept measured) (allowed : world.allowed event)
    (recordable : world.Recordable measured) : (world.step limits measured event).Kept measured := by
  cases event with
  | request runId =>
    refine ⟨kept.counted.joined ?_ ?_, fun preparation found => (kept.prepared preparation found).front _⟩
    · have new : world.has runId = false := allowed
      simpa [World.has] using new
    · intro automatic
      cases automatic
  | moves status => exact ⟨kept.counted, kept.prepared⟩
  | runs runId status => exact ⟨kept.counted, kept.prepared⟩
  | prepares id =>
    refine ⟨kept.counted, ?_⟩
    intro preparation found
    cases found
    trivial
  | answers busy => exact kept.answer busy recordable
  | drops => exact ⟨kept.counted, fun _ found => by cases found⟩

end

/-- A run all of whose states are recordable compares each request's own tokens, each turn's once. -/
theorem countsOnce_of_recordable (limits : Limits) (measured : String → Option Nat) (world : World)
    (reached : Reached (· = World.created) (fun world event => world.allowed event ∧ world.Recordable measured)
      (World.step limits measured) world) :
    world.CountsOnce measured := by
  apply World.Kept.countsOnce
  apply reached.invariant
  · rintro world rfl
    exact ⟨⟨List.nodup_nil, fun _ found => (by cases found), trivial⟩, fun _ found => (by cases found)⟩
  · intro world event kept may
    exact kept.step event may.1 may.2

/-- The tokens of a run in which an unmeasured request follows a measured one. -/
def exampleMeasured (runId : String) : Option Nat :=
  if runId = "first" then some 100 else if runId = "agent_run:bg-2" then some 50 else none

/-- The first request is counted, and a continuation of it begun. -/
def exampleRequest : List Event :=
  [.request "first", .moves .running, .runs "first" .completed, .prepares "1", .answers false, .answers false, .answers false]

theorem countsOnce_of_recordable_first :
    (exampleRequest.foldl (World.step ⟨16, none⟩ exampleMeasured) World.created).CountsOnce exampleMeasured :=
  countsOnce_of_recordable _ _ _ (Reached.run (.start rfl) (by decide +kernel))

/-- The second request's continuation is charged with the tokens of the first request. -/
theorem earlier_request_counted : ¬ ∀ limits measured world,
    Reached (· = World.created) World.allowed (World.step limits measured) world → world.CountsOnce measured := by
  intro claimed
  let events := exampleRequest ++ [.answers false, .answers false, .answers false, .request "second",
    .runs "second" .completed, .prepares "2", .answers false, .answers false, .answers false, .answers false,
    .answers false, .runs "agent_run:bg-2" .completed, .prepares "3", .answers false, .answers false, .answers false]
  let source : Turn := ⟨"agent_run:bg-2", some ⟨"second", 1⟩⟩
  have turns : (events.foldl (World.step ⟨16, none⟩ exampleMeasured) World.created).turns =
      [source, ⟨"second", none⟩, ⟨"agent_run:bg-1", some ⟨"first", 1⟩⟩, ⟨"first", none⟩] := by decide +kernel
  obtain ⟨later, earlier, same, counted⟩ := claimed ⟨16, none⟩ exampleMeasured _
    (Reached.run (.start rfl) (by decide +kernel : AllowedRun _ _ World.created events)) "3"
    ⟨.running, some ⟨100, "first"⟩⟩ source (by decide +kernel)
  rw [turns] at same
  cases later with
  | nil =>
    rw [← (List.cons.inj same).2] at counted
    exact absurd counted (by decide +kernel)
  | cons turn later =>
    have again : source ∈ [(⟨"second", none⟩ : Turn), ⟨"agent_run:bg-1", some ⟨"first", 1⟩⟩, ⟨"first", none⟩] := by
      rw [(List.cons.inj same).2]
      simp
    exact absurd again (by decide +kernel)

end SpaceApp.Worker.Continuations
