import SpaceApp.Worker.SupervisorRuns

/-! The supervisor does not stand still: answers alone bring every turn through. -/

set_option autoImplicit false

namespace SpaceApp.Worker

/-- An event that answers what the loop awaits, with no new turn and none put back. -/
def Stage.answeredBy : Stage → SupervisorEvent → Bool
  | .starting, .resumes => true
  | .idle, .resumes => true
  | .pausing _, .resumes => true
  | .monitoring, .resumes => true
  | .checking _, .checks check => check ≠ .paused
  | .running _, .childEnds _ => true
  | .discarding _, .settles => true
  | .finishing _, .settles => true
  | .skipping _, .settles => true
  | .completing _ _, .settles => true
  | .recovering _ _, .settles => true
  | .closing _ _, .settles => true
  | .retiring _ _, .settles => true
  | .preparing _ _ _, .prepares .waiting => true
  | .preparing _ _ _, .prepares .done => true
  | _, _ => false

def Answered (state : Supervisor) : List SupervisorEvent → Prop
  | [] => True
  | event :: rest => state.stage.answeredBy event = true ∧ Answered (state.step event) rest

/-- The awaits left before the turn in hand is through. -/
def Stage.rank : Stage → Nat
  | .starting => 0
  | .idle | .pausing _ | .monitoring | .preparing .. | .retiring .. => 1
  | .finishing _ | .closing .. => 2
  | .discarding _ | .recovering .. => 3
  | .skipping _ | .completing .. => 4
  | .running _ => 5
  | .checking _ => 6

namespace Supervisor

variable (state : Supervisor)

def backlog : Nat := state.pending.length + state.interrupted.length

def work : Nat := 8 * state.backlog + state.stage.rank

def Drained : Prop := state.pending = [] ∧ state.interrupted = [] ∧ state.stage.free = true

theorem iterate_work : state.iterate.work ≤ 8 * state.backlog + 1 ∧ (0 < state.backlog → state.iterate.work < 8 * state.backlog) := by
  unfold iterate
  split
  · next stopped rest interrupted =>
    simp only [work, backlog, interrupted, List.length_cons, Stage.rank]
    omega
  · next interrupted =>
    split
    · next item rest pending =>
      simp only [work, backlog, pending, interrupted, List.length_cons, List.length_nil, Stage.rank]
      omega
    · next pending =>
      simp only [work, backlog, pending, interrupted, List.length_nil]
      split <;> simp [Stage.rank]

theorem endIteration_work :
    state.endIteration.work ≤ 8 * state.backlog + 1 ∧ (0 < state.backlog → state.endIteration.work ≤ 8 * state.backlog) := by
  unfold endIteration
  split
  · simp only [work, backlog, Stage.rank]
    omega
  · have steps := iterate_work state
    omega

theorem endTurn_work (item : QueueItem) : (state.endTurn item).work ≤ 8 * state.backlog + 1 :=
  (endIteration_work _).1

theorem recover_work (item : QueueItem) (errorCode : Option String) :
    (state.recover item errorCode).work = 8 * state.backlog + 3 := rfl

theorem prepareMore_work (waits : 0 < state.backlog) (rest : List String) : (state.prepareMore rest).work ≤ 8 * state.backlog := by
  unfold prepareMore
  split
  · next empty =>
    simp only [Bool.and_eq_true, List.isEmpty_iff] at empty
    simp [backlog, empty] at waits
  · exact (endIteration_work _).2 waits

theorem childEnded_work (item : QueueItem) (outcome : ChildOutcome) :
    (state.childEnded item outcome).work ≤ 8 * state.backlog + 4 := by
  cases outcome with
  | fails code => simp only [childEnded, recover_work]; omega
  | cancelled => simp only [childEnded, recover_work]; omega
  | result result =>
    unfold childEnded
    dsimp only
    split
    · exact (endTurn_work _ item).trans (by simp [backlog])
    · split
      · exact (endTurn_work _ item).trans (by omega)
      · split
        · exact (endTurn_work _ item).trans (by omega)
        · split
          · rw [recover_work]
            simp [backlog]
          · simp [work, backlog, Stage.rank]

variable {state}

theorem waits_of_busy (busy : ¬ state.Drained) (free : state.stage.free = true) : 0 < state.backlog := by
  refine Nat.pos_of_ne_zero fun empty => busy ?_
  have empty := Nat.add_eq_zero_iff.mp empty
  exact ⟨List.length_eq_zero_iff.mp empty.1, List.length_eq_zero_iff.mp empty.2, free⟩

theorem settled_work (answered : state.stage.answeredBy .settles = true) (busy : ¬ state.Drained) : state.settled.work < state.work := by
  unfold settled
  have before : state.work = 8 * state.backlog + state.stage.rank := rfl
  cases stage : state.stage with
  | discarding stopped =>
    rw [before, stage]
    exact Nat.lt_succ_self _
  | finishing stopped =>
    rw [before, stage]
    exact Nat.lt_succ_of_le (endIteration_work _).1
  | skipping item =>
    rw [before, stage]
    dsimp only
    split
    · exact Nat.lt_succ_self _
    · exact Nat.lt_of_le_of_lt (endTurn_work _ item) (by simp [backlog, Stage.rank])
  | completing item completion =>
    rw [before, stage]
    dsimp only
    split
    · exact Nat.lt_succ_self _
    · exact Nat.lt_of_le_of_lt (endTurn_work _ item) (by simp [Stage.rank])
  | recovering item completion =>
    rw [before, stage]
    dsimp only
    split
    · exact Nat.lt_of_le_of_lt (endTurn_work _ item) (by simp [backlog, Stage.rank])
    · exact Nat.lt_succ_self _
  | closing item completion =>
    rw [before, stage]
    exact Nat.lt_succ_of_le (endTurn_work _ item)
  | retiring item rest =>
    rw [before, stage]
    exact Nat.lt_succ_of_le (prepareMore_work state (waits_of_busy busy (by rw [stage]; rfl)) rest)
  | _ =>
    rw [stage] at answered
    cases answered

theorem resumed_work (answered : state.stage.answeredBy .resumes = true) (busy : ¬ state.Drained) : state.resumed.work < state.work := by
  have waits := waits_of_busy busy (by cases stage : state.stage <;> rw [stage] at answered <;> first | rfl | cases answered)
  have some_ : (state.pending.isEmpty && state.interrupted.isEmpty) = false := by
    cases empty : state.pending.isEmpty && state.interrupted.isEmpty with
    | false => rfl
    | true =>
      simp only [Bool.and_eq_true, List.isEmpty_iff] at empty
      simp [backlog, empty] at waits
  unfold resumed
  have before : state.work = 8 * state.backlog + state.stage.rank := rfl
  simp only [some_, Bool.false_eq_true, if_false]
  cases stage : state.stage with
  | starting =>
    rw [before, stage]
    exact (iterate_work _).2 waits
  | idle | pausing _ | monitoring =>
    rw [before, stage]
    exact Nat.lt_succ_of_le ((endIteration_work _).2 waits)
  | _ =>
    rw [stage] at answered
    cases answered

theorem checked_work (item : QueueItem) {check : TurnCheck} (answer : check ≠ .paused) :
    (state.checked item check).work ≤ 8 * state.backlog + 5 := by
  unfold checked
  split
  · simp [recover_work]
  · cases check with
    | paused => exact absurd rfl answer
    | skip => simp [work, backlog, Stage.rank]
    | ready => simp [work, backlog, Stage.rank]
    | fails code => simp [recover_work]

theorem answer_work {event : SupervisorEvent} (answered : state.stage.answeredBy event = true) (busy : ¬ state.Drained) :
    (state.step event).work < state.work := by
  have before : state.work = 8 * state.backlog + state.stage.rank := rfl
  cases event with
  | enqueues item => cases stage : state.stage <;> rw [stage] at answered <;> cases answered
  | stops signal => cases stage : state.stage <;> rw [stage] at answered <;> cases answered
  | settles => exact settled_work answered busy
  | resumes => exact resumed_work answered busy
  | checks check =>
    cases stage : state.stage with
    | checking item =>
      rw [stage] at answered
      rw [before, stage]
      simp only [step, stage]
      exact Nat.lt_succ_of_le (checked_work item (of_decide_eq_true answered))
    | _ => rw [stage] at answered; cases answered
  | childEnds outcome =>
    cases stage : state.stage with
    | running item =>
      rw [before, stage]
      simp only [step, stage]
      exact Nat.lt_succ_of_le (childEnded_work state item outcome)
    | _ => rw [stage] at answered; cases answered
  | prepares prepared_ =>
    cases stage : state.stage with
    | preparing missionId revision rest =>
      have waits := waits_of_busy busy (by rw [stage]; rfl)
      rw [stage] at answered
      rw [before, stage]
      simp only [step, stage]
      cases prepared_ with
      | waiting => exact Nat.lt_succ_of_le (prepareMore_work state waits rest)
      | done => exact Nat.lt_succ_of_le (prepareMore_work { state with
          monitoring := state.monitoring.filter fun id => id ≠ missionId } waits rest)
      | ready _ _ => cases answered
    | _ => rw [stage] at answered; cases answered

theorem drains {events : List SupervisorEvent} (answered : Answered state events) (enough : state.work ≤ events.length) :
    ∃ part, part <+: events ∧ (part.foldl step state).Drained := by
  induction events generalizing state with
  | nil =>
    have none_ : state.work = 0 := Nat.le_zero.mp enough
    simp only [work, backlog] at none_
    have free : state.stage.free = true := by
      cases stage : state.stage <;> rw [stage] at none_ <;> first | rfl | (simp only [Stage.rank] at none_; omega)
    have drained : state.Drained := ⟨List.length_eq_zero_iff.mp (by omega), List.length_eq_zero_iff.mp (by omega), free⟩
    exact ⟨[], List.nil_prefix, drained⟩
  | cons event rest ih =>
    by_cases busy : state.Drained
    · exact ⟨[], List.nil_prefix, busy⟩
    · have less := answer_work answered.1 busy
      obtain ⟨part, inside, drained⟩ := ih answered.2 (by simp only [List.length_cons] at enough; omega)
      exact ⟨event :: part, List.cons_prefix_cons.mpr ⟨rfl, inside⟩, drained⟩

end Supervisor

open SpaceApp.Foundation

/-- A run begins: what the queue holds was taken in before. -/
structure Start (state : Supervisor) : Prop where
  accepted : state.accepted = state.pending ++ state.interrupted.map (·.item)
  traces : (state.accepted.map (·.traceId)).Nodup
  rooms : ∀ item ∈ state.pending, item.roomId = state.roomId
  reasons : ∀ entry ∈ state.interrupted, validReason entry.reason = true
  inactive : state.active = none
  stage : state.stage = .starting
  none_ : state.ran = [] ∧ state.left = [] ∧ state.stopped = [] ∧ state.refused = [] ∧ state.carried = []

theorem Start.sound {state : Supervisor} (start : Start state) : Sound state := by
  obtain ⟨ran, left, stopped, refused, carried⟩ := start.none_
  unfold Sound
  rw [start.stage]
  refine ⟨fun item => ?_, start.traces, by rw [ran]; nofun, by rw [ran]; exact .nil, by rw [left]; nofun, trivial, by rw [stopped]; nofun,
    fun missionId => ?_, start.inactive, start.rooms, start.reasons, by rw [carried]; nofun, refused⟩
  · rw [start.accepted, left]
    simp [Stage.waiting, Stage.past]
  · rw [start.accepted, ran]
    exact List.filter_sublist.trans (List.sublist_append_left _ _)

/-- No turn is lost and none is repeated. -/
structure Kept (state : Supervisor) : Prop where
  placed : state.accepted.Perm
    (state.pending ++ state.interrupted.map (·.item) ++ (state.stage.waiting ++ state.stage.past) ++ state.left)
  alone : (state.accepted.map (·.traceId)).Nodup
  none_refused : state.refused = []
  once : state.ran.Nodup
  begun : ∀ item ∈ state.ran, item ∈ state.stage.past ∨ item ∈ state.left
  through : ∀ item ∈ state.left, item ∈ state.ran ∨ item ∈ state.discarded
  stopped : ∀ item ∈ state.stopped, item ∉ state.ran
  ordered : ∀ missionId, (state.ran.filter fun item => item.missionId = missionId).Sublist state.accepted
  fits : ∀ input ∈ state.carried, input.fits = true
  ends : ∀ events, Answered state events → state.work ≤ events.length →
    ∃ part, part <+: events ∧ (part.foldl Supervisor.step state).accepted.Perm (part.foldl Supervisor.step state).left

theorem Sound.placed {state : Supervisor} (sound : Sound state) : state.accepted.Perm
    (state.pending ++ state.interrupted.map (·.item) ++ (state.stage.waiting ++ state.stage.past) ++ state.left) := by
  refine List.perm_iff_count.mpr fun item => ?_
  have conserved := sound.conserved item
  simp only [List.count_append]
  omega

theorem answered_allowed {state : Supervisor} {event : SupervisorEvent} (answered : state.stage.answeredBy event = true) :
    Allowed state event = true := by
  cases event with
  | checks check =>
    cases check with
    | paused => cases stage : state.stage <;> simp [stage, Stage.answeredBy] at answered
    | _ => rfl
  | prepares prepared =>
    cases prepared with
    | ready _ _ => cases stage : state.stage <;> simp [stage, Stage.answeredBy] at answered
    | _ => rfl
  | enqueues item => cases stage : state.stage <;> simp [stage, Stage.answeredBy] at answered
  | _ => rfl

theorem Sound.answers {state : Supervisor} {events part : List SupervisorEvent} (sound : Sound state) (answered : Answered state events)
    (inside : part <+: events) : Sound (part.foldl Supervisor.step state) := by
  induction part generalizing state events with
  | nil => exact sound
  | cons event part ih =>
    cases events with
    | nil => cases List.prefix_nil.mp inside
    | cons first rest =>
      obtain ⟨rfl, shorter⟩ := List.cons_prefix_cons.mp inside
      exact ih (sound.step _ (answered_allowed answered.1)) answered.2 shorter

theorem Sound.kept {state : Supervisor} (sound : Sound state) : Kept state := by
  refine ⟨sound.placed, sound.traces, sound.refused, sound.once, sound.begun, sound.through, fun item among => (sound.doomed item among).1,
    fun missionId => ?_, sound.carried, fun events answered enough => ?_⟩
  · refine List.Sublist.trans (List.Sublist.filter _ ?_) (sound.ordered missionId)
    rw [List.append_assoc]
    exact List.sublist_append_left _ _
  · obtain ⟨part, inside, pending, interrupted, free⟩ := Supervisor.drains answered enough
    have placed := (sound.answers answered inside).placed
    obtain ⟨waiting, past, -⟩ := free_hands free
    rw [pending, interrupted, waiting, past] at placed
    exact ⟨part, inside, placed⟩

/-- In a run in which no paused turn has a turn of its mission behind it and a turn without a run id comes only while all others have
one, no turn is lost and none is repeated. -/
theorem turns_kept (start : Supervisor) (starts : Start start) (events : List SupervisorEvent)
    (may : AllowedRun (fun state event => Allowed state event = true) Supervisor.step start events) :
    Kept (events.foldl Supervisor.step start) := by
  have reached : Reached (fun state => state = start) (fun state event => Allowed state event = true) Supervisor.step
      (events.foldl Supervisor.step start) := Reached.run (.start rfl) may
  refine Sound.kept (Reached.invariant (fun state same => ?_) (fun state event sound may => sound.step event may) reached)
  rw [same]
  exact starts.sound

namespace Sample

def turn (missionId runId traceId : String) : QueueItem := {
  missionId
  roomId := "room"
  paneId := "pane"
  agentRunId := some runId
  traceId
  continuation := false }

def first : QueueItem := turn "mission" "run1" "trace1"

def second : QueueItem := turn "mission" "run2" "trace2"

def start : Supervisor := { roomId := "room" }

def done : TurnWorkflowResult := {
  status := .completed
  message := ""
  roomAgentOutcome := some { verified := true, statusReason := "Done.", pendingActionIds := [] } }

/-- Two turns of a mission; the one in hand is stopped with the other. -/
def stops : List SupervisorEvent :=
  [.resumes, .enqueues first, .resumes, .enqueues second, .stops { missionId := some "mission", reason := "Enough." }, .checks .ready,
    .settles, .settles, .settles, .settles]

/-- The first of two turns of a mission is put back behind the second. -/
def overtakes : List SupervisorEvent :=
  [.resumes, .enqueues first, .enqueues second, .resumes, .checks .paused, .resumes, .checks .ready, .childEnds (.result done),
    .checks .ready]

end Sample

theorem turns_kept_stopped :
    Kept (Sample.stops.foldl Supervisor.step Sample.start) ∧ (Sample.stops.foldl Supervisor.step Sample.start).ran = [] ∧
      (Sample.stops.foldl Supervisor.step Sample.start).left = [Sample.first, Sample.second] :=
  ⟨turns_kept Sample.start ⟨rfl, .nil, nofun, nofun, rfl, rfl, rfl, rfl, rfl, rfl, rfl⟩ Sample.stops (by decide +kernel), by decide +kernel,
    by decide +kernel⟩

/-- A turn found paused runs after the one enqueued behind it. -/
theorem paused_turn_overtaken : Start Sample.start ∧ (Sample.overtakes.foldl Supervisor.step Sample.start).accepted =
      [Sample.first, Sample.second] ∧
    (Sample.overtakes.foldl Supervisor.step Sample.start).ran = [Sample.second, Sample.first] ∧
    ¬ ∀ missionId, ((Sample.overtakes.foldl Supervisor.step Sample.start).ran.filter fun item => item.missionId = missionId).Sublist
      (Sample.overtakes.foldl Supervisor.step Sample.start).accepted :=
  ⟨⟨rfl, .nil, nofun, nofun, rfl, rfl, rfl, rfl, rfl, rfl, rfl⟩, by decide +kernel, by decide +kernel,
    fun ordered => absurd (ordered "mission") (by decide +kernel)⟩

end SpaceApp.Worker
