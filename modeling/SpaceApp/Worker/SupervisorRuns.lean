import SpaceApp.Foundation.Reach
import SpaceApp.Worker.SupervisorTurns

/-! The supervisor loses and repeats no turn: every order of signals, checks and child ends, over any number of runs. -/

set_option autoImplicit false

namespace SpaceApp.Worker

open SpaceApp.Foundation

def Sound (state : Supervisor) : Prop := SoundAt state state.stage

def fresh (state : Supervisor) (item : QueueItem) : Bool := state.accepted.all fun other => other.traceId ≠ item.traceId

/-- A turn put back because it is paused has no other turn of its mission behind it, and a turn without a run id comes only while
the active turn and all that wait have one. -/
def Allowed (state : Supervisor) : SupervisorEvent → Bool
  | .checks .paused =>
    match state.stage with
    | .checking item => state.cancelled || state.pending.all fun other => other.missionId ≠ item.missionId
    | _ => true
  | .enqueues item =>
    item.roomId ≠ state.roomId ||
      (fresh state item && (item.agentRunId.isSome ||
        (state.active.any fun active => active.agentRunId.isSome) && state.pending.all fun queued => queued.agentRunId.isSome))
  | .prepares (.ready paneId continuationId) =>
    match state.stage with
    | .preparing missionId _ _ => fresh state (state.continuationItem missionId paneId continuationId)
    | _ => true
  | _ => true

section

variable {state : Supervisor} {stage : Stage} {item : QueueItem}

theorem SoundAt.move (sound : SoundAt state stage) (next : Stage) (waiting : next.waiting = stage.waiting)
    (past : next.past = stage.past) (turn : next.turn = stage.turn) (reached : next.Reached state.ran state.discarded)
    (doomed : ∀ cancelled, stage.doomed cancelled ⊆ next.doomed cancelled) : SoundAt { state with stage := next } next :=
  ⟨by rw [waiting, past]; exact sound.conserved, sound.traces, by rw [past]; exact sound.begun, sound.once, sound.through, reached,
    fun item among => ⟨(sound.doomed item among).1, (sound.doomed item among).2.imp_right (Or.imp_left fun here => doomed _ here)⟩,
    by rw [waiting]; exact sound.ordered, by rw [turn]; exact sound.active, by rw [waiting]; exact sound.rooms,
    sound.reasons, sound.carried, sound.refused⟩

theorem SoundAt.watch (sound : SoundAt state stage) (monitoring : List String) (polls : Nat) :
    SoundAt { state with monitoring, polls } stage :=
  { sound with }

theorem SoundAt.discard (sound : SoundAt state stage) (more : List QueueItem) :
    SoundAt { state with discarded := state.discarded ++ more } stage := by
  refine { sound with
      through := fun item among => (sound.through item among).imp_right fun before => List.mem_append_left _ before,
      reached := ?_ }
  have reached := sound.reached
  cases stage <;> first | exact reached | exact List.mem_append_left _ reached

theorem SoundAt.paused (sound : SoundAt state (.checking item)) (uncancelled : state.cancelled = false)
    (alone : ∀ other ∈ state.pending, other.missionId ≠ item.missionId) : SoundAt { state with
      active := none
      processedCount := state.processedCount + 1
      pending := state.pending ++ [item]
      stage := .pausing state.signalRevision } (.pausing state.signalRevision) := by
  refine { sound with
      conserved := fun other => ?_, reached := trivial, doomed := fun other among => ?_, ordered := fun missionId => ?_,
      active := rfl, rooms := fun other among => ?_ }
  · have conserved := sound.conserved other
    simp only [List.count_append, Stage.waiting, Stage.past, List.count_nil] at conserved ⊢
    omega
  · obtain ⟨never, place⟩ := sound.doomed other among
    refine ⟨never, place.imp_right (Or.imp_left fun here => ?_)⟩
    simp [Stage.doomed, uncancelled] at here
  · have ordered := sound.ordered missionId
    simp only [Stage.waiting, List.append_nil, List.filter_append] at ordered ⊢
    by_cases own : item.missionId = missionId
    · have none_ : (state.pending.filter fun other => other.missionId = missionId) = [] :=
        List.filter_eq_nil_iff.mpr fun other among => by simpa [← own] using alone other among
      rw [none_, List.append_nil] at ordered
      rw [none_, List.nil_append]
      exact ordered
    · rw [show ([item].filter fun item => item.missionId = missionId) = [] from by simp [own], List.append_nil] at ordered ⊢
      exact ordered
  · rcases List.mem_append.mp among with before | last
    · cases before
    · exact sound.rooms other (by simpa [Stage.waiting, or_comm] using last)

theorem SoundAt.checked (sound : SoundAt state (.checking item)) (check : TurnCheck)
    (may : check = .paused → state.cancelled = true ∨ ∀ other ∈ state.pending, other.missionId ≠ item.missionId) :
    SoundAt (state.checked item check) (state.checked item check).stage := by
  unfold Supervisor.checked
  split
  · exact sound.recover rfl rfl none
  · next uncancelled =>
    have uncancelled := Bool.eq_false_iff.mpr uncancelled
    cases check with
    | paused => exact sound.paused uncancelled ((may rfl).resolve_left (by simp [uncancelled]))
    | skip => exact (sound.recover rfl rfl none).move (.skipping item) rfl rfl rfl trivial fun _ => List.Subset.refl _
    | fails code => exact sound.recover rfl rfl (some code)
    | ready =>
      obtain ⟨unrun, unleft, uninterrupted⟩ := sound.waiting_alone (List.mem_singleton.mpr (rfl : item = item))
      refine ⟨fun other => ?_, sound.traces, fun other among => ?_, ?_, fun other among => ?_, ?_, fun other among => ?_,
        fun missionId => ?_, sound.active, fun other among => sound.rooms other (List.mem_append_right _ among), sound.reasons,
        sound.carried, sound.refused⟩
      · have conserved := sound.conserved other
        simp only [Stage.waiting, Stage.past, List.count_nil] at conserved ⊢
        omega
      · rcases List.mem_append.mp among with before | last
        · exact (sound.begun other before).imp_left fun none_ => by cases none_
        · exact .inl last
      · exact List.nodup_append.mpr ⟨sound.once, List.nodup_singleton _, fun other among last alone same =>
          unrun (List.mem_singleton.mp alone ▸ same ▸ among)⟩
      · exact (sound.through other among).imp_left fun before => List.mem_append_left _ before
      · exact List.mem_append_right _ (List.mem_singleton.mpr rfl)
      · obtain ⟨never, place⟩ := sound.doomed other among
        have place : other ∈ state.interrupted.map (·.item) ∨ other ∈ state.left := by simpa [Stage.doomed, uncancelled] using place
        refine ⟨fun ran => ?_, place.imp_right .inr⟩
        rcases List.mem_append.mp ran with before | last
        · exact never before
        · rw [List.mem_singleton.mp last] at place
          exact place.elim uninterrupted unleft
      · have ordered := sound.ordered missionId
        simpa only [Stage.waiting, List.append_nil] using ordered

theorem SoundAt.childEnded (sound : SoundAt state (.running item)) (outcome : ChildOutcome) :
    SoundAt (state.childEnded item outcome) (state.childEnded item outcome).stage := by
  have ran : item ∈ state.ran := sound.reached
  cases outcome with
  | fails code => exact sound.recover rfl rfl (some code)
  | cancelled => exact sound.recover rfl rfl none
  | result result =>
    unfold Supervisor.childEnded
    dsimp only
    split
    · exact (sound.watch _ state.polls).endTurn rfl rfl (.inl ran)
    · split
      · exact sound.endTurn rfl rfl (.inl ran)
      · split
        · exact sound.endTurn rfl rfl (.inl ran)
        · have unmonitored := sound.watch (state.monitoring.filter fun id => id ≠ item.missionId) state.polls
          split
          · exact unmonitored.recover rfl rfl none
          · exact unmonitored.move (.completing item _) rfl rfl rfl ran fun _ => List.Subset.refl _

section
variable (sound : SoundAt state stage) (free : stage.free = true)

include sound free

theorem SoundAt.wait (next : Stage) (free_ : next.free = true) : SoundAt { state with stage := next } next :=
  (sound.relabel free free_).move next rfl rfl rfl ((free_hands free_).2.2.2.2 _ _) fun _ => List.Subset.refl _

theorem SoundAt.again (monitoring : List String) (polls : Nat) :
    SoundAt { state with monitoring, polls }.endIteration { state with monitoring, polls }.endIteration.stage :=
  ((show SoundAt state .idle from sound.relabel free rfl).watch monitoring polls).endIteration

theorem SoundAt.prepareNext (missions : List String) :
    SoundAt (state.prepareNext missions) (state.prepareNext missions).stage := by
  induction missions with
  | nil => exact sound.again free state.monitoring (state.polls + 1)
  | cons missionId rest ih =>
    unfold Supervisor.prepareNext
    split
    · exact sound.wait free (.preparing missionId state.signalRevision rest) rfl
    · exact ih

theorem SoundAt.prepareMore (rest : List String) : SoundAt (state.prepareMore rest) (state.prepareMore rest).stage := by
  unfold Supervisor.prepareMore
  split
  · exact sound.prepareNext free rest
  · exact sound.again free state.monitoring (state.polls + 1)

end

theorem SoundAt.resumed (sound : SoundAt state state.stage) : SoundAt state.resumed state.resumed.stage := by
  unfold Supervisor.resumed
  split
  · next stage => exact (show SoundAt state .idle from sound.relabel (by rw [stage]; rfl) rfl).iterate
  · next stage =>
    split
    · exact sound
    · exact sound.again (by rw [stage]; rfl) state.monitoring state.polls
  · next stage => exact sound.again (by rw [stage]; rfl) state.monitoring state.polls
  · next stage =>
    split
    · exact sound.prepareNext (by rw [stage]; rfl) state.monitoring
    · exact sound.again (by rw [stage]; rfl) state.monitoring (state.polls + 1)
  · exact sound

theorem SoundAt.put (sound : SoundAt state stage) (fresh : ∀ other ∈ state.accepted, other.traceId ≠ item.traceId)
    (room : item.roomId = state.roomId) : SoundAt (state.put item) stage := by
  unfold Supervisor.put enqueueRoomAgentMission
  split
  · exact sound
  · refine { sound with
      conserved := fun other => ?_, traces := ?_, ordered := fun missionId => ?_, rooms := fun other among => ?_ }
    · have conserved := sound.conserved other
      simp only [List.count_append] at conserved ⊢
      omega
    · rw [List.map_append, List.nodup_append]
      refine ⟨sound.traces, List.nodup_singleton _, fun trace among other alone same => ?_⟩
      obtain ⟨before, member, rfl⟩ := List.mem_map.mp among
      exact fresh before member (same.trans (List.mem_singleton.mp alone))
    · rw [← List.append_assoc, List.filter_append]
      exact (sound.ordered missionId).append List.filter_sublist
    · rw [← List.append_assoc] at among
      rcases List.mem_append.mp among with before | last
      · exact sound.rooms other before
      · rw [List.mem_singleton.mp last]
        exact room

theorem SoundAt.interrupt (sound : SoundAt state stage) (stale : QueueItem → Bool) {reason : String} (valid : validReason reason = true) :
    SoundAt { state with
      interrupted := state.interrupted ++ (state.pending.filter stale).map fun item => ({ item, reason } : Interrupted)
      pending := state.pending.filter fun queued => !stale queued } stage := by
  refine { sound with
      conserved := fun other => ?_, doomed := fun other among => ?_, ordered := fun missionId => ?_,
      rooms := fun other among => ?_, reasons := fun entry among => ?_ }
  · have conserved := sound.conserved other
    have parts := (List.filter_append_perm stale state.pending).count_eq other
    simp only [List.count_append, List.map_append, List.map_map, Function.comp_def, List.map_id'] at conserved parts ⊢
    omega
  · obtain ⟨never, place⟩ := sound.doomed other among
    exact ⟨never, place.imp_left fun before => by rw [List.map_append]; exact List.mem_append_left _ before⟩
  · refine List.Sublist.trans (List.Sublist.filter _ ?_) (sound.ordered missionId)
    exact (List.Sublist.refl _).append List.filter_sublist
  · refine sound.rooms other ((List.mem_append.mp among).elim (List.mem_append_left _) fun queued => ?_)
    exact List.mem_append_right _ (List.mem_of_mem_filter queued)
  · rcases List.mem_append.mp among with before | last
    · exact sound.reasons entry before
    · obtain ⟨_, -, rfl⟩ := List.mem_map.mp last
      exact valid

theorem doomed_cancelled (stage : Stage) (cancelled : Bool) : stage.doomed cancelled ⊆ stage.doomed true := by
  cases stage <;> cases cancelled <;> simp [Stage.doomed]

theorem SoundAt.cancel (sound : SoundAt state stage) (stopReason : String) :
    SoundAt { state with stopReason, cancelled := true } stage :=
  { 
      sound with doomed := fun item among => ⟨(sound.doomed item among).1, (sound.doomed item among).2.imp_right (Or.imp_left fun here => doomed_cancelled stage _ here)⟩ }

theorem SoundAt.tick (sound : SoundAt state stage) (signalRevision : Nat) : SoundAt { state with signalRevision } stage :=
  { sound with }

theorem SoundAt.supersede (sound : SoundAt state stage) (item : QueueItem) : SoundAt (state.supersede item) stage := by
  unfold Supervisor.supersede
  split
  · exact sound
  · have moved := sound.interrupt (fun queued => queued.missionId = item.missionId && queued.continuation)
      (show validReason "Superseded by a newer operator request." = true from by decide)
    dsimp only
    split
    · exact moved.cancel _
    · exact moved

theorem supersede_accepted (state : Supervisor) (item : QueueItem) : (state.supersede item).accepted = state.accepted := by
  unfold Supervisor.supersede
  dsimp only
  repeat (first | split | rfl)

theorem supersede_roomId (state : Supervisor) (item : QueueItem) : (state.supersede item).roomId = state.roomId := by
  unfold Supervisor.supersede
  dsimp only
  repeat (first | split | rfl)

/-- A turn that is turned away waits already, or is the active one. -/
theorem known_of_sameRun (same : state.sameRun item = true) (run : item.agentRunId.isSome = true ∨
    (state.active.any fun active => active.agentRunId.isSome) = true ∧ (state.pending.all fun queued => queued.agentRunId.isSome) = true) :
    state.known item = true := by
  have keys {other : QueueItem} (run : item.agentRunId.isSome = true) (same : other.agentRunId = item.agentRunId) :
      other.key = item.key := by
    obtain ⟨id, run⟩ := Option.isSome_iff_exists.mp run
    simp only [QueueItem.key, same, run, Option.getD_some]
  unfold Supervisor.sameRun at same
  unfold Supervisor.known
  rw [Bool.or_eq_true] at same ⊢
  rcases same with active | queued
  · refine .inl ?_
    have active := of_decide_eq_true active
    rcases run with run | ⟨one, -⟩
    · obtain ⟨id, run_⟩ := Option.isSome_iff_exists.mp run
      rw [run_] at active
      obtain ⟨turn, isTurn, runs⟩ := Option.bind_eq_some_iff.mp active
      rw [isTurn]
      exact decide_eq_true (keys run (runs.trans run_.symm))
    · cases isTurn : state.active with
      | none => rw [isTurn] at one; cases one
      | some turn =>
        rw [isTurn] at one active
        have run : item.agentRunId.isSome = true := by rw [← active]; exact one
        exact decide_eq_true (keys run active)
  · refine .inr ?_
    obtain ⟨other, among, same⟩ := List.any_eq_true.mp queued
    have same := of_decide_eq_true same
    refine List.any_eq_true.mpr ⟨other, among, decide_eq_true (keys ?_ same)⟩
    rcases run with run | ⟨-, all⟩
    · exact run
    · rw [← same]
      exact List.all_eq_true.mp all other among

theorem SoundAt.enqueued (sound : SoundAt state state.stage) (may : Allowed state (.enqueues item) = true) :
    SoundAt (state.enqueued item) (state.enqueued item).stage := by
  unfold Supervisor.enqueued
  split
  · exact sound
  · next room =>
    have room := not_not.mp room
    simp only [Allowed, room, ne_eq, not_true, decide_false, Bool.false_or, Bool.and_eq_true, Bool.or_eq_true, fresh, List.all_eq_true,
      decide_eq_true_eq] at may
    obtain ⟨fresh, run⟩ := may
    split
    · next same =>
      have known := known_of_sameRun same (run.imp_right fun both => ⟨both.1, List.all_eq_true.mpr both.2⟩)
      refine { sound with refused := ?_ }
      simpa only [known, if_true] using sound.refused
    · have accepted := supersede_accepted { state with signalRevision := state.signalRevision + 1 } item
      have roomId := supersede_roomId { state with signalRevision := state.signalRevision + 1 } item
      have put := ((sound.tick (state.signalRevision + 1)).supersede item).put (by rw [accepted]; exact fresh) (room.trans roomId.symm)
      have stage (other : Supervisor) : ((other.supersede item).put item).stage = other.stage := by
        unfold Supervisor.supersede Supervisor.put
        dsimp only
        repeat (first | split | rfl)
      rw [stage]
      exact put

/-- A continuation's answer. -/
theorem SoundAt.prepared (sound : SoundAt state stage) (free : stage.free = true) (missionId : String) (revision : Nat)
    (rest : List String) (prepared : Prepared)
    (may : ∀ paneId continuationId, prepared = .ready paneId continuationId →
      fresh state (state.continuationItem missionId paneId continuationId) = true) :
    SoundAt (state.prepared missionId revision rest prepared) (state.prepared missionId revision rest prepared).stage := by
  cases prepared with
  | waiting => exact sound.prepareMore free rest
  | done => exact (sound.watch _ state.polls).prepareMore free rest
  | ready paneId continuationId =>
    unfold Supervisor.prepared
    dsimp only
    split
    · exact sound.wait free _ rfl
    · have fresh := may paneId continuationId rfl
      simp only [Worker.fresh, List.all_eq_true, decide_eq_true_eq] at fresh
      exact (sound.put fresh rfl).prepareMore free rest

theorem SoundAt.settled (sound : SoundAt state state.stage) : SoundAt state.settled state.settled.stage := by
  unfold Supervisor.settled
  split
  · next stopped stage =>
    rw [stage] at sound
    exact (sound.discard [stopped.item]).move (.finishing stopped) rfl rfl rfl (List.mem_append_right _ (List.mem_singleton.mpr rfl))
      fun _ => List.Subset.refl _
  · next stopped stage =>
    rw [stage] at sound
    exact (sound.leave rfl rfl (.inr sound.reached) state.active sound.active state.cancelled (state.processedCount + 1)).endIteration
  · next item stage =>
    rw [stage] at sound
    split
    · exact sound.recover rfl rfl none
    · exact (sound.discard [item]).endTurn rfl rfl (.inr (List.mem_append_right _ (List.mem_singleton.mpr rfl)))
  · next item completion stage =>
    rw [stage] at sound
    split
    · exact sound.recover rfl rfl none
    · exact sound.endTurn rfl rfl (.inl sound.reached)
  · next item completion stage =>
    rw [stage] at sound
    have discarded : item ∈ state.discarded ++ [item] := List.mem_append_right _ (List.mem_singleton.mpr rfl)
    dsimp only
    split
    · exact (sound.discard [item]).endTurn rfl rfl (.inr discarded)
    · exact ((sound.discard [item]).watch (state.monitoring.filter fun id => id ≠ item.missionId) state.polls).move
        (.closing item completion) rfl rfl rfl discarded fun _ => List.Subset.refl _
  · next item completion stage =>
    rw [stage] at sound
    exact sound.endTurn rfl rfl (.inr sound.reached)
  · next item rest stage => exact sound.prepareMore (by rw [stage]; rfl) rest
  · exact sound

theorem SoundAt.stop (sound : SoundAt state state.stage) (signal : StopSignal) :
    SoundAt (state.stop signal) (state.stop signal).stage := by
  unfold Supervisor.stop
  dsimp only
  split
  · exact sound
  · next valid =>
    have valid : validReason (trimText signal.reason) = true := by simpa using valid
    have moved := ((sound.interrupt (fun queued => signal.covers queued.missionId) valid).tick (state.signalRevision + 1)).watch
      (state.monitoring.filter fun id => !signal.covers id) state.polls
    -- A covered turn that waits in the queue is interrupted now; one whose check is open is cancelled below.
    have covered {other : QueueItem} (among : other ∈ state.pending.filter fun item => signal.covers item.missionId) :
        other ∉ state.ran ∧ other ∈ (state.interrupted ++ (state.pending.filter fun item => signal.covers item.missionId).map
          fun item => ({ item, reason := trimText signal.reason } : Interrupted)).map (·.item) := by
      refine ⟨sound.pending_not_ran (List.mem_of_mem_filter among), List.mem_map.mpr ⟨⟨other, trimText signal.reason⟩, ?_, rfl⟩⟩
      exact List.mem_append_right _ (List.mem_map.mpr ⟨other, among, rfl⟩)
    have open_ {other : QueueItem} (among : other ∈ state.stage.waiting.filter fun item => signal.covers item.missionId) :
        other ∉ state.ran ∧ other ∈ state.stage.doomed true ∧ (state.active.any fun item => signal.covers item.missionId) = true := by
      obtain ⟨waits, covers⟩ := List.mem_filter.mp among
      refine ⟨(sound.waiting_alone waits).1, ?_⟩
      have active := sound.active
      cases stage : state.stage with
      | checking item =>
        rw [stage] at waits active
        rw [List.mem_singleton.mp waits] at covers ⊢
        exact ⟨List.mem_singleton.mpr rfl, by rw [active]; exact covers⟩
      | _ => rw [stage] at waits; cases waits
    split
    · have cancelled := moved.cancel (trimText signal.reason)
      refine { cancelled with doomed := fun other among => ?_ }
      rcases List.mem_append.mp among with before | waits
      · rcases List.mem_append.mp before with before | queued
        · exact cancelled.doomed other before
        · exact ⟨(covered queued).1, .inl (covered queued).2⟩
      · exact ⟨(open_ waits).1, .inr (.inl (open_ waits).2.1)⟩
    · next uncovered =>
      refine { moved with doomed := fun other among => ?_ }
      rcases List.mem_append.mp among with before | waits
      · rcases List.mem_append.mp before with before | queued
        · exact moved.doomed other before
        · exact ⟨(covered queued).1, .inl (covered queued).2⟩
      · exact absurd (open_ waits).2.2 uncovered

theorem Sound.step (sound : Sound state) (event : SupervisorEvent) (may : Allowed state event = true) : Sound (state.step event) := by
  unfold Sound at sound ⊢
  cases event with
  | enqueues item => exact sound.enqueued may
  | stops signal => exact sound.stop signal
  | settles => exact sound.settled
  | resumes => exact sound.resumed
  | checks check =>
    unfold Supervisor.step
    dsimp only
    split
    · next item stage =>
      rw [stage] at sound
      refine sound.checked check fun paused => ?_
      rw [paused] at may
      simpa [Allowed, stage] using may
    · exact sound
  | childEnds outcome =>
    unfold Supervisor.step
    dsimp only
    split
    · next item stage =>
      rw [stage] at sound
      exact sound.childEnded outcome
    · exact sound
  | prepares prepared =>
    unfold Supervisor.step
    dsimp only
    split
    · next missionId revision rest stage =>
      refine sound.prepared (by rw [stage]; rfl) missionId revision rest prepared fun paneId continuationId ready => ?_
      rw [ready] at may
      simpa only [Allowed, stage] using may
    · exact sound

end

end SpaceApp.Worker
