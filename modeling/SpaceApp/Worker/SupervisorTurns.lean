import Mathlib.Data.List.Count
import Mathlib.Data.List.Nodup
import SpaceApp.Worker.RoomSupervisor

/-! Where each turn of a supervisor is: what its loop and its signals keep of that. -/

set_option autoImplicit false

namespace SpaceApp.Worker

namespace Stage

/-- The turn in hand that is not to be started any more, or was. -/
def past : Stage → List QueueItem
  | .discarding stopped => [stopped.item]
  | .finishing stopped => [stopped.item]
  | .skipping item => [item]
  | .running item => [item]
  | .completing item _ => [item]
  | .recovering item _ => [item]
  | .closing item _ => [item]
  | _ => []

/-- The turn in hand that will not run. -/
def doomed (cancelled : Bool) : Stage → List QueueItem
  | .discarding stopped => [stopped.item]
  | .finishing stopped => [stopped.item]
  | .checking item => if cancelled then [item] else []
  | .skipping item => [item]
  | .recovering item _ => [item]
  | .closing item _ => [item]
  | _ => []

def turn : Stage → Option QueueItem
  | .checking item => some item
  | .skipping item => some item
  | .running item => some item
  | .completing item _ => some item
  | .recovering item _ => some item
  | .closing item _ => some item
  | _ => none

def Reached (ran discarded : List QueueItem) : Stage → Prop
  | .finishing stopped => stopped.item ∈ discarded
  | .running item => item ∈ ran
  | .completing item _ => item ∈ ran
  | .closing item _ => item ∈ discarded
  | _ => True

def free : Stage → Bool
  | .starting | .idle | .pausing _ | .monitoring | .preparing .. | .retiring .. => true
  | _ => false

end Stage

/-- The turns of a state whose loop is at this stage. -/
structure SoundAt (state : Supervisor) (stage : Stage) : Prop where
  conserved : ∀ item, state.accepted.count item = state.pending.count item + (state.interrupted.map (·.item)).count item +
    stage.waiting.count item + stage.past.count item + state.left.count item
  traces : (state.accepted.map (·.traceId)).Nodup
  begun : ∀ item ∈ state.ran, item ∈ stage.past ∨ item ∈ state.left
  once : state.ran.Nodup
  through : ∀ item ∈ state.left, item ∈ state.ran ∨ item ∈ state.discarded
  reached : stage.Reached state.ran state.discarded
  doomed : ∀ item ∈ state.stopped, item ∉ state.ran ∧
    (item ∈ state.interrupted.map (·.item) ∨ item ∈ stage.doomed state.cancelled ∨ item ∈ state.left)
  ordered : ∀ missionId, ((state.ran ++ stage.waiting ++ state.pending).filter fun item => item.missionId = missionId).Sublist
    state.accepted
  active : state.active = stage.turn
  rooms : ∀ item ∈ stage.waiting ++ state.pending, item.roomId = state.roomId
  reasons : ∀ entry ∈ state.interrupted, validReason entry.reason = true
  carried : ∀ input ∈ state.carried, input.fits = true
  refused : state.refused = []

section

variable {state : Supervisor} {stage other : Stage} {item : QueueItem}

theorem SoundAt.single (sound : SoundAt state stage) (item : QueueItem) : state.accepted.count item ≤ 1 :=
  List.nodup_iff_count_le_one.mp (List.Nodup.of_map _ sound.traces) item

/-- A turn that waits has not run. -/
theorem SoundAt.pending_not_ran (sound : SoundAt state stage) (waits : item ∈ state.pending) : item ∉ state.ran := by
  intro ran
  have conserved := sound.conserved item
  have single := sound.single item
  have here := List.count_pos_iff.mpr waits
  rcases sound.begun item ran with past | left
  · have there := List.count_pos_iff.mpr past
    omega
  · have there := List.count_pos_iff.mpr left
    omega

theorem SoundAt.waiting_alone (sound : SoundAt state stage) (waits : item ∈ stage.waiting) :
    item ∉ state.ran ∧ item ∉ state.left ∧ item ∉ state.interrupted.map (·.item) := by
  have conserved := sound.conserved item
  have single := sound.single item
  have here := List.count_pos_iff.mpr waits
  refine ⟨fun ran => ?_, fun left => ?_, fun interrupted => ?_⟩
  · rcases sound.begun item ran with past | left
    · have there := List.count_pos_iff.mpr past
      omega
    · have there := List.count_pos_iff.mpr left
      omega
  · have there := List.count_pos_iff.mpr left
    omega
  · have there := List.count_pos_iff.mpr interrupted
    omega

theorem free_hands (free : stage.free = true) : stage.waiting = [] ∧ stage.past = [] ∧ (∀ cancelled, stage.doomed cancelled = []) ∧
    stage.turn = none ∧ ∀ ran discarded, stage.Reached ran discarded := by
  cases stage <;> first | exact ⟨rfl, rfl, fun _ => rfl, rfl, fun _ _ => trivial⟩ | cases free

theorem SoundAt.relabel (sound : SoundAt state stage) (free : stage.free = true) (other_ : other.free = true) : SoundAt state other := by
  obtain ⟨waiting, past, doomed, turn, -⟩ := free_hands free
  obtain ⟨waiting_, past_, doomed_, turn_, reached⟩ := free_hands other_
  refine ⟨?_, sound.traces, ?_, sound.once, sound.through, reached _ _, ?_, ?_, ?_, ?_, sound.reasons, sound.carried, sound.refused⟩
  · simpa only [waiting, past, waiting_, past_] using sound.conserved
  · simpa only [past, past_] using sound.begun
  · simpa only [doomed, doomed_] using sound.doomed
  · simpa only [waiting, waiting_] using sound.ordered
  · simpa only [turn, turn_] using sound.active
  · simpa only [waiting, waiting_] using sound.rooms

theorem SoundAt.iterate (sound : SoundAt state .idle) : SoundAt state.iterate state.iterate.stage := by
  unfold Supervisor.iterate
  split
  · next stopped rest interrupted =>
    refine { sound with
        conserved := fun item => ?_, begun := fun item ran => ?_, reached := trivial, doomed := fun item among => ?_,
        reasons := fun entry among => ?_ }
    · have conserved := sound.conserved item
      simp only [interrupted, List.map_cons, List.count_cons, Stage.waiting, Stage.past, List.count_nil] at conserved ⊢
      omega
    · exact (sound.begun item ran).imp (fun past => by cases past) id
    · obtain ⟨never, place⟩ := sound.doomed item among
      refine ⟨never, ?_⟩
      simp only [interrupted, List.map_cons, List.mem_cons, Stage.doomed, List.not_mem_nil, false_or] at place ⊢
      tauto
    · exact sound.reasons entry (by rw [interrupted]; exact List.mem_cons_of_mem _ among)
  · next interrupted =>
    split
    · next item rest pending =>
      refine { sound with
          conserved := fun other => ?_, reached := trivial, doomed := fun other among => ?_, ordered := fun missionId => ?_,
          active := rfl, rooms := fun other among => ?_ }
      · have conserved := sound.conserved other
        simp only [pending, List.count_cons, Stage.waiting, Stage.past, List.count_nil] at conserved ⊢
        omega
      · exact ⟨(sound.doomed other among).1, (sound.doomed other among).2.imp id fun place => place.imp (fun none_ => by cases none_) id⟩
      · have ordered := sound.ordered missionId
        simp only [pending, Stage.waiting, List.append_nil] at ordered ⊢
        rw [List.append_assoc]
        exact ordered
      · exact sound.rooms other (by rw [pending]; exact among)
    · have at_ (other : Stage) (free : other.free = true) : SoundAt { state with stage := other } other := by
        have moved := sound.relabel rfl free
        exact { moved with }
      refine at_ _ ?_
      split <;> rfl

theorem SoundAt.endIteration (sound : SoundAt state .idle) : SoundAt state.endIteration state.endIteration.stage := by
  unfold Supervisor.endIteration
  split
  · next continues =>
    have fits := (Bool.and_eq_true _ _ ▸ continues : _ ∧ _).2
    simp only [Supervisor.carriedStateFits, ROOM_AGENT_SUPERVISOR_CARRY_LIMIT, Bool.and_eq_true] at fits
    have moved := sound.relabel rfl (rfl : Stage.starting.free = true)
    refine { moved with carried := fun input among => ?_ }
    rcases List.mem_append.mp among with before | last
    · exact sound.carried input before
    · rw [List.mem_singleton.mp last]
      simp only [SupervisorInput.fits, Supervisor.carry, Bool.and_eq_true, List.all_eq_true]
      exact ⟨⟨⟨⟨fits.1.1, fits.2⟩, fits.1.2⟩, sound.reasons⟩, fun item among => decide_eq_true (sound.rooms item (List.mem_append_right _ among))⟩
  · exact sound.iterate

section
variable (sound : SoundAt state stage) (past : stage.past = [item]) (waiting : stage.waiting = [])
  (settled : item ∈ state.ran ∨ item ∈ state.discarded)

include sound past waiting settled

theorem SoundAt.leave (active : Option QueueItem) (none_ : active = none) (cancelled : Bool) (processedCount : Nat) :
    SoundAt { state with active, cancelled, processedCount, left := state.left ++ [item] } .idle := by
  refine ⟨fun other => ?_, sound.traces, fun other ran => ?_, sound.once, fun other among => ?_, trivial,
    fun other among => ?_, fun missionId => ?_, none_, fun other among => sound.rooms other (List.mem_append_right _ among), sound.reasons,
    sound.carried, sound.refused⟩
  · have conserved := sound.conserved other
    rw [past, waiting] at conserved
    simp only [List.count_append, Stage.waiting, Stage.past, List.count_nil] at conserved ⊢
    omega
  · rcases sound.begun other ran with here | left
    · rw [past] at here
      exact .inr (List.mem_append_right _ here)
    · exact .inr (List.mem_append_left _ left)
  · rcases List.mem_append.mp among with before | last
    · exact sound.through other before
    · rw [List.mem_singleton.mp last]
      exact settled
  · obtain ⟨never, place⟩ := sound.doomed other among
    refine ⟨never, ?_⟩
    rcases place with interrupted | here | left
    · exact .inl interrupted
    · refine .inr (.inr (List.mem_append_right _ ?_))
      rw [← past]
      cases stage <;> first | exact here | cases here | cases waiting
    · exact .inr (.inr (List.mem_append_left _ left))
  · have ordered := sound.ordered missionId
    rw [waiting] at ordered
    exact ordered

theorem SoundAt.endTurn : SoundAt (state.endTurn item) (state.endTurn item).stage :=
  (sound.leave past waiting settled none rfl false (state.processedCount + 1)).endIteration

end

/-- A turn that fails or is cancelled is not started any more. -/
theorem SoundAt.recover (sound : SoundAt state stage) (hand : stage.waiting ++ stage.past = [item]) (turn : stage.turn = some item)
    (errorCode : Option String) : SoundAt (state.recover item errorCode) (state.recover item errorCode).stage := by
  refine ⟨fun other => ?_, sound.traces, fun other ran => ?_, sound.once, sound.through, trivial, fun other among => ?_,
    fun missionId => ?_, sound.active.trans turn, fun other among => sound.rooms other (List.mem_append_right _ among), sound.reasons,
    sound.carried, sound.refused⟩
  · have conserved := sound.conserved other
    have both := congrArg (List.count other) hand
    rw [List.count_append] at both
    simp only [Supervisor.recover, Stage.waiting, Stage.past, List.count_nil]
    omega
  · refine (sound.begun other ran).imp_left fun past => ?_
    show other ∈ [item]
    rw [← hand]
    exact List.mem_append_right _ past
  · obtain ⟨never, place⟩ := sound.doomed other among
    refine ⟨never, place.imp_right (Or.imp_left fun here => ?_)⟩
    show other ∈ [item]
    rw [← hand]
    cases stage with
    | checking item_ =>
      have here_ : other ∈ if state.cancelled then [item_] else [] := here
      split at here_
      · exact here_
      · cases here_
    | discarding _ | finishing _ | skipping _ | recovering _ _ | closing _ _ => exact here
    | _ => cases here
  · refine List.Sublist.trans (List.Sublist.filter _ ?_) (sound.ordered missionId)
    simp only [Supervisor.recover, Stage.waiting, List.append_nil]
    exact (List.sublist_append_left _ _).append (List.Sublist.refl _)

end

end SpaceApp.Worker
