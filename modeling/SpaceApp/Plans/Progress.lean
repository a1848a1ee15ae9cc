import SpaceApp.Plans.Execution

/-! What holds of the record of a managed plan execution, and the patches that keep it. -/

set_option autoImplicit false

namespace SpaceApp.Plans

def startId (record : ManagedPlanExecution) : Option String :=
  (record.pendingCommand.filter fun command => command.type = .start).map (·.id)

theorem startId_some {record : ManagedPlanExecution} {id : String} :
    startId record = some id ↔ ∃ command, record.pendingCommand = some command ∧ command.type = .start ∧ command.id = id := by
  simp only [startId, Option.map_eq_some_iff, Option.filter_eq_some_iff, decide_eq_true_eq]
  constructor
  · rintro ⟨command, ⟨pending, type⟩, same⟩
    exact ⟨command, pending, type, same⟩
  · rintro ⟨command, pending, type, same⟩
    exact ⟨command, ⟨pending, type⟩, same⟩

/-- What no later patch may change of an attempt. -/
def ManagedPlanAttempt.key (attempt : ManagedPlanAttempt) : String × String × String :=
  (attempt.id, attempt.commandId, attempt.stageId)

def keys (attempts : List ManagedPlanAttempt) : List (String × String × String) := attempts.map (·.key)

/-- The stages up to the `completedStageIds` are completed, and the next one is active. -/
structure StageProgress (record : ManagedPlanExecution) : Prop where
  staged : 0 < record.snapshot.stages.length
  within : record.completedStageIds.length ≤ record.snapshot.stages.length
  completed : record.completedStageIds = (record.snapshot.stages.map (·.id)).take record.completedStageIds.length
  active : record.activeStageIndex = min record.completedStageIds.length (record.snapshot.stages.length - 1)
  finished : record.status = .completed ↔ record.completedStageIds.length = record.snapshot.stages.length

structure AttemptsKept (limit : ℤ) (record : ManagedPlanExecution) : Prop where
  pending : ∀ attempt ∈ record.attempts, attempt.active = true → startId record = some attempt.commandId
  attempted : ∀ id, startId record = some id → ∃ attempt ∈ record.attempts, attempt.active = true ∧ attempt.commandId = id
  interrupted : record.interruptCommand.isSome → (startId record).isSome
  limited : ∀ stageId, (((keys record.attempts).filter fun key => key.2.2 = stageId).length : ℤ) ≤ limit
  idsDistinct : ((keys record.attempts).map (·.1)).Nodup
  commandsDistinct : ((keys record.attempts).map (·.2.1)).Nodup

structure Sound (limit : ℤ) (record : ManagedPlanExecution) : Prop where
  progress : StageProgress record
  attempts : AttemptsKept limit record

def Kept (view next : ManagedPlanExecution) : Prop := ∀ key ∈ keys view.attempts, key ∈ keys next.attempts

/-- Where the repository takes the patch, the record stays sound and loses no attempt. -/
def Lawful (limit : ℤ) (view : ManagedPlanExecution) (patch : ManagedPlanExecutionPatch) : Prop :=
  ∀ next, applyPlanExecutionPatch view patch = .ok next → Sound limit next ∧ Kept view next

theorem new_sound (input : CreateManagedPlanExecution) {limit : ℤ} (positive : 0 ≤ limit) :
    Sound limit (newPlanExecution input) := by
  have staged : 0 < input.snapshot.stages.length := List.length_pos_of_ne_nil input.staged
  constructor
  · refine ⟨staged, ?_, ?_, ?_, ?_⟩
    · exact Nat.zero_le _
    · rfl
    · simp [newPlanExecution]
    · simp only [newPlanExecution, List.length_nil, reduceCtorEq, false_iff]
      omega
  · constructor
    · intro attempt member
      cases member
    · intro id started
      simp [startId, newPlanExecution] at started
    · intro some
      simp [newPlanExecution] at some
    · intro stageId
      simpa [keys, newPlanExecution] using positive
    · exact List.nodup_nil
    · exact List.nodup_nil

section

variable {record next : ManagedPlanExecution} {patch : ManagedPlanExecutionPatch} {limit : ℤ}

theorem isPlanExecutionActive_completed (completed : record.status = .completed) :
    isPlanExecutionActive record = false := by
  simp [isPlanExecutionActive, completed]

theorem StageProgress.patched (progress : StageProgress record)
    (applied : applyPlanExecutionPatch record patch = .ok next) (completedStageIds : patch.completedStageIds = none)
    (activeStageIndex : patch.activeStageIndex = none) (status : patch.status ≠ some .completed) :
    StageProgress next := by
  obtain ⟨rfl, allowed⟩ := applied_patched applied
  have sameIds : (Plans.patched record patch).completedStageIds = record.completedStageIds := by
    simp [Plans.patched, completedStageIds]
  have sameIndex : (Plans.patched record patch).activeStageIndex = record.activeStageIndex := by
    simp [Plans.patched, activeStageIndex]
  refine ⟨progress.staged, ?_, ?_, ?_, ?_⟩
  · rw [sameIds]
    exact progress.within
  · rw [sameIds]
    exact progress.completed
  · rw [sameIndex, sameIds]
    exact progress.active
  · rw [sameIds]
    show patch.status.getD record.status = .completed ↔ _
    refine Iff.trans ?_ progress.finished
    cases named : patch.status with
    | none => rfl
    | some chosen =>
      have incomplete : chosen ≠ .completed := by
        intro same
        exact status (named.trans (congrArg some same))
      simp only [Option.getD_some, incomplete, false_iff]
      intro finished
      -- a completed record takes no other status
      rcases allowed chosen named with active | same
      · rw [isPlanExecutionActive_completed finished] at active
        cases active
      · exact incomplete (same.trans finished)

theorem StageProgress.completes {stage : ManagedPlanStage} (progress : StageProgress record)
    (found : record.snapshot.stages[record.activeStageIndex]? = some stage) (unfinished : record.status ≠ .completed)
    (snapshot : next.snapshot = record.snapshot)
    (completedStageIds : next.completedStageIds = record.completedStageIds ++ [stage.id])
    (activeStageIndex : next.activeStageIndex =
      if next.completedStageIds.length = record.snapshot.stages.length then record.activeStageIndex
      else record.activeStageIndex + 1)
    (status : next.status = .completed ↔ next.completedStageIds.length = record.snapshot.stages.length) :
    StageProgress next := by
  have incomplete : record.completedStageIds.length < record.snapshot.stages.length :=
    Nat.lt_of_le_of_ne progress.within fun same => unfinished (progress.finished.mpr same)
  have index : record.activeStageIndex = record.completedStageIds.length := by
    rw [progress.active]
    omega
  have grown : next.completedStageIds.length = record.completedStageIds.length + 1 := by
    rw [completedStageIds, List.length_append, List.length_singleton]
  refine ⟨?_, ?_, ?_, ?_, ?_⟩
  · rw [snapshot]
    exact progress.staged
  · rw [snapshot, grown]
    exact incomplete
  · rw [snapshot, grown, completedStageIds, List.take_add_one, ← progress.completed, List.getElem?_map, ← index, found]
    rfl
  · rw [snapshot, activeStageIndex, grown, index]
    split
    · omega
    · omega
  · rw [snapshot]
    exact status

end

section

variable {record next : ManagedPlanExecution} {patch : ManagedPlanExecutionPatch} {limit : ℤ}

theorem mem_keys {attempts : List ManagedPlanAttempt} {attempt : ManagedPlanAttempt} (member : attempt ∈ attempts) :
    attempt.key ∈ keys attempts := List.mem_map_of_mem member

theorem keys_map {change : ManagedPlanAttempt → ManagedPlanAttempt} {attempts : List ManagedPlanAttempt}
    (same : ∀ attempt ∈ attempts, (change attempt).key = attempt.key) : keys (attempts.map change) = keys attempts := by
  unfold keys
  rw [List.map_map]
  exact List.map_congr_left same

section
variable (kept : AttemptsKept limit record)

include kept

section

variable {first second : ManagedPlanAttempt} (memberFirst : first ∈ record.attempts)
  (memberSecond : second ∈ record.attempts)

include memberFirst memberSecond

theorem AttemptsKept.same_command (same : first.commandId = second.commandId) : first = second := by
  have distinct := kept.commandsDistinct
  unfold keys at distinct
  rw [List.map_map] at distinct
  exact List.inj_on_of_nodup_map distinct memberFirst memberSecond same

theorem AttemptsKept.same_id (same : first.id = second.id) : first = second := by
  have distinct := kept.idsDistinct
  unfold keys at distinct
  rw [List.map_map] at distinct
  exact List.inj_on_of_nodup_map distinct memberFirst memberSecond same

end

theorem AttemptsKept.rekeyed (same : keys next.attempts = keys record.attempts)
    (pending : ∀ attempt ∈ next.attempts, attempt.active = true → startId next = some attempt.commandId)
    (attempted : ∀ id, startId next = some id → ∃ attempt ∈ next.attempts, attempt.active = true ∧ attempt.commandId = id)
    (interrupted : next.interruptCommand.isSome → (startId next).isSome) : AttemptsKept limit next where
  pending
  attempted
  interrupted
  limited := by
    rw [same]
    exact kept.limited
  idsDistinct := by
    rw [same]
    exact kept.idsDistinct
  commandsDistinct := by
    rw [same]
    exact kept.commandsDistinct

theorem AttemptsKept.unchanged (attempts : next.attempts = record.attempts) (start : startId next = startId record)
    (interrupted : next.interruptCommand.isSome → (startId record).isSome) : AttemptsKept limit next := by
  apply kept.rekeyed (congrArg keys attempts)
  · intro attempt member live
    rw [attempts] at member
    rw [start]
    exact kept.pending attempt member live
  · intro id started
    rw [start] at started
    rw [attempts]
    exact kept.attempted id started
  · rw [start]
    exact interrupted

theorem AttemptsKept.settled (same : keys next.attempts = keys record.attempts)
    (pendingCommand : next.pendingCommand = none) (interruptCommand : next.interruptCommand = none)
    (settled : ∀ attempt ∈ next.attempts, attempt.active = false) : AttemptsKept limit next := by
  have idle : startId next = none := by
    unfold startId
    rw [pendingCommand]
    rfl
  apply kept.rekeyed same
  · intro attempt member live
    rw [settled attempt member] at live
    cases live
  · intro id started
    rw [idle] at started
    cases started
  · intro some
    rw [interruptCommand] at some
    cases some

theorem AttemptsKept.idle (none : startId record = none) : ∀ attempt ∈ record.attempts, attempt.active = false := by
  intro attempt member
  by_contra live
  have started := kept.pending attempt member (by simpa using live)
  rw [none] at started
  cases started

/-- All attempts but that of the pending START are settled. -/
theorem AttemptsKept.others {id : String} (started : startId record = some id) {attempt : ManagedPlanAttempt}
    (member : attempt ∈ record.attempts) (other : attempt.commandId ≠ id) : attempt.active = false := by
  by_contra live
  have own := kept.pending attempt member (by simpa using live)
  rw [started] at own
  exact other (Option.some.inj own).symm

end

theorem Kept.of_keys {view : ManagedPlanExecution} (same : keys next.attempts = keys view.attempts) : Kept view next := by
  intro key member
  rw [same]
  exact member

end

end SpaceApp.Plans
