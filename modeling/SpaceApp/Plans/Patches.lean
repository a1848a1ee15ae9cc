import SpaceApp.Plans.Controller
import SpaceApp.Plans.Progress

/-! Every patch of the controller and of the operators keeps the record sound. -/

set_option autoImplicit false

namespace SpaceApp.Plans

open SpaceApp.Foundation

section

variable {limit : ℤ} {view : ManagedPlanExecution} {patch : ManagedPlanExecutionPatch}

theorem startId_kept (pendingCommand : patch.pendingCommand = none) : startId (patched view patch) = startId view := by
  simp [startId, patched, pendingCommand]

theorem startId_settings {pending : Option ManagedPlanCommand} (pendingCommand : patch.pendingCommand = some pending)
    (settings : ∀ command, pending = some command → command.type ≠ .start) : startId (patched view patch) = none := by
  cases started : startId (patched view patch) with
  | none => rfl
  | some id =>
    obtain ⟨command, found, type, -⟩ := startId_some.mp started
    simp only [patched, pendingCommand, Option.getD_some] at found
    exact absurd type (settings command found)

section
variable (sound : Sound limit view) (attempts : patch.attempts = none) (completedStageIds : patch.completedStageIds = none)
  (activeStageIndex : patch.activeStageIndex = none)

include sound attempts completedStageIds activeStageIndex

theorem lawful_quiet (start : startId (patched view patch) = startId view)
    (interrupted : (patch.interruptCommand.getD view.interruptCommand).isSome → (startId view).isSome)
    (status : patch.status ≠ some .completed) : Lawful limit view patch := by
  intro next applied
  have progress := sound.progress.patched applied completedStageIds activeStageIndex status
  obtain ⟨rfl, -⟩ := applied_patched applied
  have same : (patched view patch).attempts = view.attempts := by simp [patched, attempts]
  exact ⟨⟨progress, sound.attempts.unchanged same start interrupted⟩, Kept.of_keys (congrArg keys same)⟩

theorem lawful_status (pendingCommand : patch.pendingCommand = none) (interruptCommand : patch.interruptCommand = none)
    (status : patch.status ≠ some .completed) : Lawful limit view patch := by
  apply lawful_quiet sound attempts completedStageIds activeStageIndex (startId_kept pendingCommand) ?_ status
  intro some
  rw [interruptCommand] at some
  exact sound.attempts.interrupted some

theorem lawful_settings {pending : Option ManagedPlanCommand} (idle : startId view = none) (interruptCommand : patch.interruptCommand = none)
    (pendingCommand : patch.pendingCommand = some pending)
    (settings : ∀ command, pending = some command → command.type ≠ .start) (status : patch.status ≠ some .completed) :
    Lawful limit view patch := by
  apply lawful_quiet sound attempts completedStageIds activeStageIndex ?_ ?_ status
  · rw [idle]
    exact startId_settings pendingCommand settings
  · intro some
    rw [interruptCommand] at some
    exact sound.attempts.interrupted some

theorem lawful_interrupt (started : (startId view).isSome) (pendingCommand : patch.pendingCommand = none)
    (status : patch.status ≠ some .completed) : Lawful limit view patch :=
  lawful_quiet sound attempts completedStageIds activeStageIndex (startId_kept pendingCommand) (fun _ => started) status

end

theorem lawful_settled {attempts : List ManagedPlanAttempt} (sound : Sound limit view)
    (replaced : patch.attempts = some attempts) (same : keys attempts = keys view.attempts)
    (settled : ∀ attempt ∈ attempts, attempt.active = false) (pendingCommand : patch.pendingCommand = some none)
    (interruptCommand : patch.interruptCommand = some none) (completedStageIds : patch.completedStageIds = none)
    (activeStageIndex : patch.activeStageIndex = none) (status : patch.status ≠ some .completed) :
    Lawful limit view patch := by
  intro next applied
  have progress := sound.progress.patched applied completedStageIds activeStageIndex status
  obtain ⟨rfl, -⟩ := applied_patched applied
  have now : (patched view patch).attempts = attempts := by simp [patched, replaced]
  have sameKeys : keys (patched view patch).attempts = keys view.attempts := by
    rw [now]
    exact same
  refine ⟨⟨progress, sound.attempts.settled sameKeys ?_ ?_ ?_⟩, Kept.of_keys sameKeys⟩
  · simp [patched, pendingCommand]
  · simp [patched, interruptCommand]
  · rw [now]
    exact settled

theorem keys_failAttempt (commandId : String) (now : ℚ) (attempts : List ManagedPlanAttempt) :
    keys (failAttempt commandId now attempts) = keys attempts := by
  apply keys_map
  intro attempt _
  split
  · rfl
  · rfl

theorem failAttempt_settled {commandId : String} {now : ℚ} (sound : Sound limit view)
    (started : startId view = some commandId) :
    ∀ attempt ∈ failAttempt commandId now view.attempts, attempt.active = false := by
  intro attempt member
  obtain ⟨before, found, rfl⟩ := List.mem_map.mp member
  by_cases own : before.commandId = commandId
  · rw [if_pos own]
    rfl
  · rw [if_neg own]
    exact sound.attempts.others started found own

theorem keys_putAttempt {attempt : ManagedPlanAttempt} (observed : ManagedPlanAttempt) (sound : Sound limit view)
    (member : attempt ∈ view.attempts) (same : observed.key = attempt.key) :
    keys (putAttempt observed view.attempts) = keys view.attempts := by
  have ids : observed.id = attempt.id := congrArg Prod.fst same
  apply keys_map
  intro other found
  split
  · next own =>
    rw [sound.attempts.same_id found member (own.trans ids)]
    exact same
  · rfl

theorem putAttempt_settled {attempt : ManagedPlanAttempt} {id : String} (closed : ManagedPlanAttempt)
    (sound : Sound limit view) (started : startId view = some id) (member : attempt ∈ view.attempts)
    (own : attempt.commandId = id) (same : closed.key = attempt.key) (settled : closed.active = false) :
    ∀ attempt ∈ putAttempt closed view.attempts, attempt.active = false := by
  have ids : closed.id = attempt.id := congrArg Prod.fst same
  intro other inside
  obtain ⟨before, found, rfl⟩ := List.mem_map.mp inside
  by_cases replaced : before.id = closed.id
  · rw [if_pos replaced]
    exact settled
  · rw [if_neg replaced]
    apply sound.attempts.others started found
    intro mine
    apply replaced
    rw [sound.attempts.same_command found member (mine.trans own.symm), ids]

theorem lawful_unaccepted {commandId : String} {error : DeliveryError} {state : Local}
    (sound : Sound limit state.execution) (started : startId state.execution = some commandId) :
    Lawful limit state.execution (unacceptedPatch commandId error state) := by
  have stays : (unacceptedPatch commandId error state).completedStageIds = none ∧
      (unacceptedPatch commandId error state).activeStageIndex = none := by
    unfold unacceptedPatch
    dsimp only
    split
    · split <;> exact ⟨rfl, rfl⟩
    · exact ⟨rfl, rfl⟩
  apply lawful_settled sound rfl (keys_failAttempt _ _ _) (failAttempt_settled sound started) rfl rfl stays.1 stays.2
  · unfold unacceptedPatch
    dsimp only
    split
    · split
      · simp [modelRetry]
      · split <;> simp
    · split
      · simp
      · split <;> simp

/-- `observed` is the attempt of the pending START, as it was observed. -/
def Observes (view : ManagedPlanExecution) (pending : ManagedPlanCommand) (observed : ManagedPlanAttempt) : Prop :=
  ∃ attempt ∈ view.attempts, attempt.commandId = pending.id ∧ observed.key = attempt.key

theorem lawful_stopped {pending : ManagedPlanCommand} {observed : ManagedPlanAttempt} {native : NativeTurn} {state : Local}
    (sound : Sound limit state.execution) (started : startId state.execution = some pending.id)
    (observes : Observes state.execution pending observed) :
    Lawful limit state.execution (stoppedPatch observed native state) := by
  obtain ⟨attempt, member, own, same⟩ := observes
  have closed : ({ observed with
      status := if native.status = .interrupted then .interrupted else .failed
      completedAt := some state.now } : ManagedPlanAttempt).active = false := by
    split <;> rfl
  have stays : (stoppedPatch observed native state).completedStageIds = none ∧
      (stoppedPatch observed native state).activeStageIndex = none := by
    unfold stoppedPatch
    dsimp only
    split
    · split <;> exact ⟨rfl, rfl⟩
    · exact ⟨rfl, rfl⟩
  apply lawful_settled sound rfl (keys_putAttempt _ sound member ?_)
    (putAttempt_settled _ sound started member own ?_ closed)
    rfl rfl stays.1 stays.2
  · unfold stoppedPatch
    dsimp only
    split
    · split
      · simp [modelRetry]
      · split
        · split <;> simp
        · simp
    · split
      · split <;> simp
      · simp
  · exact same
  · exact same

theorem completedPatch_attempts (stage : ManagedPlanStage) (observed : ManagedPlanAttempt)
    (result : Option ManagedPlanStageResult) (state : Local) :
    (completedPatch stage observed result state).attempts = some (putAttempt
      { observed with status := .completed, completedAt := some state.now, result } state.execution.attempts) := by
  unfold completedPatch
  split <;> rfl

theorem lawful_completed {stage : ManagedPlanStage} {pending : ManagedPlanCommand} {observed : ManagedPlanAttempt}
    {result : Option ManagedPlanStageResult} {state : Local} (sound : Sound limit state.execution)
    (started : startId state.execution = some pending.id) (observes : Observes state.execution pending observed)
    (found : state.execution.snapshot.stages[state.execution.activeStageIndex]? = some stage)
    (unfinished : state.execution.status ≠ .completed) :
    Lawful limit state.execution (completedPatch stage observed result state) := by
  obtain ⟨attempt, member, own, same⟩ := observes
  have closed : ({ observed with status := .completed, completedAt := some state.now, result } :
      ManagedPlanAttempt).active = false := rfl
  have sameKeys := keys_putAttempt { observed with status := .completed, completedAt := some state.now, result }
    sound member same
  have settled := putAttempt_settled { observed with status := .completed, completedAt := some state.now, result }
    sound started member own same closed
  unfold completedPatch
  dsimp only
  split
  · apply lawful_settled sound rfl sameKeys settled rfl rfl rfl rfl
    split
    · simp
    · split <;> simp
  · next result _ =>
    intro next applied
    obtain ⟨rfl, -⟩ := applied_patched applied
    refine ⟨⟨?_, sound.attempts.settled sameKeys rfl rfl settled⟩, Kept.of_keys sameKeys⟩
    have incomplete : state.execution.completedStageIds.length ≠ state.execution.snapshot.stages.length :=
      fun all => unfinished (sound.progress.finished.mpr all)
    by_cases through : result.outcome = .completed
    · apply sound.progress.completes found unfinished
      · rfl
      · simp [patched, through]
      · simp [patched, through]
      · simp only [patched, through, Option.getD_some, if_true, reduceCtorEq, if_false]
        split
        · next all => simp [all]
        · next left =>
          simp only [left, iff_false]
          split <;> simp
    · refine ⟨sound.progress.staged, ?_, ?_, ?_, ?_⟩
      · simpa [patched, through] using sound.progress.within
      · simpa [patched, through] using sound.progress.completed
      · simpa [patched, through, incomplete] using sound.progress.active
      · simp only [patched, through, Option.getD_some, if_false, incomplete, iff_false]
        split
        · simp
        · split <;> simp

theorem lawful_restated (change : ManagedPlanAttempt → ManagedPlanAttempt) (pending : ManagedPlanCommand)
    (sound : Sound limit view) (started : startId view = some pending.id) (type : pending.type = .start)
    (replaced : patch.attempts = some (view.attempts.map change) ∨ patch.attempts = none)
    (same : ∀ attempt ∈ view.attempts, (change attempt).key = attempt.key ∧ (change attempt).active = attempt.active)
    (pendingCommand : patch.pendingCommand = some (some pending)) (completedStageIds : patch.completedStageIds = none)
    (activeStageIndex : patch.activeStageIndex = none) (status : patch.status ≠ some .completed) :
    Lawful limit view patch := by
  have kept : startId (patched view patch) = startId view := by
    rw [started, startId_some]
    exact ⟨pending, by simp [patched, pendingCommand], type, rfl⟩
  have interrupted : (patched view patch).interruptCommand.isSome → (startId view).isSome := by
    intro _
    rw [started]
    rfl
  rcases replaced with replaced | left
  · intro next applied
    have progress := sound.progress.patched applied completedStageIds activeStageIndex status
    obtain ⟨rfl, -⟩ := applied_patched applied
    have now : (patched view patch).attempts = view.attempts.map change := by simp [patched, replaced]
    have sameKeys : keys (patched view patch).attempts = keys view.attempts := by
      rw [now]
      exact keys_map fun attempt member => (same attempt member).1
    refine ⟨⟨progress, sound.attempts.rekeyed sameKeys ?_ ?_ ?_⟩, Kept.of_keys sameKeys⟩
    · rw [now, kept]
      intro attempt member live
      obtain ⟨before, found, rfl⟩ := List.mem_map.mp member
      obtain ⟨sameKey, sameLive⟩ := same before found
      rw [sameLive] at live
      have ids : (change before).commandId = before.commandId := congrArg (fun key => key.2.1) sameKey
      rw [ids]
      exact sound.attempts.pending before found live
    · rw [now, kept]
      intro id start
      obtain ⟨attempt, member, live, own⟩ := sound.attempts.attempted id start
      obtain ⟨sameKey, sameLive⟩ := same attempt member
      refine ⟨change attempt, List.mem_map_of_mem member, sameLive.trans live, ?_⟩
      exact (congrArg (fun key => key.2.1) sameKey).trans own
    · rw [kept]
      exact interrupted
  · exact lawful_quiet sound left completedStageIds activeStageIndex kept
      (by
        intro _
        rw [started]
        rfl) status

theorem lawful_start {start : ManagedPlanCommand} {attempt : ManagedPlanAttempt} (sound : Sound limit view)
    (idle : startId view = none) (type : start.type = .start) (own : attempt.commandId = start.id)
    (live : attempt.active = true)
    (room : (((keys view.attempts).filter fun key => key.2.2 = attempt.stageId).length : ℤ) < limit)
    (freshId : ∀ key ∈ keys view.attempts, key.1 ≠ attempt.id)
    (freshCommand : ∀ key ∈ keys view.attempts, key.2.1 ≠ attempt.commandId) :
    Lawful limit view { pendingCommand := some (some start), attempts := some (view.attempts ++ [attempt]) } := by
  intro next applied
  have progress := sound.progress.patched applied rfl rfl (by simp)
  obtain ⟨rfl, -⟩ := applied_patched applied
  have started : startId (patched view
      { pendingCommand := some (some start), attempts := some (view.attempts ++ [attempt]) }) = some start.id :=
    startId_some.mpr ⟨start, rfl, type, rfl⟩
  have grown : keys (view.attempts ++ [attempt]) = keys view.attempts ++ [attempt.key] := by
    simp [keys]
  refine ⟨⟨progress, ?_⟩, ?_⟩
  · constructor
    · intro other member otherLive
      rw [started]
      rcases List.mem_append.mp member with before | new
      · rw [sound.attempts.idle idle other before] at otherLive
        cases otherLive
      · rw [List.mem_singleton.mp new, own]
    · intro id same
      rw [started] at same
      refine ⟨attempt, List.mem_append_right _ (List.mem_singleton.mpr rfl), live, ?_⟩
      rw [own]
      exact Option.some.inj same
    · intro _
      rw [started]
      rfl
    · intro stageId
      show (((keys (view.attempts ++ [attempt])).filter fun key => key.2.2 = stageId).length : ℤ) ≤ limit
      rw [grown, List.filter_append, List.length_append]
      by_cases same : attempt.stageId = stageId
      · subst same
        simp [ManagedPlanAttempt.key]
        omega
      · simp only [ManagedPlanAttempt.key, List.filter_cons, same, decide_false, Bool.false_eq_true, if_false,
          List.filter_nil, List.length_nil, Nat.add_zero]
        exact sound.attempts.limited stageId
    · show ((keys (view.attempts ++ [attempt])).map (·.1)).Nodup
      rw [grown, List.map_append, List.nodup_append]
      refine ⟨sound.attempts.idsDistinct, List.nodup_singleton _, ?_⟩
      intro id member other last
      obtain ⟨key, found, rfl⟩ := List.mem_map.mp member
      rw [List.mem_singleton.mp last]
      exact freshId key found
    · show ((keys (view.attempts ++ [attempt])).map (·.2.1)).Nodup
      rw [grown, List.map_append, List.nodup_append]
      refine ⟨sound.attempts.commandsDistinct, List.nodup_singleton _, ?_⟩
      intro id member other last
      obtain ⟨key, found, rfl⟩ := List.mem_map.mp member
      rw [List.mem_singleton.mp last]
      exact freshCommand key found
  · intro key member
    show key ∈ keys (view.attempts ++ [attempt])
    rw [grown]
    exact List.mem_append_left _ member

theorem lawful_operatorInterrupt {reason : InterruptReason} {id : String} {now : ℚ} (sound : Sound limit view)
    (overrides : Option (String → Option StageModelSelection)) :
    Lawful limit view { interrupt view reason id now with overrides } := by
  unfold interrupt
  split
  · next none =>
    have idle : startId view = Option.none := by
      unfold startId
      rw [none]
      rfl
    apply lawful_quiet sound rfl rfl rfl
    · rw [idle]
      rfl
    · intro some
      simp at some
    · split
      · simp
      · split <;> simp
  · next start found =>
    have started : (startId view).isSome := by
      unfold startId
      rw [found]
      rfl
    exact lawful_interrupt sound rfl rfl rfl started rfl (by simp)

theorem lawful_operator {id : String} {now : ℚ} {change : OperatorChange} (sound : Sound limit view)
    (asked : operatorPatch view id now change = .ok patch) : Lawful limit view patch := by
  cases change with
  | control action =>
    simp only [operatorPatch, executionControlPatch] at asked
    split at asked
    · cases asked
    · split at asked
      · cases asked
        exact lawful_operatorInterrupt sound (interrupt view .pause id now).overrides
      · split at asked
        · cases asked
        · split at asked
          · cases asked
          · cases asked
            exact lawful_status sound rfl rfl rfl rfl rfl (by simp)
  | override stageId selection =>
    simp only [operatorPatch, stageOverridePatch] at asked
    split at asked
    · cases asked
    · split at asked
      · cases asked
        exact lawful_operatorInterrupt sound _
      · cases asked
        exact lawful_status sound rfl rfl rfl rfl rfl (by simp)

end

end SpaceApp.Plans
