import SpaceApp.Plans.Steps

/-! The step of the controller from the claimed lease to its release, and the driver's calls of
`beforeSend`, keep to the rules. -/

set_option autoImplicit false

namespace SpaceApp.Plans

open SpaceApp.Foundation Dialogue

section

variable {options : ControllerOptions} {lease : PlanExecutionLease} {stored : Nat → ManagedPlanExecution} {alive : Prop}
  {known told : Known} {since state later began : Local} {view : Core} {synced : Prop}

theorem beforeCommand_holds {command : ManagedPlanCommand} (clear : Clear options stored alive known since state) :
    (beforeCommand lease command).Holds (rules options lease stored alive) known since state
      fun result told since later => Clear options stored alive told since later ∧
        (result = .ok () → ∃ expiry, told.expiry = some expiry ∧ since.now < expiry) := by
  refine Holds.andThen (resolve_holds clear) ?_ (fun _ _ _ _ gone => ⟨gone.clear, fun same => by cases same⟩)
  intro _ told since later gone
  refine Holds.andThen (readNative_holds gone.clear) ?_ (fun _ _ _ _ gone => ⟨gone.clear, fun same => by cases same⟩)
  intro latest told since later gone
  apply holds_demand
  · intro _
    refine Holds.andThen (resolve_holds gone.clear) ?_ (fun _ _ _ _ gone => ⟨gone.clear, fun same => by cases same⟩)
    intro _ told since later gone
    apply (fence_holds gone.clear).mono
    intro result told since later fenced
    exact ⟨fenced.1.clear, fenced.2⟩
  · intro _
    exact ⟨gone.clear, fun same => by cases same⟩

theorem interrupt_quiet (record : ManagedPlanExecution) (intent : ManagedPlanCommand) :
    core (patched record { interruptCommand := some (some intent) }) = core record :=
  core_quiet rfl rfl rfl (startId_kept rfl)

theorem beforeInterrupt_holds {turnId id : String} {intent : ManagedPlanCommand}
    (clear : Clear options stored alive known since state) (held : known.mode = .held id) :
    (beforeInterrupt lease turnId intent).Holds (rules options lease stored alive) known since state
      fun _ => Clear options stored alive := by
  refine Holds.andThen (resolve_holds clear) ?_ (fun _ _ _ _ gone => gone.clear)
  intro _ told since later resolved
  refine Holds.andThen (readNative_holds resolved.clear) ?_ (fun _ _ _ _ gone => gone.clear)
  intro latest told since later read
  apply holds_demand
  · intro _
    refine Holds.andThen (resolve_holds read.clear) ?_ (fun _ _ _ _ gone => gone.clear)
    intro _ told since later gone
    have stillHeld : told.mode = .held id := gone.mode.trans (read.mode.trans (resolved.mode.trans held))
    have guarded := gone.clear.guarded
    rw [stillHeld] at guarded
    have quiet := interrupt_quiet later.execution { intent with status := .unknown }
    refine Holds.andThen (save_holds gone.clear ?_ ?_ ?_ (.inl rfl)) ?_ (fun _ _ _ _ saved => saved.clear)
    · exact issued_patched gone.clear rfl
    · intro living
      apply lawful_interrupt gone.clear.genuine.2 rfl rfl rfl ?_ rfl (by simp)
      rw [guarded living]
      rfl
    · rw [stillHeld]
      exact quiet
    · intro _ told since later saved
      apply (fence_holds saved.clear).mono
      intro result told since later fenced
      exact fenced.1.clear
  · intro _
    exact read.clear

theorem settleUnaccepted_holds {commandId : String} {error : DeliveryError}
    (at_ : At options stored alive view synced known since state) (started : view.start = some commandId) :
    Goes options lease stored alive (settleUnaccepted commandId error) known since state := by
  have start : startId state.execution = some commandId := at_.start.trans started
  have lawful : Lawful options.stageLimit state.execution (unacceptedPatch commandId error state) :=
    lawful_unaccepted at_.sound start
  refine Holds.andThen (save_at at_ ?_ lawful (.inl rfl)) ?_ (fun _ _ _ _ saved => saved.2.main)
  · exact issued_patched at_.clear (keys_failAttempt _ _ _)
  · intro _ told since later saved
    exact saved.2.main.remember _

structure Pending (view : Core) (stage : ManagedPlanStage) (pending : ManagedPlanCommand) : Prop where
  type : pending.type = .start
  started : view.start = some pending.id
  stage : view.snapshot.stages[view.activeStageIndex]? = some stage
  unfinished : view.completedStageIds.length ≠ view.snapshot.stages.length

section

variable (at_ : At options stored alive view synced known since state)

include at_

theorem At.unfinished (left : view.completedStageIds.length ≠ view.snapshot.stages.length) :
    state.execution.status ≠ .completed := by
  intro completed
  apply left
  rw [← at_.seen]
  exact at_.sound.progress.finished.mp completed

theorem acknowledge_holds {turnId id : String} (started : view.start = some id) :
    (acknowledge turnId).Holds (rules options lease stored alive) known since state
      fun _ => At options stored alive view synced := by
  have start : (startId state.execution).isSome := by
    rw [at_.start, started]
    rfl
  apply holds_here
  split
  · split
    · refine Holds.andThen (save_quiet_at at_ ?_ (interrupt_quiet _ _)) ?_ (fun _ _ _ _ saved => saved.2)
      · exact lawful_interrupt at_.sound rfl rfl rfl start rfl (by simp)
      · intro _ told since later saved
        exact saved.2.remember _
    · exact at_
  · exact at_

theorem interruptIntent_holds {pending : ManagedPlanCommand} {turnId id : String} (started : view.start = some id) :
    (interruptIntent options pending turnId).Holds (rules options lease stored alive) known since state
      fun _ => At options stored alive view synced := by
  have start : (startId state.execution).isSome := by
    rw [at_.start, started]
    rfl
  apply holds_here
  split
  · exact at_
  · apply holds_randomUUID
    apply holds_here
    refine Holds.andThen (save_quiet_at at_.draw ?_ (interrupt_quiet _ _)) ?_ (fun _ _ _ _ saved => saved.2)
    · exact lawful_interrupt at_.sound rfl rfl rfl start rfl (by simp)
    · intro _ told since later saved
      exact saved.2

end

theorem interruptTurn_holds {threadId turnId id : String} {intent : ManagedPlanCommand}
    (at_ : At options stored alive view True known since state) (started : view.start = some id) :
    (await (.interruptTurn threadId turnId intent)).Holds (rules options lease stored alive) known since state
      fun _ told since later => Main options stored alive told since later ∧ told.mode = .held id := by
  obtain ⟨record, knows, agrees⟩ := at_.recorded
  have recordStart : alive → record.start = some id := fun living => (congrArg Core.start (agrees trivial living)).trans started
  have viewStart : alive → startId state.execution = some id := fun _ => at_.start.trans started
  refine ⟨{ known with mode := .held id },
    ⟨at_.clear, id, at_.free, rfl, ⟨record, knows, recordStart⟩, viewStart⟩, ?_⟩
  intro answer told tells later relied
  have held : told.mode = .held id := tells.1.1
  have kept : told.core = known.core := by
    cases answer <;> exact tells.2
  have main : Main options stored alive told later later := by
    refine ⟨clear_later relied, ?_, record, kept.trans knows, ?_⟩
    · rw [held]
      intro impossible
      cases impossible
    · intro other mode
      rw [held] at mode
      cases mode
      exact recordStart
  cases answer with
  | ok value => exact ⟨main, held⟩
  | error failure => exact ⟨main, held⟩

theorem Main.fenced (main : Main options stored alive known since state) :
    (fence lease).Holds (rules options lease stored alive) known since state fun _ => Main options stored alive := by
  apply (fence_holds main.clear).mono
  intro result told since later fenced
  exact main.onward fenced.1

theorem sendInterrupt_holds {turnId id : String} {intent : ManagedPlanCommand}
    (at_ : At options stored alive view True known since state) (started : view.start = some id) :
    Goes options lease stored alive (sendInterrupt lease turnId intent) known since state := by
  refine at_.goesOn resolve_holds ?_
  intro _ told since later resolved
  refine Holds.rescue (fun _ => Main options stored alive) ?_
    (fun _ _ _ _ main => main) ?_
  · apply holds_here
    refine Holds.andThen (interruptTurn_holds resolved started) ?_ (fun _ _ _ _ sent => sent.1)
    rintro _ told since later ⟨main, held⟩
    apply holds_change
    refine Holds.andThen (fence_holds (main.remember _).clear) ?_ (fun _ _ _ _ fenced => (main.remember _).onward fenced.1)
    intro _ told since later fenced
    have fencedMain := (main.remember _).onward fenced.1
    have guarded := fencedMain.clear.guarded
    rw [fenced.1.mode.trans held] at guarded
    refine Holds.andThen (save_quiet_main fencedMain ?_ (interrupt_quiet _ _)) ?_ (fun _ _ _ _ saved => saved)
    · intro living
      apply lawful_interrupt fencedMain.clear.genuine.2 rfl rfl rfl ?_ rfl (by simp)
      rw [guarded living]
      rfl
    · intro _ told since later saved
      exact saved.remember _
  · intro failure told since later main
    cases failure with
    | conflict message => exact main
    | delivery error => exact main.fenced
    | settingsRejected retryable => exact main.fenced
    | other message => exact main.fenced

theorem save_status {patch : Local → ManagedPlanExecutionPatch}
    (at_ : At options stored alive view synced known since state) (attempts : (patch state).attempts = none)
    (completedStageIds : (patch state).completedStageIds = none) (activeStageIndex : (patch state).activeStageIndex = none)
    (pendingCommand : (patch state).pendingCommand = none) (interruptCommand : (patch state).interruptCommand = none)
    (status : (patch state).status ≠ some .completed) :
    (save patch).Holds (rules options lease stored alive) known since state fun _ told since later =>
      told.unsent = known.unsent ∧ At options stored alive view synced told since later :=
  save_quiet_at at_
    (lawful_status at_.sound attempts completedStageIds activeStageIndex pendingCommand interruptCommand status)
    (core_quiet attempts completedStageIds activeStageIndex (startId_kept pendingCommand))

theorem steer_holds {thread : NativeThread} {stage : ManagedPlanStage} {pending : ManagedPlanCommand} {turnId id : String}
    (at_ : At options stored alive view True known since state) (started : view.start = some id) :
    Goes options lease stored alive (steer options lease thread stage pending turnId) known since state := by
  apply holds_here
  split
  · refine Holds.andThen (interruptIntent_holds at_ started) ?_ (fun _ _ _ _ gone => gone.main)
    intro intent told since later gone
    apply holds_demand
    · intro _
      split
      · exact sendInterrupt_holds gone started
      · exact gone.main
    · intro _
      exact gone.main
  · split
    · split
      · exact (save_status at_ rfl rfl rfl rfl rfl (by simp)).mono fun _ _ _ _ saved => saved.2.main
      · exact at_.main
    · split
      · exact (save_status at_ rfl rfl rfl rfl rfl (by simp)).mono fun _ _ _ _ saved => saved.2.main
      · exact at_.main

theorem awaitClosure_holds {pending : ManagedPlanCommand} (at_ : At options stored alive view synced known since state) :
    Goes options lease stored alive (awaitClosure options pending) known since state := by
  apply holds_here
  apply holds_change
  split
  · exact (save_status (at_.remember _) rfl rfl rfl rfl rfl (by simp)).mono fun _ _ _ _ saved => saved.2.main
  · split
    · exact (save_status (at_.remember _) rfl rfl rfl rfl rfl (by simp)).mono fun _ _ _ _ saved => saved.2.main
    · exact (at_.remember _).main

section
variable {pending : ManagedPlanCommand} {observed : ManagedPlanAttempt}
  (at_ : At options stored alive view synced known since state)

include at_

theorem At.observes (seen : ∃ attempt ∈ view.attempts, attempt.commandId = pending.id ∧ observed.key = attempt.key) :
    Observes state.execution pending observed := by
  unfold Observes
  rw [at_.attempts]
  exact seen

/-- The keys of the attempts stay where the patch puts one back under its own key. -/
theorem At.keys_put (observes : Observes state.execution pending observed)
    (closed : ManagedPlanAttempt) (same : closed.key = observed.key) :
    keys (putAttempt closed state.execution.attempts) = keys state.execution.attempts := by
  obtain ⟨attempt, member, -, sameKey⟩ := observes
  exact keys_putAttempt _ at_.sound member (same.trans sameKey)

end

theorem conclude_holds {stage : ManagedPlanStage} {pending : ManagedPlanCommand} {native : NativeTurn}
    {observed : ManagedPlanAttempt} {evidence : Option TurnEvidence}
    (at_ : At options stored alive view synced known since state) (waits : Pending view stage pending)
    (seen : ∃ attempt ∈ view.attempts, attempt.commandId = pending.id ∧ observed.key = attempt.key) :
    Goes options lease stored alive (conclude options stage pending native observed evidence) known since state := by
  have observes := at_.observes seen
  have started : startId state.execution = some pending.id := at_.start.trans waits.started
  apply holds_here
  split
  · split
    · exact awaitClosure_holds at_
    · exact (save_status at_ rfl rfl rfl rfl rfl (by simp)).mono fun _ _ _ _ saved => saved.2.main
  · split
    · exact (save_status at_ rfl rfl rfl rfl rfl (by simp)).mono fun _ _ _ _ saved => saved.2.main
    · split
      · refine (save_at at_ ?_ (lawful_stopped at_.sound started observes) (.inl rfl)).mono ?_
        · apply issued_patched at_.clear
          exact at_.keys_put observes _ rfl
        · intro result told since later saved
          cases result with
          | ok => exact saved.2.main
          | error failure => exact saved.2.main
      · have found : state.execution.snapshot.stages[state.execution.activeStageIndex]? = some stage := by
          have same := waits.stage
          rw [← at_.seen] at same
          exact same
        refine (save_at at_ ?_ (lawful_completed at_.sound started observes found (at_.unfinished waits.unfinished))
          (.inl rfl)).mono ?_
        · apply issued_patched at_.clear
          simp only [patched, completedPatch_attempts, Option.getD_some]
          exact at_.keys_put observes _ rfl
        · intro result told since later saved
          cases result with
          | ok => exact saved.2.main
          | error failure => exact saved.2.main

theorem lawful_observed {view : ManagedPlanExecution} {limit : ℤ} {pending : ManagedPlanCommand}
    {attempt observed : ManagedPlanAttempt} (turnId : String) (sound : Sound limit view)
    (started : startId view = some pending.id) (type : pending.type = .start) (member : attempt ∈ view.attempts)
    (own : attempt.commandId = pending.id) (same : observed.key = attempt.key) (live : observed.active = true) :
    Lawful limit view {
      pendingCommand := some (some { pending with status := .sent, turnId := some turnId })
      attempts := some (putAttempt observed view.attempts) } := by
  have ids : observed.id = attempt.id := congrArg Prod.fst same
  obtain ⟨first, found, active, mine⟩ := sound.attempts.attempted _ started
  have attemptLive : attempt.active = true := by
    rw [← sound.attempts.same_command found member (mine.trans own.symm)]
    exact active
  refine lawful_restated _ { pending with status := .sent, turnId := some turnId } sound started type (.inl rfl) ?_ rfl
    rfl rfl (by simp)
  intro other inside
  split
  · next replaced =>
    have equal := sound.attempts.same_id inside member (replaced.trans ids)
    subst equal
    exact ⟨same, live.trans attemptLive.symm⟩
  · exact ⟨rfl, rfl⟩

variable (options stored alive) in
def Noted (stage : ManagedPlanStage) (pending : ManagedPlanCommand) (observed : ManagedPlanAttempt)
    (result : Except Failure Unit) (known : Known) (since state : Local) : Prop :=
  match result with
  | .ok _ => ∃ view, At options stored alive view True known since state ∧ Pending view stage pending ∧
      ∃ attempt ∈ view.attempts, attempt.commandId = pending.id ∧ observed.key = attempt.key
  | .error _ => ∃ view, At options stored alive view False known since state

section

variable {stage : ManagedPlanStage} {pending : ManagedPlanCommand}
  (at_ : At options stored alive view True known since state) (waits : Pending view stage pending)

include at_ waits

theorem noteTurn_holds {attempt observed : ManagedPlanAttempt} {turnId : String} (member : attempt ∈ view.attempts)
    (own : attempt.commandId = pending.id) (same : observed.key = attempt.key) (live : observed.active = true) :
    (noteTurn pending attempt observed turnId).Holds (rules options lease stored alive) known since state
      (Noted options stored alive stage pending observed) := by
  have memberNow : attempt ∈ state.execution.attempts := by
    rw [at_.attempts]
    exact member
  unfold noteTurn
  split
  · have lawful := lawful_observed turnId at_.sound (at_.start.trans waits.started) waits.type memberNow own
      same live
    refine (save_at at_ ?_ lawful (.inl rfl)).mono ?_
    · apply issued_patched at_.clear
      exact keys_putAttempt _ at_.sound memberNow same
    · intro result told began final saved
      cases result with
      | error failure => exact ⟨view, saved.2⟩
      | ok =>
        refine ⟨_, saved.2, ⟨waits.type, ?_, ?_, ?_⟩, ?_⟩
        · exact startId_some.mpr ⟨_, rfl, waits.type, rfl⟩
        · have stays := waits.stage
          rw [← at_.seen] at stays
          exact stays
        · have left := waits.unfinished
          rw [← at_.seen] at left
          exact left
        · refine ⟨observed, ?_, ?_, rfl⟩
          · exact List.mem_map.mpr ⟨attempt, memberNow, if_pos (congrArg Prod.fst same).symm⟩
          · exact (congrArg (fun key => key.2.1) same).trans own
  · exact ⟨view, at_, waits, attempt, member, own, same⟩

theorem reconcileTurn_holds {thread : NativeThread} {native : NativeTurn} :
    Goes options lease stored alive (reconcileTurn options lease thread stage pending native) known since state := by
  refine Holds.andThen (acknowledge_holds at_ waits.started) ?_ (fun _ _ _ _ gone => gone.main)
  intro _ told since later gone
  apply holds_here
  split
  · exact gone.main
  · next attempt found =>
    have member : attempt ∈ view.attempts := by
      rw [← gone.attempts]
      exact List.mem_of_find?_eq_some found
    have own : attempt.commandId = pending.id := by simpa using List.find?_some found
    refine Holds.andThen (noteTurn_holds gone waits member own rfl rfl) ?_ ?_
    · rintro _ told since final ⟨nextView, now, still, seen⟩
      apply holds_demand
      · intro _
        split
        · exact steer_holds now still.started
        · exact conclude_holds now still seen
      · intro _
        exact now.main
    · rintro _ told since final ⟨nextView, missed⟩
      exact missed.main

theorem reconcile_holds {thread : NativeThread} :
    Goes options lease stored alive (reconcile options lease thread stage pending) known since state := by
  apply holds_here
  split
  · apply holds_demand
    · intro _
      exact settleUnaccepted_holds at_ waits.started
    · intro _
      exact at_.main
  · split
    · exact at_.main
    · exact reconcileTurn_holds at_ waits

end

end

end SpaceApp.Plans
