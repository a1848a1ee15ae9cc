import SpaceApp.Plans.Turns

/-! The next START keeps to the rules: its settings, its intent in the record, and its one way to
the driver. With it the whole step does. -/

set_option autoImplicit false

namespace SpaceApp.Plans

open SpaceApp.Foundation Dialogue

section

variable {options : ControllerOptions} {lease : PlanExecutionLease} {stored : Nat → ManagedPlanExecution} {alive : Prop}
  {known told : Known} {since state later began : Local} {view : Core} {synced : Prop}

section

variable (at_ : At options stored alive view synced known since state) (idle : view.start = none)

include at_ idle

theorem save_settings {patch : Local → ManagedPlanExecutionPatch} {pending : Option ManagedPlanCommand}
    (attempts : (patch state).attempts = none) (completedStageIds : (patch state).completedStageIds = none)
    (activeStageIndex : (patch state).activeStageIndex = none)
    (interruptCommand : (patch state).interruptCommand = none)
    (pendingCommand : (patch state).pendingCommand = some pending)
    (settings : ∀ command, pending = some command → command.type ≠ .start)
    (status : (patch state).status ≠ some .completed) :
    (save patch).Holds (rules options lease stored alive) known since state fun _ told since later =>
      told.unsent = known.unsent ∧ At options stored alive view synced told since later := by
  have none : startId state.execution = Option.none := at_.start.trans idle
  apply save_quiet_at at_
  · exact lawful_settings at_.sound attempts completedStageIds activeStageIndex none interruptCommand pendingCommand
      settings status
  · apply core_quiet attempts completedStageIds activeStageIndex
    rw [none]
    exact startId_settings pendingCommand settings

theorem writeSettings_holds {selection : StageModelSelection} {command : ManagedPlanCommand}
    (settings : command.type ≠ .start) :
    (writeSettings lease selection command).Holds (rules options lease stored alive) known since state
      fun _ => At options stored alive view synced := by
  have restated (status : CommandStatus) :
      ∀ other, some { command with status } = some other → other.type ≠ .start := by
    intro other same
    cases same
    exact settings
  refine Holds.rescue (fun _ => At options stored alive view synced) ?_
    (fun _ _ _ _ gone => gone) ?_
  · apply holds_here
    refine Holds.andThen (await_plain lease rfl at_.clear) ?_ (fun _ _ _ _ gone => at_.onward gone)
    intro _ told since later gone
    exact at_.onward gone
  · intro failure told since later gone
    have resolved {patch : Local → ManagedPlanExecutionPatch}
        (saves : ∀ known since state, At options stored alive view synced known since state →
          (save patch).Holds (rules options lease stored alive) known since state fun _ told since later =>
            told.unsent = known.unsent ∧ At options stored alive view synced told since later) :
        ((resolve lease).andThen fun _ => (save patch).andThen fun _ => .done false).Holds
          (rules options lease stored alive) told since later fun _ => At options stored alive view synced := by
      refine Holds.andThen (resolve_holds gone.clear) ?_ (fun _ _ _ _ asked => gone.onward asked)
      intro _ told since later asked
      refine Holds.andThen (saves _ _ _ (gone.onward asked)) ?_ (fun _ _ _ _ saved => saved.2)
      intro _ told since later saved
      exact saved.2
    cases failure with
    | conflict message => exact gone
    | settingsRejected retryable =>
      cases retryable with
      | none =>
        apply resolved
        intro known since state now
        exact save_settings now idle rfl rfl rfl rfl rfl (by simp) (by simp)
      | some failure =>
        apply resolved
        intro known since state now
        exact save_settings now idle rfl rfl rfl rfl rfl (restated .prepared) (by simp [modelRetry])
    | delivery error =>
      apply resolved
      intro known since state now
      exact save_settings now idle rfl rfl rfl rfl rfl (restated .unknown) (by simp)
    | other message =>
      apply resolved
      intro known since state now
      exact save_settings now idle rfl rfl rfl rfl rfl (restated .unknown) (by simp)

end

/-- The START goes to the driver with its lease unexpired. -/
theorem startManagedTurn_holds {threadId : String} {selection : StageModelSelection} {prompt : JsString}
    {start command : ManagedPlanCommand} (at_ : At options stored alive view True known since state)
    (started : view.start = some start.id) (unsent : known.unsent = some start.id)
    (leased : ∃ expiry, known.expiry = some expiry ∧ since.now < expiry) :
    (await (.startManagedTurn threadId selection prompt start command)).Holds (rules options lease stored alive)
      known since state fun _ => At options stored alive view True := by
  obtain ⟨record, knows, agrees⟩ := at_.recorded
  refine ⟨{ known with unsent := none }, ⟨at_.clear, unsent, at_.free, ⟨record, knows, ?_⟩, leased, rfl⟩, ?_⟩
  · intro living
    rw [agrees trivial living]
    exact started
  intro answer told tells later relied
  have kept : told.core = known.core := by
    cases answer <;> exact tells.2
  have gone : At options stored alive view True told later later := by
    refine ⟨clear_later relied, tells.1.1.trans at_.free, ?_, record, kept.trans knows, agrees⟩
    obtain ⟨-, -, -, moved⟩ := relied
    rw [tells.1.1] at moved
    have free : ({ known with unsent := none } : Known).mode = .free := at_.free
    rw [free] at moved
    exact moved.trans at_.seen
  cases answer with
  | ok value => exact gone
  | error failure => exact gone

theorem lawful_running {record : ManagedPlanExecution} {limit : ℤ} {start : ManagedPlanCommand} {turnId : String}
    (sound : Sound limit record) (started : startId record = some start.id) (type : start.type = .start) :
    Lawful limit record {
      status := some .running
      nextRetryAt := some none
      pendingCommand := some (some { start with status := .sent, turnId := some turnId })
      attempts := some (record.attempts.map fun attempt =>
        if attempt.commandId = start.id then { attempt with status := .running, turnId := some turnId } else attempt) } := by
  refine lawful_restated _ { start with status := .sent, turnId := some turnId } sound started type (.inl rfl) ?_ rfl
    rfl rfl (by simp)
  obtain ⟨first, found, active, mine⟩ := sound.attempts.attempted _ started
  intro attempt member
  split
  · next own =>
    rw [← sound.attempts.same_command found member (mine.trans own.symm)]
    exact ⟨rfl, active.symm⟩
  · exact ⟨rfl, rfl⟩

theorem sendStart_holds {selection : StageModelSelection} {prompt : JsString} {command start : ManagedPlanCommand}
    (at_ : At options stored alive view True known since state) (type : start.type = .start)
    (started : view.start = some start.id) (unsent : known.unsent = some start.id)
    (leased : ∃ expiry, known.expiry = some expiry ∧ since.now < expiry) :
    Goes options lease stored alive (sendStart lease selection prompt command start) known since state := by
  refine Holds.rescue (Ends (Main options stored alive) (At options stored alive view False)) ?_ (fun _ _ _ _ main => main) ?_
  · apply holds_here
    refine Holds.andThen (startManagedTurn_holds at_ started unsent leased) ?_ (fun _ _ _ _ gone => gone.weaken)
    intro turnId told since later gone
    apply holds_change
    refine Holds.andThen (fence_holds (gone.remember _).clear) ?_
      (fun _ _ _ _ fenced => ((gone.remember _).onward fenced.1).weaken)
    intro _ told since later fenced
    have now := (gone.remember _).onward fenced.1
    refine (save_at now ?_ (lawful_running now.sound (now.start.trans started) type) (.inl rfl)).mono ?_
    · apply issued_patched now.clear
      apply keys_map
      intro attempt _
      split <;> rfl
    · intro result told since later saved
      cases result with
      | ok => exact saved.2.main
      | error failure => exact saved.2
  · intro failure told since later gone
    -- the START stays in the record, and is not sent again
    have unknown : (save fun _ =>
        { status := some .running
          pendingCommand := some (some { start with status := .unknown })
          statusReason := some (some (js "Reconciling native command acceptance.")) }).Holds
        (rules options lease stored alive) told since later fun _ => Main options stored alive := by
      refine (save_at gone ?_ (lawful_restated id { start with status := .unknown } gone.sound
        (gone.start.trans started) type (.inr rfl) (fun _ _ => ⟨rfl, rfl⟩) rfl rfl rfl (by simp)) (.inl rfl)).mono ?_
      · exact issued_patched gone.clear rfl
      · intro result told since later saved
        cases result with
        | ok => exact saved.2.main
        | error failure => exact saved.2.main
    cases failure with
    | conflict message => exact gone.main
    | settingsRejected retryable => exact unknown
    | other message => exact unknown
    | delivery error =>
      dsimp only
      split
      · apply holds_change
        refine (gone.remember _).goesOn resolve_holds ?_
        intro _ told since later resolved
        exact settleUnaccepted_holds resolved started
      · exact unknown

def Room (options : ControllerOptions) (view : Core) (stageId : String) : Prop :=
  (((keys view.attempts).filter fun key => key.2.2 = stageId).length : ℤ) < options.stageLimit

section
variable {stage : ManagedPlanStage} {selection : StageModelSelection}

include selection

theorem save_start {command : ManagedPlanCommand} {now : ℚ}
    (at_ : At options stored alive view synced known since state) (idle : view.start = none)
    (room : Room options view stage.id) : (save fun current =>
      { pendingCommand := some (some (startCommand command (options.ids.uuid state.nextId) now))
        attempts := some (current.execution.attempts ++ [newAttempt
          (startCommand command (options.ids.uuid state.nextId) now) (options.ids.uuid (state.nextId + 1)) stage
          selection]) }).Holds (rules options lease stored alive) known since
      { state with nextId := state.nextId + 1 + 1 } fun result told since later =>
        told.unsent = some (options.ids.uuid state.nextId) ∧
          match result with
          | .ok _ => ∃ view, view.start = some (options.ids.uuid state.nextId) ∧
              At options stored alive view True told since later
          | .error _ => At options stored alive view False told since later := by
  let start := startCommand command (options.ids.uuid state.nextId) now
  let attempt := newAttempt start (options.ids.uuid (state.nextId + 1)) stage selection
  have drawn := at_.clear.drawn
  -- every id of the record was drawn before this piece of code began
  have earlier : ∀ key ∈ keys state.execution.attempts, ∀ index, since.nextId ≤ index →
      key.1 ≠ options.ids.uuid index ∧ key.2.1 ≠ options.ids.uuid index := by
    intro key member index late
    obtain ⟨⟨first, below, same⟩, second, under, equal⟩ := at_.clear.issued key member
    constructor
    · rw [← same]
      intro clash
      have := options.ids.distinct clash
      omega
    · rw [← equal]
      intro clash
      have := options.ids.distinct clash
      omega
  let patch : ManagedPlanExecutionPatch := {
    pendingCommand := some (some start)
    attempts := some (state.execution.attempts ++ [attempt]) }
  have lawful : Lawful options.stageLimit state.execution patch := by
    apply lawful_start at_.sound (at_.start.trans idle) rfl rfl rfl
    · rw [at_.attempts]
      exact room
    · intro key member
      exact (earlier key member (state.nextId + 1) (by omega)).1
    · intro key member
      exact (earlier key member state.nextId (by omega)).2
  have fresh : Issued options.ids (state.nextId + 1 + 1) (patched state.execution patch) := by
    have grown : keys (patched state.execution patch).attempts = keys state.execution.attempts ++ [attempt.key] := by
      simp [patched, patch, keys]
    intro key member
    rw [grown] at member
    rcases List.mem_append.mp member with old | new
    · exact (at_.clear.issued.mono (by omega)) key old
    · rw [List.mem_singleton.mp new]
      exact ⟨⟨state.nextId + 1, by omega, rfl⟩, state.nextId, by omega, rfl⟩
  refine (save_at at_.draw.draw fresh lawful
    (.inr ⟨state.nextId, drawn, Nat.lt_succ_of_lt (Nat.lt_succ_self _), rfl⟩)).mono ?_
  intro result told since later saved
  refine ⟨saved.1, ?_⟩
  cases result with
  | error failure => exact saved.2
  | ok =>
    have started : startId (patched state.execution patch) = some start.id := startId_some.mpr ⟨start, rfl, rfl, rfl⟩
    exact ⟨core (patched state.execution patch), started, saved.2⟩

section

variable {prompt : JsString} {command : ManagedPlanCommand}
  (at_ : At options stored alive view synced known since state) (idle : view.start = none)
  (settings : command.type ≠ .start) (room : Room options view stage.id)

include at_ idle settings room

theorem startStage_holds :
    Goes options lease stored alive (startStage options lease stage selection prompt command) known since state := by
  refine at_.goesOn fence_onward ?_
  intro _ told since later first
  apply holds_here
  refine first.goesOn (await_plain lease rfl) ?_
  intro confirmed told since later second
  refine second.goesOn fence_onward ?_
  intro _ told since later third
  apply holds_demand ?_ (fun _ => third.main)
  intro _
  refine Holds.andThen (save_settings third idle rfl rfl rfl rfl rfl ?_ (by simp)) ?_ (fun _ _ _ _ saved => saved.2.main)
  · intro other same
    cases same
    exact settings
  intro _ told since later saved
  have fourth := saved.2
  refine fourth.goesOn resolve_holds ?_
  intro _ told since later fifth
  refine fifth.goesOn readNative_holds ?_
  intro thread told since later sixth
  apply holds_demand ?_ (fun _ => sixth.main)
  intro _
  apply holds_randomUUID
  apply holds_randomUUID
  refine Holds.andThen (save_start sixth idle room) ?_ (fun _ _ _ _ missed => missed.2.main)
  rintro _ told since later ⟨unsent, nextView, started, prepared⟩
  refine Holds.andThen (resolve_holds prepared.clear) ?_ (fun _ _ _ _ gone => (prepared.onward gone).main)
  intro _ told since later asked
  have resolved := prepared.onward asked
  refine Holds.andThen (fence_holds resolved.clear) ?_ (fun _ _ _ _ fenced => (resolved.onward fenced.1).main)
  intro _ told since later fenced
  apply sendStart_holds (resolved.onward fenced.1) rfl started
  · rw [fenced.1.unsent, asked.unsent]
    exact unsent
  · exact fenced.2 rfl

theorem applySettings_holds {resumed : Option CommandStatus} :
    Goes options lease stored alive (applySettings options lease stage selection prompt command resumed) known since state := by
  refine at_.goesOn resolve_holds ?_
  intro _ told since later first
  refine first.goesOn readNative_holds ?_
  intro thread told since later second
  apply holds_demand ?_ (fun _ => second.main)
  intro _
  refine second.goesOn fence_onward ?_
  intro _ told since later third
  apply holds_here
  refine third.goesOn (await_plain lease rfl) ?_
  intro before told since later fourth
  refine fourth.goesOn fence_onward ?_
  intro _ told since later fifth
  apply holds_demand ?_ (fun _ => fifth.main)
  intro _
  dsimp only
  split
  · refine fifth.goesOn resolve_holds ?_
    intro _ told since later sixth
    refine (save_settings sixth idle rfl rfl rfl rfl rfl ?_ (by simp [modelRetry])).mono
      fun _ _ _ _ saved => saved.2.main
    intro other same
    cases same
    exact settings
  · have written : (if resumed = none ∨ (before.modelId ≠ selection.modelId ∨
        before.reasoningEffort ≠ selection.reasoningEffort) then writeSettings lease selection command
          else pure true).Holds (rules options lease stored alive) told since later
        fun _ => At options stored alive view synced := by
      split
      · exact writeSettings_holds fifth idle settings
      · exact fifth
    refine Holds.andThen written ?_ (fun _ _ _ _ gone => gone.main)
    intro goOn told since later gone
    split
    · exact startStage_holds gone idle settings room
    · exact gone.main

end

end

theorem prepare_holds {control : ManagedTurnDriver} {thread : NativeThread} {stage : ManagedPlanStage}
    {prompt : JsString} {pending : Option ManagedPlanCommand}
    (at_ : At options stored alive view synced known since state) (idle : view.start = none) :
    Goes options lease stored alive (prepare options lease control thread stage prompt pending) known since state := by
  apply holds_here
  split
  · exact at_.main
  · split
    · refine (save_settings at_ idle rfl rfl rfl rfl rfl ?_ (by simp)).mono fun _ _ _ _ saved => saved.2.main
      intro other same
      cases same
    · next left =>
      have room : Room options view stage.id := by
        unfold Room keys
        rw [← at_.attempts, List.filter_map, List.length_map]
        exact not_le.mp left
      apply holds_demand ?_ (fun _ => at_.main)
      intro _
      refine at_.goesOn (await_plain lease rfl) ?_
      intro models told since later first
      refine first.goesOn fence_onward ?_
      intro _ told since later second
      split
      · exact (save_status second rfl rfl rfl rfl rfl (by simp [modelRetry])).mono fun _ _ _ _ saved => saved.2.main
      · split
        · apply holds_demand ?_ (fun _ => second.main)
          intro matching
          apply applySettings_holds second idle ?_ room
          rw [matching.1]
          simp
        · apply holds_randomUUID
          apply holds_here
          refine Holds.andThen (save_settings second.draw idle rfl rfl rfl rfl rfl ?_ (by simp)) ?_
            (fun _ _ _ _ saved => saved.2.main)
          · intro other same
            cases same
            simp
          · intro _ told since later saved
            exact applySettings_holds saved.2 idle (by simp) room

section

variable (at_ : At options stored alive view True known since state)

include at_

theorem runStage_holds {control : ManagedTurnDriver} {thread : NativeThread} {stage : ManagedPlanStage}
    {prompt : JsString} (found : view.snapshot.stages[view.activeStageIndex]? = some stage)
    (unfinished : view.completedStageIds.length ≠ view.snapshot.stages.length) :
    Goes options lease stored alive (runStage options lease control thread stage prompt) known since state := by
  apply holds_here
  split
  · exact (save_status at_ rfl rfl rfl rfl rfl (by simp)).mono fun _ _ _ _ saved => saved.2.main
  · split
    · next pending filtered =>
      obtain ⟨inRecord, type⟩ := Option.filter_eq_some_iff.mp filtered
      apply reconcile_holds at_
      refine ⟨by simpa using type, ?_, found, unfinished⟩
      rw [← at_.start]
      exact startId_some.mpr ⟨pending, inRecord, by simpa using type, rfl⟩
    · next filtered =>
      apply prepare_holds at_
      rw [← at_.start]
      unfold startId
      rw [filtered]
      rfl

theorem advanceStage_holds (unfinished : view.completedStageIds.length ≠ view.snapshot.stages.length) :
    Goes options lease stored alive (advanceStage options lease) known since state := by
  refine at_.goesOn resolve_holds ?_
  intro control told since later first
  refine first.goesOn readNative_holds ?_
  intro thread told since later second
  apply holds_here
  split
  · exact second.main
  · next stage found =>
    have active : view.snapshot.stages[view.activeStageIndex]? = some stage := by
      rw [← second.seen]
      exact found
    -- no need to look into the text of the prompt
    generalize stagePrompt later.execution stage = prompt
    exact runStage_holds second active unfinished

theorem work_holds : Goes options lease stored alive (work options lease) known since state := by
  apply holds_here
  split
  · exact at_.main
  · next going =>
    split
    · exact at_.main
    · apply advanceStage_holds at_
      rw [← at_.seen]
      intro all
      have completed := at_.sound.progress.finished.mpr all
      rw [completed] at going
      exact going rfl

end

theorem finish_holds (main : Main options stored alive known since state) :
    finish.Holds (rules options lease stored alive) known since state fun _ => Clear options stored alive := by
  obtain ⟨record, knows, starts⟩ := main.recorded
  have some : known.core.isSome := by
    rw [knows]
    rfl
  refine ⟨known, ⟨main.clear, some, rfl⟩, ?_⟩
  intro answer told tells later relied
  have gone : Clear options stored alive told later later := clear_later relied
  have keptMode : told.mode = known.mode := tells.1.1
  have released {last : Known} {since final : Local} (core : last.core.isSome)
      (clear : Clear options stored alive last since final) :
      (await .release).Holds (rules options lease stored alive) last since final fun _ => Clear options stored alive := by
    refine ⟨last, ⟨clear, core, rfl⟩, ?_⟩
    intro answer told tells later relied
    cases answer with
    | ok value => exact clear_later relied
    | error failure => exact clear_later relied
  match answer, tells with
  | .error failure, tells => exact gone
  | .ok none, tells =>
    apply released
    · rw [tells.2, knows]
      rfl
    · exact gone.remember _
  | .ok (Option.some latest), tells =>
    obtain ⟨same, genuine, issued, agrees⟩ := tells.2
    apply released
    · rw [same, knows]
      rfl
    · refine ⟨genuine, issued.mono gone.counted, gone.counted, Nat.le_refl _, ?_⟩
      cases mode : told.mode with
      | free => trivial
      | held id =>
        intro living
        exact (congrArg Core.start (agrees living record knows)).trans (starts id (keptMode.symm.trans mode) living)
      | passing => exact absurd (keptMode.symm.trans mode) main.stepping

theorem settleFailure_holds {failure : Failure} (main : Main options stored alive known since state) :
    Goes options lease stored alive (settleFailure failure) known since state := by
  have blocked : Goes options lease stored alive (save fun _ => unconfirmed) known since state := by
    apply save_quiet_main main
    · intro _
      exact lawful_status main.clear.genuine.2 rfl rfl rfl rfl rfl (by simp [unconfirmed])
    · exact core_quiet rfl rfl rfl (startId_kept rfl)
  cases failure with
  | conflict message => exact main
  | delivery error => exact blocked
  | settingsRejected retryable => exact blocked
  | other message => exact blocked

theorem advance_holds (at_ : At options stored alive view True known since state) :
    (advance options lease).Holds (rules options lease stored alive) known since state fun _ => Clear options stored alive := by
  apply holds_ensuring
  have guarded : Goes options lease stored alive ((work options lease).rescue settleFailure) known since state :=
    Holds.rescue _ (work_holds at_) (fun _ _ _ _ main => main) fun _ _ _ _ main => settleFailure_holds main
  apply guarded.mono
  intro result told since later main
  apply (finish_holds main).mono
  intro cleaned told since later clear
  cases cleaned with
  | ok => exact clear
  | error failure => exact clear

end

end SpaceApp.Plans
