import SpaceApp.Plans.PauseConduct

/-! The controller's step owes a pause nothing that it does not keep, from its claimed lease to the
release of it. -/

set_option autoImplicit false

namespace SpaceApp.Plans.Pausing

open SpaceApp.Foundation Dialogue

section

variable {options : ControllerOptions} {lease : PlanExecutionLease} {stored : Nat → Gist} {known told : Sight}
  {since state later : Local} {seen : Gist}

section

variable (strict : Strict stored seen known state)

include strict

/-- What a runnable record's `seen` says of the variable. -/
theorem Strict.reason : state.execution.interruptReason = seen.reason :=
  congrArg Gist.reason strict.seen

theorem save_over {patch : Local → ManagedPlanExecutionPatch} (steady : seen.Steady (patch state)) :
    Goes stored (save patch) known since state := by
  apply (save_strict strict steady).mono
  intro result told since later saved
  exact saved.stepping

theorem settleUnaccepted_holds {commandId : String} {error : DeliveryError} (runs : runnable seen.status = true) :
    Goes stored (settleUnaccepted commandId error) known since state := by
  have steady : seen.Steady (unacceptedPatch commandId error state) := by
    apply Gist.steady_settled runs rfl rfl
    intro paused
    have paused : state.execution.interruptReason = some .pause := strict.reason.trans paused
    refine ⟨.paused, ?_, rfl⟩
    unfold unacceptedPatch
    cases error.retryableFailure with
    | none => simp [paused]
    | some failure => simp [paused]
  refine Holds.andThen (save_over strict steady) ?_ (fun _ _ _ _ saved => saved)
  intro _ told since later saved
  exact saved.remember _

theorem acknowledge_holds {turnId : String} (tidy : seen.Tidy) :
    (acknowledge turnId).Holds (rules stored) known since state fun _ told _ later => Strict stored seen told later := by
  apply holds_here
  split
  · split
    · refine Holds.andThen (save_quiet strict tidy rfl) ?_ (fun _ _ _ _ saved => saved)
      intro _ told since later saved
      exact saved.remember _
    · exact strict
  · exact strict

theorem interruptIntent_holds {pending : ManagedPlanCommand} {turnId : String} (tidy : seen.Tidy) :
    (interruptIntent options pending turnId).Holds (rules stored) known since state
      fun _ told _ later => Strict stored seen told later := by
  apply holds_here
  split
  · exact strict
  · apply holds_randomUUID
    apply holds_here
    refine Holds.andThen (save_quiet (strict.draw _) tidy rfl) ?_ (fun _ _ _ _ saved => saved)
    intro _ told since later saved
    exact saved

end

theorem Stepping.tidy (tidied : ∀ revision, (stored revision).Tidy) (stepping : Stepping stored known state) :
    (gist state.execution).Tidy := by
  rw [show gist state.execution = stored state.execution.revision from stepping.filed]
  exact tidied _

theorem fence_stepping (stepping : Stepping stored known state) : Goes stored (fence lease) known since state := by
  apply (fence_holds stepping.poised).mono
  intro result told since later fenced
  exact stepping.along fenced.1

/-- The driver may move the record from here on, by the interrupt's `beforeSend`. -/
theorem interruptTurn_holds {threadId turnId : String} {intent : ManagedPlanCommand}
    (stepping : Stepping stored known state) :
    Goes stored (await (.interruptTurn threadId turnId intent)) known since state := by
  refine ⟨{ known with share := .loose }, ⟨stepping.filed, rfl, ?_, stepping.share, rfl⟩, ?_⟩
  · exact fun passing => absurd passing stepping.share
  · intro answer told tells later relied
    have share : told.share ≠ .passing := by
      rw [show told.share = .loose from tells.1]
      exact Share.noConfusion
    cases answer with
    | ok value => exact ⟨relied.1, share⟩
    | error failure => exact ⟨relied.1, share⟩

theorem sendInterrupt_holds {turnId : String} {intent : ManagedPlanCommand} (tidied : ∀ revision, (stored revision).Tidy)
    (stepping : Stepping stored known state) :
    Goes stored (sendInterrupt lease turnId intent) known since state := by
  refine Holds.andThen (resolve_holds stepping.poised) ?_ (fun _ _ _ _ along => stepping.along along)
  intro _ told since later along
  have resolved := stepping.along along
  refine Holds.rescue (fun _ told _ later => Stepping stored told later) ?_ (fun _ _ _ _ going => going) ?_
  · apply holds_here
    refine Holds.andThen (interruptTurn_holds resolved) ?_ (fun _ _ _ _ sent => sent)
    intro _ told since later sent
    apply holds_change
    refine Holds.andThen (fence_stepping (sent.remember _)) ?_ (fun _ _ _ _ fenced => fenced)
    intro _ told since later fenced
    have tidy := fenced.tidy tidied
    refine Holds.andThen (save_stepping fenced (tidy.quiet (interrupt_quiet _ _))) ?_ (fun _ _ _ _ saved => saved)
    intro _ told since later saved
    exact saved.remember _
  · intro failure told since later going
    cases failure with
    | conflict message => exact going
    | delivery error => exact fence_stepping going
    | settingsRejected retryable => exact fence_stepping going
    | other message => exact fence_stepping going

theorem steer_holds {thread : NativeThread} {stage : ManagedPlanStage} {pending : ManagedPlanCommand} {turnId : String}
    (tidied : ∀ revision, (stored revision).Tidy) (strict : Strict stored seen known state) (tidy : seen.Tidy)
    (runs : runnable seen.status = true) :
    Goes stored (steer options lease thread stage pending turnId) known since state := by
  apply holds_here
  split
  · refine Holds.andThen (interruptIntent_holds strict tidy) ?_ (fun _ _ _ _ gone => gone.stepping)
    intro intent told since later gone
    apply holds_demand
    · intro _
      split
      · exact sendInterrupt_holds tidied gone.stepping
      · exact gone.stepping
    · intro _
      exact gone.stepping
  · split
    · split
      · exact save_over strict (tidy.goes runs rfl rfl rfl rfl)
      · exact strict.stepping
    · split
      · exact save_over strict (tidy.goes runs rfl rfl rfl rfl)
      · exact strict.stepping

section

variable (strict : Strict stored seen known state)

include strict

theorem awaitClosure_holds {pending : ManagedPlanCommand} (tidy : seen.Tidy) (runs : runnable seen.status = true) :
    Goes stored (awaitClosure options pending) known since state := by
  apply holds_here
  apply holds_change
  split
  · exact save_over (strict.remember _) (tidy.rests rfl rfl rfl rfl (by simp))
  · split
    · exact save_over (strict.remember _) (tidy.goes runs rfl rfl rfl rfl)
    · exact (strict.remember _).stepping

theorem stopped_steady {observed : ManagedPlanAttempt} {native : NativeTurn} (runs : runnable seen.status = true) :
    seen.Steady (stoppedPatch observed native state) := by
  apply Gist.steady_settled runs rfl rfl
  intro paused
  have paused : state.execution.interruptReason = some .pause := strict.reason.trans paused
  unfold stoppedPatch
  dsimp only
  cases native.retryableFailure with
  | none => by_cases interrupted : native.status = .interrupted <;> simp [paused, interrupted, runnable]
  | some failure => by_cases interrupted : native.status = .interrupted <;> simp [paused, interrupted, runnable]

theorem completed_steady {stage : ManagedPlanStage} {observed : ManagedPlanAttempt}
    {result : Option ManagedPlanStageResult} (runs : runnable seen.status = true) :
    seen.Steady (completedPatch stage observed result state) := by
  have settled : (completedPatch stage observed result state).pendingCommand = some none ∧
      (completedPatch stage observed result state).interruptReason = some none := by
    unfold completedPatch
    split <;> exact ⟨rfl, rfl⟩
  apply Gist.steady_settled runs settled.1 settled.2
  intro paused
  have paused : state.execution.interruptReason = some .pause := strict.reason.trans paused
  unfold completedPatch
  dsimp only
  rw [paused]
  split
  · exact ⟨.paused, rfl, rfl⟩
  · have ended (all : Prop) [Decidable all] :
        runnable (if all then .completed else if some InterruptReason.pause = some .pause then .paused else .resumingStage) =
          false := by
      by_cases all <;> simp_all [runnable]
    refine ⟨_, rfl, ?_⟩
    split
    · rfl
    · exact ended _

theorem conclude_holds {stage : ManagedPlanStage} {pending : ManagedPlanCommand} {native : NativeTurn}
    {observed : ManagedPlanAttempt} {evidence : Option TurnEvidence} (tidy : seen.Tidy)
    (runs : runnable seen.status = true) :
    Goes stored (conclude options stage pending native observed evidence) known since state := by
  apply holds_here
  split
  · split
    · exact awaitClosure_holds strict tidy runs
    · exact save_over strict (tidy.rests rfl rfl rfl rfl (by simp))
  · split
    · exact save_over strict (tidy.rests rfl rfl rfl rfl (by simp))
    · split
      · exact save_over strict (stopped_steady strict runs)
      · exact save_over strict (completed_steady strict runs)

theorem noteTurn_holds {pending : ManagedPlanCommand} {attempt observed : ManagedPlanAttempt} {turnId : String}
    (tidy : seen.Tidy) (type : pending.type = .start) (starts : seen.starting = true) :
    (noteTurn pending attempt observed turnId).Holds (rules stored) known since state
      fun _ told _ later => Strict stored seen told later := by
  unfold noteTurn
  split
  · apply save_quiet strict tidy
    obtain ⟨status, starting, reason⟩ := seen
    unfold Gist.after
    simp only [Option.any_some, type, decide_true, Option.getD_none]
    rw [show starting = true from starts]
  · exact strict

end

section

variable {thread : NativeThread} {stage : ManagedPlanStage} {pending : ManagedPlanCommand}
  (tidied : ∀ revision, (stored revision).Tidy) (strict : Strict stored seen known state) (tidy : seen.Tidy)
  (runs : runnable seen.status = true) (type : pending.type = .start) (starts : seen.starting = true)

include tidied strict tidy runs type starts

theorem reconcileTurn_holds {native : NativeTurn} :
    Goes stored (reconcileTurn options lease thread stage pending native) known since state := by
  refine Holds.andThen (acknowledge_holds strict tidy) ?_ (fun _ _ _ _ gone => gone.stepping)
  intro _ told since later gone
  apply holds_here
  split
  · exact gone.stepping
  · refine Holds.andThen (noteTurn_holds gone tidy type starts) ?_ (fun _ _ _ _ noted => noted.stepping)
    intro _ told since later noted
    apply holds_demand
    · intro _
      split
      · exact steer_holds tidied noted tidy runs
      · exact conclude_holds noted tidy runs
    · intro _
      exact noted.stepping

theorem reconcile_holds : Goes stored (reconcile options lease thread stage pending) known since state := by
  apply holds_here
  split
  · apply holds_demand
    · intro _
      exact settleUnaccepted_holds strict runs
    · intro _
      exact strict.stepping
  · split
    · exact strict.stepping
    · exact reconcileTurn_holds tidied strict tidy runs type starts

end

/-- A runnable record without a START. -/
structure Idle (seen : Gist) : Prop where
  runs : runnable seen.status = true
  starting : seen.starting = false
  tidy : seen.Tidy

theorem Idle.free (idle : Idle seen) : ¬ seen.Held := Gist.free idle.runs idle.starting

section
variable (idle : Idle seen) {patch : ManagedPlanExecutionPatch} {pending : Option ManagedPlanCommand}
  (named : patch.pendingCommand = some pending) (settings : ∀ command, pending = some command → command.type ≠ .start)
  (reason : patch.interruptReason = none)

include idle named settings reason

theorem Idle.steady : seen.Steady patch := by
  apply Gist.steady_free idle.free
  have none_ := idle.tidy.reasonless idle.starting
  constructor
  · intro given
    unfold Gist.after at given
    rw [reason, Option.getD_none, none_] at given
    cases given
  · intro _
    unfold Gist.after
    rw [named]
    cases pending with
    | none => rfl
    | some command => simpa using settings command rfl

theorem Idle.after (runs : runnable (patch.status.getD seen.status) = true) : Idle (seen.after patch) where
  runs := runs
  starting := by
    unfold Gist.after
    rw [named]
    cases pending with
    | none => rfl
    | some command => simpa using settings command rfl
  tidy := (idle.steady named settings reason).tidy

end

theorem retry_steady (idle : Idle seen) {patch : ManagedPlanExecutionPatch} (pending : patch.pendingCommand = none)
    (reason : patch.interruptReason = none) : seen.Steady patch := by
  apply Gist.steady_free idle.free
  unfold Gist.after
  rw [pending, reason]
  refine ⟨?_, fun _ => idle.starting⟩
  rw [Option.getD_none, idle.tidy.reasonless idle.starting]
  intro given
  cases given

/-- The driver is asked to send a command of a record that nothing holds. -/
theorem command_holds {op : Op} (command : isCommand op = true) (strict : Strict stored seen known state)
    (free : ¬ seen.Held) :
    (await op).Holds (rules stored) known since state fun _ told _ later => Strict stored seen told later := by
  have owed : issues stored known since state op known := by
    refine ⟨strict.filed, rfl, strict.stepping.poised.passing, ?_⟩
    rw [← strict.seen] at free
    cases op <;> first | exact ⟨strict.share, free, rfl⟩ | cases command
  refine ⟨known, owed, ?_⟩
  intro answer told tells later relied
  have share : told.share = .strict := (show told.share = known.share from tells.1).trans strict.share
  have gone : Strict stored seen told later := ⟨relied.1, share, (relied.2 share).trans strict.seen⟩
  cases answer with
  | ok value => exact gone
  | error failure => exact gone

theorem writeSettings_holds {selection : StageModelSelection} {command : ManagedPlanCommand}
    (strict : Strict stored seen known state) (idle : Idle seen) (settings : command.type ≠ .start) :
    (writeSettings lease selection command).Holds (rules stored) known since state fun result told _ later =>
      Stepping stored told later ∧ (result = .ok true → Strict stored seen told later) := by
  have restated (status : CommandStatus) :
      ∀ other, some { command with status } = some other → other.type ≠ .start := by
    intro other same
    cases same
    exact settings
  refine Holds.rescue (fun result told _ later => Strict stored seen told later ∧ result ≠ .ok false) ?_ ?_ ?_
  · apply holds_here
    refine Holds.andThen (command_holds rfl strict idle.free) ?_ (fun _ _ _ _ gone => ⟨gone, fun same => by cases same⟩)
    intro _ told since later gone
    exact ⟨gone, fun same => by cases same⟩
  · intro value told since later gone
    exact ⟨gone.1.stepping, fun _ => gone.1⟩
  · rintro failure told since later ⟨gone, -⟩
    have resolved {patch : Local → ManagedPlanExecutionPatch} (steady : ∀ state, seen.Steady (patch state)) :
        ((resolve lease).andThen fun _ => (save patch).andThen fun _ => .done false).Holds (rules stored) told since later
          fun result told _ later => Stepping stored told later ∧ (result = .ok true → Strict stored seen told later) := by
      refine Holds.andThen (resolve_holds gone.stepping.poised) ?_
        (fun _ _ _ _ along => ⟨(gone.along along).stepping, fun same => by cases same⟩)
      intro _ told since later along
      refine Holds.andThen (save_over (gone.along along) (steady later)) ?_
        (fun _ _ _ _ saved => ⟨saved, fun same => by cases same⟩)
      intro _ told since later saved
      exact ⟨saved, fun same => by cases same⟩
    cases failure with
    | conflict message => exact ⟨gone.stepping, fun same => by cases same⟩
    | settingsRejected retryable =>
      cases retryable with
      | none =>
        apply resolved
        intro state
        exact idle.steady rfl (by simp) rfl
      | some failure =>
        apply resolved
        intro state
        exact idle.steady rfl (restated .prepared) rfl
    | delivery error =>
      apply resolved
      intro state
      exact idle.steady rfl (restated .unknown) rfl
    | other message =>
      apply resolved
      intro state
      exact idle.steady rfl (restated .unknown) rfl

/-- A runnable record whose START nothing interrupts. -/
structure Started (seen : Gist) : Prop where
  runs : runnable seen.status = true
  reason : seen.reason = none
  starting : seen.starting = true
  tidy : seen.Tidy

theorem Started.free (started : Started seen) : ¬ seen.Held := by
  rintro (rests | ⟨_, paused⟩)
  · rw [started.runs] at rests
    cases rests
  · rw [started.reason] at paused
    cases paused

theorem Started.steady (started : Started seen) {patch : ManagedPlanExecutionPatch} {start : ManagedPlanCommand}
    (pending : patch.pendingCommand = some (some start)) (reason : patch.interruptReason = none)
    (status : patch.status = some .running) : seen.Steady patch := by
  apply Gist.steady_free started.free
  unfold Gist.after
  rw [pending, reason, status]
  constructor
  · rw [Option.getD_none, started.reason]
    intro given
    cases given
  · intro paused
    cases paused

theorem Idle.started (idle : Idle seen) {patch : ManagedPlanExecutionPatch} {start : ManagedPlanCommand}
    (type : start.type = .start) (pending : patch.pendingCommand = some (some start))
    (reason : patch.interruptReason = none) (status : patch.status = none) : Started (seen.after patch) := by
  have none_ := idle.tidy.reasonless idle.starting
  unfold Gist.after
  rw [pending, reason, status]
  refine ⟨idle.runs, none_, by simp [type], ?_⟩
  refine ⟨fun _ => by simp [type], ?_⟩
  intro paused
  have paused : seen.status = .paused := paused
  have runs := idle.runs
  rw [paused] at runs
  cases runs

theorem sendStart_holds {selection : StageModelSelection} {prompt : JsString} {command start : ManagedPlanCommand}
    (strict : Strict stored seen known state) (started : Started seen) :
    Goes stored (sendStart lease selection prompt command start) known since state := by
  refine Holds.rescue (Ends (fun told _ => Stepping stored told) fun told _ => Strict stored seen told) ?_ (fun _ _ _ _ going => going) ?_
  · apply holds_here
    refine Holds.andThen (command_holds rfl strict started.free) ?_ (fun _ _ _ _ gone => gone)
    intro turnId told since later gone
    apply holds_change
    refine Holds.andThen (fence_holds (gone.remember _).stepping.poised) ?_
      (fun _ _ _ _ fenced => (gone.remember _).along fenced.1)
    intro _ told since later fenced
    have now := (gone.remember _).along fenced.1
    apply (save_strict now (started.steady rfl rfl rfl)).mono
    intro result told since later saved
    cases result with
    | ok => exact saved.stepping
    | error failure => exact saved
  · intro failure told since later gone
    have unknown : (save fun _ =>
        { status := some .running
          pendingCommand := some (some { start with status := .unknown })
          statusReason := some (some (js "Reconciling native command acceptance.")) }).Holds (rules stored) told since later
        fun _ told _ later => Stepping stored told later := save_over gone (started.steady rfl rfl rfl)
    cases failure with
    | conflict message => exact gone.stepping
    | settingsRejected retryable => exact unknown
    | other message => exact unknown
    | delivery error =>
      dsimp only
      split
      · apply holds_change
        refine (gone.remember _).goesOn resolve_holds ?_
        intro _ told since later resolved
        exact settleUnaccepted_holds resolved started.runs
      · exact unknown

section

variable {stage : ManagedPlanStage} {prompt : JsString} (strict : Strict stored seen known state) (idle : Idle seen)

include strict idle

section

variable {selection : StageModelSelection} {command : ManagedPlanCommand} (settings : command.type ≠ .start)

include settings

theorem startStage_holds : Goes stored (startStage options lease stage selection prompt command) known since state := by
  have kept : ∀ other, some { command with status := .sent } = some other → other.type ≠ .start := by
    intro other same
    cases same
    exact settings
  refine strict.goesOn fence_along ?_
  intro _ told since later first
  apply holds_here
  refine first.goesOn (await_asks rfl) ?_
  intro confirmed told since later second
  refine second.goesOn fence_along ?_
  intro _ told since later third
  apply holds_demand ?_ (fun _ => third.stepping)
  intro _
  refine Holds.andThen (save_strict third (idle.steady rfl kept rfl)) ?_ (fun _ _ _ _ saved => saved.stepping)
  intro _ told since later fourth
  have still : Idle (seen.after { pendingCommand := some (some { command with status := .sent }) }) :=
    idle.after rfl kept rfl idle.runs
  refine fourth.goesOn resolve_holds ?_
  intro _ told since later fifth
  refine fifth.goesOn readNative_holds ?_
  intro thread told since later sixth
  apply holds_demand ?_ (fun _ => sixth.stepping)
  intro _
  apply holds_randomUUID
  apply holds_randomUUID
  refine Holds.andThen (save_strict (sixth.draw _) ?_) ?_ (fun _ _ _ _ saved => saved.stepping)
  · apply Gist.steady_free still.free
    exact (still.started (rfl : (startCommand command _ _).type = .start) rfl rfl rfl).tidy
  intro _ told since later prepared
  refine prepared.goesOn resolve_holds ?_
  intro _ told since later resolved
  refine resolved.goesOn fence_along ?_
  intro _ told since later fenced
  apply sendStart_holds fenced
  exact still.started (rfl : (startCommand command _ _).type = .start) rfl rfl rfl

theorem applySettings_holds {resumed : Option CommandStatus} :
    Goes stored (applySettings options lease stage selection prompt command resumed) known since state := by
  refine strict.goesOn resolve_holds ?_
  intro _ told since later first
  refine first.goesOn readNative_holds ?_
  intro thread told since later second
  apply holds_demand ?_ (fun _ => second.stepping)
  intro _
  refine second.goesOn fence_along ?_
  intro _ told since later third
  apply holds_here
  refine third.goesOn (await_asks rfl) ?_
  intro before told since later fourth
  refine fourth.goesOn fence_along ?_
  intro _ told since later fifth
  apply holds_demand ?_ (fun _ => fifth.stepping)
  intro _
  dsimp only
  split
  · refine fifth.goesOn resolve_holds ?_
    intro _ told since later sixth
    refine save_over sixth (idle.steady rfl ?_ rfl)
    intro other same
    cases same
    exact settings
  · have written : (if resumed = none ∨ (before.modelId ≠ selection.modelId ∨
        before.reasoningEffort ≠ selection.reasoningEffort) then writeSettings lease selection command
          else pure true).Holds (rules stored) told since later fun result told _ later =>
            Stepping stored told later ∧ (result = .ok true → Strict stored seen told later) := by
      split
      · exact writeSettings_holds fifth idle settings
      · exact ⟨fifth.stepping, fun _ => fifth⟩
    refine Holds.andThen written ?_ (fun _ _ _ _ gone => gone.1)
    intro goOn told since later gone
    split
    · next goes =>
      subst goes
      exact startStage_holds (gone.2 rfl) idle settings
    · exact gone.1

end

theorem prepare_holds {control : ManagedTurnDriver} {thread : NativeThread} {pending : Option ManagedPlanCommand} :
    Goes stored (prepare options lease control thread stage prompt pending) known since state := by
  apply holds_here
  split
  · exact strict.stepping
  · split
    · exact save_over strict (idle.steady rfl (by simp) rfl)
    · apply holds_demand ?_ (fun _ => strict.stepping)
      intro _
      refine strict.goesOn (await_asks rfl) ?_
      intro models told since later first
      refine first.goesOn fence_along ?_
      intro _ told since later second
      split
      · exact save_over second (retry_steady idle rfl rfl)
      · split
        · apply holds_demand ?_ (fun _ => second.stepping)
          intro matching
          apply applySettings_holds second idle
          rw [matching.1]
          simp
        · apply holds_randomUUID
          apply holds_here
          refine Holds.andThen (save_strict (second.draw _) (idle.steady rfl ?_ rfl)) ?_
            (fun _ _ _ _ saved => saved.stepping)
          · intro other same
            cases same
            simp
          · intro _ told since later saved
            refine applySettings_holds saved (idle.after rfl ?_ rfl rfl) (by simp)
            intro other same
            cases same
            simp

end

section

variable (tidied : ∀ revision, (stored revision).Tidy) (strict : Strict stored seen known state) (tidy : seen.Tidy)

include tidied strict tidy

theorem runStage_holds {control : ManagedTurnDriver} {thread : NativeThread} {stage : ManagedPlanStage}
    {prompt : JsString} (runs : runnable seen.status = true) :
    Goes stored (runStage options lease control thread stage prompt) known since state := by
  have starting := filter_start state.execution
  rw [strict.seen] at starting
  apply holds_here
  split
  · exact save_over strict (tidy.rests rfl rfl rfl rfl (by simp))
  · split
    · next pending filtered =>
      rw [filtered] at starting
      obtain ⟨_, type⟩ := Option.filter_eq_some_iff.mp filtered
      exact reconcile_holds tidied strict tidy runs (by simpa using type) starting.symm
    · next filtered =>
      rw [filtered] at starting
      exact prepare_holds strict ⟨runs, starting.symm, tidy⟩

theorem advanceStage_holds (runs : runnable seen.status = true) :
    Goes stored (advanceStage options lease) known since state := by
  refine strict.goesOn resolve_holds ?_
  intro control told since later first
  refine first.goesOn readNative_holds ?_
  intro thread told since later second
  apply holds_here
  split
  · exact second.stepping
  · next stage found =>
    generalize stagePrompt later.execution stage = prompt
    exact runStage_holds tidied second tidy runs

theorem work_holds : Goes stored (work options lease) known since state := by
  apply holds_here
  split
  · exact strict.stepping
  · next going =>
    split
    · exact strict.stepping
    · have runs : runnable seen.status = true := by
        rw [← show state.execution.status = seen.status from congrArg Gist.status strict.seen]
        simpa using going
      exact advanceStage_holds tidied strict tidy runs

end

theorem finish_holds (stepping : Stepping stored known state) :
    finish.Holds (rules stored) known since state fun _ _ _ later => Filed stored later.execution := by
  refine ⟨{ known with share := .loose }, ⟨stepping.filed, rfl, stepping.poised.passing, stepping.share, rfl⟩, ?_⟩
  intro answer told tells later relied
  have share : told.share = .loose := tells.1
  have released {state : Local} (filed : Filed stored state.execution) (since : Local) :
      (await .release).Holds (rules stored) told since state fun _ _ _ later => Filed stored later.execution := by
    refine ⟨told, ⟨filed, rfl, ?_, rfl⟩, ?_⟩
    · intro passing
      rw [share] at passing
      cases passing
    · intro answer last _ final gone
      cases answer with
      | ok value => exact gone.1
      | error failure => exact gone.1
  match answer, tells with
  | .error failure, _ => exact relied.1
  | .ok none, _ =>
    apply holds_change
    exact released relied.1 later
  | .ok (some latest), tells =>
    apply holds_change
    exact released tells.2.2 later

theorem settleFailure_holds {failure : Failure} (tidied : ∀ revision, (stored revision).Tidy)
    (stepping : Stepping stored known state) : Goes stored (settleFailure failure) known since state := by
  have blocked : Goes stored (save fun _ => unconfirmed) known since state :=
    save_stepping stepping ((stepping.tidy tidied).rests rfl rfl rfl rfl (by simp))
  cases failure with
  | conflict message => exact stepping
  | delivery error => exact blocked
  | settingsRejected retryable => exact blocked
  | other message => exact blocked

theorem advance_holds (tidied : ∀ revision, (stored revision).Tidy) (strict : Strict stored seen known state)
    (tidy : seen.Tidy) :
    (advance options lease).Holds (rules stored) known since state fun _ _ _ later => Filed stored later.execution := by
  apply holds_ensuring
  have guarded : Goes stored ((work options lease).rescue settleFailure) known since state :=
    Holds.rescue _ (work_holds tidied strict tidy) (fun _ _ _ _ stepping => stepping)
      fun _ _ _ _ stepping => settleFailure_holds tidied stepping
  apply guarded.mono
  intro result told since later stepping
  apply (finish_holds stepping).mono
  intro cleaned told since later filed
  cases cleaned with
  | ok => exact filed
  | error failure => exact filed

end

end SpaceApp.Plans.Pausing
