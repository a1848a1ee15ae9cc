import SpaceApp.Plans.Conduct

/-! The parts of the controller's step keep to the rules: the fences and the reads, the saves,
the reconciliation of a START and the preparation of the next one. -/

set_option autoImplicit false

namespace SpaceApp.Plans

open SpaceApp.Foundation Dialogue

section

variable {options : ControllerOptions} {lease : PlanExecutionLease} {stored : Nat → ManagedPlanExecution} {alive : Prop}
  {known told last : Known} {since state later final began : Local}

theorem clear_later (relied : relies options stored alive told state later) :
    Clear options stored alive told later later where
  genuine := relied.2.1
  issued := relied.2.2.1
  counted := relied.1
  drawn := Nat.le_refl _
  guarded := by
    obtain ⟨-, -, -, moved⟩ := relied
    cases mode : told.mode with
    | free => trivial
    | held id =>
      rw [mode] at moved
      exact moved
    | passing => rfl

variable (options stored alive) in
/-- The thread has gone on from `state` without a change of its own to the record. -/
structure Onward (known : Known) (state : Local) (told : Known) (since later : Local) : Prop where
  clear : Clear options stored alive told since later
  mode : told.mode = known.mode
  core : told.core = known.core
  unsent : told.unsent = known.unsent
  moved : known.mode = .free → Plans.core later.execution = Plans.core state.execution

theorem Onward.refl (clear : Clear options stored alive known since state) :
    Onward options stored alive known state known since state where
  clear
  mode := rfl
  core := rfl
  unsent := rfl
  moved := fun _ => rfl

theorem Onward.trans (first : Onward options stored alive known state told since later)
    (second : Onward options stored alive told later last began final) :
    Onward options stored alive known state last began final where
  clear := second.clear
  mode := second.mode.trans first.mode
  core := second.core.trans first.core
  unsent := second.unsent.trans first.unsent
  moved := fun free => (second.moved (first.mode.trans free)).trans (first.moved free)

/-- The others have gone on, and the thread was told nothing of the record. -/
theorem Onward.of_relies {op : Op} {answer : Op.Answer op}
    (tells : answers options lease stored alive known op answer told) (same : told.core = known.core)
    (relied : relies options stored alive told state later) :
    Onward options stored alive known state told later later where
  clear := clear_later relied
  mode := tells.1.1
  core := same
  unsent := tells.1.2.1
  moved := by
    intro free
    obtain ⟨-, -, -, moved⟩ := relied
    rw [tells.1.1, free] at moved
    exact moved

/-- The questions that touch nothing of the record. -/
def Op.plain : Op → Bool
  | .resolve _ | .readThread _ | .readThreadSettings _ | .listModels | .updateThreadSettings _ _ _ => true
  | _ => false

variable (lease) in
theorem await_plain {op : Op} (plain : op.plain = true) (clear : Clear options stored alive known since state) :
    (await op).Holds (rules options lease stored alive) known since state fun _ => Onward options stored alive known state := by
  have owed : issues options stored alive known since state op known := by
    refine ⟨clear, ?_⟩
    cases op <;> first | rfl | cases plain
  refine ⟨known, owed, ?_⟩
  intro answer told tells later relied
  have same : told.core = known.core := by
    cases op <;> first | exact tells.2 | cases plain
  cases answer with
  | ok value => exact Onward.of_relies tells same relied
  | error failure => exact Onward.of_relies tells same relied

theorem Clear.remember (clear : Clear options stored alive known since state) (memory : Memory) :
    Clear options stored alive known since { state with memory } :=
  { clear with }

theorem current_claimed {claimed : ManagedPlanExecution} (live : current lease state claimed = true) :
    ∃ held, claimed.lease = some held ∧ held.epoch = lease.epoch ∧ claimed.revision = state.execution.revision ∧
      state.now < held.expiresAt := by
  unfold current at live
  cases leased : claimed.lease with
  | none => simp [leased] at live
  | some held =>
    simp only [leased, Option.any_some, Bool.and_eq_true, decide_eq_true_eq] at live
    exact ⟨held, rfl, live.1.1, live.1.2, live.2⟩

/-- The claimed record is the one of its revision, so nothing but the lease is new. -/
theorem Clear.renew {claimed : ManagedPlanExecution} (clear : Clear options stored alive known since state)
    (genuine : Genuine options stored claimed) (revision : claimed.revision = state.execution.revision) :
    Clear options stored alive known since { state with execution := claimed } ∧
      core claimed = core state.execution := by
  have renewed : SameRecord claimed state.execution := by
    refine genuine.1.trans (SameRecord.symm ?_)
    rw [revision]
    exact clear.genuine.1
  have attempts : claimed.attempts = state.execution.attempts := congrArg Core.attempts renewed.core
  refine ⟨⟨genuine, clear.issued.of_keys (congrArg keys attempts), clear.counted, clear.drawn, ?_⟩, renewed.core⟩
  have guarded := clear.guarded
  cases mode : known.mode with
  | free => trivial
  | held id =>
    rw [mode] at guarded
    intro living
    exact (congrArg Core.start renewed.core).trans (guarded living)
  | passing =>
    rw [mode] at guarded
    exact renewed.core.trans guarded

section
variable (clear : Clear options stored alive known since state)

include clear

theorem fence_holds :
    (fence lease).Holds (rules options lease stored alive) known since state fun result told since later =>
      Onward options stored alive known state told since later ∧
        (result = .ok () → ∃ expiry, told.expiry = some expiry ∧ since.now < expiry) := by
  apply holds_demand
  · intro _
    refine ⟨known, ⟨clear, rfl⟩, ?_⟩
    intro answer told tells later relied
    have heard : answers options lease stored alive known .claim answer told := tells
    have onward (same : told.core = known.core) := Onward.of_relies heard same relied
    match answer, tells with
    | .error failure, tells => exact ⟨onward tells.2, fun same => by cases same⟩
    | .ok none, tells => exact ⟨onward tells.2, fun same => by cases same⟩
    | .ok (some claimed), tells =>
      obtain ⟨same, genuine, issued, expires⟩ := tells.2
      have gone := onward same
      apply holds_demand
      · intro live
        obtain ⟨held, leased, epoch, revision, unexpired⟩ := current_claimed live
        obtain ⟨renewed, sameCore⟩ := gone.clear.renew genuine revision
        refine ⟨{ gone with clear := renewed, moved := ?_ }, ?_⟩
        · intro free
          exact sameCore.trans (gone.moved free)
        · intro _
          exact ⟨held.expiresAt, expires held leased epoch, unexpired⟩
      · intro _
        exact ⟨gone, fun same => by cases same⟩
  · intro _
    exact ⟨Onward.refl clear, fun same => by cases same⟩

theorem fence_onward :
    (fence lease).Holds (rules options lease stored alive) known since state fun _ => Onward options stored alive known state :=
  (fence_holds clear).mono fun _ _ _ _ fenced => fenced.1

theorem resolve_holds :
    (resolve lease).Holds (rules options lease stored alive) known since state fun _ =>
      Onward options stored alive known state := by
  apply holds_here
  refine Holds.andThen (await_plain lease rfl clear) ?_ (fun _ _ _ _ onward => onward)
  intro control told since asked onward
  refine Holds.andThen (fence_holds onward.clear) ?_ (fun _ _ _ _ fenced => onward.trans fenced.1)
  intro _ last began later fenced
  apply holds_demand
  · intro _
    exact onward.trans fenced.1
  · intro _
    exact onward.trans fenced.1

theorem readNative_holds :
    (readNative lease).Holds (rules options lease stored alive) known since state fun _ =>
      Onward options stored alive known state := by
  apply holds_here
  refine Holds.andThen (await_plain lease rfl clear) ?_ (fun _ _ _ _ onward => onward)
  intro thread told since asked onward
  refine Holds.andThen (fence_holds onward.clear) ?_ (fun _ _ _ _ fenced => onward.trans fenced.1)
  intro _ last began later fenced
  apply holds_demand
  · intro _
    exact onward.trans fenced.1
  · intro _
    exact onward.trans fenced.1

end

theorem holds_randomUUID {Result Told : Type} {next : String → Program Result} {known : Told}
    {post : Except Failure Result → Told → Local → Local → Prop} {rules : Rules Op Op.Answer Local Told}
    (holds : (next (options.ids.uuid state.nextId)).Holds rules known since
      { state with nextId := state.nextId + 1 } post) :
    ((randomUUID options).andThen next).Holds rules known since state post := holds

theorem Clear.draw (clear : Clear options stored alive known since state) :
    Clear options stored alive known since { state with nextId := state.nextId + 1 } :=
  { clear with drawn := clear.drawn.trans (Nat.le_succ _) }

variable (options stored alive) in
/-- What becomes of the record as far as the thread knows it: a save lands, or it does not as
far as the thread can tell. -/
structure Saved (known : Known) (state : Local) (patch : ManagedPlanExecutionPatch) (unsent : Option String)
    (result : Except Failure Unit) (told : Known) (since later : Local) : Prop where
  clear : Clear options stored alive told since later
  mode : told.mode = known.mode
  unsent : told.unsent = unsent
  landed : result = .ok () → SameRecord later.execution (patched state.execution patch) ∧
    told.core = known.core.map fun _ => core later.execution
  missed : (∃ failure, result = .error failure) → (known.mode = .free → core later.execution = core state.execution) ∧
    (told.core = known.core ∨ told.core = known.core.map fun _ => core (patched state.execution patch))

theorem save_holds {patch : Local → ManagedPlanExecutionPatch} {issued : Known}
    (clear : Clear options stored alive known since state)
    (fresh : Issued options.ids state.nextId (patched state.execution (patch state)))
    (lawful : alive → Lawful options.stageLimit state.execution (patch state))
    (mode : match known.mode with
      | .free => known.core.isSome
      | .held _ => core (patched state.execution (patch state)) = core state.execution
      | .passing => False)
    (drawn : issued = known ∨ ∃ index, since.nextId ≤ index ∧ index < state.nextId ∧
      issued = { known with unsent := some (options.ids.uuid index) }) :
    (save patch).Holds (rules options lease stored alive) known since state
      (Saved options stored alive known state (patch state) issued.unsent) := by
  have sameMode : issued.mode = known.mode := by
    rcases drawn with rfl | ⟨index, -, -, rfl⟩ <;> rfl
  have sameCore : issued.core = known.core := by
    rcases drawn with rfl | ⟨index, -, -, rfl⟩ <;> rfl
  refine ⟨issued, ⟨clear, clear.genuine, fresh, lawful, mode, drawn⟩, ?_⟩
  intro answer told tells later relied
  have goneMode : told.mode = known.mode := tells.1.1.trans sameMode
  match answer, tells with
  | .error failure, tells =>
    refine ⟨clear_later relied, goneMode, tells.1.2.1, (fun same => by cases same), fun _ => ⟨?_, ?_⟩⟩
    · intro free
      obtain ⟨-, -, -, moved⟩ := relied
      rw [goneMode, free] at moved
      exact moved
    · rw [← sameCore]
      exact tells.2
  | .ok next, tells =>
    obtain ⟨genuine, issuedNext, same, told_core⟩ := tells.2
    refine ⟨⟨genuine, issuedNext.mono relied.1, relied.1, Nat.le_refl _, ?_⟩, goneMode, tells.1.2.1, fun _ => ⟨same, ?_⟩, ?_⟩
    · cases held : told.mode with
      | free => trivial
      | held id =>
        intro living
        rw [← goneMode, held] at mode
        have guarded := clear.guarded
        rw [← goneMode, held] at guarded
        exact (congrArg Core.start (same.core.trans mode)).trans (guarded living)
      | passing =>
        rw [← goneMode, held] at mode
        exact mode.elim
    · rw [told_core, sameCore]
    · rintro ⟨failure, same⟩
      cases same

variable (options stored alive) in
/-- The step before it interrupts anything: `view` is the core of its variable, and, where
`synced`, that of the record too. -/
structure At (view : Core) (synced : Prop) (known : Known) (since state : Local) : Prop where
  clear : Clear options stored alive known since state
  free : known.mode = .free
  seen : core state.execution = view
  recorded : ∃ record, known.core = some record ∧ (synced → alive → record = view)

variable (options stored alive) in
structure Main (known : Known) (since state : Local) : Prop where
  clear : Clear options stored alive known since state
  stepping : known.mode ≠ .passing
  recorded : ∃ record, known.core = some record ∧ ∀ id, known.mode = .held id → alive → record.start = some id

variable {view : Core} {synced : Prop}

theorem At.main (at_ : At options stored alive view synced known since state) :
    Main options stored alive known since state := by
  obtain ⟨record, knows, -⟩ := at_.recorded
  refine ⟨at_.clear, ?_, record, knows, ?_⟩
  · rw [at_.free]
    intro same
    cases same
  · intro id held
    rw [at_.free] at held
    cases held

theorem At.onward (at_ : At options stored alive view synced known since state)
    (gone : Onward options stored alive known state told began later) :
    At options stored alive view synced told began later := by
  obtain ⟨record, knows, same⟩ := at_.recorded
  exact ⟨gone.clear, gone.mode.trans at_.free, (gone.moved at_.free).trans at_.seen, record, gone.core.trans knows, same⟩

variable (options lease stored alive) in
/-- The program keeps to the rules and leaves the step under way. -/
abbrev Goes {Result : Type} (program : Program Result) (known : Known) (since state : Local) : Prop :=
  program.Holds (rules options lease stored alive) known since state fun _ told since later =>
    Main options stored alive told since later

/-- What changes nothing of the record comes before the rest. -/
theorem At.goesOn {Value Result : Type} {first : Program Value} {rest : Value → Program Result}
    (at_ : At options stored alive view synced known since state)
    (asked : Clear options stored alive known since state → first.Holds (rules options lease stored alive) known since state
      fun _ => Onward options stored alive known state)
    (goes : ∀ value told since later, At options stored alive view synced told since later →
      Goes options lease stored alive (rest value) told since later) :
    Goes options lease stored alive (first.andThen rest) known since state :=
  Holds.andThen (asked at_.clear) (fun value told since later gone => goes value told since later (at_.onward gone))
    fun _ _ _ _ gone => (at_.onward gone).main

theorem Main.onward (main : Main options stored alive known since state)
    (gone : Onward options stored alive known state told began later) : Main options stored alive told began later := by
  obtain ⟨record, knows, starts⟩ := main.recorded
  refine ⟨gone.clear, ?_, record, gone.core.trans knows, ?_⟩
  · rw [gone.mode]
    exact main.stepping
  · rw [gone.mode]
    exact starts

section
variable (at_ : At options stored alive view synced known since state)

include at_

theorem At.attempts : state.execution.attempts = view.attempts := congrArg Core.attempts at_.seen

theorem At.start : startId state.execution = view.start := congrArg Core.start at_.seen

theorem At.sound : Sound options.stageLimit state.execution := at_.clear.genuine.2

theorem At.weaken : At options stored alive view False known since state := by
  obtain ⟨record, knows, -⟩ := at_.recorded
  exact ⟨at_.clear, at_.free, at_.seen, record, knows, False.elim⟩

theorem At.remember (memory : Memory) : At options stored alive view synced known since { state with memory } :=
  { at_ with clear := at_.clear.remember memory }

theorem At.draw : At options stored alive view synced known since { state with nextId := state.nextId + 1 } :=
  { at_ with clear := at_.clear.draw }

end

theorem Main.remember (main : Main options stored alive known since state) (memory : Memory) :
    Main options stored alive known since { state with memory } :=
  { main with clear := main.clear.remember memory }

theorem issued_patched {patch : ManagedPlanExecutionPatch} (clear : Clear options stored alive known since state)
    (same : keys (patched state.execution patch).attempts = keys state.execution.attempts) :
    Issued options.ids state.nextId (patched state.execution patch) :=
  (clear.issued.mono clear.drawn).of_keys same

section

variable {patch : Local → ManagedPlanExecutionPatch}

theorem save_at {issued : Known} (at_ : At options stored alive view synced known since state)
    (fresh : Issued options.ids state.nextId (patched state.execution (patch state)))
    (lawful : Lawful options.stageLimit state.execution (patch state))
    (drawn : issued = known ∨ ∃ index, since.nextId ≤ index ∧ index < state.nextId ∧
      issued = { known with unsent := some (options.ids.uuid index) }) :
    (save patch).Holds (rules options lease stored alive) known since state fun result told since later =>
      told.unsent = issued.unsent ∧
        match result with
        | .ok _ => At options stored alive (core (patched state.execution (patch state))) True told since later
        | .error _ => At options stored alive view False told since later := by
  have free := at_.free
  obtain ⟨record, knows, -⟩ := at_.recorded
  refine (save_holds at_.clear fresh (fun _ => lawful) ?_ drawn).mono ?_
  · rw [free]
    exact Option.isSome_of_eq_some knows
  · intro result told began later saved
    refine ⟨saved.unsent, ?_⟩
    cases result with
    | ok =>
      obtain ⟨same, knowsNext⟩ := saved.landed rfl
      refine ⟨saved.clear, saved.mode.trans free, same.core, core later.execution, ?_, fun _ _ => same.core⟩
      rw [knowsNext, knows]
      rfl
    | error failure =>
      obtain ⟨unmoved, lost⟩ := saved.missed ⟨failure, rfl⟩
      refine ⟨saved.clear, saved.mode.trans free, (unmoved free).trans at_.seen, ?_⟩
      rcases lost with same | other
      · exact ⟨record, same.trans knows, False.elim⟩
      · refine ⟨core (patched state.execution (patch state)), ?_, False.elim⟩
        rw [other, knows]
        rfl

theorem save_quiet_at (at_ : At options stored alive view synced known since state)
    (lawful : Lawful options.stageLimit state.execution (patch state))
    (quiet : core (patched state.execution (patch state)) = core state.execution) :
    (save patch).Holds (rules options lease stored alive) known since state fun _ told since later =>
      told.unsent = known.unsent ∧ At options stored alive view synced told since later := by
  have free := at_.free
  have same : (patched state.execution (patch state)).attempts = state.execution.attempts :=
    congrArg Core.attempts quiet
  obtain ⟨record, knows, agrees⟩ := at_.recorded
  refine (save_holds at_.clear (issued_patched at_.clear (congrArg keys same)) (fun _ => lawful) ?_ (.inl rfl)).mono ?_
  · rw [free]
    exact Option.isSome_of_eq_some knows
  · intro result told began later saved
    suffices gone : core later.execution = view ∧
        ∃ record, told.core = some record ∧ (synced → alive → record = view) from
      ⟨saved.unsent, saved.clear, saved.mode.trans free, gone.1, gone.2⟩
    cases result with
    | ok =>
      obtain ⟨landed, knowsNext⟩ := saved.landed rfl
      have now : core later.execution = view := (landed.core.trans quiet).trans at_.seen
      refine ⟨now, core later.execution, ?_, fun _ _ => now⟩
      rw [knowsNext, knows]
      rfl
    | error failure =>
      obtain ⟨unmoved, lost⟩ := saved.missed ⟨failure, rfl⟩
      refine ⟨(unmoved free).trans at_.seen, ?_⟩
      rcases lost with unknown | other
      · exact ⟨record, unknown.trans knows, agrees⟩
      · refine ⟨core (patched state.execution (patch state)), ?_, fun _ _ => quiet.trans at_.seen⟩
        rw [other, knows]
        rfl

theorem save_quiet_main (main : Main options stored alive known since state)
    (lawful : alive → Lawful options.stageLimit state.execution (patch state))
    (quiet : core (patched state.execution (patch state)) = core state.execution) :
    (save patch).Holds (rules options lease stored alive) known since state fun _ => Main options stored alive := by
  have same : (patched state.execution (patch state)).attempts = state.execution.attempts :=
    congrArg Core.attempts quiet
  obtain ⟨record, knows, starts⟩ := main.recorded
  refine (save_holds main.clear (issued_patched main.clear (congrArg keys same)) lawful ?_ (.inl rfl)).mono ?_
  · cases mode : known.mode with
    | free => exact Option.isSome_of_eq_some knows
    | held id => exact quiet
    | passing => exact main.stepping mode
  · intro result told began later saved
    refine ⟨saved.clear, ?_, ?_⟩
    · rw [saved.mode]
      exact main.stepping
    cases result with
    | ok =>
      obtain ⟨landed, knowsNext⟩ := saved.landed rfl
      refine ⟨core later.execution, ?_, ?_⟩
      · rw [knowsNext, knows]
        rfl
      · intro id held
        have guarded := saved.clear.guarded
        rw [held] at guarded
        exact guarded
    | error failure =>
      obtain ⟨-, lost⟩ := saved.missed ⟨failure, rfl⟩
      rcases lost with unknown | other
      · refine ⟨record, unknown.trans knows, ?_⟩
        rw [saved.mode]
        exact starts
      · refine ⟨core (patched state.execution (patch state)), ?_, ?_⟩
        · rw [other, knows]
          rfl
        · intro id held living
          rw [saved.mode] at held
          have guarded := main.clear.guarded
          rw [held] at guarded
          exact (congrArg Core.start quiet).trans (guarded living)

end

end

end SpaceApp.Plans
