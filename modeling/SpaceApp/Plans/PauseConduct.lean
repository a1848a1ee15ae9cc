import SpaceApp.Plans.Pausing

/-! What a step of the controller owes a pause at each of its awaits: its patches keep what holds
the record, and it asks the driver to send a command only of a record that nothing holds. -/

set_option autoImplicit false

namespace SpaceApp.Plans.Pausing

open SpaceApp.Foundation Dialogue

/-- How a thread shares the `execution` variable: the step before its first interrupt and its last
read, whatever comes after those, and a `beforeSend` that only renews the lease. -/
inductive Share where
  | strict | loose | passing
  deriving DecidableEq

/-- `claimed`: what the thread's last claim showed. -/
structure Sight where
  share : Share
  claimed : Option Gist

section

variable (stored : Nat → Gist)

def Filed (record : ManagedPlanExecution) : Prop := gist record = stored record.revision

/-- The commands that a pause holds back. -/
def isCommand : Op → Bool
  | .updateThreadSettings _ _ _ | .startManagedTurn _ _ _ _ _ => true
  | _ => false

def issues (known : Sight) (since state : Local) (op : Op) (issued : Sight) : Prop :=
  Filed stored state.execution ∧ issued.claimed = known.claimed ∧
    (known.share = .passing → gist state.execution = gist since.execution) ∧
    match op with
    | .update view patch =>
        Filed stored view ∧ (gist view).Steady patch ∧ known.share ≠ .passing ∧ issued.share = known.share
    | .updateThreadSettings _ _ _ | .startManagedTurn _ _ _ _ _ =>
        known.share = .strict ∧ ¬ (gist state.execution).Held ∧ issued.share = known.share
    | .interruptTurn _ _ _ | .get => known.share ≠ .passing ∧ issued.share = .loose
    | _ => issued.share = known.share

def answers (known : Sight) (op : Op) (answer : Op.Answer op) (told : Sight) : Prop :=
  told.share = known.share ∧
    match op, answer with
    | .claim, .ok (some claimed) => told.claimed = some (gist claimed) ∧ Filed stored claimed
    | .claim, _ => told.claimed = none
    | .update view patch, .ok next =>
        told.claimed = known.claimed ∧ Filed stored next ∧ gist next = (gist view).after patch
    | .get, .ok (some latest) => told.claimed = known.claimed ∧ Filed stored latest
    | _, _ => told.claimed = known.claimed

def relies (known : Sight) (state later : Local) : Prop :=
  Filed stored later.execution ∧ (known.share = .strict → gist later.execution = gist state.execution)

def rules : Rules Op Op.Answer Local Sight where
  issues := issues stored
  answers := answers stored
  relies := relies stored
  relies_trans := by
    rintro known first second third ⟨-, near⟩ ⟨filed, far⟩
    exact ⟨filed, fun strict => (far strict).trans (near strict)⟩
  relies_through := by
    rintro known told op answer first second third tells ⟨-, near⟩ ⟨filed, far⟩
    refine ⟨filed, ?_⟩
    intro strict
    exact (far strict).trans (near (tells.1.symm.trans strict))

end

section

variable {lease : PlanExecutionLease} {stored : Nat → Gist} {known told last : Sight} {since state later final began : Local}
  {seen : Gist}

variable (stored) in
structure Poised (known : Sight) (since state : Local) : Prop where
  filed : Filed stored state.execution
  passing : known.share = .passing → gist state.execution = gist since.execution

variable (stored) in
/-- The thread has gone on from `state` without a change of its own to the record. -/
structure Along (known : Sight) (state : Local) (told : Sight) (since later : Local) : Prop where
  poised : Poised stored told since later
  share : told.share = known.share
  kept : known.share = .strict → gist later.execution = gist state.execution

theorem Along.refl (poised : Poised stored known since state) : Along stored known state known since state where
  poised
  share := rfl
  kept := fun _ => rfl

theorem Along.trans (first : Along stored known state told since later) (second : Along stored told later last began final) :
    Along stored known state last began final where
  poised := second.poised
  share := second.share.trans first.share
  kept := fun strict => (second.kept (first.share.trans strict)).trans (first.kept strict)

theorem Along.of_relies {op : Op} {answer : Op.Answer op} {issued : Sight} (same : issued.share = known.share)
    (tells : answers stored issued op answer told) (relied : relies stored told state later) :
    Along stored known state told later later where
  poised := ⟨relied.1, fun _ => rfl⟩
  share := tells.1.trans same
  kept := fun strict => relied.2 ((tells.1.trans same).trans strict)

/-- The questions that neither touch the record nor send anything. -/
def asks : Op → Bool
  | .resolve _ | .readThread _ | .readThreadSettings _ | .listModels => true
  | _ => false

theorem await_asks {op : Op} (plain : asks op = true) (poised : Poised stored known since state) :
    (await op).Holds (rules stored) known since state fun _ => Along stored known state := by
  have owed : issues stored known since state op known := by
    refine ⟨poised.filed, rfl, poised.passing, ?_⟩
    cases op <;> first | rfl | cases plain
  refine ⟨known, owed, ?_⟩
  intro answer told tells later relied
  cases answer with
  | ok value => exact Along.of_relies rfl tells relied
  | error failure => exact Along.of_relies rfl tells relied

section
variable (poised : Poised stored known since state)

include poised

theorem fence_holds : (fence lease).Holds (rules stored) known since state fun result told since later =>
      Along stored known state told since later ∧
        (result = .ok () → told.claimed = some (gist since.execution)) := by
  apply holds_here
  apply holds_demand
  · intro _
    refine ⟨known, ⟨poised.filed, rfl, poised.passing, rfl⟩, ?_⟩
    intro answer told tells later relied
    have along : Along stored known state told later later := Along.of_relies rfl tells relied
    match answer, tells with
    | .error failure, _ => exact ⟨along, fun same => by cases same⟩
    | .ok none, _ => exact ⟨along, fun same => by cases same⟩
    | .ok (some claimed), tells =>
      obtain ⟨-, shown, filed⟩ := tells
      apply holds_here
      apply holds_demand
      · intro live
        obtain ⟨held, leased, epoch, revision, unexpired⟩ := current_claimed live
        -- one revision, one gist
        have same : gist claimed = gist later.execution := by
          have here : gist claimed = stored claimed.revision := filed
          have there : gist later.execution = stored later.execution.revision := along.poised.filed
          rw [here, there, revision]
        refine ⟨⟨⟨filed, fun _ => same⟩, along.share, ?_⟩, ?_⟩
        · intro strict
          exact same.trans (along.kept strict)
        · intro _
          rw [shown, same]
      · intro _
        exact ⟨along, fun same => by cases same⟩
  · intro _
    exact ⟨Along.refl poised, fun same => by cases same⟩

theorem fence_along : (fence lease).Holds (rules stored) known since state fun _ => Along stored known state :=
  (fence_holds poised).mono fun _ _ _ _ fenced => fenced.1

theorem resolve_holds : (resolve lease).Holds (rules stored) known since state fun _ => Along stored known state := by
  apply holds_here
  refine Holds.andThen (await_asks rfl poised) ?_ (fun _ _ _ _ along => along)
  intro control told since asked along
  refine Holds.andThen (fence_holds along.poised) ?_ (fun _ _ _ _ fenced => along.trans fenced.1)
  intro _ last began later fenced
  apply holds_demand
  · intro _
    exact along.trans fenced.1
  · intro _
    exact along.trans fenced.1

theorem readNative_holds : (readNative lease).Holds (rules stored) known since state fun _ => Along stored known state := by
  apply holds_here
  refine Holds.andThen (await_asks rfl poised) ?_ (fun _ _ _ _ along => along)
  intro thread told since asked along
  refine Holds.andThen (fence_holds along.poised) ?_ (fun _ _ _ _ fenced => along.trans fenced.1)
  intro _ last began later fenced
  apply holds_here
  apply holds_demand
  · intro _
    exact along.trans fenced.1
  · intro _
    exact along.trans fenced.1

end

variable (stored) in
structure Stepping (known : Sight) (state : Local) : Prop where
  filed : Filed stored state.execution
  share : known.share ≠ .passing

theorem Stepping.poised (stepping : Stepping stored known state) : Poised stored known since state :=
  ⟨stepping.filed, fun passing => absurd passing stepping.share⟩

theorem Stepping.along (stepping : Stepping stored known state) (along : Along stored known state told since later) :
    Stepping stored told later where
  filed := along.poised.filed
  share := by
    rw [along.share]
    exact stepping.share

theorem Stepping.remember (stepping : Stepping stored known state) (memory : Memory) :
    Stepping stored known { state with memory } := ⟨stepping.filed, stepping.share⟩

variable (stored) in
/-- The step before its first interrupt: nobody but itself moves its record. -/
structure Strict (seen : Gist) (known : Sight) (state : Local) : Prop where
  filed : Filed stored state.execution
  share : known.share = .strict
  seen : gist state.execution = seen

section
variable (strict : Strict stored seen known state)

include strict

theorem Strict.stepping : Stepping stored known state where
  filed := strict.filed
  share := by
    rw [strict.share]
    exact Share.noConfusion

theorem Strict.along (along : Along stored known state told since later) : Strict stored seen told later where
  filed := along.poised.filed
  share := along.share.trans strict.share
  seen := (along.kept strict.share).trans strict.seen

theorem Strict.remember (memory : Memory) :
    Strict stored seen known { state with memory } := { strict with }

theorem Strict.draw (nextId : Nat) :
    Strict stored seen known { state with nextId } := { strict with }

end

variable (stored) in
/-- The program keeps to the rules and leaves the step under way. -/
abbrev Goes {Result : Type} (program : Program Result) (known : Sight) (since state : Local) : Prop :=
  program.Holds (rules stored) known since state fun _ told _ later => Stepping stored told later

/-- What only asks comes before the rest. -/
theorem Strict.goesOn {Value Result : Type} {first : Program Value} {rest : Value → Program Result}
    (strict : Strict stored seen known state)
    (asked : Poised stored known since state → first.Holds (rules stored) known since state fun _ => Along stored known state)
    (goes : ∀ value told since later, Strict stored seen told later → Goes stored (rest value) told since later) :
    Goes stored (first.andThen rest) known since state :=
  Holds.andThen (asked strict.stepping.poised)
    (fun value told since later along => goes value told since later (strict.along along))
    fun _ _ _ _ along => (strict.along along).stepping

section
variable {patch : Local → ManagedPlanExecutionPatch}

section

variable (stepping : Stepping stored known state) (steady : (gist state.execution).Steady (patch state))

include stepping steady

theorem save_holds : (save patch).Holds (rules stored) known since state fun result told _ later =>
      Stepping stored told later ∧ told.share = known.share ∧ (known.share = .strict →
        gist later.execution = match result with
          | .ok _ => (gist state.execution).after (patch state)
          | .error _ => gist state.execution) := by
  apply holds_here
  refine ⟨known, ⟨stepping.filed, rfl, stepping.poised.passing, stepping.filed, steady, stepping.share, rfl⟩, ?_⟩
  intro answer told tells later relied
  have share : told.share = known.share := tells.1
  have going : told.share ≠ .passing := by
    rw [share]
    exact stepping.share
  match answer, tells with
  | .error failure, _ =>
    exact ⟨⟨relied.1, going⟩, share, fun strict => relied.2 (share.trans strict)⟩
  | .ok next, tells =>
    obtain ⟨-, -, filed, landed⟩ := tells
    exact ⟨⟨filed, going⟩, share, fun _ => landed⟩

theorem save_stepping :
    (save patch).Holds (rules stored) known since state fun _ told _ later => Stepping stored told later := by
  apply (save_holds stepping steady).mono
  intro result told since later saved
  exact saved.1

end

theorem save_strict (strict : Strict stored seen known state) (steady : seen.Steady (patch state)) :
    (save patch).Holds (rules stored) known since state fun result told _ later =>
      Strict stored (match result with
        | .ok _ => seen.after (patch state)
        | .error _ => seen) told later := by
  have owed := steady
  rw [← strict.seen] at owed
  apply (save_holds strict.stepping owed).mono
  rintro result told since later ⟨stepping, share, landed⟩
  refine ⟨stepping.filed, share.trans strict.share, ?_⟩
  rw [landed strict.share, strict.seen]

theorem save_quiet (strict : Strict stored seen known state) (tidy : seen.Tidy) (same : seen.after (patch state) = seen) :
    (save patch).Holds (rules stored) known since state fun _ told _ later => Strict stored seen told later := by
  apply (save_strict strict (tidy.quiet same)).mono
  intro result told since later saved
  cases result with
  | ok =>
    rw [same] at saved
    exact saved
  | error failure => exact saved

end

theorem beforeCommand_holds {command : ManagedPlanCommand} (poised : Poised stored known since state) :
    (beforeCommand lease command).Holds (rules stored) known since state fun result told since later =>
      Poised stored told since later ∧ told.share = known.share ∧
        (result = .ok () → told.claimed = some (gist since.execution)) := by
  refine Holds.andThen (resolve_holds poised) ?_ (fun _ _ _ _ along => ⟨along.poised, along.share, fun same => by cases same⟩)
  intro _ told since later first
  refine Holds.andThen (readNative_holds first.poised) ?_
    (fun _ _ _ _ along => ⟨along.poised, along.share.trans first.share, fun same => by cases same⟩)
  intro latest told since later second
  have through := first.trans second
  apply holds_demand
  · intro _
    refine Holds.andThen (resolve_holds second.poised) ?_
      (fun _ _ _ _ along => ⟨along.poised, along.share.trans through.share, fun same => by cases same⟩)
    intro _ told since later third
    apply (fence_holds third.poised).mono
    rintro result told since later ⟨fourth, passed⟩
    exact ⟨fourth.poised, fourth.share.trans (third.share.trans through.share), passed⟩
  · intro _
    exact ⟨second.poised, through.share, fun same => by cases same⟩

theorem interrupt_quiet (seen : Gist) (intent : Option ManagedPlanCommand) :
    seen.after { interruptCommand := some intent } = seen := rfl

theorem beforeInterrupt_holds {turnId : String} {intent : ManagedPlanCommand} (tidied : ∀ revision, (stored revision).Tidy)
    (stepping : Stepping stored known state) :
    (beforeInterrupt lease turnId intent).Holds (rules stored) known since state fun _ told _ later =>
      Stepping stored told later := by
  refine Holds.andThen (resolve_holds stepping.poised) ?_ (fun _ _ _ _ along => stepping.along along)
  intro _ told since later along
  have resolved := stepping.along along
  refine Holds.andThen (readNative_holds resolved.poised) ?_ (fun _ _ _ _ along => resolved.along along)
  intro latest told since later along
  have read := resolved.along along
  apply holds_demand
  · intro _
    refine Holds.andThen (resolve_holds read.poised) ?_ (fun _ _ _ _ along => read.along along)
    intro _ told since later along
    have gone := read.along along
    have tidy : (gist later.execution).Tidy := by
      rw [show gist later.execution = stored later.execution.revision from gone.filed]
      exact tidied _
    refine Holds.andThen (save_stepping gone (tidy.quiet (interrupt_quiet _ _))) ?_ (fun _ _ _ _ saved => saved)
    intro _ told since later saved
    apply (fence_holds saved.poised).mono
    intro result told since later fenced
    exact saved.along fenced.1
  · intro _
    exact read

end

end SpaceApp.Plans.Pausing
