import SpaceApp.Plans.Patches

/-! What a step of the controller owes the record at each of its awaits, while other steps,
operators and the driver's calls of `beforeSend` go on. -/

set_option autoImplicit false

namespace SpaceApp.Plans

open SpaceApp.Foundation

/-- What only the holder of the lease changes of a record. -/
structure Core where
  attempts : List ManagedPlanAttempt
  start : Option String
  completedStageIds : List String
  activeStageIndex : Nat
  snapshot : PlanSnapshot

def core (record : ManagedPlanExecution) : Core where
  attempts := record.attempts
  start := startId record
  completedStageIds := record.completedStageIds
  activeStageIndex := record.activeStageIndex
  snapshot := record.snapshot

def SameRecord (first second : ManagedPlanExecution) : Prop :=
  { first with lease := none } = { second with lease := none }

section

variable {first second third next : ManagedPlanExecution} {patch : ManagedPlanExecutionPatch} {limit : ℤ}

theorem SameRecord.symm (same : SameRecord first second) : SameRecord second first := Eq.symm same

theorem SameRecord.trans (same : SameRecord first second) (then_ : SameRecord second third) : SameRecord first third :=
  Eq.trans same then_

theorem SameRecord.read {Value : Type} (same : SameRecord first second) (value : ManagedPlanExecution → Value)
    (ignores : ∀ record, value { record with lease := none } = value record) : value first = value second :=
  calc value first = value { first with lease := none } := (ignores first).symm
    _ = value { second with lease := none } := congrArg value same
    _ = value second := ignores second

section
variable (same : SameRecord first second)

include same

theorem SameRecord.core : core first = core second :=
  same.read Plans.core fun _ => rfl

theorem SameRecord.revision : first.revision = second.revision :=
  same.read ManagedPlanExecution.revision fun _ => rfl

theorem SameRecord.patched : SameRecord (patched first patch) (patched second patch) :=
  congrArg (fun record => Plans.patched record patch) same

theorem SameRecord.applied (applied : applyPlanExecutionPatch first patch = .ok next) :
    applyPlanExecutionPatch second patch = .ok (Plans.patched second patch) ∧
      SameRecord next (Plans.patched second patch) := by
  have status : first.status = second.status := same.read ManagedPlanExecution.status fun _ => rfl
  obtain ⟨rfl, -⟩ := applied_patched applied
  refine ⟨?_, same.patched⟩
  unfold applyPlanExecutionPatch at applied ⊢
  have live : isPlanExecutionActive first = isPlanExecutionActive second := by
    unfold isPlanExecutionActive
    rw [status]
  rw [live, status] at applied
  split at applied
  · cases applied
  · next stays => rw [if_neg stays]

end

theorem Sound.of_same (sound : Sound limit first) (same : SameRecord first second) : Sound limit second := by
  have unleased : Sound limit { first with lease := none } :=
    ⟨{ sound.progress with },
      { sound.attempts with }⟩
  have moved : Sound limit { second with lease := none } := same ▸ unleased
  exact ⟨{ moved.progress with },
    { moved.attempts with }⟩

theorem core_quiet (attempts : patch.attempts = none) (completedStageIds : patch.completedStageIds = none)
    (activeStageIndex : patch.activeStageIndex = none) (start : startId (patched first patch) = startId first) :
    core (patched first patch) = core first := by
  unfold core
  rw [start]
  simp [patched, attempts, completedStageIds, activeStageIndex]

end

/-- Every id of an attempt was drawn before the `count`-th. -/
def Issued (ids : Ids) (count : Nat) (record : ManagedPlanExecution) : Prop :=
  ∀ key ∈ keys record.attempts, (∃ index < count, ids.uuid index = key.1) ∧ ∃ index < count, ids.uuid index = key.2.1

theorem Issued.mono {ids : Ids} {count more : Nat} {record : ManagedPlanExecution} (issued : Issued ids count record)
    (grown : count ≤ more) : Issued ids more record := by
  intro key member
  obtain ⟨⟨first, below, same⟩, second, under, equal⟩ := issued key member
  exact ⟨⟨first, below.trans_le grown, same⟩, second, under.trans_le grown, equal⟩

theorem Issued.of_keys {ids : Ids} {count : Nat} {record other : ManagedPlanExecution} (issued : Issued ids count record)
    (same : keys other.attempts = keys record.attempts) : Issued ids count other := by
  intro key member
  rw [same] at member
  exact issued key member

/-- How a thread shares the `execution` variable: the step itself before and after it asked the
driver to interrupt the START of an id, and a `beforeSend` that only renews the lease. -/
inductive Mode where
  | free
  | held (id : String)
  | passing

/-- What a thread knows: of the record until its step releases the lease (`core`), until when the
lease lasts, the START it has prepared and not yet sent, and how many ids were drawn. -/
structure Known where
  core : Option Core
  expiry : Option ℚ
  mode : Mode
  unsent : Option String
  count : Nat

section

variable (options : ControllerOptions) (lease : PlanExecutionLease) (stored : Nat → ManagedPlanExecution) (alive : Prop)

def Genuine (record : ManagedPlanExecution) : Prop :=
  SameRecord record (stored record.revision) ∧ Sound options.stageLimit record

/-- The state of a piece of code that began with `since`. -/
structure Clear (known : Known) (since state : Local) : Prop where
  genuine : Genuine options stored state.execution
  issued : Issued options.ids since.nextId state.execution
  counted : known.count ≤ since.nextId
  drawn : since.nextId ≤ state.nextId
  guarded : match known.mode with
    | .free => True
    | .held id => alive → startId state.execution = some id
    | .passing => core state.execution = core since.execution

def issues (known : Known) (since state : Local) (op : Op) (issued : Known) : Prop :=
  Clear options stored alive known since state ∧
    match op with
    | .update view patch =>
        Genuine options stored view ∧ Issued options.ids state.nextId (patched view patch) ∧
          (alive → Lawful options.stageLimit view patch) ∧
          (match known.mode with
            | .free => known.core.isSome
            | .held _ => core (patched view patch) = core view
            | .passing => False) ∧
          (issued = known ∨ ∃ index, since.nextId ≤ index ∧ index < state.nextId ∧
            issued = { known with unsent := some (options.ids.uuid index) })
    | .startManagedTurn _ _ _ start _ =>
        known.unsent = some start.id ∧ known.mode = .free ∧
          (∃ told, known.core = some told ∧ (alive → told.start = some start.id)) ∧
          (∃ expiry, known.expiry = some expiry ∧ since.now < expiry) ∧ issued = { known with unsent := none }
    | .interruptTurn _ _ _ =>
        ∃ id, known.mode = .free ∧ issued = { known with mode := .held id } ∧
          (∃ told, known.core = some told ∧ (alive → told.start = some id)) ∧
          (alive → startId state.execution = some id)
    | .get | .release => known.core.isSome ∧ issued = known
    | _ => issued = known

def answers (known : Known) (op : Op) (answer : Op.Answer op) (told : Known) : Prop :=
  (told.mode = known.mode ∧ told.unsent = known.unsent ∧ known.count ≤ told.count) ∧
    match op, answer with
    | .claim, .ok (some claimed) =>
        told.core = known.core ∧ Genuine options stored claimed ∧ Issued options.ids told.count claimed ∧
          ∀ held, claimed.lease = some held → held.epoch = lease.epoch → told.expiry = some held.expiresAt
    | .update view patch, .ok next =>
        Genuine options stored next ∧ Issued options.ids told.count next ∧ SameRecord next (patched view patch) ∧
          told.core = known.core.map fun _ => core next
    | .update view patch, .error _ =>
        told.core = known.core ∨ told.core = known.core.map fun _ => core (patched view patch)
    | .get, .ok (some latest) =>
        told.core = known.core ∧ Genuine options stored latest ∧ Issued options.ids told.count latest ∧
          (alive → ∀ knownCore, known.core = some knownCore → core latest = knownCore)
    | .release, _ => told.core = none
    | _, _ => told.core = known.core

def relies (known : Known) (state later : Local) : Prop :=
  known.count ≤ later.nextId ∧ Genuine options stored later.execution ∧
    Issued options.ids later.nextId later.execution ∧
    match known.mode with
    | .free => core later.execution = core state.execution
    | .held id => alive → startId later.execution = some id
    | .passing => True

def rules : Dialogue.Rules Op Op.Answer Local Known where
  issues := issues options stored alive
  answers := answers options lease stored alive
  relies := relies options stored alive
  relies_trans := by
    intro known first second third before after
    obtain ⟨-, -, -, near⟩ := before
    obtain ⟨counted, genuine, issued, far⟩ := after
    refine ⟨counted, genuine, issued, ?_⟩
    cases mode : known.mode with
    | free =>
      rw [mode] at near far
      exact far.trans near
    | held id =>
      rw [mode] at far
      exact far
    | passing => trivial
  relies_through := by
    intro known told op answer first second third tells before after
    obtain ⟨-, -, -, near⟩ := before
    obtain ⟨counted, genuine, issued, far⟩ := after
    have same : told.mode = known.mode := tells.1.1
    refine ⟨counted, genuine, issued, ?_⟩
    cases mode : told.mode with
    | free =>
      rw [mode] at far
      rw [← same, mode] at near
      exact far.trans near
    | held id =>
      rw [mode] at far
      exact far
    | passing => trivial

end

end SpaceApp.Plans
