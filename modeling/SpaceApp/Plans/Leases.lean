import SpaceApp.Plans.Fleet
import SpaceApp.Plans.Starts

/-! What a thread of the fleet relies on while others go on: the lease of its step, the record
its step knows, and the variable its threads share. -/

set_option autoImplicit false

namespace SpaceApp.Plans

open SpaceApp.Foundation Dialogue

/-- A lease is only followed by one of a later epoch, or of its own owner. -/
def LeaseFollows (record next : ManagedPlanExecution) : Prop :=
  ∀ held, record.lease = some held → ∃ later, next.lease = some later ∧ held.epoch ≤ later.epoch ∧
    (later.epoch = held.epoch → later.owner = held.owner)

theorem LeaseFollows.of_same {record next : ManagedPlanExecution} (same : next.lease = record.lease) :
    LeaseFollows record next := by
  intro held leased
  exact ⟨held, same.trans leased, Nat.le_refl _, fun _ => rfl⟩

section
variable {record next : ManagedPlanExecution} {owner : Nat} {now durationMs : ℚ}
  (claimed : claimRecord record owner now durationMs = some next)

include claimed

theorem claimRecord_claimed :
    SameRecord next record ∧ ∃ lease, next.lease = some lease ∧ lease.owner = owner ∧ lease.expiresAt = now + durationMs ∧
      ∀ held, record.lease = some held →
        (lease.epoch = held.epoch ∧ held.owner = owner) ∨ (lease.epoch = held.epoch + 1 ∧ held.expiresAt ≤ now) := by
  unfold claimRecord at claimed
  split at claimed
  · cases claimed
  · split at claimed
    · cases claimed
    · next free =>
      rw [← Option.some.inj claimed]
      refine ⟨rfl, _, rfl, rfl, rfl, ?_⟩
      intro held leased
      simp only [leased]
      split
      · next own => exact .inl ⟨rfl, own.1⟩
      · next other =>
        refine .inr ⟨rfl, ?_⟩
        by_contra unexpired
        have running : now < held.expiresAt := not_le.mp unexpired
        apply free
        rw [leased]
        by_cases own : held.owner = owner
        · exact absurd ⟨own, running⟩ other
        · simp [own, running]

theorem claimRecord_follows : LeaseFollows record next := by
  obtain ⟨-, lease, leased, owned, -, before⟩ := claimRecord_claimed claimed
  intro held had
  refine ⟨lease, leased, ?_⟩
  rcases before held had with ⟨same, own⟩ | ⟨next, -⟩
  · exact ⟨same.ge, fun _ => owned.trans own.symm⟩
  · refine ⟨by omega, ?_⟩
    intro same
    omega

end

theorem releaseRecord_same (record : ManagedPlanExecution) (lease : PlanExecutionLease) :
    SameRecord (releaseRecord record lease) record := rfl

theorem releaseRecord_follows (record : ManagedPlanExecution) (lease : PlanExecutionLease) :
    LeaseFollows record (releaseRecord record lease) := by
  intro held leased
  unfold releaseRecord
  rw [leased]
  dsimp only [Option.map_some]
  split
  · exact ⟨_, rfl, Nat.le_refl _, fun _ => rfl⟩
  · exact ⟨_, rfl, Nat.le_refl _, fun _ => rfl⟩

section
variable {record next : ManagedPlanExecution} {revision : Nat} {patch : ManagedPlanExecutionPatch}
  {lease : Option PlanExecutionLease} {now : ℚ} (updated : updateRecord record revision patch lease now = .ok next)

include updated

theorem updateRecord_updated : record.revision = revision ∧ applyPlanExecutionPatch record patch = .ok next ∧
      ∀ held, lease = some held → held.valid record now = true := by
  unfold updateRecord at updated
  split at updated
  · cases updated
  · next same =>
    split at updated
    · cases updated
    · next valid =>
      refine ⟨not_not.mp same, updated, ?_⟩
      intro held leased
      rw [leased] at valid
      simpa using valid

theorem updated_patched : next = patched record patch := (applied_patched (updateRecord_updated updated).2.1).1

end

def Live (record : ManagedPlanExecution) (advance : Advance) : Prop :=
  ∃ held, record.lease = some held ∧ held.epoch = advance.lease.epoch

theorem valid_live {record : ManagedPlanExecution} {advance : Advance} {now : ℚ}
    (valid : advance.lease.valid record now = true) : Live record advance := by
  unfold PlanExecutionLease.valid at valid
  cases leased : record.lease with
  | none => simp [leased] at valid
  | some held =>
    simp only [leased, Option.any_some, Bool.and_eq_true, decide_eq_true_eq] at valid
    exact ⟨held, leased, valid.1.2⟩

/-- What the threads of a step see of their variable. -/
def World.seen (world : World) (advance : Advance) : Local where
  execution := advance.execution
  nextId := world.nextId

def isInterrupt : Op → Bool
  | .interruptTurn _ _ _ => true
  | _ => false

section

variable (options : ControllerOptions) (stored : Nat → ManagedPlanExecution) (alive : Prop) (world : World)
  (advance : Advance)

/-- Up to its expiry the lease is the step's, unless the step gave it back. -/
def Leased (known : Known) : Prop :=
  ∀ expiry, known.expiry = some expiry → advance.released = false →
    expiry ≤ world.clock + options.leaseMs ∧ (expiry ≤ world.clock ∨
      ∃ held, world.record.lease = some held ∧ held.epoch = advance.lease.epoch ∧ expiry ≤ held.expiresAt)

/-- What a question that waits for its answer was asked with. -/
def Owed (known : Known) : Thread → Prop
  | .waiting (.update view patch) _ =>
      Genuine options stored view ∧ Issued options.ids world.nextId (patched view patch) ∧
        (alive → Lawful options.stageLimit view patch) ∧
        match known.mode with
        | .free => known.core.isSome
        | .held _ => core (patched view patch) = core view
        | .passing => False
  | .waiting .get _ | .waiting .release _ => known.core.isSome
  | _ => True

structure ThreadKept (known : Known) (post : Except Failure Unit → Known → Local → Local → Prop) (thread : Thread) :
    Prop where
  counted : known.count ≤ world.nextId
  guarded : ∀ id, known.mode = .held id → alive → startId advance.execution = some id
  leased : Leased options world advance known
  owed : Owed options stored alive world known thread
  keeps : thread.Keeps (rules options advance.lease stored alive) known (world.seen advance) post

def mainPost (_ : Except Failure Unit) (told : Known) (since later : Local) : Prop :=
  Clear options stored alive told since later

/-- The `beforeSend` of a START ends well only before its lease expires. -/
def callbackPost (op : Op) (result : Except Failure Unit) (told : Known) (since later : Local) : Prop :=
  Clear options stored alive told since later ∧
    ((startOf op).isSome → result = .ok () → ∃ expiry, told.expiry = some expiry ∧ since.now < expiry)

structure CallbackKept (known : Known) (callback : Op × Thread) (told : Known) : Prop where
  thread : ThreadKept options stored alive world advance told (callbackPost options stored alive callback.1) callback.2
  core : told.core = none
  shares : told.mode = .passing ∨ ∃ id, told.mode = .held id ∧ known.mode = .held id

structure StepKept (known : Known) : Prop where
  thread : ThreadKept options stored alive world advance known (mainPost options stored alive) advance.main
  stepping : known.mode ≠ .passing
  recorded : advance.released = false → ∃ told, known.core = some told ∧ (alive → core world.record = told)
  finished : advance.released = true → World.isOver advance.main = true ∨ known.core = none
  unsent : ∀ id, known.unsent = some id → advance.released = false → alive →
    ∀ sending ∈ world.sendings, sending.handed = true → sending.commandId ≠ id
  starting : ∀ id, advance.starting = some id → ∃ told, known.core = some told ∧ (alive → told.start = some id)
  calls : ∀ op ∈ advance.calls, isInterrupt op = true → ∃ id, known.mode = .held id
  callbacks : ∀ callback ∈ advance.callbacks, ∃ told, CallbackKept options stored alive world advance known callback told

structure AdvanceKept (key : Nat) : Prop where
  genuine : Genuine options stored advance.execution
  issued : Issued options.ids world.nextId advance.execution
  owner : advance.lease.owner = advance.worker
  epoch : ∃ held, world.record.lease = some held ∧ advance.lease.epoch ≤ held.epoch ∧
    (held.epoch = advance.lease.epoch → held.owner = advance.worker)
  running : World.isOver advance.main = false → world.running advance.worker = some key
  ended : World.isOver advance.main = true → advance.released = true
  handed : ∀ id, advance.starting = some id → ∃ sending ∈ world.sendings, sending.handed = true ∧ sending.commandId = id
  step : ∀ alive : Prop, (alive → Live world.record advance) → ∃ known, StepKept options stored alive world advance known

end

section

variable {options : ControllerOptions} {stored : Nat → ManagedPlanExecution} {alive : Prop} {world next : World}
  {advance after : Advance} {known : Known} {thread : Thread} {key : Nat}
  {post : Except Failure Unit → Known → Local → Local → Prop}

theorem relies_seen {later : Local} (counted : known.count ≤ later.nextId)
    (genuine : Genuine options stored later.execution) (issued : Issued options.ids later.nextId later.execution)
    (guarded : ∀ id, known.mode = .held id → alive → startId later.execution = some id)
    (unmoved : known.mode = .free → core later.execution = core advance.execution) :
    relies options stored alive known (world.seen advance) later := by
  refine ⟨counted, genuine, issued, ?_⟩
  cases mode : known.mode with
  | free => exact unmoved mode
  | held id => exact guarded id mode
  | passing => trivial

variable (options world next advance after) in
structure Beside : Prop where
  clock : world.clock ≤ next.clock
  nextId : world.nextId ≤ next.nextId
  lease : after.lease = advance.lease
  released : after.released = false → advance.released = false
  held : after.released = false → ∀ held, world.record.lease = some held → held.epoch = advance.lease.epoch →
    ∀ expiry ≤ held.expiresAt, expiry ≤ next.clock + options.leaseMs → expiry ≤ next.clock ∨
      ∃ later, next.record.lease = some later ∧ later.epoch = held.epoch ∧ expiry ≤ later.expiresAt

theorem Leased.beside (leased : Leased options world advance known)
    (beside : Beside options world next advance after) : Leased options next after known := by
  intro expiry knows unreleased
  obtain ⟨bounded, held⟩ := leased expiry knows (beside.released unreleased)
  have later : expiry ≤ next.clock + options.leaseMs := bounded.trans (add_le_add beside.clock le_rfl)
  refine ⟨later, ?_⟩
  rcases held with expired | ⟨lease, recorded, epoch, unexpired⟩
  · exact .inl (expired.trans beside.clock)
  · rcases beside.held unreleased lease recorded epoch expiry unexpired later with expired | ⟨other, now, same, still⟩
    · exact .inl expired
    · refine .inr ⟨other, now, ?_, still⟩
      rw [beside.lease]
      exact same.trans epoch

theorem Owed.mono (owed : Owed options stored alive world known thread) (more : world.nextId ≤ next.nextId) :
    Owed options stored alive next known thread := by
  unfold Owed at owed ⊢
  split at owed
  · exact ⟨owed.1, owed.2.1.mono more, owed.2.2⟩
  · exact owed
  · exact owed
  · exact owed

theorem ThreadKept.beside (kept : ThreadKept options stored alive world advance known post thread)
    (beside : Beside options world next advance after) (genuine : Genuine options stored after.execution)
    (issued : Issued options.ids next.nextId after.execution)
    (guarded : ∀ id, known.mode = .held id → alive → startId after.execution = some id)
    (unmoved : known.mode = .free → core after.execution = core advance.execution) :
    ThreadKept options stored alive next after known post thread where
  counted := kept.counted.trans beside.nextId
  guarded
  leased := kept.leased.beside beside
  owed := kept.owed.mono beside.nextId
  keeps := by
    rw [beside.lease]
    apply Thread.Keeps.stable kept.keeps
    exact relies_seen (kept.counted.trans beside.nextId) genuine issued guarded unmoved

variable (options world next advance key) in
structure Aside : Prop where
  beside : Beside options world next advance advance
  running : world.running advance.worker = some key → next.running advance.worker = some key
  follows : LeaseFollows world.record next.record
  core : advance.released = false → Live next.record advance → Plans.core next.record = Plans.core world.record
  sendings : ∃ sent, next.sendings = sent ++ world.sendings ∧
    (advance.released = false → Live next.record advance → ∀ sending ∈ sent, sending.handed = false)

/-- A lease that is gone does not come back. -/
theorem AdvanceKept.live (kept : AdvanceKept options stored world advance key)
    (follows : LeaseFollows world.record next.record) (live : Live next.record advance) : Live world.record advance := by
  obtain ⟨held, leased, atMost, -⟩ := kept.epoch
  obtain ⟨later, now, grown, -⟩ := follows held leased
  obtain ⟨other, leasedNow, same⟩ := live
  rw [now] at leasedNow
  cases leasedNow
  exact ⟨held, leased, by omega⟩

theorem StepKept.aside (kept : StepKept options stored alive world advance known)
    (aside : Aside options world next advance key) (genuine : Genuine options stored advance.execution)
    (issued : Issued options.ids next.nextId advance.execution) (living : alive → Live next.record advance) :
    StepKept options stored alive next advance known where
  thread := kept.thread.beside aside.beside genuine issued kept.thread.guarded fun _ => rfl
  __ := kept
  recorded := by
    intro unreleased
    obtain ⟨told, knows, same⟩ := kept.recorded unreleased
    exact ⟨told, knows, fun live => (aside.core unreleased (living live)).trans (same live)⟩
  unsent := by
    intro id knows unreleased live sending member handed
    obtain ⟨sent, grown, none⟩ := aside.sendings
    rw [grown] at member
    rcases List.mem_append.mp member with new | old
    · rw [none unreleased (living live) sending new] at handed
      cases handed
    · exact kept.unsent id knows unreleased live sending old handed
  callbacks := by
    intro callback member
    obtain ⟨told, calls⟩ := kept.callbacks callback member
    exact ⟨told, calls.thread.beside aside.beside genuine issued calls.thread.guarded fun _ => rfl, calls.core, calls.shares⟩

theorem AdvanceKept.aside (kept : AdvanceKept options stored world advance key)
    (aside : Aside options world next advance key) : AdvanceKept options stored next advance key where
  __ := kept
  issued := kept.issued.mono aside.beside.nextId
  epoch := by
    obtain ⟨held, leased, atMost, own⟩ := kept.epoch
    obtain ⟨later, now, grown, follows⟩ := aside.follows held leased
    refine ⟨later, now, atMost.trans grown, ?_⟩
    intro same
    have unchanged : later.epoch = held.epoch := by omega
    rw [follows unchanged]
    exact own (unchanged.symm.trans same)
  running := fun going => aside.running (kept.running going)
  handed := by
    intro id starts
    obtain ⟨sending, member, handed⟩ := kept.handed id starts
    obtain ⟨sent, grown, -⟩ := aside.sendings
    rw [grown]
    exact ⟨sending, List.mem_append_right _ member, handed⟩
  step := by
    intro alive living
    obtain ⟨known, step⟩ := kept.step alive fun live => kept.live aside.follows (living live)
    exact ⟨known, step.aside aside kept.genuine (kept.issued.mono aside.beside.nextId) living⟩

end

end SpaceApp.Plans
