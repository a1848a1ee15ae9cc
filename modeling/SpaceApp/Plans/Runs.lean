import SpaceApp.Plans.Answering

/-! What holds of the record, the steps and the STARTs sent in every state the fleet reaches. -/

set_option autoImplicit false

namespace SpaceApp.Plans

open SpaceApp.Foundation Dialogue

section

variable (options : ControllerOptions) (stored : Nat → ManagedPlanExecution) (world : World)

def handedIds (sendings : List Sending) : List String := (sendings.filter (·.handed)).map (·.commandId)

structure SendingsKept : Prop where
  drawn : ∀ sending ∈ world.sendings, sending.handed = true → ∃ index < world.nextId, options.ids.uuid index = sending.commandId
  once : (handedIds world.sendings).Nodup
  handed : ∀ sending ∈ world.sendings, ∃ other ∈ world.sendings, other.handed = true ∧ other.commandId = sending.commandId
  settled : ∀ sending ∈ world.sendings, ∀ attempt ∈ sending.attempts, attempt.commandId ≠ sending.commandId →
    attempt.active = false
  recorded : ∀ sending ∈ world.sendings, ∃ key ∈ keys world.record.attempts, key.2.1 = sending.commandId
  ordered : world.sendings.Pairwise fun later earlier => ∃ key ∈ keys later.attempts, key.2.1 = earlier.commandId

/-- `stored` says which record was stored under a revision. -/
structure WorldKept : Prop where
  record : Genuine options stored world.record
  issued : Issued options.ids world.nextId world.record
  views : ∀ view ∈ world.views, Genuine options stored view
  advances : ∀ key advance, world.advances key = some advance → AdvanceKept options stored world advance key
  sendings : SendingsKept options world

end

section

variable {options : ControllerOptions} {stored : Nat → ManagedPlanExecution} {alive : Prop} {world next : World}
  {advance after other : Advance} {known told : Known} {record : ManagedPlanExecution} {key otherKey : Nat}
  {reply : Reply} {driver : (op : Op) → Op.Answer op}

theorem AdvanceKept.going (kept : AdvanceKept options stored world advance key) (unreleased : advance.released = false) :
    world.running advance.worker = some key := by
  apply kept.running
  by_contra ended
  rw [kept.ended (by simpa using ended)] at unreleased
  cases unreleased

/-- Of the steps that hold a lease only one holds that of the record. -/
theorem WorldKept.sole (kept : WorldKept options stored world) (present : world.advances key = some advance)
    (otherPresent : world.advances otherKey = some other) (unreleased : advance.released = false)
    (otherUnreleased : other.released = false) (live : Live world.record advance) (otherLive : Live world.record other) :
    otherKey = key := by
  have mine := kept.advances key advance present
  have its := kept.advances otherKey other otherPresent
  obtain ⟨held, leased, -, own⟩ := mine.epoch
  obtain ⟨same, leasedToo, -, ownToo⟩ := its.epoch
  rw [leased] at leasedToo
  cases leasedToo
  obtain ⟨lease, now, epoch⟩ := live
  rw [leased] at now
  cases now
  obtain ⟨lease, now, otherEpoch⟩ := otherLive
  rw [leased] at now
  cases now
  have worker : other.worker = advance.worker := (ownToo otherEpoch).symm.trans (own epoch)
  have first := mine.going unreleased
  have second := its.going otherUnreleased
  rw [worker, first] at second
  exact (Option.some.inj second).symm

theorem WorldKept.aside (kept : WorldKept options stored world) (record : Genuine options stored next.record)
    (issued : Issued options.ids next.nextId next.record) (views : ∀ view ∈ next.views, Genuine options stored view)
    (sendings : SendingsKept options next)
    (advances : ∀ key advance, next.advances key = some advance → world.advances key = some advance ∧
      Aside options world next advance key) :
    WorldKept options stored next where
  record
  issued
  views
  advances := by
    intro key advance present
    obtain ⟨before, aside⟩ := advances key advance present
    exact (kept.advances key advance before).aside aside
  sendings

theorem WorldKept.moved (kept : WorldKept options stored world) (record : Genuine options stored next.record)
    (issued : Issued options.ids next.nextId next.record) (views : next.views = world.views)
    (sendings : SendingsKept options next) (put : next.advances = Function.update world.advances key (some after))
    (moved : AdvanceKept options stored next after key)
    (others : ∀ otherKey other, otherKey ≠ key → world.advances otherKey = some other →
      Aside options world next other otherKey) :
    WorldKept options stored next where
  record
  issued
  views := by
    rw [views]
    exact kept.views
  advances := by
    intro otherKey other present
    rw [put] at present
    by_cases same : otherKey = key
    · subst same
      rw [Function.update_self] at present
      cases present
      exact moved
    · rw [Function.update_of_ne same] at present
      exact (kept.advances otherKey other present).aside (others otherKey other same present)
  sendings

theorem SendingsKept.kept (sendings : SendingsKept options world) (same : next.sendings = world.sendings)
    (more : world.nextId ≤ next.nextId) (kept : Kept world.record next.record) : SendingsKept options next := by
  constructor
  · intro sending member handed
    rw [same] at member
    obtain ⟨index, below, drawn⟩ := sendings.drawn sending member handed
    exact ⟨index, below.trans_le more, drawn⟩
  · rw [same]
    exact sendings.once
  · rw [same]
    exact sendings.handed
  · rw [same]
    exact sendings.settled
  · intro sending member
    rw [same] at member
    obtain ⟨found, inside, own⟩ := sendings.recorded sending member
    exact ⟨found, kept found inside, own⟩
  · rw [same]
    exact sendings.ordered

theorem Kept.refl (record : ManagedPlanExecution) : Kept record record := fun _ member => member

theorem WorldKept.relet (kept : WorldKept options stored world) (same : SameRecord record world.record) :
    Sound options.stageLimit record ∧ Issued options.ids world.nextId record ∧ Kept world.record record := by
  have attempts : record.attempts = world.record.attempts := congrArg Core.attempts same.core
  exact ⟨kept.record.2.of_same same.symm, kept.issued.of_keys (congrArg keys attempts), Kept.of_keys (congrArg keys attempts)⟩

/-- A patch of a record that was read lands on the record it was read of. -/
theorem WorldKept.patched {view : ManagedPlanExecution} {patch : ManagedPlanExecutionPatch}
    {lease : Option PlanExecutionLease} (kept : WorldKept options stored world) (genuine : Genuine options stored view)
    (lawful : Lawful options.stageLimit view patch)
    (updated : updateRecord world.record view.revision patch lease world.clock = .ok record) :
    SameRecord record (Plans.patched view patch) ∧ Sound options.stageLimit record ∧ Kept world.record record ∧
      record.lease = world.record.lease := by
  obtain ⟨revision, applied, -⟩ := updateRecord_updated updated
  have same : SameRecord world.record view := by
    refine kept.record.1.trans (SameRecord.symm ?_)
    rw [revision]
    exact genuine.1
  obtain ⟨onView, landed⟩ := same.applied applied
  obtain ⟨sound, keeps⟩ := lawful _ onView
  refine ⟨landed, sound.of_same landed.symm, ?_, ?_⟩
  · intro found member
    have attempts : world.record.attempts = view.attempts := congrArg Core.attempts same.core
    rw [attempts] at member
    have after : record.attempts = (Plans.patched view patch).attempts := congrArg Core.attempts landed.core
    rw [after]
    exact keeps found member
  · rw [updated_patched updated]
    rfl

theorem reply_follows {op : Op} {answer : Op.Answer op}
    (replied : world.reply options advance reply driver op = (answer, record)) : LeaseFollows world.record record := by
  cases reply_stores replied with
  | same => exact LeaseFollows.of_same rfl
  | claims claimed => exact claimRecord_follows claimed
  | updates updated =>
    apply LeaseFollows.of_same
    rw [updated_patched updated]
    rfl
  | releases => exact releaseRecord_follows _ _

theorem claimed_held {owner : Nat} (claimed : claimRecord world.record owner world.clock options.leaseMs = some record)
    {held : PlanExecutionLease} (leased : world.record.lease = some held) {expiry : ℚ}
    (unexpired : expiry ≤ held.expiresAt) (bounded : expiry ≤ world.clock + options.leaseMs) :
    expiry ≤ world.clock ∨ ∃ later, record.lease = some later ∧ later.epoch = held.epoch ∧ expiry ≤ later.expiresAt := by
  obtain ⟨-, lease, now, -, expires, before⟩ := claimRecord_claimed claimed
  rcases before held leased with ⟨same, -⟩ | ⟨-, expired⟩
  · exact .inr ⟨lease, now, same, bounded.trans expires.ge⟩
  · exact .inl (unexpired.trans expired)

/-- A lease is not lost to another's question. -/
theorem reply_held {op : Op} {answer : Op.Answer op}
    (replied : world.reply options advance reply driver op = (answer, record))
    (apart : World.isRelease op = true → Live world.record other → ¬ Live world.record advance)
    {held : PlanExecutionLease} (leased : world.record.lease = some held) (own : held.epoch = other.lease.epoch)
    {expiry : ℚ} (unexpired : expiry ≤ held.expiresAt) (bounded : expiry ≤ world.clock + options.leaseMs) :
    expiry ≤ world.clock ∨ ∃ later, record.lease = some later ∧ later.epoch = held.epoch ∧ expiry ≤ later.expiresAt := by
  cases reply_stores replied with
  | same => exact .inr ⟨held, leased, rfl, unexpired⟩
  | claims claimed => exact claimed_held claimed leased unexpired bounded
  | updates updated =>
    refine .inr ⟨held, ?_, rfl, unexpired⟩
    rw [updated_patched updated]
    exact leased
  | releases =>
    refine .inr ⟨held, ?_, rfl, unexpired⟩
    unfold releaseRecord
    rw [leased]
    dsimp only [Option.map_some]
    rw [if_neg]
    intro mine
    exact apart rfl ⟨held, leased, own⟩ ⟨held, leased, mine.2⟩

theorem WorldKept.replied {op : Op} {answer : Op.Answer op} {waits : Op.Answer op → Program Unit}
    {post : Except Failure Unit → Known → Local → Local → Prop} (kept : WorldKept options stored world)
    (thread : ThreadKept options stored (Live world.record advance) world advance known post (.waiting op waits))
    (unreleased : known.core.isSome → advance.released = false)
    (replied : world.reply options advance reply driver op = (answer, record)) :
    Sound options.stageLimit record ∧ Issued options.ids world.nextId record ∧ Kept world.record record ∧
      (∀ view patch, op = .update view patch → record = world.record ∨ SameRecord record (Plans.patched view patch)) ∧
      (core record = core world.record ∨ (known.core.isSome ∧ advance.released = false ∧ Live world.record advance)) := by
  have relet {record : ManagedPlanExecution} (same : SameRecord record world.record)
      (stands : ∀ view patch, op = .update view patch → record = world.record) :
      Sound options.stageLimit record ∧ Issued options.ids world.nextId record ∧ Kept world.record record ∧
        (∀ view patch, op = .update view patch → record = world.record ∨ SameRecord record (Plans.patched view patch)) ∧
        (core record = core world.record ∨
          (known.core.isSome ∧ advance.released = false ∧ Live world.record advance)) := by
    obtain ⟨sound, issued, keeps⟩ := kept.relet same
    exact ⟨sound, issued, keeps, fun view patch asked => .inl (stands view patch asked), .inl same.core⟩
  cases reply_stores replied with
  | same => exact relet rfl fun _ _ _ => rfl
  | claims claimed => exact relet (claimRecord_claimed claimed).1 (by simp)
  | releases => exact relet (releaseRecord_same _ _) (by simp)
  | @updates view _ patch updated =>
    obtain ⟨genuine, issued, lawful, mode⟩ := thread.owed
    have live : Live world.record advance := valid_live ((updateRecord_updated updated).2.2 _ rfl)
    obtain ⟨landed, sound, keeps, -⟩ := kept.patched genuine (lawful live) updated
    have attempts : record.attempts = (Plans.patched view patch).attempts := congrArg Core.attempts landed.core
    refine ⟨sound, issued.of_keys (congrArg keys attempts), keeps, ?_, ?_⟩
    · intro _ _ same
      cases same
      exact .inr landed
    · split at mode
      · exact .inr ⟨mode, unreleased mode, live⟩
      · left
        have same : SameRecord world.record view := by
          refine kept.record.1.trans (SameRecord.symm ?_)
          rw [(updateRecord_updated updated).1]
          exact genuine.1
        exact (landed.core.trans mode).trans same.core.symm
      · exact mode.elim

theorem told_op {op : Op} {answer : Op.Answer op} (beside : Beside options world { world with record } advance after)
    (leased : Leased options world advance known) (counted : known.count ≤ world.nextId)
    (records : ∀ before, known.core = some before → alive → core world.record = before)
    (genuine : Genuine options stored record) (issued : Issued options.ids world.nextId record)
    (same : ∀ view patch, op = .update view patch → record = world.record ∨ SameRecord record (Plans.patched view patch))
    (replied : world.reply options advance reply driver op = (answer, record)) :
    ∃ told, Told options stored alive world advance after known record op answer told := by
  cases op with
  | claim => exact told_claim beside leased counted records genuine issued replied
  | update view patch =>
    exact told_update beside leased counted records genuine issued (same view patch rfl) replied
  | get => exact told_get beside leased counted records genuine issued replied
  | release => exact told_release beside leased counted
  | _ => exact told_driver rfl beside leased counted records replied

end

end SpaceApp.Plans
