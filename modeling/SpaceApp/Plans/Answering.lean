import SpaceApp.Plans.Leases

/-! The repository's answers, as a step that waits for one and those beside it see them. -/

set_option autoImplicit false

namespace SpaceApp.Plans

open SpaceApp.Foundation Dialogue

section

variable {options : ControllerOptions} {stored : Nat → ManagedPlanExecution} {alive : Prop} {world : World}
  {advance after : Advance} {known : Known} {reply : Reply} {driver : (op : Op) → Op.Answer op}
  {record : ManagedPlanExecution}

theorem reply_claim {answer : Op.Answer .claim}
    (replied : world.reply options advance reply driver .claim = (answer, record)) :
    (record = world.record ∧ ∀ claimed, answer ≠ .ok (some claimed)) ∨
      (claimRecord world.record advance.worker world.clock options.leaseMs = some record ∧
        ∀ claimed, answer = .ok (some claimed) → claimed = record) := by
  unfold World.reply at replied
  cases claimed : claimRecord world.record advance.worker world.clock options.leaseMs with
  | none =>
    left
    have served : world.answered options advance .claim = some (.ok none, world.record) := by
      simp only [World.answered, claimed]
    rw [served] at replied
    cases reply <;> (cases replied; exact ⟨rfl, fun _ same => by cases same⟩)
  | some next =>
    have served : world.answered options advance .claim = some (.ok (some next), next) := by
      simp only [World.answered, claimed]
    rw [served] at replied
    cases reply with
    | served =>
      cases replied
      exact .inr ⟨rfl, fun _ same => by cases same; rfl⟩
    | refused message =>
      cases replied
      exact .inl ⟨rfl, fun _ same => by cases same⟩
    | lost message =>
      cases replied
      exact .inr ⟨rfl, fun _ same => by cases same⟩

theorem reply_update {view : ManagedPlanExecution} {patch : ManagedPlanExecutionPatch}
    {answer : Op.Answer (.update view patch)}
    (replied : world.reply options advance reply driver (.update view patch) = (answer, record)) :
    (record = world.record ∧ ∃ failure, answer = .error failure) ∨
      (updateRecord world.record view.revision patch (some advance.lease) world.clock = .ok record ∧
        (answer = .ok record ∨ ∃ failure, answer = .error failure)) := by
  unfold World.reply at replied
  cases updated : updateRecord world.record view.revision patch (some advance.lease) world.clock with
  | error message =>
    left
    have served : world.answered options advance (.update view patch) =
        some (.error (.conflict message), world.record) := by
      simp only [World.answered, updated]
    rw [served] at replied
    cases reply <;> (cases replied; exact ⟨rfl, _, rfl⟩)
  | ok next =>
    have served : world.answered options advance (.update view patch) = some (.ok next, next) := by
      simp only [World.answered, updated]
    rw [served] at replied
    cases reply with
    | served =>
      cases replied
      exact .inr ⟨rfl, .inl rfl⟩
    | refused message =>
      cases replied
      exact .inl ⟨rfl, _, rfl⟩
    | lost message =>
      cases replied
      exact .inr ⟨rfl, .inr ⟨_, rfl⟩⟩

theorem reply_get {answer : Op.Answer .get} (replied : world.reply options advance reply driver .get = (answer, record)) :
    record = world.record ∧ ∀ latest, answer = .ok (some latest) → latest = world.record := by
  unfold World.reply World.answered at replied
  cases reply with
  | served =>
    cases replied
    exact ⟨rfl, fun _ same => by cases same; rfl⟩
  | refused message =>
    cases replied
    exact ⟨rfl, fun _ same => by cases same⟩
  | lost message =>
    cases replied
    exact ⟨rfl, fun _ same => by cases same⟩

theorem reply_release {answer : Op.Answer .release}
    (replied : world.reply options advance reply driver .release = (answer, record)) :
    record = world.record ∨ record = releaseRecord world.record advance.lease := by
  unfold World.reply World.answered at replied
  cases reply with
  | served =>
    cases replied
    exact .inr rfl
  | refused message =>
    cases replied
    exact .inl rfl
  | lost message =>
    cases replied
    exact .inr rfl

def ofDriver : Op → Bool
  | .claim | .update _ _ | .get | .release => false
  | _ => true

theorem reply_driver {op : Op} {answer : Op.Answer op} (asked : ofDriver op = true)
    (replied : world.reply options advance reply driver op = (answer, record)) : record = world.record := by
  unfold World.reply World.answered at replied
  cases op <;> first | (cases replied; rfl) | cases asked

variable (options world advance) in
/-- What an answer makes of the record. -/
inductive Stores : Op → ManagedPlanExecution → Prop where
  | same (op : Op) : Stores op world.record
  | claims {record : ManagedPlanExecution}
      (claimed : claimRecord world.record advance.worker world.clock options.leaseMs = some record) : Stores .claim record
  | updates {view record : ManagedPlanExecution} {patch : ManagedPlanExecutionPatch}
      (updated : updateRecord world.record view.revision patch (some advance.lease) world.clock = .ok record) :
      Stores (.update view patch) record
  | releases : Stores .release (releaseRecord world.record advance.lease)

theorem reply_stores {op : Op} {answer : Op.Answer op}
    (replied : world.reply options advance reply driver op = (answer, record)) : Stores options world advance op record := by
  cases op with
  | claim =>
    rcases reply_claim replied with ⟨rfl, -⟩ | ⟨claimed, -⟩
    · exact .same _
    · exact .claims claimed
  | update view patch =>
    rcases reply_update replied with ⟨rfl, -⟩ | ⟨updated, -⟩
    · exact .same _
    · exact .updates updated
  | get =>
    rw [(reply_get replied).1]
    exact .same _
  | release =>
    rcases reply_release replied with rfl | rfl
    · exact .same _
    · exact .releases
  | _ =>
    rw [reply_driver rfl replied]
    exact .same _

variable (options stored alive world advance after known record) in
/-- A thread known as `known` is answered, and the record is `record` from then on. -/
structure Told (op : Op) (answer : Op.Answer op) (told : Known) : Prop where
  answers : answers options advance.lease stored alive known op answer told
  count : told.count = world.nextId
  leased : Leased options { world with record } after told
  silent : known.core = none → told.core = none
  released : World.isRelease op = true → told.core = none
  recorded : World.isRelease op = false → ∀ before, known.core = some before →
    ∃ now, told.core = some now ∧ (alive → core record = now)

theorem told_nothing {op : Op} {answer : Op.Answer op} (beside : Beside options world { world with record } advance after)
    (leased : Leased options world advance known)
    (same : core record = core world.record) (keeps : World.isRelease op = false)
    (records : ∀ before, known.core = some before → alive → core world.record = before)
    (tells : answers options advance.lease stored alive known op answer { known with count := world.nextId }) :
    Told options stored alive world advance after known record op answer { known with count := world.nextId } where
  answers := tells
  count := rfl
  leased := leased.beside beside
  silent := id
  released := by
    intro releases
    rw [keeps] at releases
    cases releases
  recorded := by
    intro _ before knows
    exact ⟨before, knows, fun living => same.trans (records before knows living)⟩

section

variable (beside : Beside options world { world with record } advance after)
  (leased : Leased options world advance known) (counted : known.count ≤ world.nextId)
  (records : ∀ before, known.core = some before → alive → core world.record = before)
  (genuine : Genuine options stored record) (issued : Issued options.ids world.nextId record)

include beside leased counted records genuine issued

theorem told_claim {answer : Op.Answer .claim}
    (replied : world.reply options advance reply driver .claim = (answer, record)) :
    ∃ told, Told options stored alive world advance after known record .claim answer told := by
  rcases reply_claim replied with ⟨same, unclaimed⟩ | ⟨claimed, own⟩
  · subst same
    refine ⟨_, told_nothing beside leased rfl rfl records ⟨⟨rfl, rfl, counted⟩, ?_⟩⟩
    match answer, unclaimed with
    | .error failure, _ => rfl
    | .ok none, _ => rfl
    | .ok (some claimed), unclaimed => exact absurd rfl (unclaimed claimed)
  · obtain ⟨same, lease, now, -, expires, -⟩ := claimRecord_claimed claimed
    clear claimed
    match answer, own with
    | .error failure, _ =>
      exact ⟨_, told_nothing beside leased same.core rfl records ⟨⟨rfl, rfl, counted⟩, rfl⟩⟩
    | .ok none, _ =>
      exact ⟨_, told_nothing beside leased same.core rfl records ⟨⟨rfl, rfl, counted⟩, rfl⟩⟩
    | .ok (some claimed), own =>
      obtain rfl := own claimed rfl
      -- it holds the lease again where the epoch is still its own
      refine ⟨{ known with
        count := world.nextId
        expiry := (claimed.lease.filter fun held => held.epoch = advance.lease.epoch).map (·.expiresAt) }, ?_⟩
      refine ⟨⟨⟨rfl, rfl, counted⟩, rfl, genuine, issued, ?_⟩, rfl, ?_, id, ?_, ?_⟩
      · intro held leased epoch
        simp [leased, epoch]
      · intro expiry knows _
        simp only [now, Option.map_eq_some_iff, Option.filter_eq_some_iff, decide_eq_true_eq] at knows
        obtain ⟨held, ⟨same, epoch⟩, rfl⟩ := knows
        cases same
        refine ⟨expires.le, .inr ⟨lease, now, ?_, le_rfl⟩⟩
        rw [beside.lease]
        exact epoch
      · intro releases
        cases releases
      · intro _ before knows
        exact ⟨before, knows, fun living => same.core.trans (records before knows living)⟩

theorem told_update {view : ManagedPlanExecution} {patch : ManagedPlanExecutionPatch}
    {answer : Op.Answer (.update view patch)} (same : record = world.record ∨ SameRecord record (patched view patch))
    (replied : world.reply options advance reply driver (.update view patch) = (answer, record)) :
    ∃ told, Told options stored alive world advance after known record (.update view patch) answer told := by
  rcases reply_update replied with ⟨unchanged, failure, rfl⟩ | ⟨updated, answered⟩
  · subst unchanged
    exact ⟨_, told_nothing beside leased rfl rfl records ⟨⟨rfl, rfl, counted⟩, .inl rfl⟩⟩
  · have landed : SameRecord record (patched view patch) := by
      rcases same with unchanged | landed
      · -- a record that takes a patch is another one
        have revised := congrArg ManagedPlanExecution.revision (updated_patched updated)
        rw [unchanged] at revised
        exact absurd revised (Nat.ne_of_lt (Nat.lt_succ_self _))
      · exact landed
    refine ⟨{ known with count := world.nextId, core := known.core.map fun _ => core record }, ?_⟩
    refine ⟨⟨⟨rfl, rfl, counted⟩, ?_⟩, rfl, leased.beside beside, ?_, ?_, ?_⟩
    · rcases answered with rfl | ⟨failure, rfl⟩
      · exact ⟨genuine, issued, landed, rfl⟩
      · right
        rw [landed.core]
    · intro silent
      simp [silent]
    · intro releases
      cases releases
    · intro _ before knows
      refine ⟨core record, ?_, fun _ => rfl⟩
      rw [knows]
      rfl

theorem told_get {answer : Op.Answer .get} (replied : world.reply options advance reply driver .get = (answer, record)) :
    ∃ told, Told options stored alive world advance after known record .get answer told := by
  obtain ⟨rfl, own⟩ := reply_get replied
  refine ⟨_, told_nothing beside leased rfl rfl records ⟨⟨rfl, rfl, counted⟩, ?_⟩⟩
  match answer, own with
  | .error failure, _ => rfl
  | .ok none, _ => rfl
  | .ok (some latest), own =>
    obtain rfl := own latest rfl
    exact ⟨rfl, genuine, issued, fun living before knows => records before knows living⟩

end

theorem told_release {answer : Op.Answer .release} (beside : Beside options world { world with record } advance after)
    (leased : Leased options world advance known) (counted : known.count ≤ world.nextId) :
    ∃ told, Told options stored alive world advance after known record .release answer told := by
  refine ⟨{ known with count := world.nextId, core := none }, ⟨⟨rfl, rfl, counted⟩, rfl⟩, rfl,
    leased.beside beside, fun _ => rfl, fun _ => rfl, ?_⟩
  intro keeps
  cases keeps

theorem told_driver {op : Op} {answer : Op.Answer op} (asked : ofDriver op = true)
    (beside : Beside options world { world with record } advance after) (leased : Leased options world advance known)
    (counted : known.count ≤ world.nextId)
    (records : ∀ before, known.core = some before → alive → core world.record = before)
    (replied : world.reply options advance reply driver op = (answer, record)) :
    ∃ told, Told options stored alive world advance after known record op answer told := by
  obtain rfl := reply_driver asked replied
  refine ⟨_, told_nothing beside leased rfl ?_ records ⟨⟨rfl, rfl, counted⟩, ?_⟩⟩
  · cases op <;> first | rfl | cases asked
  · cases op <;> first | rfl | cases asked

end

end SpaceApp.Plans
