import Mathlib.Logic.Relation
import SpaceApp.Api.Setup.FinishedRuns

/-! What the tasks of a run depend on: no task waits for itself, and a retry resets everything that
depends on what it names. -/

set_option autoImplicit false

namespace SpaceApp.Setup

/-- An action comes after every action it depends on. -/
def rankOf (id : PlanActionId) : Nat :=
  match id.action with
  | .prepareOpencode => 0
  | .applySettings => 3
  | .ensureStarterRoom => 4
  | .writeInstallationMemory => 5
  | _ => if (byId id.feature).any fun feature => feature.dependencies ≠ [] then 2 else 1

def Ranked (actions : List SetupPlanAction) : Prop :=
  ∀ action ∈ actions, ∀ id ∈ action.dependsOn, rankOf id < rankOf action.id ∧ ∃ other ∈ actions, other.id = id

theorem catalog_ranked : ∀ feature ∈ SETUP_CATALOG, rankOf (finalActionId feature.id) < 3 ∧
    0 < rankOf (finalActionId feature.id) ∧
    ∀ dependency ∈ feature.dependencies, rankOf (finalActionId dependency) < rankOf (finalActionId feature.id) ∧
      ∃ entry ∈ SETUP_CATALOG, entry.id = dependency := by
  decide +kernel

section

variable {effectiveIds : List SetupFeatureId} {action : SetupPlanAction}

def checks (effectiveIds : List SetupFeatureId) : List SetupPlanAction :=
  (SETUP_CATALOG.filter fun feature => feature.id ∈ effectiveIds).flatMap (checksOf effectiveIds)

theorem checksOf_final (effectiveIds : List SetupFeatureId) (feature : SetupFeature) :
    ∃ other ∈ checksOf effectiveIds feature, other.id = finalActionId feature.id := by
  unfold checksOf
  split
  · exact ⟨_, List.mem_cons_of_mem _ List.mem_cons_self, rfl⟩
  · exact ⟨_, List.mem_cons_self, rfl⟩

theorem final_checked {feature : SetupFeature} (listed : feature ∈ SETUP_CATALOG) (selected : feature.id ∈ effectiveIds) :
    ∃ other ∈ checks effectiveIds, other.id = finalActionId feature.id := by
  obtain ⟨other, made, same⟩ := checksOf_final effectiveIds feature
  exact ⟨other, List.mem_flatMap.mpr ⟨feature, List.mem_filter.mpr ⟨listed, by simpa using selected⟩, made⟩, same⟩

/-- A check comes before the three last actions, and what it depends on is checked before. -/
theorem checks_ranked (member : action ∈ checks effectiveIds) : rankOf action.id < 3 ∧
      ∀ id ∈ action.dependsOn, rankOf id < rankOf action.id ∧ ∃ other ∈ checks effectiveIds, other.id = id := by
  obtain ⟨feature, entry, made⟩ := List.mem_flatMap.mp member
  obtain ⟨listed, -⟩ := List.mem_filter.mp entry
  obtain ⟨below, above, dependencies⟩ := catalog_ranked feature listed
  have final : ∀ id ∈ (feature.dependencies.filter (· ∈ effectiveIds)).map finalActionId,
      rankOf id < rankOf (finalActionId feature.id) ∧ ∃ other ∈ checks effectiveIds, other.id = id := by
    intro id inside
    obtain ⟨dependency, kept, rfl⟩ := List.mem_map.mp inside
    obtain ⟨needed, selected⟩ := List.mem_filter.mp kept
    obtain ⟨before, other, known, rfl⟩ := dependencies dependency needed
    exact ⟨before, final_checked known (by simpa using selected)⟩
  unfold checksOf at made
  split at made
  · next own =>
    rcases List.mem_cons.mp made with rfl | made
    · exact ⟨by decide, by simp [SetupPlanAction.of]⟩
    · rw [List.mem_singleton.mp made]
      refine ⟨below, ?_⟩
      intro id inside
      rcases List.mem_append.mp inside with earlier | prepared
      · exact final id earlier
      · rw [List.mem_singleton.mp prepared]
        refine ⟨above, .of prepareOpencodeId [], List.mem_flatMap.mpr ⟨feature, entry, ?_⟩, rfl⟩
        unfold checksOf
        rw [if_pos own]
        exact List.mem_cons_self
  · rw [List.mem_singleton.mp made]
    exact ⟨below, final⟩

theorem buildActions_ranked (effectiveIds : List SetupFeatureId) : Ranked (buildActions effectiveIds) := by
  intro action member id inside
  unfold buildActions at member ⊢
  rcases List.mem_append.mp member with checked | last
  · obtain ⟨-, dependencies⟩ := checks_ranked checked
    obtain ⟨before, other, known, same⟩ := dependencies id inside
    exact ⟨before, other, List.mem_append_left _ known, same⟩
  · rcases List.mem_cons.mp last with rfl | last
    · obtain ⟨other, known, rfl⟩ := List.mem_map.mp inside
      exact ⟨(checks_ranked known).1, other, List.mem_append_left _ known, rfl⟩
    · rcases List.mem_cons.mp last with rfl | last
      · rw [List.mem_singleton.mp inside]
        exact ⟨by decide, _, List.mem_append_right _ List.mem_cons_self, rfl⟩
      · rw [List.mem_singleton.mp last] at inside ⊢
        rw [List.mem_singleton.mp inside]
        exact ⟨by decide, _, List.mem_append_right _ (List.mem_cons_of_mem _ List.mem_cons_self), rfl⟩

end

section

variable {tasks : List SetupTask} {task : SetupTask}

def Ordered (tasks : List SetupTask) : Prop :=
  ∀ task ∈ tasks, ∀ id ∈ task.dependsOn, rankOf id.action < rankOf task.id.action ∧ ∃ other ∈ tasks, other.id = id

theorem tasks_ordered (host : SetupHost) {plan : SetupPlan} {effectiveIds : List SetupFeatureId}
    (built : plan.actions = buildActions effectiveIds) (uuid : Uuid) : Ordered (plan.tasks host uuid) := by
  intro task member id inside
  obtain ⟨action, planned, rfl⟩ := List.mem_map.mp member
  obtain ⟨dependency, needed, rfl⟩ := List.mem_map.mp inside
  rw [built] at planned
  obtain ⟨before, other, known, rfl⟩ := buildActions_ranked effectiveIds action planned dependency needed
  rw [← built] at known
  exact ⟨before, _, List.mem_map_of_mem known, rfl⟩

theorem Ordered.changed {chosen : SetupTask → Bool} {change : SetupTask → SetupTask} (ordered : Ordered tasks)
    (same : ∀ task, SameTask task (change task)) : Ordered (Setup.changed chosen change tasks) := by
  intro task member id inside
  have known : ∃ before ∈ tasks, before.id = task.id ∧ before.dependsOn = task.dependsOn := by
    obtain ⟨before, old, ⟨-, rfl⟩ | ⟨-, rfl⟩⟩ := mem_changed member
    · exact ⟨before, old, (same before).id.symm, (same before).dependsOn.symm⟩
    · exact ⟨task, old, rfl, rfl⟩
  obtain ⟨before, old, own, depends⟩ := known
  rw [← depends] at inside
  rw [← own]
  obtain ⟨less, other, listed, rfl⟩ := ordered before old id inside
  have ids : (Setup.changed chosen change tasks).map (·.id) = tasks.map (·.id) := changed_ids same
  have there : other.id ∈ (Setup.changed chosen change tasks).map (·.id) := by
    rw [ids]
    exact List.mem_map_of_mem listed
  obtain ⟨after, now, named⟩ := List.mem_map.mp there
  exact ⟨less, after, now, named⟩

def SetupTask.unblocked (task : SetupTask) (tasks : List SetupTask) : Prop :=
  task.status = .queued ∧ ∀ id ∈ task.dependsOn, ∃ other ∈ tasks, other.id = id ∧ other.status = .ready

instance (task : SetupTask) (tasks : List SetupTask) : Decidable (task.unblocked tasks) :=
  inferInstanceAs (Decidable (_ ∧ _))

/-- The first task that is not ready yet is worked on, or waits for nothing. -/
theorem Ordered.unblocked (ordered : Ordered tasks)
    (going : ∀ task ∈ tasks, task.status = .queued ∨ task.leased = true ∨ task.status = .ready) (member : task ∈ tasks)
    (unready : task.status ≠ .ready) : (∃ task ∈ tasks, task.leased = true) ∨ ∃ task ∈ tasks, task.unblocked tasks := by
  -- the induction goes down to a dependency that is not ready
  induction rank : rankOf task.id.action using Nat.strongRecOn generalizing task with
  | ind rank_ ih =>
    subst rank
    rcases going task member with queued | leased | ready
    · by_cases waits : ∃ id ∈ task.dependsOn, ∀ other ∈ tasks, other.id = id → other.status ≠ .ready
      · obtain ⟨id, needed, blocked⟩ := waits
        obtain ⟨less, other, listed, rfl⟩ := ordered task member id needed
        exact ih _ less listed (blocked other listed rfl) rfl
      · right
        refine ⟨task, member, queued, ?_⟩
        intro id needed
        by_contra missing
        apply waits
        refine ⟨id, needed, ?_⟩
        intro other listed same ready
        exact missing ⟨other, listed, same, ready⟩
    · exact .inl ⟨task, member, leased⟩
    · exact absurd ready unready

def DependsOn (tasks : List SetupTask) (id dependency : SetupTaskId) : Prop :=
  ∃ task ∈ tasks, task.id = id ∧ dependency ∈ task.dependsOn

def Closed (tasks : List SetupTask) (reset : List SetupTaskId) : Prop :=
  ∀ id dependency, DependsOn tasks id dependency → dependency ∈ reset → id ∈ reset

def resetTask (reset : List SetupTaskId) (task : SetupTask) : List SetupTaskId :=
  if task.id ∉ reset ∧ task.dependsOn.any fun id => id ∈ reset then task.id :: reset else reset

theorem resetPass_eq (tasks : List SetupTask) (reset : List SetupTaskId) :
    resetPass tasks reset = tasks.foldl resetTask reset := rfl

theorem resetTask_cases (reset : List SetupTaskId) (task : SetupTask) :
    (resetTask reset task = reset ∧ (task.id ∈ reset ∨ ∀ id ∈ task.dependsOn, id ∉ reset)) ∨
      (task.id ∉ reset ∧ resetTask reset task = task.id :: reset) := by
  unfold resetTask
  by_cases known : task.id ∈ reset
  · exact .inl ⟨if_neg fun both => both.1 known, .inl known⟩
  · by_cases depends : task.dependsOn.any fun id => id ∈ reset
    · exact .inr ⟨known, if_pos ⟨known, depends⟩⟩
    · refine .inl ⟨if_neg fun both => depends both.2, .inr ?_⟩
      simpa using depends

structure Grown (tasks : List SetupTask) (before after : List SetupTaskId) : Prop where
  kept : before ⊆ after
  nodup : before.Nodup → after.Nodup
  listed : ∀ id ∈ after, id ∈ before ∨ id ∈ tasks.map (·.id)
  longer : before.length ≤ after.length
  still : after.length = before.length → after = before ∧
    ∀ task ∈ tasks, task.id ∈ before ∨ ∀ id ∈ task.dependsOn, id ∉ before

theorem resetPass_grown (tasks : List SetupTask) (reset : List SetupTaskId) :
    Grown tasks reset (resetPass tasks reset) := by
  rw [resetPass_eq]
  induction tasks generalizing reset with
  | nil =>
    refine ⟨List.Subset.refl _, fun distinct => distinct, fun id inside => .inl inside, Nat.le_refl _, ?_⟩
    exact fun _ => ⟨rfl, fun task member => by cases member⟩
  | cons task rest ih =>
    rw [List.foldl_cons]
    have grown := ih (resetTask reset task)
    rcases resetTask_cases reset task with ⟨same, closed⟩ | ⟨fresh, more⟩
    · rw [same] at grown ⊢
      refine { grown with listed := ?_, still := ?_ }
      · intro id inside
        rcases grown.listed id inside with old | new
        · exact .inl old
        · exact .inr (List.mem_cons_of_mem _ new)
      · intro full
        obtain ⟨same, others⟩ := grown.still full
        refine ⟨same, ?_⟩
        intro other member
        rcases List.mem_cons.mp member with rfl | member
        · exact closed
        · exact others other member
    · rw [more] at grown ⊢
      have longer := grown.longer
      rw [List.length_cons] at longer
      refine ⟨fun task kept => grown.kept (List.mem_cons_of_mem _ kept), ?_, ?_, by omega, by omega⟩
      · exact fun distinct => grown.nodup (List.nodup_cons.mpr ⟨fresh, distinct⟩)
      · intro id inside
        rcases grown.listed id inside with old | new
        · rcases List.mem_cons.mp old with rfl | old
          · exact .inr List.mem_cons_self
          · exact .inl old
        · exact .inr (List.mem_cons_of_mem _ new)

/-- The passes end with a closed set. -/
theorem resetOf_closed (tasks : List SetupTask) {passes : Nat} {reset : List SetupTaskId} (distinct : reset.Nodup)
    (listed : reset ⊆ tasks.map (·.id)) (enough : tasks.length < passes + reset.length) :
    reset ⊆ resetOf tasks passes reset ∧ Closed tasks (resetOf tasks passes reset) := by
  induction passes generalizing reset with
  | zero =>
    have few : reset.length ≤ (tasks.map (·.id)).length := distinct.length_le_of_subset listed
    rw [List.length_map] at few
    omega
  | succ passes ih =>
    have grown := resetPass_grown tasks reset
    unfold resetOf
    dsimp only
    split
    · next full =>
      obtain ⟨-, still⟩ := grown.still full
      refine ⟨List.Subset.refl _, ?_⟩
      rintro id dependency ⟨task, member, rfl, needed⟩ inside
      rcases still task member with known | apart
      · exact known
      · exact absurd inside (apart dependency needed)
    · next more =>
      have longer := grown.longer
      have within : resetPass tasks reset ⊆ tasks.map (·.id) := by
        intro id inside
        rcases grown.listed id inside with old | new
        · exact listed old
        · exact new
      obtain ⟨kept, closed⟩ := ih (grown.nodup distinct) within (by omega)
      exact ⟨List.Subset.trans grown.kept kept, closed⟩

theorem Closed.reaches {reset : List SetupTaskId} (closed : Closed tasks reset) {id dependency : SetupTaskId}
    (reaches : Relation.ReflTransGen (DependsOn tasks) id dependency) (inside : dependency ∈ reset) : id ∈ reset := by
  induction reaches using Relation.ReflTransGen.head_induction_on with
  | refl => exact inside
  | head depends _ ih => exact closed _ _ depends ih

end

end SpaceApp.Setup
