import Mathlib.Data.List.Dedup
import SpaceApp.Api.Setup.Dependencies

/-! A run that is running can go on, unless it was set running while a task of it still needs
attention: `retryFailedTasks` and `reconcileExpiredTask` do not look for such a task, except for one
whose lease expired. -/

set_option autoImplicit false

namespace SpaceApp.Setup

open SpaceApp.Foundation

section

variable {host : SetupHost} {store : Store} {request : Request} {run : SetupRun} {status : SetupRunStatus}
  {tasks : List SetupTask} {chosen : SetupTask → Bool} {change : SetupTask → SetupTask}
  {finish : List SetupTask → SetupRun → SetupRun}

/-- A failed run that is retried has every task that needs attention reset, and the last expired
task that is reconciled leaves no other one that needs attention. -/
def Store.attentive (store : Store) : Request → Prop
  | .retryFailedTasks runId taskIds expectedRunRevision _ =>
    (∃ run ∈ store.state.runs, run.id = runId ∧ run.status = .failed ∧ run.revision = expectedRunRevision) →
      ∀ task ∈ tasksOf store.state.tasks runId, task.status = .needsAttention →
        ∃ id ∈ taskIds, Relation.ReflTransGen (DependsOn (tasksOf store.state.tasks runId)) task.id id
  | .reconcileExpiredTask runId taskId _ _ _ =>
    (∃ run ∈ store.state.runs, run.id = runId ∧ run.status = .failed) →
      (∀ task ∈ tasksOf store.state.tasks runId, task.id ≠ taskId → task.expired = false) →
        ∀ task ∈ tasksOf store.state.tasks runId, task.id ≠ taskId → task.status ≠ .needsAttention
  | _ => True

/-- What the status of a run says of its tasks. -/
structure TasksLaw (status : SetupRunStatus) (tasks : List SetupTask) : Prop where
  leases : LeaseLaw status tasks
  held : ∀ task ∈ tasks, task.leased = true → task.leaseOwner.isSome = true ∧ task.leaseExpiresAt.isSome = true
  ordered : Ordered tasks
  uncancelled : status ≠ .cancelled → ∀ task ∈ tasks,
    task.status = .queued ∨ task.leased = true ∨ task.status = .ready ∨ task.status = .needsAttention
  ready : status = .ready → ∀ task ∈ tasks, task.status = .ready
  going : status = .running ∨ status = .paused →
    (∀ task ∈ tasks, task.status ≠ .needsAttention) ∧ ∃ task ∈ tasks, task.status ≠ .ready

theorem lease_leased (workerId : String) (expiry : ℤ) (task : SetupTask) : (task.lease workerId expiry).leased = true := by
  simp only [SetupTask.lease, SetupTask.leased]
  split
  · rfl
  · rfl

theorem leased_unready {task : SetupTask} (leased : task.leased = true) :
    task.status ≠ .ready ∧ task.status ≠ .needsAttention := by
  constructor
  all_goals
    intro same
    simp [SetupTask.leased, same] at leased

theorem changed_none (tasks : List SetupTask) (change : SetupTask → SetupTask) :
    changed (fun _ => false) change tasks = tasks := by
  unfold changed
  simp

theorem changed_mem {task : SetupTask} (member : task ∈ tasks) (picked : chosen task = true) :
    change task ∈ changed chosen change tasks := by
  refine List.mem_map.mpr ⟨task, member, ?_⟩
  rw [if_pos picked]

section
variable (moves : Moves run tasks request chosen change finish)

include moves

theorem Moves.held
    (held : ∀ task ∈ tasks, task.leased = true → task.leaseOwner.isSome = true ∧ task.leaseExpiresAt.isSome = true)
    {task : SetupTask} (member : task ∈ changed chosen change tasks) (leased : task.leased = true) :
    task.leaseOwner.isSome = true ∧ task.leaseExpiresAt.isSome = true := by
  obtain ⟨before, old, ⟨picked, rfl⟩ | ⟨-, rfl⟩⟩ := mem_changed member
  · cases moves with
    | leases => exact ⟨rfl, rfl⟩
    | pauses => cases picked
    | resumes => cases picked
    | _ => cases leased
  · exact held task old leased

theorem Moves.uncancelled_tasks (open_ : (finish (changed chosen change tasks) run).status ≠ .cancelled)
    (law : TasksLaw run.status tasks) {task : SetupTask} (member : task ∈ changed chosen change tasks) :
    task.status = .queued ∨ task.leased = true ∨ task.status = .ready ∨ task.status = .needsAttention := by
  obtain ⟨before, old, ⟨picked, rfl⟩ | ⟨-, rfl⟩⟩ := mem_changed member
  · cases moves with
    | leases => exact .inr (.inl (lease_leased _ _ _))
    | pauses => cases picked
    | resumes => cases picked
    | cancels => exact absurd rfl open_
    | completes | verifies => exact .inr (.inr (.inl rfl))
    | expires | fails => exact .inr (.inr (.inr rfl))
    | retries | revalidates | requeues => exact .inl rfl
  · exact law.uncancelled (moves.uncancelled law.leases) task old

theorem Moves.ready_tasks (ready : (finish (changed chosen change tasks) run).status = .ready) :
    ∀ task ∈ changed chosen change tasks, task.status = .ready := by
  have all (checked : ((changed chosen change tasks).all fun task => task.status = .ready) = true) :
      ∀ task ∈ changed chosen change tasks, task.status = .ready := by
    simpa using checked
  cases moves with
  | leases running =>
    have same : run.status = .ready := ready
    rw [running] at same
    cases same
  | completes member going =>
    unfold SetupRun.complete at ready
    split at ready
    · next checked => exact all checked
    · have same : run.status = .ready := ready
      rcases going with going | going
      · rw [going] at same
        cases same
      · rw [going] at same
        cases same
  | verifies | requeues =>
    unfold SetupRun.reconcile at ready
    split at ready
    · cases ready
    · split at ready
      · next checked => exact all checked
      · cases ready
  | _ => cases ready

end

theorem retried_tasks {taskIds : List SetupTaskId}
    (attention : ∀ id ∈ taskIds, ∃ task ∈ tasks, task.id = id ∧ task.status = .needsAttention)
    (attentive : ∀ task ∈ tasks, task.status = .needsAttention →
      ∃ id ∈ taskIds, Relation.ReflTransGen (DependsOn tasks) task.id id) :
    taskIds ⊆ resetOf tasks (tasks.length + 1) taskIds.dedup ∧
      ∀ task ∈ tasks, task.status = .needsAttention → task.id ∈ resetOf tasks (tasks.length + 1) taskIds.dedup := by
  have listed : taskIds.dedup ⊆ tasks.map (·.id) := by
    intro id named
    obtain ⟨task, member, rfl, -⟩ := attention id (List.mem_dedup.mp named)
    exact List.mem_map_of_mem member
  have enough : tasks.length < tasks.length + 1 + taskIds.dedup.length := by omega
  obtain ⟨kept, closed⟩ := resetOf_closed tasks taskIds.nodup_dedup listed enough
  have named : taskIds ⊆ resetOf tasks (tasks.length + 1) taskIds.dedup :=
    fun id inside => kept (List.mem_dedup.mpr inside)
  refine ⟨named, ?_⟩
  intro task member needs
  obtain ⟨id, inside, reaches⟩ := attentive task member needs
  exact closed.reaches reaches (named inside)

theorem reconciled_tasks {taskId : SetupTaskId} {now : ℤ} {status : SetupTaskStatus} {evidenceRef : String}
    (settled : status ≠ .needsAttention)
    (attentive : (∀ task ∈ tasks, task.id ≠ taskId → task.expired = false) →
      ∀ task ∈ tasks, task.id ≠ taskId → task.status ≠ .needsAttention)
    (going : (SetupRun.reconcile now
        (changed (fun item => item.id = taskId) (·.inspected status evidenceRef) tasks) run).status = .running ∨
      (SetupRun.reconcile now
        (changed (fun item => item.id = taskId) (·.inspected status evidenceRef) tasks) run).status = .paused) :
    (∀ task ∈ changed (fun item => item.id = taskId) (·.inspected status evidenceRef) tasks,
        task.status ≠ .needsAttention) ∧
      ∃ task ∈ changed (fun item => item.id = taskId) (·.inspected status evidenceRef) tasks, task.status ≠ .ready := by
  unfold SetupRun.reconcile at going
  split at going
  · rcases going with same | same <;> cases same
  next unexpired =>
  split at going
  · rcases going with same | same <;> cases same
  next unready =>
  constructor
  · intro task member
    obtain ⟨before, old, ⟨-, rfl⟩ | ⟨apart, rfl⟩⟩ := mem_changed member
    · exact settled
    · refine attentive ?_ task old (by simpa using apart)
      intro other listed away
      have kept : other ∈ changed (fun item => item.id = taskId) (·.inspected status evidenceRef) tasks :=
        List.mem_map.mpr ⟨other, listed, if_neg (by simpa using away)⟩
      simp only [Bool.not_eq_true, List.any_eq_false] at unexpired
      simpa using unexpired other kept
  · simpa using unready

/-- A run that goes on has a task to do, and none that needs attention. -/
theorem Moves.going_tasks (moves : Moves run (tasksOf store.state.tasks run.id) request chosen change finish)
    (may : store.attentive request) (member : run ∈ store.state.runs)
    (law : TasksLaw run.status (tasksOf store.state.tasks run.id))
    (going : (finish (changed chosen change (tasksOf store.state.tasks run.id)) run).status = .running ∨
      (finish (changed chosen change (tasksOf store.state.tasks run.id)) run).status = .paused) :
    (∀ task ∈ changed chosen change (tasksOf store.state.tasks run.id), task.status ≠ .needsAttention) ∧
      ∃ task ∈ changed chosen change (tasksOf store.state.tasks run.id), task.status ≠ .ready := by
  cases moves with
  | expires | fails | cancels =>
    rcases going with same | same <;> cases same
  | leases running next =>
    have inside := List.mem_of_find?_eq_some next
    constructor
    · intro after there
      obtain ⟨before, old, ⟨-, rfl⟩ | ⟨-, rfl⟩⟩ := mem_changed there
      · exact (leased_unready (lease_leased _ _ _)).2
      · exact (law.going (.inl running)).1 after old
    · exact ⟨_, changed_mem inside (by simp), (leased_unready (lease_leased _ _ _)).1⟩
  | completes inside before held =>
    constructor
    · intro after there
      obtain ⟨before, old, ⟨-, rfl⟩ | ⟨-, rfl⟩⟩ := mem_changed there
      · intro same
        cases same
      · exact (law.going before).1 after old
    · unfold SetupRun.complete at going
      split at going
      · rcases going with same | same <;> cases same
      · next unready => simpa using unready
  | pauses running =>
    rw [changed_none]
    exact law.going (.inl running)
  | resumes paused =>
    rw [changed_none]
    exact law.going (.inr paused)
  | retries failed some_ attention current =>
    obtain ⟨named, reset⟩ := retried_tasks attention (may ⟨run, member, rfl, failed, current⟩)
    constructor
    · intro after there
      obtain ⟨before, old, ⟨-, rfl⟩ | ⟨kept, rfl⟩⟩ := mem_changed there
      · intro same
        cases same
      · intro needs
        simp only [decide_eq_false_iff_not] at kept
        exact kept (reset after old needs)
    · obtain ⟨id, inside⟩ := List.exists_mem_of_ne_nil _ some_
      obtain ⟨task, old, rfl, -⟩ := attention id inside
      refine ⟨_, changed_mem old (by simpa using named inside), ?_⟩
      intro same
      cases same
  | revalidates ready some_ listed =>
    constructor
    · intro after there
      obtain ⟨before, old, ⟨-, rfl⟩ | ⟨-, rfl⟩⟩ := mem_changed there
      · intro same
        cases same
      · rw [law.ready ready after old]
        intro same
        cases same
    · obtain ⟨id, inside⟩ := List.exists_mem_of_ne_nil _ some_
      obtain ⟨task, old, rfl⟩ := listed id inside
      refine ⟨_, changed_mem old (by simpa using inside), ?_⟩
      intro same
      cases same
  | verifies inside failed expired =>
    exact reconciled_tasks (by decide) (may ⟨run, member, rfl, failed⟩) going
  | requeues inside failed expired =>
    exact reconciled_tasks (by decide) (may ⟨run, member, rfl, failed⟩) going

theorem tasksLaw (host : SetupHost) : TaskLaw host Store.attentive TasksLaw where
  superseded := fun status tasks law open_ unready => {
    leases := (leaseLaw host Store.attentive).superseded status tasks law.leases open_ unready
    __ := law
    uncancelled := fun _ => law.uncancelled open_
    ready := fun same => by cases same
    going := fun same => by rcases same with same | same <;> cases same }
  started := by
    intro plan effective uuid built
    have queued : ∀ task ∈ plan.tasks host uuid, task.status = .queued := by
      intro task member
      obtain ⟨action, _, rfl⟩ := List.mem_map.mp member
      rfl
    refine ⟨(leaseLaw host Store.attentive).started plan effective uuid built, ?_, tasks_ordered host built uuid, ?_, ?_, ?_⟩
    · intro task member leased
      simp [SetupTask.leased, queued task member] at leased
    · exact fun _ task member => .inl (queued task member)
    · intro same
      cases same
    · intro _
      constructor
      · intro task member
        rw [queued task member]
        intro same
        cases same
      · have some_ : plan.tasks host uuid ≠ [] := by
          simp [SetupPlan.tasks, built, buildActions]
        obtain ⟨task, member⟩ := List.exists_mem_of_ne_nil _ some_
        refine ⟨task, member, ?_⟩
        rw [queued task member]
        intro same
        cases same
  moved := by
    intro store request run chosen change finish may member distinct moves law
    refine ⟨(leaseLaw host Store.attentive).moved store request run chosen change finish may member distinct moves law.leases,
      fun task inside => moves.held law.held inside, law.ordered.changed moves.same_task,
      fun open_ task inside => moves.uncancelled_tasks open_ law inside, moves.ready_tasks,
      moves.going_tasks may member law⟩

/-- A task is worked on, or one is queued whose dependencies are ready. -/
def NotStuck (tasks : List SetupTask) : Prop :=
  (∃ task ∈ tasks, task.leased = true) ∨ ∃ task ∈ tasks, task.unblocked tasks

instance (tasks : List SetupTask) : Decidable (NotStuck tasks) := inferInstanceAs (Decidable (_ ∨ _))

/-- `leaseNextTask` finds a task whose lease expired or one to lease, or a worker can settle its task. -/
def CanMove (tasks : List SetupTask) (now : ℤ) : Prop :=
  (∃ task ∈ tasks, task.overdue now = true) ∨ (∃ task ∈ tasks, ∃ workerId, task.heldBy workerId now = true) ∨
    (nextTask tasks).isSome = true

theorem nextTask_unblocked (free : ∀ task ∈ tasks, task.leased = false) {task : SetupTask} (member : task ∈ tasks)
    (unblocked : task.unblocked tasks) : (nextTask tasks).isSome = true := by
  have none_ (status : SetupTaskStatus) (works : status = .installing ∨ status = .checking) :
      tasks.countP (fun other => other.status = status) = 0 := by
    rw [List.countP_eq_zero]
    intro other listed same
    have rests := free other listed
    simp only [SetupTask.leased, Bool.or_eq_false_iff, decide_eq_false_iff_not] at rests
    simp only [decide_eq_true_eq] at same
    rcases works with rfl | rfl
    · exact rests.1 same
    · exact rests.2 same
  obtain ⟨queued, dependencies⟩ := unblocked
  unfold nextTask
  rw [List.find?_isSome]
  refine ⟨task, member, ?_⟩
  simp only [queued, none_ .installing (.inl rfl), none_ .checking (.inr rfl), decide_true, Bool.true_and,
    Bool.and_eq_true, List.all_eq_true, List.any_eq_true, decide_eq_true_eq]
  constructor
  · intro id needed
    obtain ⟨other, listed, same, ready⟩ := dependencies id needed
    exact ⟨other, listed, ready, same⟩
  · split
    · rfl
    · rfl

theorem TasksLaw.can_move (law : TasksLaw status tasks) (notStuck : NotStuck tasks) (now : ℤ) : CanMove tasks now := by
  by_cases works : ∃ task ∈ tasks, task.leased = true
  · obtain ⟨task, member, leased⟩ := works
    obtain ⟨owner, expiry⟩ := law.held task member leased
    obtain ⟨workerId, owner⟩ := Option.isSome_iff_exists.mp owner
    obtain ⟨expiry, until_⟩ := Option.isSome_iff_exists.mp expiry
    by_cases past : expiry ≤ now
    · exact .inl ⟨task, member, by simp [SetupTask.overdue, until_, past, leased]⟩
    · exact .inr (.inl ⟨task, member, workerId, by simp [SetupTask.heldBy, owner, until_, Int.not_le.mp past]⟩)
  · have free : ∀ task ∈ tasks, task.leased = false := by
      intro task member
      rw [Bool.eq_false_iff]
      exact fun leased => works ⟨task, member, leased⟩
    obtain ⟨task, member, unblocked⟩ := notStuck.resolve_left works
    exact .inr (.inr (nextTask_unblocked free member unblocked))

theorem TasksLaw.not_stuck (law : TasksLaw .running tasks) : NotStuck tasks := by
  obtain ⟨calm, task, member, unready⟩ := law.going (.inl rfl)
  refine law.ordered.unblocked ?_ member unready
  intro other listed
  rcases law.uncancelled (by decide) other listed with queued | leased | ready | needs
  · exact .inl queued
  · exact .inr (.inl leased)
  · exact .inr (.inr ready)
  · exact absurd needs (calm other listed)

/-- A running run is never stuck, in every run of requests whose retries and reconciliations leave
no task behind that needs attention. -/
theorem running_run_moves (reached : Reached Store.created Store.attentive (Store.step host) store)
    (member : run ∈ store.state.runs) (running : run.status = .running) :
    NotStuck (tasksOf store.state.tasks run.id) ∧ ∀ now, CanMove (tasksOf store.state.tasks run.id) now := by
  have law := (tasksLaw host).reached reached run member
  rw [running] at law
  exact ⟨law.not_stuck, law.can_move law.not_stuck⟩

end

namespace Sample

def mended : List Request := started ++ [lease 2, fail (rooms 2), .retryFailedTasks 2 [rooms 2] 3 0]

def receipt : ReceiptInput := ⟨"check", digest, "evidence"⟩

/-- Two tasks fail, one of them is retried and completed. -/
def stuck : List Request := started ++ [lease 2, lease 2, fail (rooms 2), fail (tasks 2),
  .retryFailedTasks 2 [rooms 2] 5 0, lease 2, .completeTask 2 (rooms 2) worker receipt 0 0]

end Sample

theorem mended_attentive : AllowedRun Store.attentive (Store.step Sample.host) {} Sample.mended := by
  refine ⟨trivial, trivial, trivial, trivial, trivial, ?_, trivial⟩
  intro _ task member needs
  have only : ∀ task ∈ tasksOf (Sample.run (Sample.started ++ [Sample.lease 2, Sample.fail (Sample.rooms 2)])).state.tasks 2,
      task.status = .needsAttention → task.id = Sample.rooms 2 := by
    decide +kernel
  refine ⟨Sample.rooms 2, List.mem_singleton_self _, ?_⟩
  rw [only task member needs]

theorem running_run_moves_mended : ∃ run ∈ (Sample.run Sample.mended).state.runs, run.status = .running ∧
      NotStuck (tasksOf (Sample.run Sample.mended).state.tasks run.id) ∧
        ∀ now, CanMove (tasksOf (Sample.run Sample.mended).state.tasks run.id) now := by
  obtain ⟨run, member, running⟩ : ∃ run ∈ (Sample.run Sample.mended).state.runs, run.status = .running := by
    decide +kernel
  have reached : Reached Store.created Store.attentive (Store.step Sample.host) (Sample.run Sample.mended) :=
    Reached.run (.start rfl) mended_attentive
  exact ⟨run, member, running, running_run_moves reached member running⟩

theorem running_run_stuck : Reached Store.created (fun _ _ => True) (Store.step Sample.host) (Sample.run Sample.stuck) ∧
      ∃ run ∈ (Sample.run Sample.stuck).state.runs, run.status = .running ∧
        ¬ NotStuck (tasksOf (Sample.run Sample.stuck).state.tasks run.id) :=
  ⟨sample_reached Sample.stuck, by decide +kernel⟩

end SpaceApp.Setup
