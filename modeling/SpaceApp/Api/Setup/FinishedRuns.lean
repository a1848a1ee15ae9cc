import Mathlib.Data.List.Nodup
import SpaceApp.Api.Setup.Runs

/-! A superseded or cancelled run stays finished, unless a worker that still holds one of its
tasks reports a failure: `failTask`, unlike `completeTask`, does not look at the run's status. -/

set_option autoImplicit false

namespace SpaceApp.Setup

open SpaceApp.Foundation

section

variable {host : SetupHost} {store : Store} {request : Request} {state since next : SetupExecutionState}
  {run : SetupRun} {runId : Uuid} {chosen : SetupTask → Bool} {change : SetupTask → SetupTask}
  {finish : List SetupTask → SetupRun → SetupRun} {tasks : List SetupTask}

def SetupRun.finished (run : SetupRun) : Bool := run.status = .superseded || run.status = .cancelled

/-- No failure of a superseded run's task is reported by the worker that holds it. -/
def Store.unfailed (store : Store) : Request → Prop
  | .failTask runId taskId workerId _ checked _ =>
    (∃ run ∈ store.state.runs, run.id = runId ∧ run.status = .superseded) →
      ∀ task ∈ tasksOf store.state.tasks runId, task.id = taskId → task.heldBy workerId checked = false
  | _ => True

instance (store : Store) : (request : Request) → Decidable (store.unfailed request)
  | .failTask .. => inferInstanceAs (Decidable ((∃ run ∈ store.state.runs, _) → _))
  | .updateDraft .. | .createPlan .. | .startRun .. | .leaseNextTask .. | .completeTask .. | .pauseRun ..
  | .resumeRun .. | .cancelRun .. | .retryFailedTasks .. | .revalidateStaleTasks .. | .reconcileExpiredTask ..
  | .completeSetupExecution .. => isTrue trivial

/-- Only a task that is worked on has a lease, and no task of a cancelled run has one. -/
structure LeaseLaw (status : SetupRunStatus) (tasks : List SetupTask) : Prop where
  leased : ∀ task ∈ tasks, task.leaseOwner.isSome = true → task.leased = true
  cancelled : status = .cancelled → ∀ task ∈ tasks, task.leaseOwner = none

theorem SetupTask.unleased {task : SetupTask} (leased : task.leaseOwner.isSome = true → task.leased = true)
    (rests : task.leased = false) : task.leaseOwner = none := by
  cases owner : task.leaseOwner with
  | none => rfl
  | some worker =>
    rw [leased (by rw [owner]; rfl)] at rests
    cases rests

theorem expired_rests {task : SetupTask} (expired : task.expired = true) : task.leased = false := by
  simp only [SetupTask.expired, Bool.and_eq_true, decide_eq_true_eq] at expired
  simp [SetupTask.leased, expired.1]

theorem same_id (distinct : (tasks.map (·.id)).Nodup) {first second : SetupTask} (memberFirst : first ∈ tasks)
    (memberSecond : second ∈ tasks) (same : first.id = second.id) : first = second :=
  List.inj_on_of_nodup_map distinct memberFirst memberSecond same

theorem same_run (distinct : (state.runs.map (·.id)).Nodup) {first second : SetupRun} (memberFirst : first ∈ state.runs)
    (memberSecond : second ∈ state.runs) (same : first.id = second.id) : first = second :=
  List.inj_on_of_nodup_map distinct memberFirst memberSecond same

theorem mem_changed {task : SetupTask} (member : task ∈ changed chosen change tasks) :
    ∃ before ∈ tasks, (chosen before = true ∧ task = change before) ∨ (chosen before = false ∧ task = before) := by
  obtain ⟨before, old, rfl⟩ := List.mem_map.mp member
  refine ⟨before, old, ?_⟩
  cases picked : chosen before with
  | false => exact .inr ⟨rfl, rfl⟩
  | true => exact .inl ⟨rfl, rfl⟩

theorem LeaseLaw.inspected (law : LeaseLaw run.status tasks) (distinct : (tasks.map (·.id)).Nodup)
    {before task : SetupTask} (member : before ∈ tasks) (inside : task ∈ tasks) (same : before.id = task.id)
    (expired : task.expired = true) : before.leaseOwner = none := by
  rw [same_id distinct member inside same]
  exact SetupTask.unleased (law.leased task inside) (expired_rests expired)

section
variable (moves : Moves run tasks request chosen change finish)

include moves

theorem Moves.leases_law (distinct : (tasks.map (·.id)).Nodup)
    (law : LeaseLaw run.status tasks) {before : SetupTask} (member : before ∈ tasks) (picked : chosen before = true) :
    (change before).leaseOwner = none ∨ (change before).leased = true := by
  cases moves with
  | leases =>
    right
    simp only [SetupTask.lease, SetupTask.leased]
    split
    · rfl
    · rfl
  | pauses => cases picked
  | resumes => cases picked
  | verifies inside failed expired =>
    left
    show before.leaseOwner = none
    exact law.inspected distinct member inside (by simpa using picked) expired
  | requeues inside failed expired =>
    left
    show before.leaseOwner = none
    exact law.inspected distinct member inside (by simpa using picked) expired
  | _ => exact .inl rfl

/-- Nothing is done to a cancelled run: the workers of its tasks have lost their leases. -/
theorem Moves.uncancelled (law : LeaseLaw run.status tasks) : run.status ≠ .cancelled := by
  intro cancelled
  cases moves with
  | completes member going =>
    rw [cancelled] at going
    rcases going with same | same <;> cases same
  | fails member held =>
    simp only [SetupTask.heldBy, law.cancelled cancelled _ member] at held
    cases held
  | cancels unfinished => exact unfinished.1 cancelled
  | expires same | leases same | pauses same | resumes same | retries same | revalidates same | verifies _ same
  | requeues _ same =>
    rw [cancelled] at same
    cases same

/-- Only `cancelRun` cancels a run. -/
theorem Moves.cancelled (law : LeaseLaw run.status tasks)
    {after : List SetupTask} (cancelled : (finish after run).status = .cancelled) :
    chosen = (fun task : SetupTask => decide (task.status ≠ .ready)) ∧ change = SetupTask.cancel := by
  have open_ := moves.uncancelled law
  cases moves with
  | cancels => exact ⟨rfl, rfl⟩
  | leases => exact absurd cancelled open_
  | completes =>
    unfold SetupRun.complete at cancelled
    split at cancelled
    · cases cancelled
    · exact absurd cancelled open_
  | verifies | requeues =>
    unfold SetupRun.reconcile at cancelled
    split at cancelled
    · cases cancelled
    · split at cancelled <;> cases cancelled
  | _ => cases cancelled

end

theorem leaseLaw (host : SetupHost) (allowed : Store → Request → Prop) : TaskLaw host allowed LeaseLaw where
  superseded := fun _ _ law _ _ => ⟨law.leased, fun same => by cases same⟩
  started := by
    intro plan effective uuid built
    refine ⟨?_, fun same => by cases same⟩
    intro task member leased
    obtain ⟨action, _, rfl⟩ := List.mem_map.mp member
    cases leased
  moved := by
    intro store request run chosen change finish _ _ distinct moves law
    constructor
    · intro task member leased
      obtain ⟨before, old, ⟨picked, rfl⟩ | ⟨-, rfl⟩⟩ := mem_changed member
      · rcases moves.leases_law distinct law old picked with none_ | working
        · rw [none_] at leased
          cases leased
        · exact working
      · exact law.leased task old leased
    · intro cancelled task member
      obtain ⟨rfl, rfl⟩ := moves.cancelled law cancelled
      obtain ⟨before, old, ⟨-, rfl⟩ | ⟨kept, rfl⟩⟩ := mem_changed member
      · rfl
      · have ready : task.status = .ready := by simpa using kept
        apply SetupTask.unleased (law.leased task old)
        simp [SetupTask.leased, ready]

structure Finished (since : SetupExecutionState) (runId : Uuid) (state : SetupExecutionState) : Prop where
  runs : ∀ run ∈ state.runs, run.id = runId → run.finished = true
  tasks : ∀ task ∈ tasksOf state.tasks runId,
    ∃ before ∈ tasksOf since.tasks runId, before.id = task.id ∧ before.attempt = task.attempt

theorem finished_status {first second : SetupRun} (same : first.status = second.status) :
    first.finished = second.finished := by
  unfold SetupRun.finished
  rw [same]

theorem Moves.finished (moves : Moves run (tasksOf store.state.tasks run.id) request chosen change finish)
    (law : LeaseLaw run.status (tasksOf store.state.tasks run.id)) (may : store.unfailed request)
    (member : run ∈ store.state.runs) (finished : run.finished = true) :
    change = SetupTask.cancel ∧ ∀ after, (finish after run).finished = true := by
  have superseded : run.status = .superseded := by
    simp only [SetupRun.finished, Bool.or_eq_true, decide_eq_true_eq] at finished
    exact finished.resolve_right (moves.uncancelled law)
  cases moves with
  | cancels => exact ⟨rfl, fun _ => rfl⟩
  | completes inside going =>
    rw [superseded] at going
    rcases going with same | same <;> cases same
  | fails inside held =>
    rw [may ⟨run, member, rfl, superseded⟩ _ inside rfl] at held
    cases held
  | expires same | leases same | pauses same | resumes same | retries same | revalidates same | verifies _ same
  | requeues _ same =>
    rw [superseded] at same
    cases same

section
variable (before : Finished since runId store.state) (drawn : runId < store.drawn)
  (lawful : Lawful LeaseLaw store.state) (may : store.unfailed request)

include before drawn lawful may

theorem Finished.wrote (wrote : Wrote host store.drawn store.state request next) : Finished since runId next := by
  cases wrote with
  | drafted draft =>
    refine ⟨?_, before.tasks⟩
    intro run member own
    obtain ⟨old, inside, rfl⟩ := List.mem_map.mp member
    unfold supersede at own ⊢
    split
    · rfl
    · next closed =>
      rw [if_neg closed] at own
      exact before.runs old inside own
  | planned plan effective built => exact ⟨before.runs, before.tasks⟩
  | started plan planned idle =>
    have apart : runId ≠ store.drawn := Nat.ne_of_lt drawn
    constructor
    · intro run member own
      rcases List.mem_append.mp member with old | new
      · exact before.runs run old own
      · rw [List.mem_singleton.mp new] at own
        exact absurd own.symm apart
    · unfold tasksOf
      rw [List.filter_append]
      have none_ := tasksOf_old host plan apart
      unfold tasksOf at none_
      rw [none_, List.append_nil]
      exact before.tasks
  | moved member moves settled =>
    next run chosen change finish =>
    by_cases own : run.id = runId
    · subst own
      obtain ⟨cancels, stays⟩ := moves.finished (lawful run member) may member (before.runs run member rfl)
      constructor
      · intro other inside same
        rcases settled.run_cases moves.finishes inside moves.same_task with ⟨apart, -⟩ | ⟨-, status⟩
        · exact absurd same apart
        · rw [finished_status status]
          exact stays _
      · rw [settled.tasksOf_run moves.same_task]
        intro task inside
        obtain ⟨old, known, ⟨-, rfl⟩ | ⟨-, rfl⟩⟩ := mem_changed inside
        · rw [cancels]
          exact before.tasks old known
        · exact before.tasks task known
    · constructor
      · intro other inside same
        rcases settled.run_cases moves.finishes inside moves.same_task with ⟨-, old⟩ | ⟨mine, -⟩
        · exact before.runs other old same
        · exact absurd (mine.symm.trans same) own
      · rw [settled.tasksOf_other moves.same_task (Ne.symm own)]
        exact before.tasks

theorem Finished.step : Finished since runId (store.step host request).state := by
  refine step_state before (fun _ _ => ⟨before.runs, before.tasks⟩) fun next revision wrote _ => ?_
  have written := before.wrote drawn lawful may wrote
  refine ⟨fun run member => written.runs run (compact_shrinks.runs member), ?_⟩
  intro task member
  apply written.tasks
  have own := List.mem_filter.mp member
  exact List.mem_filter.mpr ⟨compact_shrinks.tasks own.1, own.2⟩

end

theorem Finished.through (reached : Reached Store.created Store.unfailed (Store.step host) store)
    (before : Finished since runId store.state) (drawn : runId < store.drawn) {requests : List Request}
    (may : AllowedRun Store.unfailed (Store.step host) store requests) :
    Finished since runId (requests.foldl (Store.step host) store).state := by
  induction requests generalizing store with
  | nil => exact before
  | cons request rest ih =>
    have lawful := (leaseLaw host Store.unfailed).reached reached
    apply ih (.step reached may.1) (before.step drawn lawful may.1) _ may.2
    rw [(step_stored host store request).2]
    exact Nat.lt_succ_of_lt drawn

/-- Once a run is superseded or cancelled, it stays so, and no task of it is leased, in every run
of requests that report no failure of a superseded run's task. -/
theorem finished_run_stays (reached : Reached Store.created Store.unfailed (Store.step host) store)
    (member : run ∈ store.state.runs) (finished : run.finished = true) {requests : List Request}
    (may : AllowedRun Store.unfailed (Store.step host) store requests) :
    Finished store.state run.id (requests.foldl (Store.step host) store).state := by
  have sound := reached_sound reached
  have here : Finished store.state run.id store.state := by
    refine ⟨?_, fun task inside => ⟨task, inside, rfl, rfl⟩⟩
    intro other inside same
    rwa [same_run sound.runIds inside member same]
  exact here.through reached (sound.runs run member) may

end

namespace Sample

def superseded : List Request := started ++ [lease 2, .updateDraft (some 0) choices 0]

def replaced : List Request := [
  .cancelRun 2 0, lease 2, .createPlan 1 (fun _ => some .available) [] 0,
  .startRun 7 (String.ofList (List.replicate 63 'a' ++ ['1'])) "start:second" 0]

def revived : List Request := [fail (rooms 2), .retryFailedTasks 2 [rooms 2] 4 0, lease 2]

end Sample

theorem finished_run_stays_replaced :
    ((Sample.replaced.foldl (Store.step Sample.host) (Sample.run Sample.superseded)).state.runs.map (·.status)) =
        [.cancelled, .running] ∧
      ∃ run ∈ (Sample.run Sample.superseded).state.runs, run.finished = true ∧
        Finished (Sample.run Sample.superseded).state run.id
          (Sample.replaced.foldl (Store.step Sample.host) (Sample.run Sample.superseded)).state := by
  obtain ⟨run, member, finished⟩ : ∃ run ∈ (Sample.run Sample.superseded).state.runs, run.finished = true := by
    decide +kernel
  exact ⟨by decide +kernel, run, member, finished,
    finished_run_stays (Reached.run (.start rfl) (by decide +kernel)) member finished (by decide +kernel)⟩

theorem superseded_run_revived :
    Reached Store.created (fun _ _ => True) (Store.step Sample.host) (Sample.run Sample.superseded) ∧
      ((Sample.run Sample.superseded).state.runs.map fun run => (run.id, run.status)) = [(2, .superseded)] ∧
      ((Sample.run (Sample.superseded ++ Sample.revived)).state.runs.map fun run => (run.id, run.status)) = [(2, .running)] :=
  ⟨sample_reached Sample.superseded, by decide +kernel, by decide +kernel⟩

/-- A cancelled run is what it was, and no task was added to it or changed. -/
structure Cancelled (since : SetupExecutionState) (runId : Uuid) (state : SetupExecutionState) : Prop where
  runs : ∀ run ∈ state.runs, run.id = runId → run ∈ since.runs ∧ run.status = .cancelled
  tasks : ∀ task ∈ tasksOf state.tasks runId, task ∈ tasksOf since.tasks runId

section

variable {host : SetupHost} {store : Store} {request : Request} {since next : SetupExecutionState} {run : SetupRun} {runId : Uuid}

theorem Cancelled.wrote (before : Cancelled since runId store.state) (drawn : runId < store.drawn)
    (lawful : Lawful LeaseLaw store.state) (wrote : Wrote host store.drawn store.state request next) :
    Cancelled since runId next := by
  cases wrote with
  | drafted draft =>
    refine ⟨?_, before.tasks⟩
    intro run member own
    obtain ⟨old, inside, rfl⟩ := List.mem_map.mp member
    unfold supersede at own ⊢
    split
    · next open_ =>
      rw [if_pos open_] at own
      exact absurd (before.runs old inside own).2 open_.1
    · next closed =>
      rw [if_neg closed] at own
      exact before.runs old inside own
  | planned plan effective built => exact ⟨before.runs, before.tasks⟩
  | started plan planned idle =>
    have apart : runId ≠ store.drawn := Nat.ne_of_lt drawn
    constructor
    · intro run member own
      rcases List.mem_append.mp member with old | new
      · exact before.runs run old own
      · rw [List.mem_singleton.mp new] at own
        exact absurd own.symm apart
    · have none_ := tasksOf_old host plan apart
      unfold tasksOf at none_ ⊢
      rw [List.filter_append, none_, List.append_nil]
      exact before.tasks
  | moved member moves settled =>
    next run chosen change finish =>
    have apart : runId ≠ run.id := fun own => moves.uncancelled (lawful run member) (before.runs run member own.symm).2
    constructor
    · intro other inside own
      rcases settled.run_cases moves.finishes inside moves.same_task with ⟨-, old⟩ | ⟨mine, -⟩
      · exact before.runs other old own
      · exact absurd (own.symm.trans mine) apart
    · rw [settled.tasksOf_other moves.same_task apart]
      exact before.tasks

theorem Cancelled.step (before : Cancelled since runId store.state) (drawn : runId < store.drawn)
    (lawful : Lawful LeaseLaw store.state) : Cancelled since runId (store.step host request).state := by
  refine step_state before (fun _ _ => ⟨before.runs, before.tasks⟩) fun next revision wrote _ => ?_
  have written := before.wrote drawn lawful wrote
  refine ⟨fun run member => written.runs run (compact_shrinks.runs member), fun task member => written.tasks task ?_⟩
  have own := List.mem_filter.mp member
  exact List.mem_filter.mpr ⟨compact_shrinks.tasks own.1, own.2⟩

/-- Whatever is asked for, a cancelled run stays as it is, and none of its tasks is leased again. -/
theorem cancelled_run_stays (reached : Reached Store.created (fun _ _ => True) (Store.step host) store)
    (member : run ∈ store.state.runs) (cancelled : run.status = .cancelled) (requests : List Request) :
    Cancelled store.state run.id (requests.foldl (Store.step host) store).state ∧
      ∀ task ∈ tasksOf (requests.foldl (Store.step host) store).state.tasks run.id, task.leaseOwner = none := by
  have sound := reached_sound reached
  have through (later : Store) (after : Reached Store.created (fun _ _ => True) (Store.step host) later)
      (before : Cancelled store.state run.id later.state) (drawn : run.id < later.drawn) :
      Cancelled store.state run.id (requests.foldl (Store.step host) later).state := by
    induction requests generalizing later with
    | nil => exact before
    | cons request rest ih =>
      refine ih _ (.step after trivial) (before.step drawn ((leaseLaw host _).reached after)) ?_
      rw [(step_stored host later request).2]
      exact Nat.lt_succ_of_lt drawn
  have stays := through store reached ⟨fun other inside same => ?_, fun _ inside => inside⟩ (sound.runs run member)
  · exact ⟨stays, fun task inside => ((leaseLaw host _).reached reached run member).cancelled cancelled task (stays.tasks task inside)⟩
  · rw [same_run sound.runIds inside member same]
    exact ⟨member, cancelled⟩

end

theorem cancelled_run_stays_asked : ∃ run ∈ (Sample.run (Sample.started ++ [.cancelRun 2 0])).state.runs,
    Cancelled (Sample.run (Sample.started ++ [.cancelRun 2 0])).state run.id
      (Sample.revived.foldl (Store.step Sample.host) (Sample.run (Sample.started ++ [.cancelRun 2 0]))).state := by
  obtain ⟨run, member, cancelled⟩ : ∃ run ∈ (Sample.run (Sample.started ++ [.cancelRun 2 0])).state.runs,
      run.status = .cancelled := by decide +kernel
  exact ⟨run, member, (cancelled_run_stays (sample_reached _) member cancelled Sample.revived).1⟩

end SpaceApp.Setup
