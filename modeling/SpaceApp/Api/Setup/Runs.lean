import SpaceApp.Api.Setup.Requests

/-! What holds of every stored document, and a rule for what holds of each of its runs. -/

set_option autoImplicit false

namespace SpaceApp.Setup

open SpaceApp.Foundation

section

variable {host : SetupHost} {store : Store} {request : Request} {state next : SetupExecutionState} {run other : SetupRun}
  {chosen : SetupTask → Bool} {change : SetupTask → SetupTask} {finish : List SetupTask → SetupRun → SetupRun}
  {tasks : List SetupTask}

structure SameTask (task changed : SetupTask) : Prop where
  id : changed.id = task.id
  runId : changed.runId = task.runId
  dependsOn : changed.dependsOn = task.dependsOn

theorem Moves.same_task (moves : Moves run tasks request chosen change finish) (task : SetupTask) :
    SameTask task (change task) := by
  cases moves <;> exact ⟨rfl, rfl, rfl⟩

structure Finishes (finish : List SetupTask → SetupRun → SetupRun) : Prop where
  id : ∀ tasks run, (finish tasks run).id = run.id
  eventSequence : ∀ tasks run, (finish tasks run).eventSequence = run.eventSequence
  status : ∀ tasks run count, (finish tasks { run with eventSequence := count }).status = (finish tasks run).status

theorem finishes_complete (now : ℤ) : Finishes (SetupRun.complete now) := by
  constructor
  all_goals
    intros
    unfold SetupRun.complete
    split <;> rfl

theorem finishes_reconcile (now : ℤ) : Finishes (SetupRun.reconcile now) := by
  constructor
  all_goals
    intros
    unfold SetupRun.reconcile
    split
    · rfl
    · split <;> rfl

theorem Moves.finishes (moves : Moves run tasks request chosen change finish) : Finishes finish := by
  cases moves with
  | completes => exact finishes_complete _
  | verifies => exact finishes_reconcile _
  | requeues => exact finishes_reconcile _
  | _ => exact ⟨fun _ _ => rfl, fun _ _ => rfl, fun _ _ _ => rfl⟩

def changed (chosen : SetupTask → Bool) (change : SetupTask → SetupTask) (tasks : List SetupTask) : List SetupTask :=
  tasks.map fun task => if chosen task then change task else task

section

variable (same : ∀ task, SameTask task (change task))

include same

theorem changed_ids : (changed chosen change tasks).map (·.id) = tasks.map (·.id) := by
  unfold changed
  rw [List.map_map]
  apply List.map_congr_left
  intro task _
  dsimp only [Function.comp]
  split
  · exact (same task).id
  · rfl

theorem tasksOf_changed (runId : Uuid) :
    tasksOf (tasks.map fun task => if task.runId = runId && chosen task then change task else task) runId =
      changed chosen change (tasksOf tasks runId) := by
  induction tasks with
  | nil => rfl
  | cons task rest ih =>
    unfold tasksOf changed at ih ⊢
    rw [List.map_cons, List.filter_cons, List.filter_cons, ih]
    by_cases own : task.runId = runId
    · by_cases picked : chosen task = true
      · simp [own, picked, (same task).runId]
      · simp [own, picked]
    · simp [own]

theorem tasksOf_others {runId otherId : Uuid} (apart : otherId ≠ runId) :
    tasksOf (tasks.map fun task => if task.runId = runId && chosen task then change task else task) otherId =
      tasksOf tasks otherId := by
  induction tasks with
  | nil => rfl
  | cons task rest ih =>
    unfold tasksOf at ih ⊢
    rw [List.map_cons, List.filter_cons, List.filter_cons, ih]
    by_cases own : task.runId = runId
    · have away : ¬ runId = otherId := fun same => apart same.symm
      by_cases picked : chosen task = true
      · simp [own, picked, (same task).runId, away]
      · simp [own, picked]
    · simp [own]

end

theorem events_run (now : ℤ) (tasks : List SetupTask) (noted : Noted) :
    (tasks.foldl (event now) noted).run = { noted.run with eventSequence := noted.run.eventSequence + tasks.length } := by
  induction tasks generalizing noted with
  | nil => rfl
  | cons task rest ih =>
    rw [List.foldl_cons, ih]
    simp only [event, List.length_cons, SetupRun.mk.injEq, true_and, and_true]
    omega

section
variable (settled : Settled state run chosen change finish next)

include settled

theorem Settled.run_cases (finishes : Finishes finish) (after : other ∈ next.runs)
    (same : ∀ task, SameTask task (change task)) : (other.id ≠ run.id ∧ other ∈ state.runs) ∨
      (other.id = run.id ∧
        other.status = (finish (changed chosen change (tasksOf state.tasks run.id)) run).status) := by
  obtain ⟨now, receipts, settings, memory⟩ := settled
  simp only [SetupExecutionState.settle, List.mem_map] at after
  obtain ⟨item, member, rfl⟩ := after
  by_cases own : item.id = run.id
  · right
    rw [if_pos own, events_run]
    refine ⟨finishes.id _ _, ?_⟩
    rw [finishes.status]
    unfold tasksOf at *
    rw [show (List.filter (fun task => decide (task.runId = run.id)) (List.map (fun task =>
      if (decide (task.runId = run.id) && chosen task) = true then change task else task) state.tasks)) = _ from
      tasksOf_changed same run.id]
    rfl
  · left
    rw [if_neg own]
    exact ⟨own, member⟩

theorem Settled.tasksOf_run (same : ∀ task, SameTask task (change task)) :
    tasksOf next.tasks run.id = changed chosen change (tasksOf state.tasks run.id) := by
  obtain ⟨now, receipts, settings, memory⟩ := settled
  exact tasksOf_changed same run.id

theorem Settled.tasksOf_other (same : ∀ task, SameTask task (change task)) {otherId : Uuid} (apart : otherId ≠ run.id) :
    tasksOf next.tasks otherId = tasksOf state.tasks otherId := by
  obtain ⟨now, receipts, settings, memory⟩ := settled
  exact tasksOf_others same apart

end

structure Shrinks (state after : SetupExecutionState) : Prop where
  runs : after.runs ⊆ state.runs
  tasks : after.tasks ⊆ state.tasks
  plans : after.plans ⊆ state.plans
  events : after.events ⊆ state.events

theorem compact_shrinks : Shrinks state (compactSetupHistory state) := by
  unfold compactSetupHistory
  split
  · exact ⟨fun _ => id, fun _ => id, fun _ => id, fun _ => id⟩
  · exact ⟨List.filter_subset_self _, List.filter_subset_self _, List.filter_subset_self _, List.filter_subset_self _⟩

theorem filter_kept {Item : Type} (runOf : Item → Uuid) (items : List Item) (kept : run.id ∈ keepRuns state) :
    ((items.filter fun item => runOf item ∈ keepRuns state).filter fun item => runOf item = run.id) =
      items.filter fun item => runOf item = run.id := by
  rw [List.filter_filter]
  apply List.filter_congr
  intro item _
  by_cases own : runOf item = run.id
  · simp [own, kept]
  · simp [own]

theorem compact_tasksOf (member : run ∈ (compactSetupHistory state).runs) :
    tasksOf (compactSetupHistory state).tasks run.id = tasksOf state.tasks run.id := by
  unfold compactSetupHistory at member ⊢
  split
  · rfl
  · next long =>
    rw [if_neg long] at member
    exact filter_kept (·.runId) state.tasks (by simpa using (List.mem_filter.mp member).2)

theorem compact_eventsOf (member : run ∈ (compactSetupHistory state).runs) :
    ((compactSetupHistory state).events.filter fun event => event.runId = run.id) =
      state.events.filter fun event => event.runId = run.id := by
  unfold compactSetupHistory at member ⊢
  split
  · rfl
  · next long =>
    rw [if_neg long] at member
    exact filter_kept (·.runId) state.events (by simpa using (List.mem_filter.mp member).2)

/-- The stored document after a request. -/
inductive Stored (host : SetupHost) (store : Store) (request : Request) : Option SetupExecutionState → Prop where
  | kept : Stored host store request store.stored
  | completed {state : SetupExecutionState} (same : store.stored = some state) (revision : Nat)
      (completion : Option SetupCompletion) : Stored host store request (some { state with revision, completion })
  | wrote {next : SetupExecutionState} (wrote : Wrote host store.drawn store.state request next) (revision : Nat)
      (valid : setupExecutionStateSchema { compactSetupHistory next with revision } = true) :
      Stored host store request (some { compactSetupHistory next with revision })

theorem mutate_stored {result : Unit × Option SetupExecutionState}
    (done : mutate store.stored (fun state => changeOf host store.drawn state request) = .ok result) :
    Stored host store request result.2 := by
  unfold mutate at done
  simp only [bind_ok] at done
  obtain ⟨change, changed, done⟩ := done
  split at done
  · cases done
    exact .kept
  · next next wrote =>
    simp only [bind_ok, parse_ok] at done
    obtain ⟨stored, ⟨valid, rfl⟩, done⟩ := done
    cases done
    exact .wrote (changeOf_wrote changed wrote) _ valid

theorem step_stored (host : SetupHost) (store : Store) (request : Request) :
    Stored host store request (store.step host request).stored ∧ (store.step host request).drawn = store.drawn + 1 := by
  unfold Store.step
  split
  · next stored done =>
    refine ⟨?_, rfl⟩
    unfold Store.answer at done
    split at done
    · simp only [map_ok] at done
      obtain ⟨state, done, rfl⟩ := done
      unfold completeSetupExecution at done
      split at done
      · cases done
      · next before same =>
        simp only [bind_ok, parse_ok] at done
        obtain ⟨completion, -, -, rfl⟩ := done
        exact .completed same _ _
    · simp only [map_ok] at done
      obtain ⟨result, done, rfl⟩ := done
      exact mutate_stored done
  · exact ⟨.kept, rfl⟩

/-- The state stays, is completed, or is a written one without its old history. -/
theorem step_state {holds : SetupExecutionState → Prop} (before : holds store.state)
    (completed : ∀ revision completion, holds { store.state with revision, completion })
    (wrote : ∀ next revision, Wrote host store.drawn store.state request next →
      setupExecutionStateSchema { compactSetupHistory next with revision } = true →
      holds { compactSetupHistory next with revision }) : holds (store.step host request).state := by
  obtain ⟨stored, -⟩ := step_stored host store request
  unfold Store.state
  generalize (store.step host request).stored = after at stored
  cases stored with
  | kept => exact before
  | completed same revision completion =>
    unfold Store.state at completed
    rw [same] at completed
    exact completed revision completion
  | wrote next revision valid => exact wrote _ revision next valid

structure Sound (drawn : Nat) (state : SetupExecutionState) : Prop where
  runIds : (state.runs.map (·.id)).Nodup
  taskIds : (state.tasks.map (·.id)).Nodup
  runs : ∀ run ∈ state.runs, run.id < drawn
  tasks : ∀ task ∈ state.tasks, task.runId < drawn
  events : ∀ event ∈ state.events, event.runId < drawn
  plans : ∀ plan ∈ state.plans, ∃ effective, plan.actions = buildActions effective

theorem empty_sound (drawn : Nat) : Sound drawn emptyState := by
  constructor
  · exact List.nodup_nil
  · exact List.nodup_nil
  all_goals
    intro item member
    cases member

theorem Sound.later {drawn : Nat} (sound : Sound drawn state) : Sound (drawn + 1) state where
  __ := sound
  runs := fun run member => Nat.lt_succ_of_lt (sound.runs run member)
  tasks := fun task member => Nat.lt_succ_of_lt (sound.tasks task member)
  events := fun event member => Nat.lt_succ_of_lt (sound.events event member)

theorem schema_ids (valid : setupExecutionStateSchema state = true) :
    (state.runs.map (·.id)).Nodup ∧ (state.tasks.map (·.id)).Nodup := by
  simp only [setupExecutionStateSchema, Bool.and_eq_true, decide_eq_true_eq] at valid
  exact ⟨valid.1.1.1.1.2, valid.1.1.2⟩

theorem mem_lastOf {Item : Type} {count : Nat} {items : List Item} {item : Item} (member : item ∈ lastOf count items) :
    item ∈ items := List.mem_of_mem_drop member

theorem events_member (now : ℤ) (tasks : List SetupTask) (noted : Noted) {event_ : SetupExecutionEvent}
    (member : event_ ∈ (tasks.foldl (event now) noted).events) : event_ ∈ noted.events ∨ event_.runId = noted.run.id := by
  induction tasks generalizing noted with
  | nil => exact .inl member
  | cons task rest ih =>
    rcases ih _ member with before | own
    · simp only [event] at before
      rcases List.mem_append.mp (mem_lastOf before) with old | new
      · exact .inl old
      · rw [List.mem_singleton.mp new]
        exact .inr rfl
    · exact .inr own

/-- What a request writes of the ids, the history not cut yet. -/
structure Drawn (drawn : Nat) (state : SetupExecutionState) : Prop where
  runs : ∀ run ∈ state.runs, run.id < drawn
  tasks : ∀ task ∈ state.tasks, task.runId < drawn
  events : ∀ event ∈ state.events, event.runId < drawn
  plans : ∀ plan ∈ state.plans, ∃ effective, plan.actions = buildActions effective

theorem Sound.settled {drawn : Nat} (sound : Sound drawn state) (member : run ∈ state.runs)
    (moves : Moves run (tasksOf state.tasks run.id) request chosen change finish)
    (settled : Settled state run chosen change finish next) : Drawn drawn next := by
  have own := sound.runs run member
  constructor
  · intro after inside
    rcases settled.run_cases moves.finishes inside moves.same_task with ⟨-, before⟩ | ⟨same, -⟩
    · exact sound.runs after before
    · rw [same]
      exact own
  · intro task inside
    obtain ⟨now, receipts, settings, memory⟩ := settled
    obtain ⟨before, old, rfl⟩ := List.mem_map.mp inside
    split
    · rw [(moves.same_task before).runId]
      exact sound.tasks before old
    · exact sound.tasks before old
  · intro event inside
    obtain ⟨now, receipts, settings, memory⟩ := settled
    rcases events_member now _ _ inside with old | same
    · exact sound.events event old
    · rw [same]
      exact own
  · obtain ⟨now, receipts, settings, memory⟩ := settled
    exact sound.plans

theorem Sound.written {drawn : Nat} (sound : Sound drawn state) (wrote : Wrote host drawn state request next) :
    Drawn (drawn + 1) next := by
  have later := sound.later
  cases wrote with
  | drafted draft =>
    refine { later with runs := ?_ }
    intro run member
    obtain ⟨before, old, rfl⟩ := List.mem_map.mp member
    unfold supersede
    split
    · exact later.runs before old
    · exact later.runs before old
  | planned plan effective built =>
    refine { later with plans := ?_ }
    intro other member
    rcases List.mem_append.mp member with old | new
    · exact later.plans other old
    · rw [List.mem_singleton.mp new]
      exact ⟨effective, built⟩
  | started plan planned idle =>
    refine { later with runs := ?_, tasks := ?_ }
    · intro run member
      rcases List.mem_append.mp member with old | new
      · exact later.runs run old
      · rw [List.mem_singleton.mp new]
        exact Nat.lt_succ_self drawn
    · intro task member
      rcases List.mem_append.mp member with old | new
      · exact later.tasks task old
      · obtain ⟨action, _, rfl⟩ := List.mem_map.mp new
        exact Nat.lt_succ_self drawn
  | moved member moves settled =>
    have drawn_ := sound.settled member moves settled
    exact ⟨fun run inside => Nat.lt_succ_of_lt (drawn_.runs run inside),
      fun task inside => Nat.lt_succ_of_lt (drawn_.tasks task inside),
      fun event inside => Nat.lt_succ_of_lt (drawn_.events event inside), drawn_.plans⟩

theorem Drawn.sound {drawn revision : Nat} (drawn_ : Drawn drawn next)
    (valid : setupExecutionStateSchema { compactSetupHistory next with revision } = true) :
    Sound drawn { compactSetupHistory next with revision } where
  runIds := (schema_ids valid).1
  taskIds := (schema_ids valid).2
  runs := fun run member => drawn_.runs run (compact_shrinks.runs member)
  tasks := fun task member => drawn_.tasks task (compact_shrinks.tasks member)
  events := fun event member => drawn_.events event (compact_shrinks.events member)
  plans := fun plan member => drawn_.plans plan (compact_shrinks.plans member)

theorem Sound.step (sound : Sound store.drawn store.state) (request : Request) :
    Sound (store.step host request).drawn (store.step host request).state := by
  rw [(step_stored host store request).2]
  exact step_state sound.later (fun _ _ => { sound.later with }) fun _ _ wrote valid => (sound.written wrote).sound valid

/-- A law of a run's status and tasks that each request keeps. -/
structure TaskLaw (host : SetupHost) (allowed : Store → Request → Prop) (law : SetupRunStatus → List SetupTask → Prop) :
    Prop where
  superseded : ∀ status tasks, law status tasks → status ≠ .cancelled → status ≠ .ready → law .superseded tasks
  started : ∀ (plan : SetupPlan) effective uuid, plan.actions = buildActions effective →
    law .running (plan.tasks host uuid)
  moved : ∀ (store : Store) request run chosen change finish, allowed store request → run ∈ store.state.runs →
    ((tasksOf store.state.tasks run.id).map (·.id)).Nodup →
    Moves run (tasksOf store.state.tasks run.id) request chosen change finish →
    law run.status (tasksOf store.state.tasks run.id) →
      law (finish (changed chosen change (tasksOf store.state.tasks run.id)) run).status
        (changed chosen change (tasksOf store.state.tasks run.id))

def Lawful (law : SetupRunStatus → List SetupTask → Prop) (state : SetupExecutionState) : Prop :=
  ∀ run ∈ state.runs, law run.status (tasksOf state.tasks run.id)

variable {allowed : Store → Request → Prop} {law : SetupRunStatus → List SetupTask → Prop}

theorem tasksOf_nodup (distinct : (state.tasks.map (·.id)).Nodup) (runId : Uuid) :
    ((tasksOf state.tasks runId).map (·.id)).Nodup :=
  distinct.sublist (List.filter_sublist.map _)

theorem tasksOf_none {drawn : Nat} (sound : Sound drawn state) : tasksOf state.tasks drawn = [] := by
  unfold tasksOf
  rw [List.filter_eq_nil_iff]
  intro task member same
  simp only [decide_eq_true_eq] at same
  exact Nat.ne_of_lt (sound.tasks task member) same

theorem tasksOf_new (host : SetupHost) (plan : SetupPlan) (uuid : Uuid) :
    tasksOf (plan.tasks host uuid) uuid = plan.tasks host uuid := by
  unfold tasksOf
  rw [List.filter_eq_self]
  intro task member
  obtain ⟨action, _, rfl⟩ := List.mem_map.mp member
  simp

theorem tasksOf_old (host : SetupHost) (plan : SetupPlan) {uuid runId : Uuid} (apart : runId ≠ uuid) :
    tasksOf (plan.tasks host uuid) runId = [] := by
  unfold tasksOf
  rw [List.filter_eq_nil_iff]
  intro task member
  obtain ⟨action, _, rfl⟩ := List.mem_map.mp member
  simpa using apart.symm

section
variable (holds : TaskLaw host allowed law) (sound : Sound store.drawn store.state) (lawful : Lawful law store.state)
  (may : allowed store request)

include holds sound lawful may

theorem TaskLaw.written (wrote : Wrote host store.drawn store.state request next) : Lawful law next := by
  cases wrote with
  | drafted draft =>
    intro run member
    obtain ⟨before, old, rfl⟩ := List.mem_map.mp member
    have known := lawful before old
    unfold supersede
    split
    · next open_ => exact holds.superseded _ _ known open_.1 open_.2.2
    · exact known
  | planned plan effective built => exact lawful
  | started plan planned idle =>
    intro run member
    unfold tasksOf
    rw [List.filter_append]
    rcases List.mem_append.mp member with old | new
    · have apart : run.id ≠ store.drawn := Nat.ne_of_lt (sound.runs run old)
      have none_ := tasksOf_old host plan apart
      unfold tasksOf at none_
      rw [none_, List.append_nil]
      exact lawful run old
    · rw [List.mem_singleton.mp new]
      obtain ⟨effective, built⟩ := sound.plans plan planned
      have none_ := tasksOf_none sound
      have own := tasksOf_new host plan store.drawn
      unfold tasksOf at none_ own
      show law .running (List.filter (fun task => decide (task.runId = store.drawn)) _ ++
        List.filter (fun task => decide (task.runId = store.drawn)) _)
      rw [none_, own]
      exact holds.started plan effective store.drawn built
  | moved member moves settled =>
    intro after inside
    rcases settled.run_cases moves.finishes inside moves.same_task with ⟨apart, before⟩ | ⟨same, status⟩
    · rw [settled.tasksOf_other moves.same_task apart]
      exact lawful after before
    · rw [status, same, settled.tasksOf_run moves.same_task]
      exact holds.moved store request _ _ _ _ may member (tasksOf_nodup sound.taskIds _) moves (lawful _ member)

theorem TaskLaw.step : Lawful law (store.step host request).state := by
  refine step_state lawful (fun _ _ => lawful) fun next revision wrote _ run member => ?_
  have written := holds.written sound lawful may wrote run (compact_shrinks.runs member)
  rwa [← compact_tasksOf member] at written

end

theorem reached_sound (reached : Reached Store.created allowed (Store.step host) store) : Sound store.drawn store.state := by
  apply reached.invariant
  · rintro state rfl
    exact empty_sound 0
  · intro state request sound _
    exact sound.step request

theorem TaskLaw.reached (holds : TaskLaw host allowed law)
    (reached : Reached Store.created allowed (Store.step host) store) : Lawful law store.state := by
  have both : Sound store.drawn store.state ∧ Lawful law store.state := by
    apply reached.invariant
    · rintro state rfl
      refine ⟨empty_sound 0, ?_⟩
      intro run member
      cases member
    · rintro state request ⟨sound, lawful⟩ may
      exact ⟨sound.step request, holds.step sound lawful may⟩
  exact both.2

end

namespace Sample

def host : SetupHost where
  hash
    | .plan draft _ _ _ _ _ => String.ofList (List.replicate 63 'a' ++ [Char.ofNat (48 + draft.revision)])
    | _ => String.ofList (List.replicate 64 'b')
  notAfter := fun _ _ => true

def choices : DraftChoices where
  persona := .everyday
  level := .minimal
  requestedFeatureIds := [⟨.dock, "rooms"⟩, ⟨.dock, "tasks"⟩]
  connectionChoices := []

def digest : String := String.ofList (List.replicate 63 'a' ++ ['0'])
def worker : String := "worker:one"
def rooms (runId : Uuid) : SetupTaskId := ⟨runId, ⟨⟨.dock, "rooms"⟩, .checkService⟩⟩
def tasks (runId : Uuid) : SetupTaskId := ⟨runId, ⟨⟨.dock, "tasks"⟩, .checkService⟩⟩

def started : List Request := [
  .updateDraft none choices 0,
  .createPlan 0 (fun _ => some .available) [] 0,
  .startRun 1 digest "start:first" 0]

def lease (runId : Uuid) : Request := .leaseNextTask runId worker 60000 0
def fail (taskId : SetupTaskId) : Request := .failTask taskId.run taskId worker "CHECK_FAILED" 0 0

def run (requests : List Request) : Store := requests.foldl (Store.step host) {}

end Sample

theorem sample_reached (requests : List Request) :
    Reached Store.created (fun _ _ => True) (Store.step Sample.host) (Sample.run requests) := by
  have begins : Reached Store.created (fun _ _ => True) (Store.step Sample.host) {} := .start rfl
  apply begins.run
  generalize ({} : Store) = store
  induction requests generalizing store with
  | nil => trivial
  | cons request rest ih => exact ⟨trivial, ih _⟩

end SpaceApp.Setup
