import Mathlib.Tactic.Common
import SpaceApp.Api.Setup.Coordinator

/-! What a request can write. -/

set_option autoImplicit false

namespace SpaceApp.Setup

section

variable {Value Result : Type}

@[simp] theorem bind_ok {first : Outcome Value} {next : Value → Outcome Result} {result : Result} :
    (first >>= next) = .ok result ↔ ∃ value, first = .ok value ∧ next value = .ok result := by
  cases first with
  | error failure =>
    constructor
    · intro same
      cases same
    · rintro ⟨_, same, _⟩
      cases same
  | ok value =>
    constructor
    · exact fun same => ⟨value, rfl, same⟩
    · rintro ⟨_, same, done⟩
      cases same
      exact done

@[simp] theorem map_ok {first : Outcome Value} {change : Value → Result} {result : Result} :
    first.map change = .ok result ↔ ∃ value, first = .ok value ∧ change value = result := by
  cases first with
  | error failure =>
    constructor
    · intro same
      cases same
    · rintro ⟨_, same, _⟩
      cases same
  | ok value =>
    constructor
    · intro same
      cases same
      exact ⟨value, rfl, rfl⟩
    · rintro ⟨_, same, rfl⟩
      cases same
      rfl

@[simp] theorem refuse_ok {condition : Prop} [Decidable condition] {code message : String} {done : Unit} :
    refuse condition code message = .ok done ↔ ¬ condition := by
  unfold refuse
  by_cases holds : condition
  · simp [holds]
  · simp [holds]

@[simp] theorem parse_ok {schema : Value → Bool} {value parsed : Value} :
    parse schema value = .ok parsed ↔ schema value = true ∧ value = parsed := by
  unfold parse
  by_cases valid : schema value = true
  · simp [valid]
  · simp [valid]

@[simp] theorem write_ok {value : Value} {next : SetupExecutionState} {change : Change Value} :
    Change.write value next = .ok change ↔ { value, next := some next } = change := by
  simp [Change.write]

@[simp] theorem keep_ok {value : Value} {change : Change Value} :
    Change.keep value = .ok change ↔ { value, next := none } = change := by
  simp [Change.keep]

end

theorem findRun_ok {state : SetupExecutionState} {runId : Uuid} {run : SetupRun} (found : findRun state runId = .ok run) :
    run ∈ state.runs ∧ run.id = runId := by
  unfold findRun at found
  split at found
  · next some_ =>
    cases found
    exact ⟨List.mem_of_find?_eq_some some_, by simpa using List.find?_some some_⟩
  · cases found

theorem findTask_ok {state : SetupExecutionState} {runId : Uuid} {taskId : SetupTaskId} {task : SetupTask}
    (found : findTask state runId taskId = .ok task) : task ∈ tasksOf state.tasks runId ∧ task.id = taskId := by
  unfold findTask at found
  split at found
  · next some_ =>
    cases found
    have here := List.find?_some some_
    simp only [decide_eq_true_eq] at here
    refine ⟨List.mem_filter.mpr ⟨List.mem_of_find?_eq_some some_, ?_⟩, here.1⟩
    simpa using here.2
  · cases found

/-- What a request does to a run with these tasks: the tasks it changes, how, and what becomes of
the run. -/
inductive Moves (run : SetupRun) (tasks : List SetupTask) :
    Request → (SetupTask → Bool) → (SetupTask → SetupTask) → (List SetupTask → SetupRun → SetupRun) → Prop where
  | expires {workerId : String} {durationMs now : ℤ} (running : run.status = .running)
      (overdue : tasks.any (·.overdue now) = true) :
      Moves run tasks (.leaseNextTask run.id workerId durationMs now) (·.overdue now) (·.expire) (SetupRun.moved .failed now)
  | leases {workerId : String} {durationMs now : ℤ} {task : SetupTask} (running : run.status = .running)
      (next : nextTask tasks = some task) :
      Moves run tasks (.leaseNextTask run.id workerId durationMs now) (fun item => item.id = task.id)
        (·.lease workerId (now + durationMs)) (SetupRun.progress now)
  | completes {workerId : String} {input : ReceiptInput} {checked now : ℤ} {task : SetupTask} (member : task ∈ tasks)
      (going : run.status = .running ∨ run.status = .paused) (held : task.heldBy workerId checked = true) :
      Moves run tasks (.completeTask run.id task.id workerId input checked now) (fun item => item.id = task.id)
        (·.complete input.evidenceRef) (SetupRun.complete now)
  | fails {workerId reasonCode : String} {checked now : ℤ} {task : SetupTask} (member : task ∈ tasks)
      (held : task.heldBy workerId checked = true) :
      Moves run tasks (.failTask run.id task.id workerId reasonCode checked now) (fun item => item.id = task.id)
        (·.fail reasonCode) (SetupRun.moved .failed now)
  | pauses {now : ℤ} (running : run.status = .running) :
      Moves run tasks (.pauseRun run.id now) (fun _ => false) id (SetupRun.moved .paused now)
  | resumes {now : ℤ} (paused : run.status = .paused) :
      Moves run tasks (.resumeRun run.id now) (fun _ => false) id (SetupRun.moved .running now)
  | cancels {now : ℤ} (unfinished : run.status ≠ .cancelled ∧ run.status ≠ .ready) :
      Moves run tasks (.cancelRun run.id now) (fun task => task.status ≠ .ready) (·.cancel) (SetupRun.cancel now)
  | retries {taskIds : List SetupTaskId} {expectedRunRevision : Nat} {now : ℤ} (failed : run.status = .failed)
      (some_ : taskIds ≠ []) (attention : ∀ id ∈ taskIds, ∃ task ∈ tasks, task.id = id ∧ task.status = .needsAttention)
      (current : run.revision = expectedRunRevision) :
      Moves run tasks (.retryFailedTasks run.id taskIds expectedRunRevision now)
        (fun task => task.id ∈ resetOf tasks (tasks.length + 1) taskIds.dedup) (·.retry) (SetupRun.restart now)
  | revalidates {taskIds : List SetupTaskId} {expectedRunRevision : Nat} {now : ℤ} (ready : run.status = .ready)
      (some_ : taskIds ≠ []) (listed : ∀ id ∈ taskIds, ∃ task ∈ tasks, task.id = id) :
      Moves run tasks (.revalidateStaleTasks run.id taskIds expectedRunRevision now) (fun task => task.id ∈ taskIds)
        (·.revalidate) (SetupRun.restart now)
  | verifies {input : ReceiptInput} {read : SetupExecutionState} {now : ℤ} {task : SetupTask} (member : task ∈ tasks)
      (failed : run.status = .failed) (expired : task.expired = true) :
      Moves run tasks (.reconcileExpiredTask run.id task.id (.verified input) read now) (fun item => item.id = task.id)
        (·.inspected .ready input.evidenceRef) (SetupRun.reconcile now)
  | requeues {evidenceRef : String} {read : SetupExecutionState} {now : ℤ} {task : SetupTask} (member : task ∈ tasks)
      (failed : run.status = .failed) (expired : task.expired = true) :
      Moves run tasks (.reconcileExpiredTask run.id task.id (.notApplied evidenceRef) read now)
        (fun item => item.id = task.id) (·.inspected .queued evidenceRef) (SetupRun.reconcile now)

/-- The document after work on a run. -/
inductive Settled (state : SetupExecutionState) (run : SetupRun) (chosen : SetupTask → Bool)
    (change : SetupTask → SetupTask) (finish : List SetupTask → SetupRun → SetupRun) : SetupExecutionState → Prop where
  | mk (now : ℤ) (receipts : List SetupReadinessReceipt) (settings memory : Option Nat) :
      Settled state run chosen change finish { state.settle run chosen change now finish with
        receipts, appliedSettingsRevision := settings, memoryHandoffRevision := memory }

def newRun (planId uuid : Uuid) (now : ℤ) : SetupRun where
  id := uuid
  planId
  status := .running
  revision := 1
  eventSequence := 0
  createdAt := now
  updatedAt := now
  finishedAt := none

/-- What a request writes, before the history is cut. -/
inductive Wrote (host : SetupHost) (uuid : Uuid) (state : SetupExecutionState) : Request → SetupExecutionState → Prop where
  | drafted {expectedRevision : Option Nat} {input : DraftChoices} {now : ℤ} (draft : SetupDraft) :
      Wrote host uuid state (.updateDraft expectedRevision input now)
        { state with runs := state.runs.map (supersede now), draft := some draft }
  | planned {expectedDraftRevision : Nat} {availability : SetupFeatureId → Option SetupAvailability}
      {fingerprints : Fingerprints} {now : ℤ} (plan : SetupPlan) (effective : List SetupFeatureId)
      (built : plan.actions = buildActions effective) :
      Wrote host uuid state (.createPlan expectedDraftRevision availability fingerprints now)
        { state with plans := state.plans ++ [plan] }
  | started {planId : Uuid} {planDigest idempotencyKey : String} {now : ℤ} (plan : SetupPlan) (member : plan ∈ state.plans)
      (idle : state.runs.any (·.active) = false) :
      Wrote host uuid state (.startRun planId planDigest idempotencyKey now) { state with
        runs := state.runs ++ [newRun planId uuid now]
        tasks := state.tasks ++ plan.tasks host uuid
        runIdempotency := state.runIdempotency ++ [{ key := idempotencyKey, runId := uuid }] }
  | moved {request : Request} {run : SetupRun} {chosen : SetupTask → Bool} {change : SetupTask → SetupTask}
      {finish : List SetupTask → SetupRun → SetupRun} {next : SetupExecutionState} (member : run ∈ state.runs)
      (moves : Moves run (tasksOf state.tasks run.id) request chosen change finish)
      (settled : Settled state run chosen change finish next) : Wrote host uuid state request next

section

variable {host : SetupHost} {uuid : Uuid} {state next : SetupExecutionState}

theorem updateDraft_wrote {expectedRevision : Option Nat} {input : DraftChoices} {now : ℤ} {change : Change SetupDraft}
    (done : updateDraft expectedRevision input uuid now state = .ok change) (wrote : change.next = some next) :
    Wrote host uuid state (.updateDraft expectedRevision input now) next := by
  simp only [updateDraft, bind_ok, refuse_ok, write_ok] at done
  obtain ⟨_, -, _, -, _, -, _, -, draft, -, rfl⟩ := done
  cases wrote
  exact .drafted draft

theorem createPlan_wrote {expectedDraftRevision : Nat} {availability : SetupFeatureId → Option SetupAvailability}
    {fingerprints : Fingerprints} {now : ℤ} {change : Change SetupPlan}
    (done : createPlan host expectedDraftRevision availability fingerprints uuid now state = .ok change)
    (wrote : change.next = some next) :
    Wrote host uuid state (.createPlan expectedDraftRevision availability fingerprints now) next := by
  unfold createPlan at done
  split at done
  · cases done
  simp only [bind_ok, refuse_ok] at done
  obtain ⟨_, -, resolution, -, _, -, _, -, done⟩ := done
  split at done
  · cases done
    cases wrote
  · simp only [bind_ok, parse_ok, write_ok] at done
    obtain ⟨plan, ⟨-, rfl⟩, rfl⟩ := done
    cases wrote
    exact .planned _ resolution.effectiveIds rfl

theorem startRun_wrote {planId : Uuid} {planDigest idempotencyKey : String} {now : ℤ} {change : Change SetupRun}
    (done : startRun host planId planDigest idempotencyKey uuid now state = .ok change) (wrote : change.next = some next) :
    Wrote host uuid state (.startRun planId planDigest idempotencyKey now) next := by
  simp only [startRun, bind_ok, refuse_ok] at done
  obtain ⟨_, -, done⟩ := done
  split at done
  · simp only [bind_ok, keep_ok] at done
    obtain ⟨run, -, rfl⟩ := done
    cases wrote
  · split at done
    · cases done
    next plan found =>
    simp only [bind_ok, refuse_ok, write_ok] at done
    obtain ⟨_, -, _, -, _, idle, rfl⟩ := done
    cases wrote
    exact .started plan (List.mem_of_find?_eq_some found) (by simpa using idle)

section
variable {runId : Uuid}

theorem leaseNextTask_wrote {workerId : String} {durationMs now : ℤ} {change : Change (Option SetupTask)}
    (done : leaseNextTask runId workerId durationMs now state = .ok change) (wrote : change.next = some next) :
    Wrote host uuid state (.leaseNextTask runId workerId durationMs now) next := by
  simp only [leaseNextTask, bind_ok, refuse_ok] at done
  obtain ⟨_, -, run, found, done⟩ := done
  obtain ⟨member, rfl⟩ := findRun_ok found
  split at done
  · cases done
    cases wrote
  next running =>
  rw [not_not] at running
  split at done
  · next overdue =>
    cases done
    cases wrote
    exact .moved member (.expires running overdue) (.mk _ _ _ _)
  · split at done
    · cases done
      cases wrote
    · next task next =>
      cases done
      cases wrote
      exact .moved member (.leases running next) (.mk _ _ _ _)

theorem completeTask_wrote {taskId : SetupTaskId} {workerId : String} {input : ReceiptInput}
    {checked now : ℤ} {change : Change Unit}
    (done : completeTask runId taskId workerId input uuid checked now state = .ok change) (wrote : change.next = some next) :
    Wrote host uuid state (.completeTask runId taskId workerId input checked now) next := by
  simp only [completeTask, bind_ok, refuse_ok, write_ok] at done
  obtain ⟨run, foundRun, task, foundTask, _, going, _, held, receipt, -, rfl⟩ := done
  obtain ⟨member, rfl⟩ := findRun_ok foundRun
  obtain ⟨inside, rfl⟩ := findTask_ok foundTask
  cases wrote
  have going : run.status = .running ∨ run.status = .paused := by
    by_contra neither
    exact going (not_or.mp neither)
  exact .moved member (.completes inside going (by simpa using held)) (.mk _ _ _ _)

theorem failTask_wrote {taskId : SetupTaskId} {workerId reasonCode : String} {checked now : ℤ}
    {change : Change Unit} (done : failTask runId taskId workerId reasonCode checked now state = .ok change)
    (wrote : change.next = some next) : Wrote host uuid state (.failTask runId taskId workerId reasonCode checked now) next := by
  simp only [failTask, bind_ok, refuse_ok, write_ok] at done
  obtain ⟨_, -, run, foundRun, task, foundTask, _, held, rfl⟩ := done
  obtain ⟨member, rfl⟩ := findRun_ok foundRun
  obtain ⟨inside, rfl⟩ := findTask_ok foundTask
  cases wrote
  exact .moved member (.fails inside (by simpa using held)) (.mk _ _ _ _)

section

variable {now : ℤ} {change : Change Unit}

theorem changeRunStatus_wrote {source status : SetupRunStatus}
    (done : changeRunStatus runId [source] status now state = .ok change) (wrote : change.next = some next) :
    ∃ run ∈ state.runs, run.id = runId ∧ run.status = source ∧
      Settled state run (fun _ => false) id (SetupRun.moved status now) next := by
  simp only [changeRunStatus, bind_ok] at done
  obtain ⟨run, found, done⟩ := done
  obtain ⟨member, rfl⟩ := findRun_ok found
  split at done
  · cases done
    cases wrote
  · simp only [bind_ok, refuse_ok, write_ok] at done
    obtain ⟨_, from_, rfl⟩ := done
    cases wrote
    exact ⟨run, member, rfl, by simpa using from_, .mk _ _ _ _⟩

theorem cancelRun_wrote (done : cancelRun runId now state = .ok change) (wrote : change.next = some next) :
    Wrote host uuid state (.cancelRun runId now) next := by
  simp only [cancelRun, bind_ok] at done
  obtain ⟨run, found, done⟩ := done
  obtain ⟨member, rfl⟩ := findRun_ok found
  split at done
  · cases done
    cases wrote
  next uncancelled =>
  simp only [bind_ok, refuse_ok, write_ok] at done
  obtain ⟨_, unready, rfl⟩ := done
  cases wrote
  exact .moved member (.cancels ⟨uncancelled, unready⟩) (.mk _ _ _ _)

theorem retryFailedTasks_wrote {taskIds : List SetupTaskId} {expectedRunRevision : Nat}
    (done : retryFailedTasks runId taskIds expectedRunRevision now state = .ok change) (wrote : change.next = some next) :
    Wrote host uuid state (.retryFailedTasks runId taskIds expectedRunRevision now) next := by
  simp only [retryFailedTasks, bind_ok, refuse_ok, write_ok] at done
  obtain ⟨run, found, _, current, _, failed, _, scope, _, -, rfl⟩ := done
  obtain ⟨member, rfl⟩ := findRun_ok found
  cases wrote
  rw [not_not] at failed current
  obtain ⟨some_, attention⟩ := not_or.mp scope
  refine .moved member (.retries failed some_ ?_ current) (.mk _ _ _ _)
  simpa using attention

theorem revalidateStaleTasks_wrote {taskIds : List SetupTaskId} {expectedRunRevision : Nat}
    (done : revalidateStaleTasks runId taskIds expectedRunRevision now state = .ok change)
    (wrote : change.next = some next) :
    Wrote host uuid state (.revalidateStaleTasks runId taskIds expectedRunRevision now) next := by
  simp only [revalidateStaleTasks, bind_ok, refuse_ok, write_ok] at done
  obtain ⟨run, found, _, -, _, ready, _, -, _, scope, rfl⟩ := done
  obtain ⟨member, rfl⟩ := findRun_ok found
  cases wrote
  rw [not_not] at ready
  obtain ⟨some_, stale⟩ := not_or.mp scope
  refine .moved member (.revalidates ready some_ ?_) (.mk _ _ _ _)
  intro id named
  by_contra missing
  apply stale
  rw [List.any_eq_true]
  refine ⟨id, named, ?_⟩
  simp only [Bool.not_eq_true', List.any_eq_false, Bool.and_eq_true, decide_eq_true_eq, not_and]
  exact fun task inside same => absurd ⟨task, inside, same⟩ missing

theorem reconcileExpiredTask_wrote {taskId : SetupTaskId} {inspection : SetupActionInspection}
    {read : SetupExecutionState} (done : reconcileExpiredTask runId taskId inspection read uuid now state = .ok change)
    (wrote : change.next = some next) :
    Wrote host uuid state (.reconcileExpiredTask runId taskId inspection read now) next := by
  simp only [reconcileExpiredTask, bind_ok, refuse_ok] at done
  obtain ⟨_, -, _, -, _, -, _, -, done⟩ := done
  cases inspection with
  | unknown =>
    cases done
    cases wrote
  | verified input =>
    simp only [bind_ok, refuse_ok, write_ok] at done
    obtain ⟨run, foundRun, task, foundTask, _, failed, _, expired, receipt, -, rfl⟩ := done
    obtain ⟨member, rfl⟩ := findRun_ok foundRun
    obtain ⟨inside, rfl⟩ := findTask_ok foundTask
    cases wrote
    exact .moved member (.verifies inside (not_not.mp failed) (by simpa using expired)) (.mk _ _ _ _)
  | notApplied evidenceRef =>
    simp only [bind_ok, refuse_ok, write_ok] at done
    obtain ⟨run, foundRun, task, foundTask, _, failed, _, expired, _, -, rfl⟩ := done
    obtain ⟨member, rfl⟩ := findRun_ok foundRun
    obtain ⟨inside, rfl⟩ := findTask_ok foundTask
    cases wrote
    exact .moved member (.requeues inside (not_not.mp failed) (by simpa using expired)) (.mk _ _ _ _)

end

end

theorem changeOf_wrote {request : Request} {change : Change Unit} (done : changeOf host uuid state request = .ok change)
    (wrote : change.next = some next) : Wrote host uuid state request next := by
  cases request with
  | updateDraft expectedRevision input now =>
    simp only [changeOf, map_ok] at done
    obtain ⟨change, done, rfl⟩ := done
    exact updateDraft_wrote done wrote
  | createPlan expectedDraftRevision availability fingerprints now =>
    simp only [changeOf, map_ok] at done
    obtain ⟨change, done, rfl⟩ := done
    exact createPlan_wrote done wrote
  | startRun planId planDigest idempotencyKey now =>
    simp only [changeOf, map_ok] at done
    obtain ⟨change, done, rfl⟩ := done
    exact startRun_wrote done wrote
  | leaseNextTask runId workerId durationMs now =>
    simp only [changeOf, map_ok] at done
    obtain ⟨change, done, rfl⟩ := done
    exact leaseNextTask_wrote done wrote
  | completeTask => exact completeTask_wrote done wrote
  | failTask => exact failTask_wrote done wrote
  | pauseRun runId now =>
    obtain ⟨run, member, rfl, running, settled⟩ := changeRunStatus_wrote done wrote
    exact .moved member (.pauses running) settled
  | resumeRun runId now =>
    obtain ⟨run, member, rfl, paused, settled⟩ := changeRunStatus_wrote done wrote
    exact .moved member (.resumes paused) settled
  | cancelRun => exact cancelRun_wrote done wrote
  | retryFailedTasks => exact retryFailedTasks_wrote done wrote
  | revalidateStaleTasks => exact revalidateStaleTasks_wrote done wrote
  | reconcileExpiredTask => exact reconcileExpiredTask_wrote done wrote
  | completeSetupExecution =>
    cases done
    cases wrote

end

end SpaceApp.Setup
