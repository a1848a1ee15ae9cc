import SpaceApp.Api.Setup.Runs

/-! At most one run of an owner is active, unless finished work is taken up again while another
run is: only `startRun` looks for one. -/

set_option autoImplicit false

namespace SpaceApp.Setup

open SpaceApp.Foundation

section

variable {host : SetupHost} {store : Store} {request : Request} {state next : SetupExecutionState} {run : SetupRun}
  {chosen : SetupTask → Bool} {change : SetupTask → SetupTask} {finish : List SetupTask → SetupRun → SetupRun}
  {tasks : List SetupTask}

/-- The run a request takes up again, and the status it has to have. -/
def restarts : Request → Option (Uuid × SetupRunStatus)
  | .retryFailedTasks runId _ _ _ => some (runId, .failed)
  | .revalidateStaleTasks runId _ _ _ => some (runId, .ready)
  | .reconcileExpiredTask runId _ _ _ _ => some (runId, .failed)
  | _ => none

/-- A failed run is retried or reconciled, and a ready one checked again, only while no run is
active. -/
def Store.unrivalled (store : Store) (request : Request) : Prop :=
  ∀ taken ∈ restarts request, (∃ run ∈ store.state.runs, run.id = taken.1 ∧ run.status = taken.2) →
    ∀ other ∈ store.state.runs, other.active = false

instance (store : Store) (request : Request) : Decidable (store.unrivalled request) :=
  inferInstanceAs (Decidable (∀ taken ∈ restarts request, _))

def OneActive (state : SetupExecutionState) : Prop :=
  ∀ first ∈ state.runs, ∀ second ∈ state.runs, first.active = true → second.active = true → first.id = second.id

theorem active_status {first second : SetupRun} (same : first.status = second.status) : first.active = second.active := by
  unfold SetupRun.active
  rw [same]

theorem Moves.active (moves : Moves run tasks request chosen change finish) {after : List SetupTask}
    (active : (finish after run).active = true) :
    run.active = true ∨ ∃ status, restarts request = some (run.id, status) ∧ run.status = status := by
  cases moves with
  | expires running => exact .inl (by simp [SetupRun.active, running])
  | leases running => exact .inl (by simp [SetupRun.active, running])
  | completes member going =>
    left
    rcases going with running | paused
    · simp [SetupRun.active, running]
    · simp [SetupRun.active, paused]
  | fails => cases active
  | pauses running => exact .inl (by simp [SetupRun.active, running])
  | resumes paused => exact .inl (by simp [SetupRun.active, paused])
  | cancels => cases active
  | retries failed => exact .inr ⟨_, rfl, failed⟩
  | revalidates ready => exact .inr ⟨_, rfl, ready⟩
  | verifies member failed => exact .inr ⟨_, rfl, failed⟩
  | requeues member failed => exact .inr ⟨_, rfl, failed⟩

theorem supersede_inactive (now : ℤ) (run : SetupRun) : (supersede now run).active = false := by
  unfold supersede
  split
  · rfl
  · next finished =>
    unfold SetupRun.active
    cases status : run.status <;> simp_all

theorem OneActive.wrote (one : OneActive store.state) (may : store.unrivalled request)
    (wrote : Wrote host store.drawn store.state request next) : OneActive next := by
  cases wrote with
  | drafted draft =>
    intro first memberFirst _ _ active
    obtain ⟨before, _, rfl⟩ := List.mem_map.mp memberFirst
    rw [supersede_inactive] at active
    cases active
  | planned plan effective built => exact one
  | started plan member idle =>
    have new {run : SetupRun} {planId : Uuid} {now : ℤ} (member : run ∈ store.state.runs ++ [newRun planId store.drawn now])
        (active : run.active = true) : run.id = store.drawn := by
      rcases List.mem_append.mp member with old | added
      · rw [List.any_eq_false] at idle
        exact absurd active (idle run old)
      · rw [List.mem_singleton.mp added]
        rfl
    intro first memberFirst second memberSecond activeFirst activeSecond
    rw [new memberFirst activeFirst, new memberSecond activeSecond]
  | moved member moves settled =>
    next run chosen change finish =>
    -- the run worked on has no active rival, before and after
    have rival {first second : SetupRun} (own : first.id = run.id)
        (status : first.status = (finish (changed chosen change (tasksOf store.state.tasks run.id)) run).status)
        (apart : second.id ≠ run.id) (before : second ∈ store.state.runs) (activeFirst : first.active = true)
        (activeSecond : second.active = true) : False := by
      rw [active_status status] at activeFirst
      rcases moves.active activeFirst with was | ⟨status, taken, had⟩
      · exact apart (one second before run member activeSecond was)
      · rw [may (run.id, status) taken ⟨run, member, rfl, had⟩ second before] at activeSecond
        cases activeSecond
    intro first memberFirst second memberSecond activeFirst activeSecond
    rcases settled.run_cases moves.finishes memberFirst moves.same_task with ⟨apartFirst, beforeFirst⟩ | ⟨sameFirst, statusFirst⟩
    · rcases settled.run_cases moves.finishes memberSecond moves.same_task with ⟨apartSecond, beforeSecond⟩ | ⟨sameSecond, statusSecond⟩
      · exact one first beforeFirst second beforeSecond activeFirst activeSecond
      · exact (rival sameSecond statusSecond apartFirst beforeFirst activeSecond activeFirst).elim
    · rcases settled.run_cases moves.finishes memberSecond moves.same_task with ⟨apartSecond, beforeSecond⟩ | ⟨sameSecond, statusSecond⟩
      · exact (rival sameFirst statusFirst apartSecond beforeSecond activeFirst activeSecond).elim
      · rw [sameFirst, sameSecond]

theorem OneActive.step (one : OneActive store.state) (may : store.unrivalled request) :
    OneActive (store.step host request).state := by
  refine step_state one (fun _ _ => one) fun next revision wrote _ => ?_
  have written := one.wrote may wrote
  intro first memberFirst second memberSecond
  exact written first (compact_shrinks.runs memberFirst) second (compact_shrinks.runs memberSecond)

theorem OneActive.length_le (one : OneActive state) (distinct : (state.runs.map (·.id)).Nodup) :
    (state.runs.filter (·.active)).length ≤ 1 := by
  have ids : ((state.runs.filter (·.active)).map (·.id)).Nodup := distinct.sublist (List.filter_sublist.map _)
  rcases found : state.runs.filter (·.active) with _ | ⟨first, _ | ⟨second, rest⟩⟩
  · rw [found]
    exact Nat.zero_le _
  · rw [found]
    exact Nat.le_refl _
  · exfalso
    have memberFirst : first ∈ state.runs.filter (·.active) := by rw [found]; simp
    have memberSecond : second ∈ state.runs.filter (·.active) := by rw [found]; simp
    rw [List.mem_filter] at memberFirst memberSecond
    have same := one first memberFirst.1 second memberSecond.1 memberFirst.2 memberSecond.2
    rw [found] at ids
    simp [same] at ids

/-- Unless finished work is taken up again beside an active run, at most one run is active. -/
theorem one_active_run (reached : Reached Store.created Store.unrivalled (Store.step host) store) :
    (store.state.runs.filter (·.active)).length ≤ 1 := by
  have one : OneActive store.state := by
    apply reached.invariant
    · rintro state rfl
      intro first member
      cases member
    · intro state request one may
      exact one.step may
  exact one.length_le (reached_sound reached).runIds

end

/-- A run fails and is retried before another one is asked for. -/
def Sample.retried : List Request :=
  started ++ [lease 2, fail (rooms 2), .retryFailedTasks 2 [rooms 2] 3 0, .startRun 1 digest "start:second" 0]

theorem one_active_run_retried : ((Sample.run Sample.retried).state.runs.map (·.status)) = [.running] ∧
      ((Sample.run Sample.retried).state.runs.filter (·.active)).length ≤ 1 :=
  ⟨by decide +kernel, one_active_run (Reached.run (.start rfl) (by decide +kernel))⟩

/-- A run fails, another one is started from the same plan, and the first is retried. -/
def Sample.rivals : List Request :=
  started ++ [lease 2, fail (rooms 2), .startRun 1 digest "start:second" 0, .retryFailedTasks 2 [rooms 2] 3 0]

theorem two_active_runs : Reached Store.created (fun _ _ => True) (Store.step Sample.host) (Sample.run Sample.rivals) ∧
      ¬ ((Sample.run Sample.rivals).state.runs.filter (·.active)).length ≤ 1 :=
  ⟨sample_reached Sample.rivals, by decide +kernel⟩

end SpaceApp.Setup
