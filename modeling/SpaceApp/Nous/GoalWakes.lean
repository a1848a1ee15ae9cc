import SpaceApp.Foundation.Reach
import SpaceApp.Nous.Goals

/-! Wake-ups of a goal: what is kept of an edit or a wake while the goal's turn runs, and which goal is picked between turns. -/

set_option autoImplicit false

namespace SpaceApp.Nous

open SpaceApp.Foundation

section

variable {waitsOn : Option WaitsOn} {unchanged : Nat} {outcome : GoalTurnOutcome} {now : ℤ}

/-- Nothing makes the goal wait for longer than the gap: no date, and no back-off that is more than it. -/
structure Soon (waitsOn : Option WaitsOn) (unchanged : Nat) (outcome : GoalTurnOutcome) (now : ℤ) : Prop where
  undated : farDate waitsOn outcome.settings now = none
  waits : (waitsOn.any fun waits => waits.kind.backsOff) = true → outcome.settings.backoff unchanged ≤ outcome.settings.gap
  fails : (waitsOn.any fun waits => waits.kind.backsOff) = false → outcome.status = .stopped ∨ outcome.status = .failed →
    outcome.settings.backoffMinutes * MINUTE ≤ outcome.settings.gap
  stalls : (waitsOn.any fun waits => waits.kind.backsOff) = false → ¬ (outcome.status = .stopped ∨ outcome.status = .failed) →
    outcome.settings.unchangedTurns ≤ unchanged →
      outcome.settings.backoff (unchanged - outcome.settings.unchangedTurns) ≤ outcome.settings.gap

theorem soon_iff : Soon waitsOn unchanged outcome now ↔
    farDate waitsOn outcome.settings now = none ∧
    ((waitsOn.any fun waits => waits.kind.backsOff) = true → outcome.settings.backoff unchanged ≤ outcome.settings.gap) ∧
    ((waitsOn.any fun waits => waits.kind.backsOff) = false → outcome.status = .stopped ∨ outcome.status = .failed →
      outcome.settings.backoffMinutes * MINUTE ≤ outcome.settings.gap) ∧
    ((waitsOn.any fun waits => waits.kind.backsOff) = false → ¬ (outcome.status = .stopped ∨ outcome.status = .failed) →
      outcome.settings.unchangedTurns ≤ unchanged →
        outcome.settings.backoff (unchanged - outcome.settings.unchangedTurns) ≤ outcome.settings.gap) :=
  ⟨fun ⟨undated, waits, fails, stalls⟩ => ⟨undated, waits, fails, stalls⟩,
    fun ⟨undated, waits, fails, stalls⟩ => ⟨undated, waits, fails, stalls⟩⟩

instance : Decidable (Soon waitsOn unchanged outcome now) := decidable_of_iff _ soon_iff.symm

theorem farDate_late {until_ : ℤ} {settings : GoalsSettings} (far : farDate waitsOn settings now = some until_) :
    now + settings.gap < until_ := by
  unfold farDate at far
  split at far
  · split at far
    · next late =>
      cases far
      exact late
    · cases far
  · cases far

/-- The goal comes again within the gap just where nothing makes it wait for longer. -/
theorem nextGoalTurnAt_soon :
    nextGoalTurnAt waitsOn unchanged outcome now ≤ now + outcome.settings.gap ↔ Soon waitsOn unchanged outcome now := by
  rw [soon_iff]
  unfold nextGoalTurnAt
  cases far : farDate waitsOn outcome.settings now with
  | some until_ =>
    have late := farDate_late far
    simp only [reduceCtorEq, false_and, iff_false]
    omega
  | none =>
    dsimp only
    split
    · next backsOff => simp only [backsOff, forall_const, reduceCtorEq, false_implies, and_true, true_and]; omega
    · next goesOn =>
      simp only [goesOn, forall_const, reduceCtorEq, false_implies, true_and]
      split
      · next broken => simp only [broken, forall_const, not_true, false_implies, and_true]; omega
      · next whole =>
        simp only [whole, false_implies, not_false_eq_true, forall_const, true_and]
        split
        · next stalled => simp only [stalled, forall_const]; omega
        · next moved => simp only [moved, false_implies, Int.le_refl]

end

section

variable {patch : GoalPatch} {goal : NousGoal}

/-- The patch puts the goal's next turn off by no time. -/
def GoalPatch.Prompt (patch : GoalPatch) : Prop := patch.nextTurnAt = none ∨ patch.nextTurnAt = some none

theorem editPatch_due (input : NousGoalEditInput) : (editPatch goal input).nextTurnAt = some none := by
  unfold editPatch
  dsimp only
  split <;> rfl

theorem updatePatch_prompt {args : NousGoalUpdateArgs} {now : ℤ} (patched : updatePatch goal args now = some patch) :
    patch.Prompt := by
  unfold updatePatch at patched
  split at patched
  · cases patched
  · dsimp only at patched
    split at patched
    · split at patched
      · cases patched
      · cases patched
        exact .inl rfl
    · split at patched
      · cases patched
      · cases patched
        exact .inr rfl

theorem GoalPatch.Prompt.apply (prompt : patch.Prompt) (due : goal.nextTurnAt = none) :
    (patch.apply goal).nextTurnAt = none := by
  rcases prompt with kept | cleared
  · simp only [GoalPatch.apply, kept, Option.getD_none, due]
  · simp only [GoalPatch.apply, cleared, Option.getD_some]

theorem apply_due (due : patch.nextTurnAt = some none) : (patch.apply goal).nextTurnAt = none := by
  simp only [GoalPatch.apply, due, Option.getD_some]

end

/-- A turn that an edit or a wake reached leaves its goal due within the gap, unless it set a date after that. -/
def Closing.Heard (closing : Closing) : Prop :=
  closing.woken = true → closing.dated = false → closing.due.all (fun next => next ≤ closing.finishedAt + closing.gap) = true

def Heard (world : World) : Prop := ∀ closing ∈ world.closings, closing.Heard

/-- The state before the turn's last write lets the goal come again within the gap. -/
def Stage.soon : Stage → Bool
  | .closing goal outcome _ unchanged now => Soon goal.waitsOn unchanged outcome now
  | _ => true

/-- The last write of a turn that an edit or a wake reached finds nothing that makes the goal wait. -/
def Allowed (world : World) : GoalEvent → Bool
  | .turnProceeds _ _ false => world.turn.all fun turn => !turn.woken || turn.dated || turn.stage.soon
  | _ => true

/-- The update that a task waits for puts its goal off by no time. -/
def Task.Prompt : Task → Prop
  | .editUpdating _ patch => patch.nextTurnAt = some none
  | .recordUpdating _ patch _ => patch.Prompt
  | _ => True

structure Mindful (world : World) : Prop where
  tasks : ∀ name task, world.tasks name = some task → task.Prompt
  due : ∀ turn, world.turn = some turn → turn.woken = true → (world.goals turn.goalId).bind (·.nextTurnAt) = none
  heard : Heard world

section

variable {world : World}

theorem Mindful.wait (mindful : Mindful world) (name : Nat) {task : Option Task} (prompt : ∀ waits, task = some waits → waits.Prompt) :
    Mindful (world.wait name task) := by
  refine { mindful with tasks := fun other waits at_ => ?_ }
  simp only [World.wait, Function.update_apply] at at_
  split at at_
  · exact prompt waits at_
  · exact mindful.tasks other waits at_

theorem patched_due {patch : GoalPatch} (prompt : patch.Prompt) (id : String) {goalId : String}
    (due : (world.goals goalId).bind (·.nextTurnAt) = none) : ((world.patched id patch).goals goalId).bind (·.nextTurnAt) = none := by
  simp only [World.patched, Function.update_apply]
  split
  · next same =>
    subst same
    cases found : world.goals goalId with
    | none => rfl
    | some goal =>
      rw [found] at due
      exact prompt.apply due
  · exact due

theorem patched_none {patch : GoalPatch} (due : patch.nextTurnAt = some none) (id : String) :
    ((world.patched id patch).goals id).bind (·.nextTurnAt) = none := by
  simp only [World.patched, Function.update_self]
  cases world.goals id with
  | none => rfl
  | some goal => exact apply_due due

theorem Mindful.patched (mindful : Mindful world) (id : String) {patch : GoalPatch} (prompt : patch.Prompt) :
    Mindful (world.patched id patch) :=
  { mindful with due := fun turn runs woken => patched_due prompt id (mindful.due turn runs woken) }

theorem Mindful.madeDue (mindful : Mindful world) (id : String) {patch : GoalPatch} (due : patch.nextTurnAt = some none) :
    Mindful ((world.patched id patch).madeDue id) := by
  have kept := mindful.patched id (.inr due : patch.Prompt)
  unfold World.madeDue
  split
  · refine { kept with due := fun turn runs woken => ?_ }
    obtain ⟨before, running, rfl⟩ := Option.map_eq_some_iff.mp runs
    split
    · next same => rw [same]; exact patched_none due id
    · next other =>
      rw [if_neg other] at woken
      exact kept.due before running woken
  · exact kept

theorem Mindful.noteWait (mindful : Mindful world) (id : String) (patch : GoalPatch) (turnId : Option String) :
    Mindful (world.noteWait id patch turnId) := by
  unfold World.noteWait
  split
  · refine { mindful with due := fun turn runs woken => ?_ }
    obtain ⟨before, running, rfl⟩ := Option.map_eq_some_iff.mp runs
    split at woken
    · next same =>
      rw [if_pos same]
      exact mindful.due before running woken
    · next other =>
      rw [if_neg other]
      exact mindful.due before running woken
  · exact mindful

theorem Mindful.proceed (mindful : Mindful world) (name : Nat) (now : ℤ) (order : List String) {task : Task} (prompt : task.Prompt) :
    Mindful (world.proceed name now order task) := by
  have done (after : World) (kept : Mindful after) : Mindful (after.wait name none) := kept.wait name fun _ waits => by cases waits
  cases task with
  | editing id input =>
    unfold World.proceed
    dsimp only
    split
    · exact done world mindful
    · refine mindful.wait name fun waits at_ => ?_
      cases at_
      exact editPatch_due input
  | editUpdating id patch => exact done _ (mindful.madeDue id prompt)
  | recording args turnId =>
    unfold World.proceed
    dsimp only
    split
    · exact done world mindful
    · next patch found =>
      refine mindful.wait name fun waits at_ => ?_
      cases at_
      obtain ⟨before, -, patched⟩ := Option.bind_eq_some_iff.mp found
      exact updatePatch_prompt patched
  | recordUpdating id patch turnId => exact done _ ((mindful.patched id prompt).noteWait id patch turnId)
  | waking =>
    refine mindful.wait name fun waits at_ => ?_
    cases at_
    trivial
  | wakingGoals ids =>
    cases ids with
    | nil => exact done world mindful
    | cons id rest =>
      refine (mindful.madeDue id (rfl : wakePatch.nextTurnAt = some none)).wait name fun waits at_ => ?_
      cases at_
      trivial

variable {turn : Turn}

section

variable (mindful : Mindful world)

include mindful

theorem Mindful.atStage (runs : world.turn = some turn) (stage : Stage) : Mindful (world.atStage turn stage) := by
  refine { mindful with due := fun after at_ woken => ?_ }
  cases at_
  exact mindful.due turn runs woken

theorem Mindful.ended : Mindful { world with turn := none } :=
  { mindful with due := fun _ runs => (by cases runs) }

theorem Mindful.closed {goals : String → Option NousGoal} (settings : GoalsSettings) (now : ℤ)
    (soon : turn.woken = true → turn.dated = false →
      ((goals turn.goalId).bind (·.nextTurnAt)).all (fun next => next ≤ now + settings.gap) = true) :
    Mindful ({ world with goals }.closed turn settings now) := by
  refine ⟨mindful.tasks, fun _ runs => (by cases runs), fun closing among => ?_⟩
  rcases List.mem_append.mp among with earlier | last
  · exact mindful.heard closing earlier
  · cases List.mem_singleton.mp last
    exact soon

theorem Mindful.turnProceed (runs : world.turn = some turn) (sha1 : GoalState → String) (now : ℤ)
    (plans : List LinkedPlan) (fails : Bool) (allowed : Allowed world (.turnProceeds now plans fails) = true) :
    Mindful (world.turnProceed sha1 turn now plans fails) := by
  unfold World.turnProceed
  cases staged : turn.stage with
  | starting lastWorkedAt =>
    dsimp only
    split
    · exact mindful.atStage runs .running
    · exact (mindful.patched turn.goalId (.inl rfl : GoalPatch.Prompt { lastWorkedAt := some lastWorkedAt })).atStage runs .running
  | running => exact mindful
  | finishing outcome =>
    dsimp only
    split
    · exact mindful.ended
    · exact mindful.atStage runs _
  | logging goal outcome =>
    dsimp only
    split
    · exact mindful.ended
    · split <;> exact mindful.atStage runs _
  | planning goal outcome => exact mindful.atStage runs _
  | closing goal outcome fingerprint unchanged readAt =>
    cases fails with
    | true => exact mindful.ended
    | false =>
      refine mindful.closed outcome.settings readAt fun woken undated => ?_
      have soon : Soon goal.waitsOn unchanged outcome readAt := by
        simpa [Allowed, runs, woken, undated, staged, Stage.soon] using allowed
      simp only [Function.update_self]
      cases world.goals turn.goalId with
      | none => rfl
      | some found => exact decide_eq_true (nextGoalTurnAt_soon.mpr soon)
  | resetting settings readAt =>
    cases fails with
    | true => exact mindful.ended
    | false =>
      -- the goal keeps the time that the edit or the wake gave it
      refine mindful.closed settings readAt fun woken _ => ?_
      have kept := patched_due (.inl rfl : GoalPatch.Prompt { fingerprint := some none, unchangedTurns := some 0 })
        turn.goalId (mindful.due turn runs woken)
      simp only [World.patched] at kept
      rw [kept]
      rfl

theorem Mindful.step (sha1 : GoalState → String) {event : GoalEvent} (allowed : Allowed world event = true) :
    Mindful (world.step sha1 event) := by
  have begins (name : Nat) (task : Task) (prompt : task.Prompt) :
      Mindful (if (world.tasks name).isSome then world else world.wait name (some task)) := by
    split
    · exact mindful
    · exact mindful.wait name fun waits at_ => by cases at_; exact prompt
  cases event with
  | edits name id input => exact begins name (.editing id input) trivial
  | records name args turnId => exact begins name (.recording args turnId) trivial
  | wakes name => exact begins name .waking trivial
  | proceeds name now order fails =>
    unfold World.step
    dsimp only
    cases at_ : world.tasks name with
    | none => exact mindful
    | some task =>
      dsimp only
      split
      · exact mindful.wait name fun _ waits => by cases waits
      · exact mindful.proceed name now order (mindful.tasks name task at_)
  | turnStarts goalId turnId now =>
    unfold World.step
    dsimp only
    split
    · exact mindful
    · refine { mindful with due := fun turn runs woken => ?_ }
      cases runs
      cases woken
  | turnEnds outcome =>
    unfold World.step
    cases runs : world.turn with
    | none => exact mindful
    | some turn =>
      dsimp only
      split
      · exact mindful.atStage runs _
      · exact mindful
  | turnProceeds now plans fails =>
    unfold World.step
    cases runs : world.turn with
    | none => exact mindful
    | some turn => exact mindful.turnProceed runs sha1 now plans fails allowed

end

end

section

variable {left middle right : NousGoal}

theorem goalOrder_trans (first : goalOrder left middle = true) (second : goalOrder middle right = true) :
    goalOrder left right = true := by
  unfold goalOrder at *
  grind

theorem goalOrder_total (left right : NousGoal) : (goalOrder left right || goalOrder right left) = true := by
  unfold goalOrder
  grind

/-- `goal` was worked no later than `other`; never worked is before all. -/
def WorkedBefore (goal other : NousGoal) : Prop :=
  ∀ worked, goal.lastWorkedAt = some worked → ∃ since, other.lastWorkedAt = some since ∧ worked ≤ since

theorem goalOrder_workedBefore (before : goalOrder left right = true) : WorkedBefore left right := by
  intro worked at_
  unfold goalOrder at before
  rw [at_] at before
  cases since : right.lastWorkedAt with
  | none =>
    rw [since] at before
    cases before
  | some since_ =>
    exact ⟨since_, rfl, by grind⟩

/-- What is picked is due, and of the due goals worked longest ago; nothing is picked only where nothing is due. -/
structure Fair (goals : List NousGoal) (at_ : ℤ) : Prop where
  idle : pick goals at_ = none → ∀ goal ∈ goals, isDue at_ goal = false
  due : ∀ goal, pick goals at_ = some goal → goal ∈ goals ∧ isDue at_ goal = true
  longest : ∀ goal, pick goals at_ = some goal → ∀ other ∈ goals, isDue at_ other = true → WorkedBefore goal other

theorem pick_fair (goals : List NousGoal) (at_ : ℤ) : Fair goals at_ := by
  have ordered : ((goals.filter (isDue at_)).mergeSort goalOrder).Pairwise fun left right => goalOrder left right = true :=
    @List.pairwise_mergeSort _ goalOrder (fun _ _ _ => goalOrder_trans) goalOrder_total (goals.filter (isDue at_))
  have member (goal : NousGoal) : goal ∈ (goals.filter (isDue at_)).mergeSort goalOrder ↔ goal ∈ goals ∧ isDue at_ goal = true :=
    List.mem_mergeSort.trans List.mem_filter
  cases sorted : (goals.filter (isDue at_)).mergeSort goalOrder with
  | nil =>
    rw [sorted] at member
    refine ⟨fun _ goal among => ?_, fun goal picked => ?_, fun goal picked => ?_⟩
    · exact Bool.eq_false_iff.mpr fun due => List.not_mem_nil ((member goal).mpr ⟨among, due⟩)
    · rw [pick, sorted] at picked
      cases picked
    · rw [pick, sorted] at picked
      cases picked
  | cons first rest =>
    rw [sorted] at member ordered
    have only (goal : NousGoal) (picked : pick goals at_ = some goal) : goal = first := by
      rw [pick, sorted] at picked
      exact (Option.some.inj picked).symm
    refine ⟨fun none_ => ?_, fun goal picked => ?_, fun goal picked other among due => ?_⟩
    · rw [pick, sorted] at none_
      cases none_
    · rw [only goal picked]
      exact (member first).mp List.mem_cons_self
    · rw [only goal picked]
      rcases List.mem_cons.mp ((member other).mpr ⟨among, due⟩) with rfl | later
      · exact fun worked at_ => ⟨worked, at_, Int.le_refl worked⟩
      · exact goalOrder_workedBefore (List.rel_of_pairwise_cons ordered later)

end

/-- No turn of the owner runs, no call waits, and none has ended. -/
def Quiet (world : World) : Prop := world.tasks = (fun _ => none) ∧ world.turn = none ∧ world.closings = []

/-- Where the last write of a turn that was reached finds nothing that makes the goal wait, every wake-up is heard. -/
theorem goals_heard (sha1 : GoalState → String) :
    (∀ world, Reached Quiet (fun world event => Allowed world event = true) (World.step sha1) world → Heard world) ∧
      ∀ goals at_, Fair goals at_ := by
  refine ⟨fun world reached => Mindful.heard (reached.invariant ?_ fun _ _ mindful allowed => mindful.step sha1 allowed), pick_fair⟩
  rintro world ⟨tasks, turn, closings⟩
  refine ⟨fun name task at_ => ?_, fun turn_ runs => ?_, fun closing among => ?_⟩
  · rw [tasks] at at_
    cases at_
  · rw [turn] at runs
    cases runs
  · rw [closings] at among
    cases among

namespace Sample

def settings : GoalsSettings := { gapSeconds := 60, backoffMinutes := 15, backoffMaxMinutes := 180, unchangedTurns := 3 }

def goal : NousGoal := {
  id := "g1"
  text := "Paint the shed"
  status := .active
  priority := 0
  progress := 40
  criteria := none
  planIds := []
  waitsOn := none
  note := none
  evidence := none
  lastWorkedAt := some 0
  nextTurnAt := some 900000
  fingerprint := some "d6908f3c12f5e7943a2b3a0a536603b59ef795db"
  unchangedTurns := 3
  achievedAt := none }

def choice : WaitsOn := { kind := .operator, what := "which colour", until_ := none }

/-- The hash of the states of the runs here. -/
def sha1 (state : GoalState) : String :=
  if state.waitsOn = some choice then "2a7193394b5cfe4c8a14b6b577e9779ad35f1113"
  else if state.progress = 60 then "7a8540c83aaa5fb5911e5ef3baaf7d11ff59acfc"
  else "d6908f3c12f5e7943a2b3a0a536603b59ef795db"

def world (waitsOn : Option WaitsOn) : World :=
  { goals := Function.update (fun _ => none) "g1" (some { goal with waitsOn }) }

/-- A turn starts, and the operator's answer wakes the goal while it runs. -/
def wokenInTurn : List GoalEvent :=
  [.turnStarts "g1" "t1" 1000000, .turnProceeds 1000000 [] false, .wakes 1, .proceeds 1 1010000 ["g1"] false,
    .proceeds 1 1010000 [] false]

def finishes : List GoalEvent :=
  [.turnEnds { turnId := "t1", status := .done, settings }, .turnProceeds 1020000 [] false, .turnProceeds 1020000 [] false,
    .turnProceeds 1020000 [] false, .turnProceeds 1020000 [] false]

def progresses : List GoalEvent :=
  [.records 2 { goal := "g1", progress := some 60 } (some "t1"), .proceeds 2 1015000 [] false, .proceeds 2 1015000 [] false]

end Sample

/-- A goal that backs off is woken while its turn runs, the turn moves it, and it is due a minute later. -/
theorem goals_heard_moved :
    Heard ((Sample.wokenInTurn ++ Sample.progresses ++ Sample.finishes).foldl (World.step Sample.sha1) (Sample.world none)) ∧
      ((Sample.wokenInTurn ++ Sample.progresses ++ Sample.finishes).foldl (World.step Sample.sha1) (Sample.world none)).closings =
        [{ goalId := "g1", woken := true, dated := false, finishedAt := 1020000, gap := 60000, due := some 1080000 }] :=
  ⟨(goals_heard Sample.sha1).1 _ (Reached.run (.start ⟨rfl, rfl, rfl⟩) (by decide +kernel)), by decide +kernel⟩

/-- The goal waits on the operator, the answer wakes it while its turn runs, and the turn's end puts it off by a quarter of an hour. -/
theorem answered_goal_backs_off : ¬ ∀ (sha1 : GoalState → String) (start : World), Quiet start →
    ∀ events : List GoalEvent, Heard (events.foldl (World.step sha1) start) := by
  intro always
  have heard := always Sample.sha1 (Sample.world (some Sample.choice)) ⟨rfl, rfl, rfl⟩ (Sample.wokenInTurn ++ Sample.finishes)
    { goalId := "g1", woken := true, dated := false, finishedAt := 1020000, gap := 60000, due := some 1920000 } (by decide +kernel)
  exact absurd (heard rfl rfl) (by decide)

end SpaceApp.Nous
