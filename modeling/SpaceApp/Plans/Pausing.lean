import SpaceApp.Plans.Steps

/-! What of a record a pause holds: its status, whether a START is pending, and why that one is to
be interrupted. -/

set_option autoImplicit false

namespace SpaceApp.Plans

open SpaceApp.Foundation

structure Gist where
  status : ManagedPlanExecutionStatus
  starting : Bool
  reason : Option InterruptReason
  deriving DecidableEq

def gist (record : ManagedPlanExecution) : Gist where
  status := record.status
  starting := record.pendingCommand.any fun command => command.type = .start
  reason := record.interruptReason

/-- Nothing new may be sent: the record is at rest, or it pauses as soon as its START has ended. -/
def Gist.Held (gist : Gist) : Prop := runnable gist.status = false ∨ gist.starting = true ∧ gist.reason = some .pause

instance (gist : Gist) : Decidable gist.Held := inferInstanceAs (Decidable (_ ∨ _))

/-- Only a pending START is interrupted, and none is pending in a paused record. -/
structure Gist.Tidy (gist : Gist) : Prop where
  reason : gist.reason.isSome = true → gist.starting = true
  paused : gist.status = .paused → gist.starting = false

def Gist.after (gist : Gist) (patch : ManagedPlanExecutionPatch) : Gist where
  status := patch.status.getD gist.status
  starting :=
    match patch.pendingCommand with
    | none => gist.starting
    | some pending => pending.any fun command => command.type = .start
  reason := patch.interruptReason.getD gist.reason

theorem gist_patched (record : ManagedPlanExecution) (patch : ManagedPlanExecutionPatch) :
    gist (patched record patch) = (gist record).after patch := by
  unfold gist Gist.after patched
  cases pending : patch.pendingCommand <;> simp

theorem SameRecord.gist {first second : ManagedPlanExecution} (same : SameRecord first second) :
    gist first = gist second := same.read Plans.gist fun _ => rfl

/-- The patch keeps the record tidy, and what holds it. -/
structure Gist.Steady (gist : Gist) (patch : ManagedPlanExecutionPatch) : Prop where
  tidy : (gist.after patch).Tidy
  held : gist.Held → (gist.after patch).Held

section

variable {gist : Gist} {patch : ManagedPlanExecutionPatch}

/-- A patch of neither the status nor the START nor its interruption. -/
theorem Gist.Tidy.quiet (tidy : gist.Tidy) (same : gist.after patch = gist) : gist.Steady patch where
  tidy := by rwa [same]
  held := by rw [same]; exact id

theorem Gist.Tidy.reasonless (tidy : gist.Tidy) (idle : gist.starting = false) : gist.reason = none := by
  cases reason : gist.reason with
  | none => rfl
  | some _ =>
    have started := tidy.reason (by rw [reason]; rfl)
    rw [idle] at started
    cases started

/-- Where nothing holds the record, any tidy patch will do. -/
theorem Gist.steady_free (free : ¬ gist.Held) (tidy : (gist.after patch).Tidy) : gist.Steady patch :=
  ⟨tidy, fun held => absurd held free⟩

theorem Gist.free (runs : runnable gist.status = true) (idle : gist.starting = false) : ¬ gist.Held := by
  rintro (rests | ⟨started, _⟩)
  · rw [runs] at rests
    cases rests
  · rw [idle] at started
    cases started

theorem Gist.held_running (runs : runnable gist.status = true) (held : gist.Held) : gist.reason = some .pause := by
  rcases held with rests | ⟨_, reason⟩
  · rw [runs] at rests
    cases rests
  · exact reason

theorem Gist.steady_settled (runs : runnable gist.status = true) (pending : patch.pendingCommand = some none)
    (reason : patch.interruptReason = some none)
    (pauses : gist.reason = some .pause → ∃ status, patch.status = some status ∧ runnable status = false) :
    gist.Steady patch := by
  constructor
  · unfold Gist.after
    rw [pending, reason]
    constructor
    · intro given
      cases given
    · intro _
      rfl
  · intro held
    obtain ⟨status, named, rests⟩ := pauses (Gist.held_running runs held)
    left
    unfold Gist.after
    rw [named]
    exact rests

/-- The record comes to rest, its START as it was. -/
theorem Gist.Tidy.rests (tidy : gist.Tidy) {status : ManagedPlanExecutionStatus} (named : patch.status = some status)
    (pending : patch.pendingCommand = none) (reason : patch.interruptReason = none) (rests : runnable status = false)
    (unpaused : status ≠ .paused) : gist.Steady patch := by
  constructor
  · unfold Gist.after
    rw [named, pending, reason]
    exact ⟨tidy.reason, fun paused => absurd paused unpaused⟩
  · intro _
    left
    unfold Gist.after
    rw [named]
    exact rests

/-- Whatever holds a runnable record stays where its status stays runnable and its START and the
reason stay as they were. -/
theorem Gist.Tidy.goes (tidy : gist.Tidy) (runs : runnable gist.status = true) {status : ManagedPlanExecutionStatus}
    (named : patch.status = some status) (pending : patch.pendingCommand = none) (reason : patch.interruptReason = none)
    (going : runnable status = true) : gist.Steady patch := by
  constructor
  · unfold Gist.after
    rw [named, pending, reason]
    refine ⟨tidy.reason, ?_⟩
    intro paused
    have paused : status = .paused := paused
    subst paused
    cases going
  · intro held
    right
    unfold Gist.after
    rw [pending, reason]
    rcases held with rests | pausing
    · rw [runs] at rests
      cases rests
    · exact pausing

end

section

variable {execution : ManagedPlanExecution} {id : String} {now : ℚ}

section
variable (execution : ManagedPlanExecution)

theorem filter_start :
    (execution.pendingCommand.filter fun command => command.type = .start).isSome = (gist execution).starting := by
  unfold gist
  cases pending : execution.pendingCommand with
  | none => rfl
  | some command => cases start : decide (command.type = .start) <;> simp_all [Option.filter]

/-- The gist of a record an operator pauses, or whose stage an operator sets another model for. -/
theorem gist_interrupt (reason : InterruptReason) (id : String) (now : ℚ)
    (overrides : Option (String → Option StageModelSelection)) :
    (gist execution).after { interrupt execution reason id now with overrides } =
      if (gist execution).starting = true then { status := .switchingModel, starting := true, reason := some reason }
      else {
        status := if reason = .pause then .paused else if execution.status = .paused then .paused else .resumingStage
        starting := false, reason := none } := by
  have starts := filter_start execution
  unfold interrupt
  split
  · next idle =>
    rw [idle] at starts
    rw [← starts]
    rfl
  · next start found =>
    rw [found] at starts
    unfold Gist.after
    simp [← starts]

theorem interrupt_tidy (reason : InterruptReason) (id : String) (now : ℚ)
    (overrides : Option (String → Option StageModelSelection)) :
    ((gist execution).after { interrupt execution reason id now with overrides }).Tidy := by
  rw [gist_interrupt]
  split
  · exact ⟨fun _ => rfl, fun paused => by cases paused⟩
  · exact ⟨fun given => (by cases given), fun _ => rfl⟩

theorem pause_holds (id : String) (now : ℚ) : ((gist execution).after (interrupt execution .pause id now)).Held := by
  have same := gist_interrupt execution .pause id now (interrupt execution .pause id now).overrides
  rw [show ({ interrupt execution .pause id now with overrides := (interrupt execution .pause id now).overrides } :
    ManagedPlanExecutionPatch) = interrupt execution .pause id now from rfl] at same
  rw [same]
  split
  · exact .inr ⟨rfl, rfl⟩
  · exact .inl rfl

end

theorem operator_steady (tidy : (gist execution).Tidy) {change : OperatorChange} {patch : ManagedPlanExecutionPatch}
    (asked : operatorPatch execution id now change = .ok patch) : ((gist execution).after patch).Tidy ∧
      (change ≠ .control .resume → (gist execution).Held → ((gist execution).after patch).Held) := by
  cases change with
  | control action =>
    simp only [operatorPatch, executionControlPatch] at asked
    split at asked
    · cases asked
    cases action with
    | pause =>
      rw [if_pos rfl] at asked
      cases asked
      exact ⟨interrupt_tidy execution .pause id now _, fun _ _ => pause_holds execution id now⟩
    | resume =>
      rw [if_neg (by simp)] at asked
      split at asked
      · cases asked
      next settled =>
      split at asked
      · cases asked
      cases asked
      simp only [not_or, Bool.not_eq_true, Option.isSome_eq_false_iff, Option.isNone_iff_eq_none] at settled
      refine ⟨⟨?_, ?_⟩, fun other => absurd rfl other⟩
      · intro given
        cases given
      · intro paused
        cases paused
  | override stageId selection =>
    simp only [operatorPatch, stageOverridePatch] at asked
    split at asked
    · cases asked
    next live =>
    split at asked
    · next active =>
      cases asked
      refine ⟨interrupt_tidy execution _ id now _, ?_⟩
      intro _ held
      rw [gist_interrupt]
      split
      · next started =>
        right
        refine ⟨rfl, ?_⟩
        -- with a START pending only the reason of a pause holds a record that is not blocked
        rcases held with rests | ⟨_, paused⟩
        · exfalso
          have unpaused : execution.status ≠ .paused := fun paused => by
            have idle := tidy.paused paused
            rw [started] at idle
            cases idle
          have rests : runnable execution.status = false := rests
          have unfinished : isPlanExecutionActive execution ≠ false := fun ended => live (.inl ended)
          unfold isPlanExecutionActive at unfinished
          cases status : execution.status <;> simp_all [runnable]
        · have same : execution.interruptReason = some .pause := paused
          simp only [same]
          rfl
      · next idle =>
        left
        have idle : (gist execution).starting = false := by simpa using idle
        rcases held with rests | ⟨started, _⟩
        · have rests : runnable execution.status = false := rests
          have unfinished : isPlanExecutionActive execution ≠ false := fun ended => live (.inl ended)
          unfold isPlanExecutionActive at unfinished
          have paused : execution.status = .paused := by
            cases status : execution.status <;> simp_all [runnable]
          simp only [paused]
          split <;> rfl
        · rw [idle] at started
          cases started
    · cases asked
      exact ⟨tidy, fun _ held => held⟩

end

end SpaceApp.Plans
