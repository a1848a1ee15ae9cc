import Mathlib.Tactic.Linarith
import SpaceApp.Foundation.Calendar
import SpaceApp.Foundation.Reach

/-! The pace of the Claude API-key account to the operator's monthly budget
(`providers/claude/api-budget.ts`), and reads and costs of one pacer interleaved at their
awaits: can a burst outrun the cached report?
-/

set_option autoImplicit false

namespace SpaceApp.Gateway.Claude

open SpaceApp.Foundation

structure BillingDay where
  day : UtcDate
  reported : Bool
  organizationUsd : ℚ
  gatewayEstimateUsd : ℚ
  deriving DecidableEq

/-- A posted day counts as billed, any other as the gateway estimates it. -/
def BillingDay.spent (day : BillingDay) : ℚ := if day.reported then day.organizationUsd else day.gatewayEstimateUsd

inductive BudgetStop where
  | monthlyBudgetReached | dailyAllowanceReached
  deriving DecidableEq, Repr

structure ApiBudgetPace where
  budgetUsd : ℚ
  monthSpentUsd : ℚ
  remainingUsd : ℚ
  daysLeft : Int
  allowanceTodayUsd : ℚ
  todaySpentUsd : ℚ
  stop : Option BudgetStop
  deriving DecidableEq

/-- `Math.round(value * 100) / 100`. -/
def roundCents (value : ℚ) : ℚ := ⌊value * 100 + 1 / 2⌋ / 100

/-- The figures go out in cents; the stop was decided on the exact ones. -/
def ApiBudgetPace.rounded (pace : ApiBudgetPace) : ApiBudgetPace :=
  { pace with
    monthSpentUsd := roundCents pace.monthSpentUsd
    remainingUsd := roundCents pace.remainingUsd
    allowanceTodayUsd := roundCents pace.allowanceTodayUsd
    todaySpentUsd := roundCents pace.todaySpentUsd }

def daySpent (days : List BillingDay) (today : UtcDate) : ℚ :=
  match days.find? fun day => day.day = today with
  | some day => day.spent
  | none => 0

def budgetStop (remainingUsd allowanceTodayUsd todaySpentUsd : ℚ) : Option BudgetStop :=
  if remainingUsd ≤ 0 then some .monthlyBudgetReached
  else if allowanceTodayUsd ≤ todaySpentUsd then some .dailyAllowanceReached
  else none

def exactPace (budgetUsd : ℚ) (days : List BillingDay) (now extraTodayUsd : ℚ) : ApiBudgetPace :=
  let today := utcDate now
  let month := days.filter fun day => day.day.year = today.year ∧ day.day.month = today.month
  let todaySpentUsd := daySpent month today + extraTodayUsd
  let monthSpentUsd := ((month.filter fun day => day.day ≠ today).map BillingDay.spent).sum + todaySpentUsd
  let daysLeft := daysInMonth today.year today.month - today.day + 1
  let remainingUsd := budgetUsd - monthSpentUsd
  let allowanceTodayUsd := max 0 (budgetUsd - (monthSpentUsd - todaySpentUsd)) / daysLeft
  { budgetUsd, monthSpentUsd, remainingUsd, daysLeft, allowanceTodayUsd, todaySpentUsd
    stop := budgetStop remainingUsd allowanceTodayUsd todaySpentUsd }

/-- With no budget (unset or 0) the feature is off. -/
def unroundedPace (budgetUsd : Option ℚ) (days : List BillingDay) (now extraTodayUsd : ℚ) : Option ApiBudgetPace :=
  match budgetUsd with
  | none => none
  | some budget => if budget ≤ 0 then none else some (exactPace budget days now extraTodayUsd)

def apiBudgetPace (budgetUsd : Option ℚ) (days : List BillingDay) (now extraTodayUsd : ℚ) : Option ApiBudgetPace :=
  (unroundedPace budgetUsd days now extraTodayUsd).map ApiBudgetPace.rounded

structure CachedReport where
  at_ : ℚ
  day : UtcDate
  days : List BillingDay
  budgetUsd : Option ℚ
  configured : Bool

structure Pacer where
  cached : Option CachedReport := none
  since : ℚ := 0

namespace Pacer

def pace (pacer : Pacer) (now : ℚ) : Option ApiBudgetPace :=
  match pacer.cached with
  | none => none
  | some cached => if cached.configured then apiBudgetPace cached.budgetUsd cached.days now pacer.since else none

def exact (pacer : Pacer) (now : ℚ) : Option ApiBudgetPace :=
  match pacer.cached with
  | none => none
  | some cached => if cached.configured then unroundedPace cached.budgetUsd cached.days now pacer.since else none

def fresh (pacer : Pacer) (now ttlMs : ℚ) : Bool :=
  pacer.cached.any fun cached => cached.day = utcDate now ∧ now - cached.at_ < ttlMs

def refreshed (now : ℚ) (budgetUsd : Option ℚ) (days : List BillingDay) (configured : Bool) : Pacer where
  cached := some { at_ := now, day := utcDate now, days, budgetUsd, configured }
  since := 0

/-- A request the API-key account served, counted until the next read of the report. -/
def record (pacer : Pacer) : Option ℚ → Pacer
  | none => pacer
  | some costUsd => if 0 < costUsd then { pacer with since := pacer.since + costUsd } else pacer

end Pacer

inductive RefreshPhase where
  | settings
  /-- `included` is what had been recorded for the day when the report began; no code reads it. -/
  | report (budgetUsd included : ℚ)

/-- A read that waits. `due` is what was recorded on its day before it was called; no code
reads it. -/
structure Refresh where
  at_ : ℚ
  due : ℚ
  phase : RefreshPhase

/-- An answered read: what it decided by and what it returned. -/
structure PaceRead where
  due : ℚ
  exact : Option ApiBudgetPace
  returned : Option ApiBudgetPace

structure PacerWorld where
  pacer : Pacer := {}
  clock : ℚ
  refreshes : List Refresh := []
  recorded : UtcDate → ℚ := fun _ => 0
  reads : List PaceRead := []

inductive PacerEvent where
  | read
  | settings (position : Nat) (budgetUsd : Option ℚ)
  | report (position : Nat) (days : List BillingDay) (configured : Bool)
  | failed (position : Nat)
  | record (costUsd : Option ℚ)
  | tick (now : ℚ)

namespace PacerWorld

def due (world : PacerWorld) : ℚ := world.recorded (utcDate world.clock)

def answer (world : PacerWorld) (pacer : Pacer) (now due : ℚ) : PacerWorld :=
  { world with pacer, reads := { due, exact := pacer.exact now, returned := pacer.pace now } :: world.reads }

def finish (world : PacerWorld) (position : Nat) (refresh : Refresh) (budgetUsd : Option ℚ)
    (days : List BillingDay) (configured : Bool) : PacerWorld :=
  { world with refreshes := world.refreshes.eraseIdx position }.answer
    (Pacer.refreshed refresh.at_ budgetUsd days configured) refresh.at_ refresh.due

def recordedAfter (world : PacerWorld) (costUsd : Option ℚ) : UtcDate → ℚ :=
  Function.update world.recorded (utcDate world.clock) (world.due + max 0 (costUsd.getD 0))

def step (ttlMs : ℚ) (world : PacerWorld) : PacerEvent → PacerWorld
  | .read =>
      if world.pacer.fresh world.clock ttlMs then world.answer world.pacer world.clock world.due
      else
        { world with
          refreshes := world.refreshes ++ [{ at_ := world.clock, due := world.due, phase := .settings }] }
  | .settings position budgetUsd =>
      match world.refreshes[position]? with
      | some { at_, due, phase := .settings } =>
          match budgetUsd.filter (· ≠ 0) with
          -- the report begins at once
          | some budget =>
              let phase := .report budget (world.recorded (utcDate at_))
              { world with refreshes := world.refreshes.set position { at_, due, phase } }
          | none => world.finish position { at_, due, phase := .settings } budgetUsd [] false
      | _ => world
  | .report position days configured =>
      match world.refreshes[position]? with
      | some { at_, due, phase := .report budget included } =>
          world.finish position { at_, due, phase := .report budget included } (some budget) days configured
      | _ => world
  | .failed position => { world with refreshes := world.refreshes.eraseIdx position }
  | .record costUsd =>
      { world with pacer := world.pacer.record costUsd, recorded := world.recordedAfter costUsd }
  | .tick now => { world with clock := now }

def start (world : PacerWorld) : Prop := ∃ clock, world = { clock }

end PacerWorld

/-- A report contains exactly the costs recorded before it began. -/
def ReportsRight (world : PacerWorld) : PacerEvent → Prop
  | .report position days _ =>
      ∀ at_ due budget included, world.refreshes[position]? = some { at_, due, phase := .report budget included } →
        daySpent days (utcDate at_) = included
  | _ => True

/-- No cost of its day was recorded while the report was read. -/
def Undisturbed (world : PacerWorld) : PacerEvent → Prop
  | .report position _ _ =>
      ∀ at_ due budget included, world.refreshes[position]? = some { at_, due, phase := .report budget included } →
        world.recorded (utcDate at_) = included
  | _ => True

def ReportsUndisturbed (world : PacerWorld) (event : PacerEvent) : Prop :=
  ReportsRight world event ∧ Undisturbed world event

/-- Every read's spend of today covers what was recorded before it, and once that reaches the
allowance the read stops. -/
def NoneOutran (world : PacerWorld) : Prop :=
  ∀ read ∈ world.reads, ∀ exact, read.exact = some exact →
    read.due ≤ exact.todaySpentUsd ∧
      (exact.allowanceTodayUsd ≤ read.due → ∀ returned, read.returned = some returned → returned.stop ≠ none)

theorem daySpent_month (days : List BillingDay) (today : UtcDate) :
    daySpent (days.filter fun day => day.day.year = today.year ∧ day.day.month = today.month) today =
      daySpent days today := by
  have same : (fun day : BillingDay => decide (decide (day.day.year = today.year ∧ day.day.month = today.month) = true ∧
      decide (day.day = today) = true)) = fun day => decide (day.day = today) := by
    funext day
    by_cases here : day.day = today <;> simp [here]
  rw [daySpent, List.find?_filter, same, daySpent]

theorem exactPace_todaySpent (budgetUsd : ℚ) (days : List BillingDay) (now extraTodayUsd : ℚ) :
    (exactPace budgetUsd days now extraTodayUsd).todaySpentUsd = daySpent days (utcDate now) + extraTodayUsd :=
  congrArg (· + extraTodayUsd) (daySpent_month days (utcDate now))

theorem budgetStop_reached {remainingUsd allowanceTodayUsd todaySpentUsd : ℚ}
    (reached : allowanceTodayUsd ≤ todaySpentUsd) : budgetStop remainingUsd allowanceTodayUsd todaySpentUsd ≠ none := by
  unfold budgetStop
  split <;> simp

theorem returned_exact (pacer : Pacer) (now : ℚ) : pacer.pace now = (pacer.exact now).map ApiBudgetPace.rounded := by
  unfold Pacer.pace Pacer.exact
  cases pacer.cached with
  | none => rfl
  | some cached =>
    dsimp only
    split <;> rfl

theorem exact_some {pacer : Pacer} {now : ℚ} {pace : ApiBudgetPace} (decided : pacer.exact now = some pace) :
    ∃ cached budget, pacer.cached = some cached ∧ cached.configured = true ∧
      pace = exactPace budget cached.days now pacer.since := by
  unfold Pacer.exact at decided
  cases cached : pacer.cached with
  | none => simp [cached] at decided
  | some report =>
    simp only [cached] at decided
    split at decided
    · next configured =>
      unfold unroundedPace at decided
      split at decided
      · cases decided
      · next budget set =>
        split at decided
        · cases decided
        · exact ⟨report, budget, rfl, configured, (Option.some.inj decided).symm⟩
    · cases decided

theorem NoneOutran.answer {world : PacerWorld} (before : NoneOutran world) {pacer : Pacer} {now due : ℚ}
    (covers : ∀ cached, pacer.cached = some cached → cached.configured = true →
      due ≤ daySpent cached.days (utcDate now) + pacer.since) :
    NoneOutran (world.answer pacer now due) := by
  intro read member exact_ decided
  rcases List.mem_cons.mp member with rfl | member
  · obtain ⟨cached, budget, found, configured, rfl⟩ := exact_some decided
    have enough := covers cached found configured
    rw [← exactPace_todaySpent budget] at enough
    refine ⟨enough, ?_⟩
    intro allowance returned given
    dsimp only at given decided
    rw [returned_exact, decided] at given
    cases given
    exact budgetStop_reached (allowance.trans enough)
  · exact before read member exact_ decided

/-- The cached report and what was added since cover all that was recorded on its day. -/
structure Covered (world : PacerWorld) : Prop where
  since : 0 ≤ world.pacer.since
  cached : ∀ cached, world.pacer.cached = some cached → cached.configured = true →
    world.recorded cached.day ≤ daySpent cached.days cached.day + world.pacer.since
  called : ∀ refresh ∈ world.refreshes, refresh.due ≤ world.recorded (utcDate refresh.at_)
  began : ∀ refresh ∈ world.refreshes, ∀ budgetUsd included,
    refresh.phase = .report budgetUsd included → refresh.due ≤ included
  reads : NoneOutran world

section

variable {world : PacerWorld}

theorem start_covered (start : PacerWorld.start world) : Covered world := by
  obtain ⟨clock, rfl⟩ := start
  exact {
    since := le_refl 0
    cached := fun cached none_ => by cases none_
    called := fun refresh member => absurd member List.not_mem_nil
    began := fun refresh member => absurd member List.not_mem_nil
    reads := fun read member => absurd member List.not_mem_nil }

theorem Covered.read (covered : Covered world) (ttlMs : ℚ) : Covered (world.step ttlMs .read) := by
  simp only [PacerWorld.step]
  split
  · next fresh =>
    have covers : ∀ cached, world.pacer.cached = some cached → cached.configured = true →
        world.due ≤ daySpent cached.days (utcDate world.clock) + world.pacer.since := by
      intro cached found configured
      have day : cached.day = utcDate world.clock := by
        simp only [Pacer.fresh, found, Option.any_some, decide_eq_true_eq] at fresh
        exact fresh.1
      have enough := covered.cached cached found configured
      rw [day] at enough
      exact enough
    exact { covered with reads := covered.reads.answer covers }
  · refine { covered with called := ?_, began := ?_ }
    · intro refresh member
      rcases List.mem_append.mp member with member | member
      · exact covered.called refresh member
      · rw [List.mem_singleton.mp member]
        exact le_refl _
    · intro refresh member budgetUsd included phase
      rcases List.mem_append.mp member with member | member
      · exact covered.began refresh member budgetUsd included phase
      · rw [List.mem_singleton.mp member] at phase
        cases phase

theorem Covered.finish (covered : Covered world) (position : Nat) {refresh : Refresh} {budgetUsd : Option ℚ}
    {days : List BillingDay} {configured : Bool}
    (covers : configured = true → refresh.due ≤ daySpent days (utcDate refresh.at_) ∧
      world.recorded (utcDate refresh.at_) ≤ daySpent days (utcDate refresh.at_)) :
    Covered (world.finish position refresh budgetUsd days configured) where
  since := le_refl 0
  cached := by
    intro cached found on
    cases found
    have enough := (covers on).2
    rw [← add_zero (daySpent days (utcDate refresh.at_))] at enough
    exact enough
  called := fun other member => covered.called other (List.mem_of_mem_eraseIdx member)
  began := fun other member => covered.began other (List.mem_of_mem_eraseIdx member)
  reads := by
    refine NoneOutran.answer covered.reads ?_
    intro cached found on
    cases found
    have enough := (covers on).1
    rw [← add_zero (daySpent days (utcDate refresh.at_))] at enough
    exact enough

theorem Covered.settings (covered : Covered world) (ttlMs : ℚ) (position : Nat) (budgetUsd : Option ℚ) :
    Covered (world.step ttlMs (.settings position budgetUsd)) := by
  simp only [PacerWorld.step]
  split
  · next at_ due waiting =>
    have called := covered.called _ (List.mem_of_getElem? waiting)
    split
    · refine { covered with called := ?_, began := ?_ }
      · intro refresh member
        rcases List.mem_or_eq_of_mem_set member with member | rfl
        · exact covered.called refresh member
        · exact called
      · intro refresh member budget included phase
        rcases List.mem_or_eq_of_mem_set member with member | rfl
        · exact covered.began refresh member budget included phase
        · cases phase
          exact called
    · exact covered.finish position (fun off => by cases off)
  · exact covered

theorem Covered.report (covered : Covered world) (ttlMs : ℚ) {position : Nat} {days : List BillingDay}
    {configured : Bool} (right : ReportsRight world (.report position days configured))
    (undisturbed : Undisturbed world (.report position days configured)) :
    Covered (world.step ttlMs (.report position days configured)) := by
  simp only [PacerWorld.step]
  split
  · next at_ due budget included waiting =>
    have contains := right at_ due budget included waiting
    refine covered.finish position fun _ => ⟨?_, ?_⟩
    · rw [contains]
      exact covered.began _ (List.mem_of_getElem? waiting) budget included rfl
    · rw [contains, undisturbed at_ due budget included waiting]
  · exact covered

theorem recorded_mono (costUsd : Option ℚ) (day : UtcDate) : world.recorded day ≤ world.recordedAfter costUsd day := by
  unfold PacerWorld.recordedAfter
  by_cases today : day = utcDate world.clock
  · rw [today, Function.update_self]
    exact le_add_of_nonneg_right (le_max_left 0 _)
  · rw [Function.update_of_ne today]

theorem record_since (pacer : Pacer) (costUsd : Option ℚ) : (pacer.record costUsd).cached = pacer.cached ∧
      (pacer.record costUsd).since = pacer.since + max 0 (costUsd.getD 0) := by
  unfold Pacer.record
  cases costUsd with
  | none => simp
  | some cost =>
    by_cases positive : 0 < cost
    · simp [positive, positive.le]
    · simp [positive, not_lt.mp positive]

theorem Covered.record (covered : Covered world) (ttlMs : ℚ) (costUsd : Option ℚ) :
    Covered (world.step ttlMs (.record costUsd)) := by
  obtain ⟨sameReport, added⟩ := record_since world.pacer costUsd
  have growth : 0 ≤ max 0 (costUsd.getD 0) := le_max_left 0 _
  refine ⟨?_, ?_, ?_, covered.began, covered.reads⟩
  · simp only [PacerWorld.step, added]
    exact add_nonneg covered.since growth
  · intro cached found configured
    simp only [PacerWorld.step, sameReport] at found
    have enough := covered.cached cached found configured
    simp only [PacerWorld.step, added, PacerWorld.recordedAfter]
    by_cases today : cached.day = utcDate world.clock
    · rw [today, Function.update_self, PacerWorld.due]
      rw [today] at enough
      linarith
    · rw [Function.update_of_ne today]
      linarith
  · intro refresh member
    exact (covered.called refresh member).trans (recorded_mono costUsd _)

theorem Covered.step (covered : Covered world) (ttlMs : ℚ) {event : PacerEvent}
    (allowed : ReportsUndisturbed world event) : Covered (world.step ttlMs event) := by
  cases event with
  | read => exact covered.read ttlMs
  | settings position budgetUsd => exact covered.settings ttlMs position budgetUsd
  | report position days configured => exact covered.report ttlMs allowed.1 allowed.2
  | failed position =>
    exact { covered with
        called := fun other member => covered.called other (List.mem_of_mem_eraseIdx member),
        began := fun other member => covered.began other (List.mem_of_mem_eraseIdx member) }
  | record costUsd => exact covered.record ttlMs costUsd
  | tick now => exact { covered with }

end

/-- While no cost is recorded during a report of its day, no burst outruns the cache. -/
theorem undisturbed_none_outran (ttlMs : ℚ) {world : PacerWorld}
    (reached : Reached PacerWorld.start ReportsUndisturbed (PacerWorld.step ttlMs) world) : NoneOutran world := by
  have covered : Covered world := by
    refine reached.invariant (fun _ start => start_covered start) ?_
    intro before event holds allowed
    exact holds.step ttlMs allowed
  exact covered.reads

/-- A cost recorded while its day's report was read is in neither: the next read goes by less
than was recorded. -/
theorem disturbed_read_short {world : PacerWorld} {ttlMs : ℚ} {position : Nat} {days : List BillingDay}
    {at_ due budget included : ℚ}
    (waiting : world.refreshes[position]? = some { at_, due, phase := .report budget included })
    (right : daySpent days (utcDate at_) = included) (disturbed : included < world.recorded (utcDate at_))
    (positive : 0 < budget) (today : utcDate world.clock = utcDate at_) (recent : world.clock - at_ < ttlMs) :
    ¬ NoneOutran ((world.step ttlMs (.report position days true)).step ttlMs .read) := by
  intro none_
  have reported : world.step ttlMs (.report position days true) =
      world.finish position { at_, due, phase := .report budget included } (some budget) days true := by
    simp only [PacerWorld.step, waiting]
  have answered : (world.step ttlMs (.report position days true)).step ttlMs .read =
      (world.step ttlMs (.report position days true)).answer
        (Pacer.refreshed at_ (some budget) days true) world.clock (world.recorded (utcDate at_)) := by
    rw [reported, ← today]
    simp [PacerWorld.step, PacerWorld.finish, PacerWorld.answer, PacerWorld.due, Pacer.fresh, Pacer.refreshed,
      today, recent]
  have decided : (Pacer.refreshed at_ (some budget) days true).exact world.clock =
      some (exactPace budget days world.clock 0) := by
    simp [Pacer.exact, Pacer.refreshed, unroundedPace, positive]
  rw [answered] at none_
  have enough := (none_ _ List.mem_cons_self _ decided).1
  rw [exactPace_todaySpent, add_zero, today, right] at enough
  exact absurd enough (not_le.mpr disturbed)

def burstStart : PacerWorld where
  clock := 0

def burstRun (events : List PacerEvent) : PacerWorld := events.foldl (PacerWorld.step 60000) burstStart

/-- A budget of 31 dollars for January leaves 1 dollar for each of its days. -/
def januaryBudget : PacerEvent := .settings 0 (some 31)

theorem undisturbed_none_outran_january :
    NoneOutran (burstRun [.read, januaryBudget, .report 0 [] true, .record (some 2), .read]) ∧
      (burstRun [.read, januaryBudget, .report 0 [] true, .record (some 2), .read]).reads.map
        (fun read => read.returned.bind ApiBudgetPace.stop) = [some .dailyAllowanceReached, none] := by
  refine ⟨undisturbed_none_outran 60000 ?_, by decide +kernel⟩
  refine Reached.run (.start ⟨0, rfl⟩) ⟨⟨trivial, trivial⟩, ⟨trivial, trivial⟩, ⟨?_, ?_⟩, ⟨trivial, trivial⟩,
    ⟨trivial, trivial⟩, trivial⟩
  · intro at_ due budget included waiting
    cases waiting
    rfl
  · intro at_ due budget included waiting
    cases waiting
    rfl

/-- The two dollars are recorded while the report is read: no later read of the minute sees them. -/
theorem recorded_during_report_lost : ¬ ∀ (ttlMs : ℚ) (world : PacerWorld),
      Reached PacerWorld.start ReportsRight (PacerWorld.step ttlMs) world → NoneOutran world := by
  intro always
  have reached : Reached PacerWorld.start ReportsRight (PacerWorld.step 60000)
      (burstRun [.read, januaryBudget, .record (some 2), .report 0 [] true, .read]) := by
    refine Reached.run (.start ⟨0, rfl⟩) ⟨trivial, trivial, trivial, ?_, trivial, trivial⟩
    intro at_ due budget included waiting
    cases waiting
    rfl
  have before : (burstRun [.read, januaryBudget, .record (some 2)]).refreshes[0]? =
      some { at_ := 0, due := 0, phase := .report 31 0 } := rfl
  exact disturbed_read_short before rfl (by decide +kernel) (by decide +kernel) rfl (by decide +kernel)
    (always 60000 _ reached)

end SpaceApp.Gateway.Claude
