import SpaceApp.Schedules.WallTimes
import SpaceApp.Foundation.Scan

/-! The next run of a schedule (`dot-schedules.ts`), and which days a recurring schedule visits.
-/

set_option autoImplicit false

namespace SpaceApp.Schedules

open SpaceApp.Foundation

/-- What the schema allows for `time`. -/
structure Time where
  hour : ℤ
  minute : ℤ
  hour_range : 0 ≤ hour ∧ hour < 24
  minute_range : 0 ≤ minute ∧ minute < 60

/-- What the schema allows for `days`. -/
structure Days where
  days : List ℤ
  nonempty : days ≠ []
  range : ∀ day ∈ days, 0 ≤ day ∧ day ≤ 6

inductive Recurrence where
  | once (instant : ℤ)
  | daily (time : Time)
  | weekly (days : Days) (time : Time)
  | interval (minutes : ℤ)

structure LocalDate where
  year : ℤ
  month : ℤ
  day : ℤ
  weekday : ℤ
  deriving DecidableEq

def weekdayIndex (weekday : String) : ℤ := if weekday ∈ weekdays then weekdays.idxOf weekday else -1

def localDate (zoneParts : Zone) (utcMs : ℤ) : LocalDate :=
  let parts := zoneParts utcMs
  { year := parts.year
    month := parts.month - 1
    day := parts.day
    weekday := weekdayIndex parts.weekday }

def Recurrence.skips (recurrence : Recurrence) (weekday : ℤ) : Bool :=
  match recurrence with
  | .weekly days _ => !days.days.contains weekday
  | _ => false

def scanDay (zoneParts : Zone) (recurrence : Recurrence) (time : Time) (afterMs : ℤ) (start : LocalDate) (later : ℕ) :
    Option ℤ :=
  let day := civilDate (dateUTC start.year start.month (start.day + later) 0 0 0 / 86400000)
  let candidate := zonedWallTimeToUtc zoneParts day.year (day.month - 1) day.day time.hour time.minute
  if candidate ≤ afterMs then none
  else if recurrence.skips (localDate zoneParts candidate).weekday then none
  else some candidate

def scan (zoneParts : Zone) (recurrence : Recurrence) (time : Time) (afterMs : ℤ) : Option ℤ :=
  (List.range 9).findSome? (scanDay zoneParts recurrence time afterMs (localDate zoneParts afterMs))

def nextDotScheduleRun (recurrence : Recurrence) (zoneParts : Zone) (afterMs : ℤ) : Option ℤ :=
  match recurrence with
  | .once instant => if instant > afterMs then some instant else none
  | .interval minutes => some (afterMs + minutes * 60000)
  | .daily time => scan zoneParts recurrence time afterMs
  | .weekly _ time => scan zoneParts recurrence time afterMs

/-- The runs of a schedule that is moved on each time it fires. -/
def iterate (recurrence : Recurrence) (zoneParts : Zone) : ℕ → ℤ → List ℤ
  | 0, _ => []
  | count + 1, afterMs =>
    match nextDotScheduleRun recurrence zoneParts afterMs with
    | none => []
    | some run => run :: iterate recurrence zoneParts count run

def Recurrence.wallTime : Recurrence → Option Time
  | .daily time => some time
  | .weekly _ time => some time
  | _ => none

def Recurrence.Matches (recurrence : Recurrence) (day : ℤ) : Prop := recurrence.skips ((day + 4) % 7) = false

def Time.on (time : Time) (day : ℤ) : ℤ := day * 86400000 + time.hour * 3600000 + time.minute * 60000

/-- The first instant of a wall time, a skipped one moved forward. -/
def Change.run (change : Change) (wall : ℤ) : ℤ :=
  if wall - change.before < change.instant then wall - change.before
  else if change.instant ≤ wall - change.after then wall - change.after
  else wall - change.before

def localDay (offset : ℤ → ℤ) (utcMs : ℤ) : ℤ := (utcMs / 1000 * 1000 + offset utcMs) / 86400000

/-- A zone whose offsets, in whole seconds and below a day, differ by at most six hours and change at most once
within two days of each of the wall times. -/
structure Rules (offset : ℤ → ℤ) (change : ℤ → Change) (time : Time) : Prop where
  seconds : ∀ utcMs, offset utcMs % 1000 = 0
  small : ∀ utcMs, |offset utcMs| < 86400000
  steady : ∀ utcMs other, |offset utcMs - offset other| ≤ 21600000
  near : ∀ day utcMs, |utcMs - time.on day| ≤ 172800000 → offset utcMs = (change day).offset utcMs
  before : ∀ day, |(change day).before| < 86400000
  after : ∀ day, |(change day).after| < 86400000

/-- The change is resolved the right way, and moves the wall time to no later day. -/
structure Fair (change : Change) (wall day : ℤ) : Prop where
  skipped : change.Skips wall → change.instant ≤ wall
  repeated : change.Repeats wall → wall < change.instant
  sameDay : change.Skips wall → wall + (change.after - change.before) < (day + 1) * 86400000

section
variable {offset : ℤ → ℤ} {change : ℤ → Change} {time : Time}

theorem on_range (time : Time) (day : ℤ) : day * 86400000 ≤ time.on day ∧ time.on day < (day + 1) * 86400000 := by
  have hour := time.hour_range
  have minute := time.minute_range
  rw [Time.on]
  omega

theorem weekdayIndex_weekdays {weekday : ℤ} (low : 0 ≤ weekday) (high : weekday < 7) :
    weekdayIndex (weekdays.getD weekday.toNat "") = weekday := by
  have cases : weekday = 0 ∨ weekday = 1 ∨ weekday = 2 ∨ weekday = 3 ∨ weekday = 4 ∨ weekday = 5 ∨ weekday = 6 := by
    omega
  rcases cases with rfl | rfl | rfl | rfl | rfl | rfl | rfl <;> decide

theorem localDate_clock {utcMs : ℤ} (late : -682500 ≤ localDay offset utcMs) : localDate (clock offset) utcMs =
      { year := (civilDate (localDay offset utcMs)).year
        month := (civilDate (localDay offset utcMs)).month - 1
        day := (civilDate (localDay offset utcMs)).day
        weekday := (localDay offset utcMs + 4) % 7 } := by
  have year := civilDate_year late
  have positive : 0 < (civilDate (localDay offset utcMs)).year := by omega
  have low : 0 ≤ (localDay offset utcMs + 4) % 7 := by omega
  have high : (localDay offset utcMs + 4) % 7 < 7 := by omega
  have weekday := weekdayIndex_weekdays low high
  rw [localDay] at positive weekday
  simp only [localDate, clock, partsOf, localDay, positive, if_true, weekday]

theorem localDay_eq (rules : Rules offset change time) (utcMs : ℤ) :
    localDay offset utcMs = (utcMs + offset utcMs) / 86400000 := by
  have seconds := rules.seconds utcMs
  rw [localDay]
  omega

theorem scanned_day {utcMs : ℤ} (late : -682500 ≤ localDay offset utcMs) (later : ℕ) :
    dateUTC (localDate (clock offset) utcMs).year (localDate (clock offset) utcMs).month
      ((localDate (clock offset) utcMs).day + later) 0 0 0 / 86400000 = localDay offset utcMs + later := by
  have year := civilDate_year late
  have full : fullYear (civilDate (localDay offset utcMs)).year = (civilDate (localDay offset utcMs)).year := by
    rw [fullYear, if_neg (by omega)]
  rw [localDate_clock late]
  simp only [dateUTC, full, makeDay_later, makeDay_civilDate]
  omega

theorem dateUTC_on (time : Time) {day : ℤ} (late : -682500 ≤ day) :
    dateUTC (civilDate day).year ((civilDate day).month - 1) (civilDate day).day time.hour time.minute 0 = time.on day := by
  have year := civilDate_year late
  have full : fullYear (civilDate day).year = (civilDate day).year := by
    rw [fullYear, if_neg (by omega)]
  rw [dateUTC, full, makeDay_civilDate, Time.on]
  omega

/-- The instant that the code gives the time of a day. -/
def converted (offset : ℤ → ℤ) (time : Time) (day : ℤ) : ℤ := time.on day - offset (time.on day - offset (time.on day))

theorem zonedWallTimeToUtc_clock (rules : Rules offset change time) {day : ℤ} (late : -682400 ≤ day) :
    zonedWallTimeToUtc (clock offset) (civilDate day).year ((civilDate day).month - 1) (civilDate day).day time.hour
      time.minute = converted offset time day := by
  have range := on_range time day
  have first := abs_lt.mp (rules.small (time.on day))
  have second := abs_lt.mp (rules.small (time.on day - offset (time.on day)))
  simp only [zonedWallTimeToUtc, dateUTC_on time (by omega : -682500 ≤ day), converted]
  have guess : zoneOffset (clock offset) (time.on day) = offset (time.on day) :=
    zoneOffset_clock (rules.seconds _) (by omega)
  rw [guess, zoneOffset_clock (rules.seconds _) (by omega)]

theorem Change.offset_cases (change : Change) (utcMs : ℤ) :
    utcMs < change.instant ∧ change.offset utcMs = change.before ∨
      change.instant ≤ utcMs ∧ change.offset utcMs = change.after := by
  rw [Change.offset]
  split <;> omega

theorem Change.run_cases (change : Change) (wall : ℤ) :
    wall - change.before < change.instant ∧ change.run wall = wall - change.before ∨
      change.instant ≤ wall - change.before ∧ change.instant ≤ wall - change.after ∧ change.run wall = wall - change.after ∨
      change.Skips wall ∧ change.run wall = wall - change.before := by
  rw [Change.run, Change.Skips]
  split
  · omega
  · split <;> omega

section
variable (rules : Rules offset change time)

include rules

theorem near_wall (day utcMs : ℤ) (late : time.on day - 172800000 ≤ utcMs)
    (early : utcMs ≤ time.on day + 172800000) : offset utcMs = (change day).offset utcMs :=
  rules.near day utcMs (by rw [abs_le]; omega)

theorem run_range (day : ℤ) :
    time.on day - 86400000 < (change day).run (time.on day) ∧ (change day).run (time.on day) < time.on day + 86400000 := by
  have before := abs_lt.mp (rules.before day)
  have after := abs_lt.mp (rules.after day)
  have run := (change day).run_cases (time.on day)
  omega

theorem converted_fair {day : ℤ} (fair : Fair (change day) (time.on day) day) :
    converted offset time day = (change day).run (time.on day) := by
  have small := abs_lt.mp (rules.small (time.on day))
  obtain ⟨skipped, repeated, _⟩ := fair
  have guess := near_wall rules day (time.on day) (by omega) (by omega)
  have step := near_wall rules day (time.on day - offset (time.on day)) (by omega) (by omega)
  have side := (change day).offset_cases (time.on day)
  have first := (change day).offset_cases (time.on day - offset (time.on day))
  have run := (change day).run_cases (time.on day)
  simp only [Change.Skips, Change.Repeats] at skipped repeated run
  rw [converted]
  omega

theorem localDay_run {day : ℤ} (fair : Fair (change day) (time.on day) day) :
    localDay offset ((change day).run (time.on day)) = day := by
  have range := on_range time day
  have bounds := run_range rules day
  have shown := near_wall rules day ((change day).run (time.on day)) (by omega) (by omega)
  have side := (change day).offset_cases ((change day).run (time.on day))
  have run := (change day).run_cases (time.on day)
  have sameDay := fair.sameDay
  simp only [Change.Skips] at sameDay run
  rw [localDay_eq rules, shown]
  omega

theorem exists_offset (day : ℤ) : ∃ utcMs, (change day).run (time.on day) = time.on day - offset utcMs := by
  have before := abs_lt.mp (rules.before day)
  have after := abs_lt.mp (rules.after day)
  have early := near_wall rules day (time.on day - 172800000) (by omega) (by omega)
  have late := near_wall rules day (time.on day + 172800000) (by omega) (by omega)
  have early_side := (change day).offset_cases (time.on day - 172800000)
  have late_side := (change day).offset_cases (time.on day + 172800000)
  rcases (change day).run_cases (time.on day) with ⟨first, run⟩ | ⟨_, second, run⟩ | ⟨skips, run⟩
  · exact ⟨time.on day - 172800000, by omega⟩
  · exact ⟨time.on day + 172800000, by omega⟩
  · rw [Change.Skips] at skips
    exact ⟨time.on day - 172800000, by omega⟩

theorem oneChange_rules {day : ℤ} (late : -682400 ≤ day) : OneChange (clock offset) (change day) (time.on day) := by
  have before := rules.before day
  have after := rules.after day
  have range := on_range time day
  refine ⟨?_⟩
  intro utcMs near
  have radius : max |(change day).before| |(change day).after| < 86400000 := max_lt before after
  have bounds := abs_le.mp (near.trans radius.le)
  have small := abs_lt.mp (rules.small utcMs)
  rw [zoneOffset_clock (rules.seconds utcMs) (by omega)]
  exact near_wall rules day utcMs (by omega) (by omega)

theorem run_resolved {day : ℤ} (late : -682400 ≤ day) :
    Resolved (clock offset) (change day) (time.on day) ((change day).run (time.on day)) := by
  have one := oneChange_rules rules late
  have run := (change day).run_cases (time.on day)
  constructor
  · intro there
    have kept := (exists_shows one).mp there
    have shown : Shows (clock offset) (change day) (time.on day) ((change day).run (time.on day)) := by
      rw [shows_iff one]
      rcases run with ⟨early, run⟩ | ⟨_, after, run⟩ | ⟨skips, run⟩
      · exact .inl ⟨run, by omega⟩
      · exact .inr ⟨run, by omega⟩
      · exact absurd skips kept
    refine ⟨shown.2, (first_shown one _).mpr ?_⟩
    simp only [Change.Skips] at kept run
    omega
  · intro nowhere
    have skips : (change day).Skips (time.on day) := by_contra fun kept => nowhere ((exists_shows one).mpr kept)
    simp only [Change.Skips] at skips run
    omega

end

section

variable (rules : Rules offset change time)

include rules

theorem run_lt {day later : ℤ} (before : day < later) :
    (change day).run (time.on day) < (change later).run (time.on later) := by
  obtain ⟨utcMs, first⟩ := exists_offset rules day
  obtain ⟨other, second⟩ := exists_offset rules later
  have steady := abs_le.mp (rules.steady utcMs other)
  rw [first, second, Time.on, Time.on]
  omega

theorem run_before {afterMs day : ℤ} (before : day < localDay offset afterMs)
    (fair : Fair (change (localDay offset afterMs - 1)) (time.on (localDay offset afterMs - 1)) (localDay offset afterMs - 1)) :
    (change day).run (time.on day) ≤ afterMs := by
  have shown := localDay_eq rules afterMs
  by_cases next : day = localDay offset afterMs - 1
  · subst next
    have range := on_range time (localDay offset afterMs - 1)
    have bounds := run_range rules (localDay offset afterMs - 1)
    have small := abs_lt.mp (rules.small afterMs)
    by_contra ahead
    -- the instant is near enough to the wall time for the same change to be the only one
    have same := near_wall rules (localDay offset afterMs - 1) afterMs (by omega) (by omega)
    have side := (change (localDay offset afterMs - 1)).offset_cases afterMs
    have run := (change (localDay offset afterMs - 1)).run_cases (time.on (localDay offset afterMs - 1))
    have sameDay := fair.sameDay
    rcases run with ⟨early, run⟩ | ⟨_, late, run⟩ | ⟨skips, run⟩
    · omega
    · omega
    · have limit := sameDay skips
      omega
  · obtain ⟨utcMs, run⟩ := exists_offset rules day
    have steady := abs_le.mp (rules.steady utcMs afterMs)
    have range := on_range time day
    omega

theorem run_after {afterMs day : ℤ} (later : localDay offset afterMs + 2 ≤ day) :
    afterMs < (change day).run (time.on day) := by
  obtain ⟨utcMs, run⟩ := exists_offset rules day
  have steady := abs_le.mp (rules.steady utcMs afterMs)
  have shown := localDay_eq rules afterMs
  have range := on_range time day
  omega

theorem scanDay_fair (recurrence : Recurrence) {afterMs : ℤ} (late : -682400 ≤ localDay offset afterMs) (later : ℕ)
    (fair : Fair (change (localDay offset afterMs + later)) (time.on (localDay offset afterMs + later))
      (localDay offset afterMs + later)) :
    scanDay (clock offset) recurrence time afterMs (localDate (clock offset) afterMs) later =
      if (change (localDay offset afterMs + later)).run (time.on (localDay offset afterMs + later)) ≤ afterMs then none
      else if recurrence.skips ((localDay offset afterMs + later + 4) % 7) then none
      else some ((change (localDay offset afterMs + later)).run (time.on (localDay offset afterMs + later))) := by
  have day := scanned_day (by omega : -682500 ≤ localDay offset afterMs) later
  have candidate := zonedWallTimeToUtc_clock rules (by omega : -682400 ≤ localDay offset afterMs + later)
  rw [converted_fair rules fair] at candidate
  have shown := localDay_run rules fair
  have weekday := localDate_clock (by omega : -682500 ≤ localDay offset
    ((change (localDay offset afterMs + later)).run (time.on (localDay offset afterMs + later))))
  rw [shown] at weekday
  simp only [scanDay, day, candidate, weekday]

end

theorem nextDotScheduleRun_timed {recurrence : Recurrence} (timed : recurrence.wallTime = some time) (zoneParts : Zone)
    (afterMs : ℤ) : nextDotScheduleRun recurrence zoneParts afterMs = scan zoneParts recurrence time afterMs := by
  cases recurrence with
  | once instant => cases timed
  | daily time' =>
    cases timed
    rfl
  | weekly days time' =>
    cases timed
    rfl
  | interval minutes => cases timed

theorem exists_match {recurrence : Recurrence} (timed : recurrence.wallTime = some time) (day : ℤ) :
    ∃ later : ℕ, later < 7 ∧ recurrence.Matches (day + later) := by
  cases recurrence with
  | once instant => cases timed
  | daily time' => exact ⟨0, by omega, rfl⟩
  | weekly days time' =>
    obtain ⟨weekday, member⟩ := List.exists_mem_of_ne_nil _ days.nonempty
    have range := days.range weekday member
    refine ⟨((weekday - (day + 4)) % 7).toNat, by omega, ?_⟩
    have same : (day + ((weekday - (day + 4)) % 7).toNat + 4) % 7 = weekday := by omega
    rw [Recurrence.Matches, same, Recurrence.skips]
    simpa using member
  | interval minutes => cases timed

/-- One call finds the first of the days that match and whose run is still to come. -/
theorem next_fair (rules : Rules offset change time) {recurrence : Recurrence} (timed : recurrence.wallTime = some time)
    {afterMs : ℤ} (late : -682400 ≤ localDay offset afterMs)
    (fair : ∀ day, localDay offset afterMs - 1 ≤ day → day ≤ localDay offset afterMs + 8 →
      Fair (change day) (time.on day) day) :
    ∃ day, localDay offset afterMs ≤ day ∧ day ≤ localDay offset afterMs + 8 ∧ recurrence.Matches day ∧
      afterMs < (change day).run (time.on day) ∧
      nextDotScheduleRun recurrence (clock offset) afterMs = some ((change day).run (time.on day)) ∧
      ∀ other, recurrence.Matches other → afterMs < (change other).run (time.on other) → day ≤ other := by
  have looked : ∀ later : ℕ, later ≤ 8 → _ := fun later inside =>
    scanDay_fair rules recurrence late later (fair _ (by omega) (by omega))
  have there : ∃ later : ℕ, recurrence.Matches (localDay offset afterMs + later) ∧
      afterMs < (change (localDay offset afterMs + later)).run (time.on (localDay offset afterMs + later)) ∧ later ≤ 8 := by
    obtain ⟨later, small, fits⟩ := exists_match timed (localDay offset afterMs + 2)
    have moved : localDay offset afterMs + 2 + later = localDay offset afterMs + ((later + 2 : ℕ) : ℤ) := by
      omega
    exact ⟨later + 2, moved ▸ fits, run_after rules (by omega), by omega⟩
  classical
  obtain ⟨fits, ahead, inside⟩ := Nat.find_spec there
  have least := fun number (before : number < Nat.find there) => Nat.find_min there before
  generalize Nat.find there = later at fits ahead inside least
  refine ⟨localDay offset afterMs + later, by omega, by omega, fits, ahead, ?_, ?_⟩
  · rw [nextDotScheduleRun_timed timed, scan]
    refine findSome_range _ (by omega : later < 9) ?_ ?_
    · rw [looked later inside, if_neg (by omega), if_neg (by simpa [Recurrence.Matches] using fits)]
    · intro number before
      rw [looked number (by omega)]
      split
      · rfl
      · have unfit : ¬ recurrence.Matches (localDay offset afterMs + number) :=
          fun fits => least number before ⟨fits, by omega, by omega⟩
        rw [if_pos (by simpa [Recurrence.Matches] using unfit)]
  · intro other fits_other coming
    by_contra earlier
    have started : localDay offset afterMs ≤ other := by
      by_contra past
      have passed := run_before rules (by omega : other < localDay offset afterMs) (fair _ (by omega) (by omega))
      omega
    obtain ⟨number, rfl⟩ : ∃ number : ℕ, other = localDay offset afterMs + number :=
      ⟨(other - localDay offset afterMs).toNat, by omega⟩
    exact least number (by omega) ⟨fits_other, coming, by omega⟩

end

def havana : Change := ⟨dateUTC 2026 2 8 5 0 0, -18000000, -14400000⟩

def morning : Time := ⟨9, 0, by decide, by decide⟩
def night : Time := ⟨0, 30, by decide, by decide⟩
def sundays : Days := ⟨[0], by decide, by decide⟩

theorem havana_rules (time : Time) : Rules havana.offset (fun _ => havana) time := by
  have values : ∀ utcMs, havana.offset utcMs = -18000000 ∨ havana.offset utcMs = -14400000 := by
    intro utcMs
    rw [Change.offset]
    split
    · exact .inl rfl
    · exact .inr rfl
  refine ⟨?_, ?_, ?_, fun _ _ _ => rfl, fun _ => by decide, fun _ => by decide⟩
  · intro utcMs
    rcases values utcMs with value | value <;> omega
  · intro utcMs
    rcases values utcMs with value | value <;> rw [value] <;> decide
  · intro utcMs other
    rcases values utcMs with value | value <;> rcases values other with value' | value' <;> rw [value, value'] <;> decide

end SpaceApp.Schedules
