import SpaceApp.Foundation.Calendar

/-! Wall-clock times in a time zone (`dot-schedules.ts`), and how their conversion goes at a change of the
zone's offset.
-/

set_option autoImplicit false

namespace SpaceApp.Schedules

open SpaceApp.Foundation

/-- What `Intl.DateTimeFormat` shows. -/
structure Parts where
  year : ℤ
  month : ℤ
  day : ℤ
  hour : ℤ
  minute : ℤ
  second : ℤ
  weekday : String
  deriving DecidableEq

/-- A zone is known by what its formatter shows. -/
abbrev Zone := ℤ → Parts

def zoneOffset (zoneParts : Zone) (utcMs : ℤ) : ℤ :=
  let parts := zoneParts utcMs
  let asUtc := dateUTC parts.year (parts.month - 1) parts.day parts.hour parts.minute parts.second
  asUtc - utcMs / 1000 * 1000

def zonedWallTimeToUtc (zoneParts : Zone) (year month day hour minute : ℤ) : ℤ :=
  let guess := dateUTC year month day hour minute 0
  let result := guess - zoneOffset zoneParts guess
  guess - zoneOffset zoneParts result

def weekdays : List String := ["Sun", "Mon", "Tue", "Wed", "Thu", "Fri", "Sat"]

/-- A year before the first is shown without its era. -/
def partsOf (localMs : ℤ) : Parts :=
  let date := civilDate (localMs / 86400000)
  { year := if 0 < date.year then date.year else 1 - date.year
    month := date.month
    day := date.day
    hour := localMs / 3600000 % 24
    minute := localMs / 60000 % 60
    second := localMs / 1000 % 60
    weekday := weekdays.getD ((localMs / 86400000 + 4) % 7).toNat "" }

/-- What the formatter shows of a zone with these offsets, in whole seconds. -/
def clock (offset : ℤ → ℤ) : Zone := fun utcMs => partsOf (utcMs / 1000 * 1000 + offset utcMs)

theorem dateUTC_partsOf {localMs : ℤ} (seconds : localMs % 1000 = 0) (late : -682500 ≤ localMs / 86400000) :
    dateUTC (partsOf localMs).year ((partsOf localMs).month - 1) (partsOf localMs).day (partsOf localMs).hour
      (partsOf localMs).minute (partsOf localMs).second = localMs := by
  have year := civilDate_year late
  have positive : 0 < (civilDate (localMs / 86400000)).year := by omega
  have full : fullYear (civilDate (localMs / 86400000)).year = (civilDate (localMs / 86400000)).year := by
    rw [fullYear, if_neg (by omega)]
  simp only [dateUTC, partsOf, positive, if_true, full, makeDay_civilDate]
  omega

theorem zoneOffset_clock {offset : ℤ → ℤ} {utcMs : ℤ} (seconds : offset utcMs % 1000 = 0)
    (late : -682500 ≤ (utcMs / 1000 * 1000 + offset utcMs) / 86400000) : zoneOffset (clock offset) utcMs = offset utcMs := by
  have whole : (utcMs / 1000 * 1000 + offset utcMs) % 1000 = 0 := by omega
  simp only [zoneOffset, clock, dateUTC_partsOf whole late]
  omega

/-- The offset goes from one value to another. -/
structure Change where
  instant : ℤ
  before : ℤ
  after : ℤ
  deriving DecidableEq

def Change.offset (change : Change) (utcMs : ℤ) : ℤ := if utcMs < change.instant then change.before else change.after

/-- In the neighbourhood of a wall time, which the offsets bound, the zone has this change and no other. -/
structure OneChange (zoneParts : Zone) (change : Change) (wall : ℤ) : Prop where
  offset : ∀ utcMs, |utcMs - wall| ≤ max |change.before| |change.after| → zoneOffset zoneParts utcMs = change.offset utcMs

def localTime (zoneParts : Zone) (utcMs : ℤ) : ℤ := utcMs + zoneOffset zoneParts utcMs

/-- An instant of the neighbourhood at which the clock shows the wall time. -/
def Shows (zoneParts : Zone) (change : Change) (wall utcMs : ℤ) : Prop :=
  |utcMs - wall| ≤ max |change.before| |change.after| ∧ localTime zoneParts utcMs = wall

/-- The first instant of the wall time, and in a gap an instant not before the gap. -/
structure Resolved (zoneParts : Zone) (change : Change) (wall result : ℤ) : Prop where
  first : (∃ utcMs, Shows zoneParts change wall utcMs) →
    localTime zoneParts result = wall ∧ ∀ utcMs, Shows zoneParts change wall utcMs → result ≤ utcMs
  gap : (¬ ∃ utcMs, Shows zoneParts change wall utcMs) → change.instant ≤ result

def Change.Skips (change : Change) (wall : ℤ) : Prop :=
  change.instant + change.before ≤ wall ∧ wall < change.instant + change.after

/-- The wall time comes before and after the change. -/
def Change.Repeats (change : Change) (wall : ℤ) : Prop :=
  change.instant + change.after ≤ wall ∧ wall < change.instant + change.before

section
variable {zoneParts : Zone} {change : Change} {wall : ℤ}

theorem near_before : |wall - change.before - wall| ≤ max |change.before| |change.after| := by
  have distance : wall - change.before - wall = -change.before := by omega
  rw [distance, abs_neg]
  exact le_max_left _ _

theorem near_after : |wall - change.after - wall| ≤ max |change.before| |change.after| := by
  have distance : wall - change.after - wall = -change.after := by omega
  rw [distance, abs_neg]
  exact le_max_right _ _

theorem near_self : |wall - wall| ≤ max |change.before| |change.after| := by
  rw [sub_self, abs_zero]
  exact (abs_nonneg _).trans (le_max_left _ _)

theorem shows_iff (one : OneChange zoneParts change wall) (utcMs : ℤ) : Shows zoneParts change wall utcMs ↔
      utcMs = wall - change.before ∧ utcMs < change.instant ∨ utcMs = wall - change.after ∧ change.instant ≤ utcMs := by
  constructor
  · rintro ⟨near, shown⟩
    rw [localTime, one.offset utcMs near, Change.offset] at shown
    split at shown <;> omega
  · rintro (⟨rfl, early⟩ | ⟨rfl, late⟩)
    · refine ⟨near_before, ?_⟩
      rw [localTime, one.offset _ near_before, Change.offset, if_pos early]
      omega
    · refine ⟨near_after, ?_⟩
      rw [localTime, one.offset _ near_after, Change.offset, if_neg (by omega)]
      omega

theorem zonedWallTimeToUtc_change {year month day hour minute : ℤ}
    (one : OneChange zoneParts change (dateUTC year month day hour minute 0)) :
    zonedWallTimeToUtc zoneParts year month day hour minute =
      dateUTC year month day hour minute 0 -
        change.offset (dateUTC year month day hour minute 0 - change.offset (dateUTC year month day hour minute 0)) := by
  simp only [zonedWallTimeToUtc]
  generalize dateUTC year month day hour minute 0 = wall at one
  rw [one.offset wall near_self]
  by_cases early : wall < change.instant
  · rw [Change.offset, if_pos early, one.offset _ near_before]
  · rw [Change.offset, if_neg early, one.offset _ near_after]

section

variable (one : OneChange zoneParts change wall)

include one

theorem exists_shows : (∃ utcMs, Shows zoneParts change wall utcMs) ↔ ¬ change.Skips wall := by
  simp only [shows_iff one, Change.Skips]
  constructor
  · rintro ⟨utcMs, ⟨rfl, early⟩ | ⟨rfl, late⟩⟩ <;> omega
  · intro there
    by_cases early : wall < change.instant + change.before
    · exact ⟨_, .inl ⟨rfl, by omega⟩⟩
    · exact ⟨_, .inr ⟨rfl, by omega⟩⟩

theorem first_shown (result : ℤ) : (∀ utcMs, Shows zoneParts change wall utcMs → result ≤ utcMs) ↔
      (wall - change.before < change.instant → result ≤ wall - change.before) ∧
        (change.instant ≤ wall - change.after → result ≤ wall - change.after) := by
  simp only [shows_iff one]
  constructor
  · intro least
    exact ⟨fun early => least _ (.inl ⟨rfl, early⟩), fun late => least _ (.inr ⟨rfl, late⟩)⟩
  · rintro ⟨before, after⟩ utcMs (⟨rfl, early⟩ | ⟨rfl, late⟩)
    · exact before early
    · exact after late

/-- Two steps find the right instant of every wall time but these. -/
theorem resolved_iff {result : ℤ} (steps : result = wall - change.offset (wall - change.offset wall)) :
    Resolved zoneParts change wall result ↔
      (change.Skips wall → change.instant ≤ wall) ∧ (change.Repeats wall → wall < change.instant) := by
  have near : |result - wall| ≤ max |change.before| |change.after| := by
    rw [steps, Change.offset]
    split
    · exact near_before
    · exact near_after
  have shown : localTime zoneParts result = wall ↔
      result = wall - change.before ∧ result < change.instant ∨ result = wall - change.after ∧ change.instant ≤ result := by
    rw [← shows_iff one, Shows]
    exact (and_iff_right near).symm
  have parts : Resolved zoneParts change wall result ↔
      (¬ change.Skips wall → localTime zoneParts result = wall ∧ ∀ utcMs, Shows zoneParts change wall utcMs → result ≤ utcMs) ∧
        (change.Skips wall → change.instant ≤ result) := by
    rw [← exists_shows one]
    constructor
    · intro resolved
      exact ⟨resolved.first, fun skipped => resolved.gap fun there => (exists_shows one).mp there skipped⟩
    · rintro ⟨first, gap⟩
      exact ⟨first, fun nowhere => gap (by_contra fun kept => nowhere ((exists_shows one).mpr kept))⟩
  rw [parts, first_shown one, shown]
  -- the side of the wall time itself, and then that of the first step, decide the offsets
  by_cases early : wall < change.instant
  · rw [Change.offset, Change.offset, if_pos early] at steps
    split at steps
    · simp only [Change.Skips, Change.Repeats]
      omega
    · simp only [Change.Skips, Change.Repeats]
      omega
  · rw [Change.offset, Change.offset, if_neg early] at steps
    split at steps
    · simp only [Change.Skips, Change.Repeats]
      omega
    · simp only [Change.Skips, Change.Repeats]
      omega

end

/-- The conversion is right unless the change skips a wall time that read as UTC is before it, or repeats one
that read as UTC is not. -/
theorem zonedWallTimeToUtc_resolved_iff {year month day hour minute : ℤ}
    (one : OneChange zoneParts change (dateUTC year month day hour minute 0)) :
    Resolved zoneParts change (dateUTC year month day hour minute 0)
        (zonedWallTimeToUtc zoneParts year month day hour minute) ↔
      (change.Skips (dateUTC year month day hour minute 0) → change.instant ≤ dateUTC year month day hour minute 0) ∧
        (change.Repeats (dateUTC year month day hour minute 0) → dateUTC year month day hour minute 0 < change.instant) :=
  resolved_iff one (zonedWallTimeToUtc_change one)

end

def newYork : Change := ⟨dateUTC 2026 2 8 7 0 0, -18000000, -14400000⟩

theorem newYork_change (hour : ℤ) (low : 0 ≤ hour) (high : hour < 24) :
    OneChange (clock newYork.offset) newYork (dateUTC 2026 2 8 hour 30 0) := by
  have day : makeDay (fullYear 2026) 2 8 = 20520 := by decide
  refine ⟨?_⟩
  intro utcMs near
  have radius : max |newYork.before| |newYork.after| = 18000000 := by decide
  rw [radius, abs_le, dateUTC, day] at near
  have values : newYork.offset utcMs = -18000000 ∨ newYork.offset utcMs = -14400000 := by
    rw [Change.offset]
    split
    · exact .inl rfl
    · exact .inr rfl
  exact zoneOffset_clock (by omega) (by omega)

/-- At 3:30 of that day the conversion is right. -/
theorem zonedWallTimeToUtc_after_newYork :
    Resolved (clock newYork.offset) newYork (dateUTC 2026 2 8 3 30 0) (zonedWallTimeToUtc (clock newYork.offset) 2026 2 8 3 30) :=
  (zonedWallTimeToUtc_resolved_iff (newYork_change 3 (by decide) (by decide))).mpr (by
    simp only [Change.Skips, Change.Repeats]
    decide)

/-- 2:30 is skipped, and is taken as 1:30. -/
theorem zonedWallTimeToUtc_before_gap :
    ¬ ∀ zoneParts change year month day hour minute, OneChange zoneParts change (dateUTC year month day hour minute 0) →
      Resolved zoneParts change (dateUTC year month day hour minute 0)
        (zonedWallTimeToUtc zoneParts year month day hour minute) := by
  intro right
  have resolved := right _ _ 2026 2 8 2 30 (newYork_change 2 (by decide) (by decide))
  have skipped : newYork.Skips (dateUTC 2026 2 8 2 30 0) := by
    simp only [Change.Skips]
    decide
  have nowhere : ¬ ∃ utcMs, Shows (clock newYork.offset) newYork (dateUTC 2026 2 8 2 30 0) utcMs :=
    fun there => (exists_shows (newYork_change 2 (by decide) (by decide))).mp there skipped
  have result : zonedWallTimeToUtc (clock newYork.offset) 2026 2 8 2 30 = dateUTC 2026 2 8 6 30 0 := by
    rw [zonedWallTimeToUtc_change (newYork_change 2 (by decide) (by decide))]
    decide
  have late := resolved.gap nowhere
  rw [result] at late
  exact absurd late (by decide)

end SpaceApp.Schedules
