import Mathlib.Data.Nat.Find
import Mathlib.Data.List.Basic

/-! A loop over the first numbers that returns what it finds first.
-/

set_option autoImplicit false

namespace SpaceApp.Foundation

variable {Value : Type} (look : ℕ → Option Value)

theorem findSome_range {first count : ℕ} {value : Value} (inside : first < count) (found : look first = some value)
    (earlier : ∀ number < first, look number = none) : (List.range count).findSome? look = some value := by
  obtain ⟨rest, rfl⟩ : ∃ rest, count = first + (rest + 1) := ⟨count - first - 1, by omega⟩
  have skipped : (List.range first).findSome? look = none := by
    rw [List.findSome?_eq_none_iff]
    intro number member
    exact earlier number (List.mem_range.mp member)
  rw [List.range_add, List.findSome?_append, skipped, List.range_succ_eq_map, List.map_cons, List.findSome?_cons, Nat.add_zero,
    found]
  rfl

theorem findSome_range_cases (count : ℕ) :
    ((List.range count).findSome? look = none ∧ ∀ number < count, look number = none) ∨
      ∃ first < count, (List.range count).findSome? look = look first ∧ look first ≠ none ∧
        ∀ number < first, look number = none := by
  classical
  by_cases there : ∃ number, number < count ∧ look number ≠ none
  · obtain ⟨inside, found⟩ := Nat.find_spec there
    have earlier : ∀ number < Nat.find there, look number = none := by
      intro number before
      by_contra filled
      exact Nat.find_min there before ⟨by omega, filled⟩
    generalize Nat.find there = first at inside found earlier
    obtain ⟨value, held⟩ := Option.ne_none_iff_exists'.mp found
    exact .inr ⟨first, inside, by rw [findSome_range look inside held earlier, held], found, earlier⟩
  · have none_found : ∀ number < count, look number = none := by
      intro number inside
      by_contra filled
      exact there ⟨number, inside, filled⟩
    refine .inl ⟨?_, none_found⟩
    rw [List.findSome?_eq_none_iff]
    intro number member
    exact none_found number (List.mem_range.mp member)

end SpaceApp.Foundation
