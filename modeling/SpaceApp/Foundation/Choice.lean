import Mathlib.Data.List.Basic
import Mathlib.Algebra.Order.Ring.Rat
import Mathlib.Algebra.Order.BigOperators.Group.List
import Mathlib.Data.Finset.Card

/-! Choosing from a list: the first least item of an order, and a walk along
cumulative weights. -/

set_option autoImplicit false

namespace SpaceApp.Foundation

variable {α : Type}

section

variable {items : List α} {test : α → Bool} (distinct : items.Nodup)

include distinct

theorem countP_le_one (only : ∀ one ∈ items, ∀ other ∈ items, test one = true → test other = true → one = other) :
    items.countP test ≤ 1 := by
  classical
  rw [List.countP_eq_length_filter, ← List.toFinset_card_of_nodup (distinct.filter test), Finset.card_le_one]
  simp only [List.mem_toFinset, List.mem_filter]
  exact fun one first other second => only one first.1 other second.1 first.2 second.2

theorem countP_one (one : α) (inside : one ∈ items) (holds : test one = true)
    (only : ∀ other ∈ items, test other = true → other = one) : items.countP test = 1 :=
  Nat.le_antisymm (countP_le_one distinct fun first there second here its also_ =>
    (only first there its).trans (only second here also_).symm) (List.countP_pos_iff.mpr ⟨one, inside, holds⟩)

end

/-- The first item no later item is less than, found in one pass. -/
def firstLeast (less : α → α → Bool) : List α → Option α
  | [] => none
  | first :: rest => some (rest.foldl (fun best item => if less item best then item else best) first)

theorem foldl_least_mem (less : α → α → Bool) (first : α) (rest : List α) :
    rest.foldl (fun best item => if less item best then item else best) first ∈ first :: rest := by
  induction rest generalizing first with
  | nil => exact List.mem_cons_self
  | cons item rest ih =>
    rw [List.foldl_cons]
    have found := ih (if less item first then item else first)
    rcases List.mem_cons.mp found with same | later
    · rw [same]
      split
      · exact List.mem_cons_of_mem first List.mem_cons_self
      · exact List.mem_cons_self
    · exact List.mem_cons_of_mem first (List.mem_cons_of_mem item later)

section

variable {less : α → α → Bool} {items : List α}

theorem firstLeast_mem {found : α} (same : firstLeast less items = some found) : found ∈ items := by
  cases items with
  | nil => cases same
  | cons first rest =>
    cases same
    exact foldl_least_mem less first rest

@[simp] theorem firstLeast_eq_none : firstLeast less items = none ↔ items = [] := by
  cases items <;> simp [firstLeast]

theorem firstLeast_le {β : Type} [LinearOrder β] (value : α → β) (compares : ∀ a b, less a b = true ↔ value a < value b)
    {found : α} (same : firstLeast less items = some found) : ∀ item ∈ items, value found ≤ value item := by
  cases items with
  | nil => cases same
  | cons first rest =>
    cases same
    induction rest generalizing first with
    | nil =>
      intro item member
      rw [List.mem_singleton.mp member]
      exact le_refl _
    | cons next rest ih =>
      intro item member
      rw [List.foldl_cons]
      have least := ih (if less next first then next else first)
      have step : value (if less next first then next else first) ≤ value first ∧
          value (if less next first then next else first) ≤ value next := by
        split
        · next lower => exact ⟨((compares _ _).mp lower).le, le_refl _⟩
        · next notLower => exact ⟨le_refl _, not_lt.mp fun lower => notLower ((compares _ _).mpr lower)⟩
      have kept := least _ List.mem_cons_self
      rcases List.mem_cons.mp member with rfl | member
      · exact kept.trans step.1
      · rcases List.mem_cons.mp member with rfl | member
        · exact kept.trans step.2
        · exact least item (List.mem_cons_of_mem _ member)

end

/-- Walk along the weights until the threshold is used up; the last item takes the rest. -/
def weightedWalk : List (α × ℚ) → ℚ → Option α
  | [], _ => none
  | [(item, _)], _ => some item
  | (item, weight) :: rest, threshold =>
      if threshold - weight < 0 then some item else weightedWalk rest (threshold - weight)

theorem weightedWalk_mem {items : List (α × ℚ)} {threshold : ℚ} {found : α}
    (same : weightedWalk items threshold = some found) : ∃ weight, (found, weight) ∈ items := by
  induction items generalizing threshold with
  | nil => cases same
  | cons head rest ih =>
    obtain ⟨item, weight⟩ := head
    cases rest with
    | nil =>
      cases same
      exact ⟨weight, List.mem_singleton_self _⟩
    | cons next rest =>
      simp only [weightedWalk] at same
      split at same
      · cases same
        exact ⟨weight, List.mem_cons_self⟩
      · obtain ⟨later, member⟩ := ih same
        exact ⟨later, List.mem_cons_of_mem _ member⟩

@[simp] theorem weightedWalk_eq_none {items : List (α × ℚ)} {threshold : ℚ} :
    weightedWalk items threshold = none ↔ items = [] := by
  induction items generalizing threshold with
  | nil => simp [weightedWalk]
  | cons head rest ih =>
    cases rest with
    | nil => simp [weightedWalk]
    | cons next rest =>
      simp only [weightedWalk]
      split <;> simp_all

theorem exists_pos_of_sum_pos {weight : α → ℚ} {items : List α} (positive : 0 < (items.map weight).sum) :
    ∃ item ∈ items, 0 < weight item :=
  List.exists_lt_of_sum_lt (f := fun _ => 0) weight (by simpa using positive)

end SpaceApp.Foundation
