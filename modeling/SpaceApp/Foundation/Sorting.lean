import Mathlib.Data.List.Sort

/-! Sorting by a relation that orders the members of a list only up to ties: the order the members came in
changes nothing but the places of ties.
-/

set_option autoImplicit false

namespace SpaceApp.Foundation

variable {α : Type} (r : α → α → Prop) [DecidableRel r]

/-- How many members are not after this one. -/
def rankIn (members : List α) (a : α) : ℕ := (members.filter fun b => decide (r b a)).length

section
variable {members : List α} (total : ∀ a ∈ members, ∀ b ∈ members, r a b ∨ r b a)
  (transitive : ∀ a ∈ members, ∀ b ∈ members, ∀ c ∈ members, r a b → r b c → r a c)

include total transitive

theorem rankIn_le_iff {a b : α} (first : a ∈ members)
    (second : b ∈ members) : r a b ↔ rankIn r members a ≤ rankIn r members b := by
  have within : ∀ a ∈ members, ∀ b ∈ members, r a b →
      (members.filter fun c => decide (r c a)).Sublist (members.filter fun c => decide (r c b)) := by
    intro a first b second before
    have kept : (members.filter fun c => decide (r c a)) =
        (members.filter fun c => decide (r c b)).filter fun c => decide (r c a) := by
      rw [List.filter_filter]
      refine List.filter_congr fun c member => ?_
      by_cases below : r c a
      · have below' := transitive c member a first b second below before
        simp [below, below']
      · simp [below]
    rw [kept]
    exact List.filter_sublist
  constructor
  · intro before
    exact (within a first b second before).length_le
  · intro ranks
    by_contra after
    have before := (total a first b second).resolve_left after
    have same := (within b second a first before).eq_of_length_le ranks
    -- the member itself is counted for its own rank only
    have self : a ∈ members.filter fun c => decide (r c a) := by
      have reflexive := (total a first a first).elim id id
      simp [first, reflexive]
    rw [← same] at self
    simp [after] at self

theorem insertionSort_sorted : (members.insertionSort r).Pairwise r := by
  have ranked := fun {a b : α} (first : a ∈ members) (second : b ∈ members) => rankIn_le_iff r total transitive first second
  have ranks : ((members.insertionSort r).map (rankIn r members)).Pairwise (· ≤ ·) := by
    rw [List.map_insertionSort r (· ≤ ·) (rankIn r members) members fun a first b second => ranked first second]
    exact List.pairwise_insertionSort _ _
  rw [List.pairwise_map] at ranks
  refine ranks.imp_of_mem ?_
  intro a b first second before
  exact (ranked ((List.mem_insertionSort r).mp first) ((List.mem_insertionSort r).mp second)).mpr before

end

/-- Sorted from any order, the members come out the same up to ties. -/
theorem insertionSort_perm {left right : List α} (shuffled : left.Perm right)
    (total : ∀ a ∈ left, ∀ b ∈ left, r a b ∨ r b a)
    (transitive : ∀ a ∈ left, ∀ b ∈ left, ∀ c ∈ left, r a b → r b c → r a c) :
    List.Forall₂ (fun a b => r a b ∧ r b a) (left.insertionSort r) (right.insertionSort r) := by
  have ranked := fun {a b : α} (first : a ∈ left) (second : b ∈ left) => rankIn_le_iff r total transitive first second
  have sorted_left := List.map_insertionSort r (· ≤ ·) (rankIn r left) left fun a first b second => ranked first second
  have sorted_right := List.map_insertionSort r (· ≤ ·) (rankIn r left) right fun a first b second =>
    ranked (shuffled.mem_iff.mpr first) (shuffled.mem_iff.mpr second)
  have ranks : (left.insertionSort r).map (rankIn r left) = (right.insertionSort r).map (rankIn r left) := by
    rw [sorted_left, sorted_right]
    have same : ((left.map (rankIn r left)).insertionSort (· ≤ ·)).Perm ((right.map (rankIn r left)).insertionSort (· ≤ ·)) :=
      (List.perm_insertionSort _ _).trans ((shuffled.map _).trans (List.perm_insertionSort _ _).symm)
    exact same.eq_of_pairwise' (List.pairwise_insertionSort _ _) (List.pairwise_insertionSort _ _)
  rw [List.forall₂_iff_get]
  have lengths : (left.insertionSort r).length = (right.insertionSort r).length := by
    rw [List.length_insertionSort, List.length_insertionSort, shuffled.length_eq]
  refine ⟨lengths, ?_⟩
  intro place inside inside'
  have members : (left.insertionSort r).get ⟨place, inside⟩ ∈ left :=
    (List.mem_insertionSort r).mp (List.get_mem _ _)
  have members' : (right.insertionSort r).get ⟨place, inside'⟩ ∈ left :=
    shuffled.mem_iff.mpr ((List.mem_insertionSort r).mp (List.get_mem _ _))
  have equal : rankIn r left ((left.insertionSort r).get ⟨place, inside⟩) =
      rankIn r left ((right.insertionSort r).get ⟨place, inside'⟩) := by
    have at_place := congrArg (fun ranks : List ℕ => ranks[place]?) ranks
    simp only [List.getElem?_map, List.getElem?_eq_getElem inside, List.getElem?_eq_getElem inside', Option.map_some,
      Option.some.injEq] at at_place
    exact at_place
  exact ⟨(ranked members members').mpr equal.le, (ranked members' members).mpr equal.ge⟩

end SpaceApp.Foundation
