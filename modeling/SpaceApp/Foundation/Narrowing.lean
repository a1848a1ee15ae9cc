import Mathlib.Data.List.Basic
import Mathlib.Order.Lattice

/-! Choices that do not depend on what was not chosen.

A choice is steady when the item it picks from a pool is picked again from every smaller pool that
still has it, whatever the order. Pools are narrowed before a choice is made; what a narrowing has
to keep for that is its own property, and both are closed under composition.
-/

set_option autoImplicit false

namespace SpaceApp.Foundation

section

variable {Item : Type} (all : List Item)

/-- Among pools of these items, the picked item is picked again from every smaller pool with it. -/
def Steady (choose : List Item → Option Item) : Prop :=
  ∀ pool smaller item, pool ⊆ all → smaller ⊆ pool → choose pool = some item → item ∈ smaller →
    choose smaller = some item

/-- A narrowing keeps in a smaller pool nothing it has not kept in the larger one, once an item it
kept there is still in the pool, and keeps that item. -/
def Narrows (narrow : List Item → List Item) : Prop :=
  (∀ pool, narrow pool ⊆ pool) ∧
  ∀ pool smaller item, pool ⊆ all → smaller ⊆ pool → item ∈ narrow pool → item ∈ smaller →
    item ∈ narrow smaller ∧ narrow smaller ⊆ narrow pool

def Chooses (choose : List Item → Option Item) : Prop :=
  ∀ pool item, choose pool = some item → item ∈ pool

variable {all}

theorem Narrows.id : Narrows all fun pool => pool :=
  ⟨fun _ => List.Subset.refl _, fun _ _ _ _ smaller _ member => ⟨member, smaller⟩⟩

theorem Narrows.comp {first second : List Item → List Item} (outer : Narrows all second)
    (inner : Narrows all first) : Narrows all fun pool => second (first pool) := by
  refine ⟨fun pool => List.Subset.trans (outer.1 _) (inner.1 pool), ?_⟩
  intro pool smaller item within small kept member
  have keptFirst := outer.1 _ kept
  obtain ⟨stays, subset⟩ := inner.2 pool smaller item within small keptFirst member
  exact outer.2 (first pool) (first smaller) item (List.Subset.trans (inner.1 pool) within) subset kept stays

theorem Narrows.filter (keep : Item → Bool) : Narrows all fun pool => pool.filter keep := by
  refine ⟨fun pool => List.filter_subset_self pool, ?_⟩
  intro pool smaller item within small kept member
  refine ⟨List.mem_filter.mpr ⟨member, (List.mem_filter.mp kept).2⟩, ?_⟩
  exact List.filter_subset _ small

theorem Narrows.least {Value : Type} [LinearOrder Value] (value : Item → Value) :
    Narrows all fun pool => pool.filter fun item => pool.all fun other => decide (value item ≤ value other) := by
  refine ⟨fun pool => List.filter_subset_self pool, ?_⟩
  intro pool smaller item within small kept member
  have least : ∀ other ∈ pool, value item ≤ value other := by
    simpa using (List.mem_filter.mp kept).2
  constructor
  · rw [List.mem_filter]
    exact ⟨member, by simpa using fun other among => least other (small among)⟩
  · intro other among
    rw [List.mem_filter] at among ⊢
    refine ⟨small among.1, ?_⟩
    have lower : ∀ third ∈ smaller, value other ≤ value third := by simpa using among.2
    simpa using fun third inPool => le_trans (lower item member) (least third inPool)

theorem Narrows.prefer (keep : Item → Bool) {rest : List Item → List Item} (narrows : Narrows all rest) :
    Narrows all fun pool => if pool.filter keep = [] then rest pool else pool.filter keep := by
  have filters := (Narrows.filter keep : Narrows all _)
  constructor
  · intro pool
    dsimp only
    split
    · exact narrows.1 pool
    · exact filters.1 pool
  · intro pool smaller item within small kept member
    dsimp only at kept ⊢
    by_cases empty : pool.filter keep = []
    · have none_ : smaller.filter keep = [] :=
        List.subset_nil.mp (empty ▸ List.filter_subset keep small)
      rw [if_pos empty] at kept
      rw [if_pos empty, if_pos none_]
      exact narrows.2 pool smaller item within small kept member
    · rw [if_neg empty] at kept
      obtain ⟨stays, subset⟩ := filters.2 pool smaller item within small kept member
      rw [if_neg empty, if_neg (List.ne_nil_of_mem stays)]
      exact ⟨stays, subset⟩

theorem Steady.narrowed {choose : List Item → Option Item} {narrow : List Item → List Item} (steady : Steady all choose)
    (chooses : Chooses choose) (narrows : Narrows all narrow) : Steady all fun pool => choose (narrow pool) := by
  intro pool smaller item within small picked member
  obtain ⟨stays, subset⟩ := narrows.2 pool smaller item within small (chooses _ _ picked) member
  exact steady (narrow pool) (narrow smaller) item (List.Subset.trans (narrows.1 pool) within) subset picked stays

end

end SpaceApp.Foundation
