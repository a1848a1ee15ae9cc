import Mathlib.Data.Finset.Card
import Mathlib.Data.List.AList

/-! `BoundedMap` (`proxy-util.ts`): an insertion-ordered map that forgets its oldest entry
past a limit. The entries are listed from the newest to the oldest.
-/

set_option autoImplicit false

namespace SpaceApp.Gateway

structure BoundedMap (Value : Type) (limit : Nat) where
  map : AList fun _ : String => Value
  within : map.keys.length ≤ limit

namespace BoundedMap

variable {Value : Type} {limit : Nat}

def empty : BoundedMap Value limit := ⟨∅, by simp⟩

def get (entries : BoundedMap Value limit) (key : String) : Option Value := entries.map.lookup key

theorem insert_length (map : AList fun _ : String => Value) (key : String) (value : Value) :
    (map.insert key value).keys.length ≤ map.keys.length + 1 := by
  rw [AList.keys_insert, List.length_cons]
  have erased := (List.erase_sublist (a := key) (l := map.keys)).length_le
  omega

/-- The entry is written anew as the newest one; past the limit the oldest goes. -/
def set (entries : BoundedMap Value limit) (key : String) (value : Value) : BoundedMap Value limit :=
  let map := entries.map.insert key value
  if fits : map.keys.length ≤ limit then ⟨map, fits⟩
  else
    match oldest : map.keys.getLast? with
    | none => ⟨∅, by simp⟩
    | some last => ⟨map.erase last, by
        have member := List.mem_of_getLast? oldest
        have longer : map.keys.length ≤ entries.map.keys.length + 1 := insert_length entries.map key value
        have before := entries.within
        rw [AList.keys_erase, List.length_erase_of_mem member]
        omega⟩

def replace (entries : BoundedMap Value limit) (key : String) (value : Value) : BoundedMap Value limit where
  map := entries.map.replace key value
  within := by
    rw [AList.keys_replace]
    exact entries.within

section

variable {entries : BoundedMap Value limit}

/-- While every key comes from a set no larger than the limit, nothing is forgotten. -/
theorem set_map {keys : Finset String} (few : keys.card ≤ limit) (known : ∀ key ∈ entries.map, key ∈ keys)
    {key : String} (new : key ∈ keys) (value : Value) : (entries.set key value).map = entries.map.insert key value := by
  have fits : (entries.map.insert key value).keys.length ≤ limit := by
    have within : (entries.map.insert key value).keys.toFinset ⊆ keys := by
      intro other member
      rw [List.mem_toFinset, ← AList.mem_keys, AList.mem_insert] at member
      rcases member with rfl | member
      · exact new
      · exact known other member
    have counted := Finset.card_le_card within
    rw [List.toFinset_card_of_nodup (AList.keys_nodup _)] at counted
    omega
  simp only [set, fits, dite_true]

theorem get_set_same {key : String} {value : Value} (kept : (entries.set key value).map = entries.map.insert key value) :
    (entries.set key value).get key = some value := by
  rw [get, kept, AList.lookup_insert]

theorem get_set_other {key other : String} {value : Value}
    (kept : (entries.set key value).map = entries.map.insert key value) (apart : other ≠ key) :
    (entries.set key value).get other = entries.get other := by
  rw [get, kept, AList.lookup_insert_ne apart, get]

end

end BoundedMap

end SpaceApp.Gateway
