import Mathlib.Data.List.Nodup
import Mathlib.Logic.Function.Basic

/-! Tokens held by what runs and spent where it ends: no token is spent twice. -/

set_option autoImplicit false

namespace SpaceApp.Foundation

section

variable {Key Value : Type} [DecidableEq Key] {table : Key → Option Value} {holds : Key → Value → Prop}
  (kept : ∀ key value, table key = some value → holds key value)

include kept

theorem kept_without (gone : Key) : ∀ key value, Function.update table gone none key = some value → holds key value := by
  intro key value found
  simp only [Function.update_apply] at found
  split at found
  · cases found
  · exact kept key value found

theorem kept_with {name : Key} {new : Value} (own : holds name new) :
    ∀ key value, Function.update table name (some new) key = some value → holds key value := by
  intro key value found
  simp only [Function.update_apply] at found
  split at found
  · next same =>
    cases found
    exact same ▸ own
  · exact kept key value found

end

section

variable {Item Record Token : Type} (held : Item → Option Token) (spent : Record → Option Token)

/-- No two items hold one token, and none holds a token that was spent. -/
structure Spending (running : Nat → Option Item) (history : List Record) : Prop where
  apart : ∀ name item other otherItem token, running name = some item → running other = some otherItem →
    held item = some token → held otherItem = some token → name = other
  unheld : ∀ record ∈ history, ∀ token, spent record = some token →
    ∀ name item, running name = some item → held item ≠ some token
  once : (history.filterMap spent).Nodup

variable {held spent} {running : Nat → Option Item} {history : List Record} {name : Nat} {token : Token}

theorem held_elsewhere {replaced : Option Item} {other : Nat} {item : Item}
    (free : ∀ item, replaced = some item → held item = none)
    (found : Function.update running name replaced other = some item) (holds : held item = some token) :
    other ≠ name ∧ running other = some item := by
  by_cases same : other = name
  · subst same
    rw [Function.update_self] at found
    rw [free item found] at holds
    cases holds
  · rw [Function.update_of_ne same] at found
    exact ⟨same, found⟩

namespace Spending

section

variable (spending : Spending held spent running history)

include spending

theorem replace {replaced : Option Item} (free : ∀ item, replaced = some item → held item = none) :
    Spending held spent (Function.update running name replaced) history where
  apart := by
    intro first firstItem second secondItem token firstFound secondFound firstHolds secondHolds
    exact spending.apart first firstItem second secondItem token (held_elsewhere free firstFound firstHolds).2
      (held_elsewhere free secondFound secondHolds).2 firstHolds secondHolds
  unheld := by
    intro record member token paid other item found holds
    exact spending.unheld record member token paid other item (held_elsewhere free found holds).2 holds
  once := spending.once

theorem clear : Spending held spent (fun _ => none) history where
  apart := by
    intro name item other otherItem token found
    cases found
  unheld := by
    intro record member token paid name item found
    cases found
  once := spending.once

theorem take {item : Item} (holds : held item = some token)
    (unheld : ∀ other otherItem, running other = some otherItem → held otherItem ≠ some token)
    (unspent : ∀ record ∈ history, spent record ≠ some token) :
    Spending held spent (Function.update running name (some item)) history where
  apart := by
    intro first firstItem second secondItem firstToken firstFound secondFound firstHolds secondHolds
    simp only [Function.update_apply] at firstFound secondFound
    split at firstFound
    · next firstHere =>
      cases firstFound
      rw [holds, Option.some_inj] at firstHolds
      subst firstHolds
      split at secondFound
      · next secondHere => rw [firstHere, secondHere]
      · exact (unheld second secondItem secondFound secondHolds).elim
    · split at secondFound
      · cases secondFound
        rw [holds, Option.some_inj] at secondHolds
        subst secondHolds
        exact (unheld first firstItem firstFound firstHolds).elim
      · exact spending.apart first firstItem second secondItem firstToken firstFound secondFound firstHolds secondHolds
  unheld := by
    intro record member other paid place otherItem found otherHolds
    simp only [Function.update_apply] at found
    split at found
    · cases found
      rw [holds, Option.some_inj] at otherHolds
      subst otherHolds
      exact unspent record member paid
    · exact spending.unheld record member other paid place otherItem found otherHolds
  once := spending.once

theorem record {record : Record} (free : spent record = none) : Spending held spent running (history ++ [record]) where
  apart := spending.apart
  unheld := by
    intro other member token paid
    rcases List.mem_append.mp member with old | new
    · exact spending.unheld other old token paid
    · rw [List.mem_singleton] at new
      rw [new, free] at paid
      cases paid
  once := by
    rw [List.filterMap_append, List.filterMap_cons, free]
    simpa using spending.once

theorem spend {item : Item} {record : Record} (found : running name = some item) (holds : held item = some token)
    (paid : spent record = some token) :
    Spending held spent (Function.update running name none) (history ++ [record]) where
  apart := (spending.replace (by simp)).apart
  unheld := by
    intro other member otherToken otherPaid place otherItem otherFound otherHolds
    obtain ⟨elsewhere, runs⟩ := held_elsewhere (by simp) otherFound otherHolds
    rcases List.mem_append.mp member with old | new
    · exact spending.unheld other old otherToken otherPaid place otherItem runs otherHolds
    · rw [List.mem_singleton] at new
      rw [new, paid, Option.some_inj] at otherPaid
      subst otherPaid
      exact elsewhere (spending.apart place otherItem name item _ runs found otherHolds holds)
  once := by
    rw [List.filterMap_append, List.filterMap_cons, paid, List.filterMap_nil, List.nodup_append]
    refine ⟨spending.once, List.nodup_singleton _, ?_⟩
    intro first member second last same
    rw [List.mem_singleton] at last
    subst last same
    obtain ⟨other, listed, otherPaid⟩ := List.mem_filterMap.mp member
    exact spending.unheld other listed _ otherPaid name item found holds

end

end Spending

end

end SpaceApp.Foundation
