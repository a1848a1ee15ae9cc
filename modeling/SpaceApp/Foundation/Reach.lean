import Mathlib.Data.List.Basic

/-! States reached by a step function, the steps restricted to allowed ones. -/

set_option autoImplicit false

namespace SpaceApp.Foundation

section

variable {State Event : Type} (start : State → Prop) (allowed : State → Event → Prop)
  (step : State → Event → State)

inductive Reached : State → Prop where
  | start {state : State} (holds : start state) : Reached state
  | step {state : State} {event : Event} (reached : Reached state) (may : allowed state event) :
      Reached (step state event)

variable {start allowed step}

/-- What holds at the start and survives every allowed step holds in every reached state. -/
theorem Reached.invariant {invariant : State → Prop} (initial : ∀ state, start state → invariant state)
    (preserved : ∀ state event, invariant state → allowed state event → invariant (step state event))
    {state : State} (reached : Reached start allowed step state) : invariant state := by
  induction reached with
  | start holds => exact initial _ holds
  | step _ may ih => exact preserved _ _ ih may

/-- Each event of the list is allowed when its turn comes. -/
def AllowedRun (allowed : State → Event → Prop) (step : State → Event → State) : State → List Event → Prop
  | _, [] => True
  | state, event :: rest => allowed state event ∧ AllowedRun allowed step (step state event) rest

instance instDecidableAllowedRun [∀ state event, Decidable (allowed state event)] :
    ∀ state events, Decidable (AllowedRun allowed step state events)
  | _, [] => isTrue trivial
  | state, event :: rest =>
    have := instDecidableAllowedRun (step state event) rest
    inferInstanceAs (Decidable (allowed state event ∧ AllowedRun allowed step (step state event) rest))

theorem Reached.run {state : State} {events : List Event} (reached : Reached start allowed step state)
    (may : AllowedRun allowed step state events) : Reached start allowed step (events.foldl step state) := by
  induction events generalizing state with
  | nil => exact reached
  | cons event rest ih => exact ih (.step reached may.1) may.2

end

section

variable {Item : Type} {items : List Item} {place other : Nat} {change : Item → Item} {item : Item}

/-- Of a list with one item changed. -/
theorem modify_cases (found : (items.modify place change)[other]? = some item) :
    (place = other ∧ ∃ old, items[place]? = some old ∧ change old = item) ∨ (place ≠ other ∧ items[other]? = some item) := by
  rw [List.getElem?_modify] at found
  by_cases same : place = other
  · subst same
    exact .inl ⟨rfl, by simpa using found⟩
  · exact .inr ⟨same, by simpa [same] using found⟩

theorem mem_modify (inside : item ∈ items.modify place change) :
    item ∈ items ∨ ∃ old, items[place]? = some old ∧ item = change old := by
  obtain ⟨other, found⟩ := List.mem_iff_getElem?.mp inside
  rcases modify_cases found with ⟨-, old, there, same⟩ | ⟨-, there⟩
  · exact .inr ⟨old, there, same.symm⟩
  · exact .inl (List.mem_of_getElem? there)

end

end SpaceApp.Foundation
