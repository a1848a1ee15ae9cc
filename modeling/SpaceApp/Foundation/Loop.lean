import Mathlib.Data.List.Basic

/-! A loop over an outside world: each pass meets the world of its turn, and goes on with a new
state or leaves the loop.
-/

set_option autoImplicit false

namespace SpaceApp.Foundation

section

variable {State World Exit : Type} (pass : State → World → State ⊕ Exit) (worlds : Nat → World)

/-- The exit of the loop, when it leaves within `fuel` passes from the given turn on. -/
@[grind] def runLoop : Nat → Nat → State → Option Exit
  | 0, _, _ => none
  | fuel + 1, turn, state =>
      match pass state (worlds turn) with
      | .inl next => runLoop fuel (turn + 1) next
      | .inr exit => some exit

variable (start : State)

/-- The loop comes to this turn in this state. -/
inductive TurnAt : Nat → State → Prop where
  | start : TurnAt 0 start
  | next {turn : Nat} {state next : State} (here : TurnAt turn state)
      (goes : pass state (worlds turn) = .inl next) : TurnAt (turn + 1) next

variable {pass worlds start}

theorem TurnAt.unique {turn : Nat} {first second : State} (left : TurnAt pass worlds start turn first)
    (right : TurnAt pass worlds start turn second) : first = second := by
  induction left generalizing second with
  | start =>
    cases right
    rfl
  | next here goes ih =>
    cases right with
    | next there went =>
      rw [ih there, went] at goes
      cases goes
      rfl

/-- What holds at the start and survives every pass that goes on holds at every turn. -/
theorem TurnAt.invariant (invariant : Nat → State → Prop) (initial : invariant 0 start)
    (preserved : ∀ turn state next, invariant turn state → pass state (worlds turn) = .inl next → invariant (turn + 1) next)
    {turn : Nat} {state : State} (here : TurnAt pass worlds start turn state) : invariant turn state := by
  induction here with
  | start => exact initial
  | next _ goes ih => exact preserved _ _ _ ih goes

theorem TurnAt.earlier {turn earlier : Nat} {state : State} (here : TurnAt pass worlds start turn state)
    (before : earlier < turn) :
    ∃ first next, TurnAt pass worlds start earlier first ∧ pass first (worlds earlier) = .inl next := by
  induction here with
  | start => omega
  | @next turn state next here goes ih =>
    by_cases last : earlier = turn
    · exact ⟨state, next, last ▸ here, last ▸ goes⟩
    · exact ih (by omega)

section
variable {turn : Nat} {state : State} (here : TurnAt pass worlds start turn state) (fuel : Nat)

include here

theorem runLoop_from {exit : Exit} (leaves : runLoop pass worlds fuel turn state = some exit) :
    ∃ last before, TurnAt pass worlds start last before ∧ pass before (worlds last) = .inr exit := by
  induction fuel generalizing turn state with
  | zero => cases leaves
  | succ fuel ih =>
    rw [runLoop] at leaves
    split at leaves
    · next goes => exact ih (.next here goes) leaves
    · next exits =>
      cases leaves
      exact ⟨turn, state, here, exits⟩

theorem runLoop_to : runLoop pass worlds (turn + fuel) 0 start = runLoop pass worlds fuel turn state := by
  induction here generalizing fuel with
  | start => rw [Nat.zero_add]
  | @next turn state next here goes ih =>
    rw [Nat.add_assoc, Nat.add_comm 1 fuel, ih, runLoop, goes]

/-- A loop that does not leave within `fuel` passes comes to the turn after them. -/
theorem runLoop_stays
    (stays : runLoop pass worlds fuel turn state = none) : ∃ after, TurnAt pass worlds start (turn + fuel) after := by
  induction fuel generalizing turn state with
  | zero => exact ⟨state, here⟩
  | succ fuel ih =>
    rw [runLoop] at stays
    split at stays
    · next goes =>
      obtain ⟨after, there⟩ := ih (.next here goes) stays
      exact ⟨after, by rwa [Nat.add_assoc, Nat.add_comm 1 fuel] at there⟩
    · cases stays

end

/-- The loop leaves with what some turn it comes to leaves with. -/
theorem runLoop_leaves_iff (exit : Exit) : (∃ fuel, runLoop pass worlds fuel 0 start = some exit) ↔
    ∃ turn state, TurnAt pass worlds start turn state ∧ pass state (worlds turn) = .inr exit := by
  constructor
  · rintro ⟨fuel, leaves⟩
    exact runLoop_from .start fuel leaves
  · rintro ⟨turn, state, here, exits⟩
    exact ⟨turn + 1, by rw [runLoop_to here, runLoop, exits]⟩

/-- A loop that does not leave comes to every turn. -/
theorem turnAt_all (stays : ∀ turn state exit, TurnAt pass worlds start turn state →
    pass state (worlds turn) ≠ .inr exit) (turn : Nat) : ∃ state, TurnAt pass worlds start turn state := by
  induction turn with
  | zero => exact ⟨start, .start⟩
  | succ turn ih =>
    obtain ⟨state, here⟩ := ih
    cases goes : pass state (worlds turn) with
    | inl next => exact ⟨next, .next here goes⟩
    | inr exit => exact absurd goes (stays turn state exit here)

theorem TurnAt.last {turn later : Nat} {state after : State} {exit : Exit} (here : TurnAt pass worlds start turn state)
    (exits : pass state (worlds turn) = .inr exit) (there : TurnAt pass worlds start later after) : later ≤ turn := by
  by_contra beyond
  obtain ⟨first, next, before, goes⟩ := there.earlier (show turn < later by omega)
  rw [before.unique here, exits] at goes
  cases goes

theorem TurnAt.mono {measure : State → Nat}
    (rises : ∀ turn state next, TurnAt pass worlds start turn state → pass state (worlds turn) = .inl next →
      measure state ≤ measure next)
    {turn later : Nat} {state after : State} (here : TurnAt pass worlds start turn state)
    (there : TurnAt pass worlds start later after) (order : turn ≤ later) : measure state ≤ measure after := by
  induction there with
  | start =>
    obtain rfl : turn = 0 := by omega
    cases here
    exact Nat.le_refl _
  | @next last middle after there goes ih =>
    by_cases same : turn = last + 1
    · subst same
      exact Nat.le_of_eq (congrArg measure (here.unique (.next there goes)))
    · have before := ih (by omega)
      have step := rises last middle after there goes
      omega

/-- A loop that does not leave keeps a bounded measure that no pass lowers, from some turn on. -/
theorem measure_settles {measure : State → Nat} (bound : Nat)
    (stays : ∀ turn state exit, TurnAt pass worlds start turn state → pass state (worlds turn) ≠ .inr exit)
    (rises : ∀ turn state next, TurnAt pass worlds start turn state → pass state (worlds turn) = .inl next →
      measure state ≤ measure next)
    (bounded : ∀ turn state, TurnAt pass worlds start turn state → measure state ≤ bound) :
    ∃ first, ∀ turn, first ≤ turn → ∃ state next, TurnAt pass worlds start turn state ∧
      pass state (worlds turn) = .inl next ∧ measure next = measure state := by
  by_contra moves
  push Not at moves
  -- a turn that raises the measure always comes, so any count is passed
  have passes : ∀ count, ∃ turn state, TurnAt pass worlds start turn state ∧ count ≤ measure state := by
    intro count
    induction count with
    | zero => exact ⟨0, start, .start, Nat.zero_le _⟩
    | succ count ih =>
      obtain ⟨turn, state, here, enough⟩ := ih
      obtain ⟨later, order, raises⟩ := moves turn
      obtain ⟨middle, there⟩ := turnAt_all stays later
      have before := here.mono rises there order
      cases goes : pass middle (worlds later) with
      | inr exit => exact absurd goes (stays later middle exit there)
      | inl next =>
        have step := rises later middle next there goes
        have other := raises middle next there goes
        exact ⟨later + 1, next, .next there goes, by omega⟩
  obtain ⟨turn, state, here, enough⟩ := passes (bound + 1)
  have limit := bounded turn state here
  omega

end

section

variable {State Element : Type} (body : State → Element → State) (ok : State → Element → Prop)

/-- A condition on each turn of a loop over a list, in the state the turn meets. -/
@[grind] def Along : State → List Element → Prop
  | _, [] => True
  | state, element :: rest => ok state element ∧ Along (body state element) rest

instance Along.decidable [each : ∀ state element, Decidable (ok state element)] :
    ∀ (list : List Element) (state : State), Decidable (Along body ok state list)
  | [], _ => .isTrue trivial
  | element :: rest, state =>
      have := Along.decidable rest (body state element)
      inferInstanceAs (Decidable (ok state element ∧ Along body ok (body state element) rest))

variable {body ok}

theorem along_of_forall (each : ∀ state element, ok state element) (list : List Element) (state : State) :
    Along body ok state list := by
  induction list generalizing state with
  | nil => trivial
  | cons element rest ih => exact ⟨each state element, ih _⟩

theorem along_guarded {fair : Prop} (list : List Element) (state : State) (along : fair → Along body ok state list) :
    Along body (fun state element => fair → ok state element) state list := by
  induction list generalizing state with
  | nil => trivial
  | cons element rest ih => exact ⟨fun isFair => (along isFair).1, ih _ fun isFair => (along isFair).2⟩

/-- What every turn does to the states, related by a relation that composes, the whole loop does. -/
theorem foldl_along (related : State → State → Prop) (kept : State → Prop) (same : ∀ state, related state state)
    (composed : ∀ {first second third}, related first second → related second third → related first third)
    (turn : ∀ state element, kept state → ok state element → related state (body state element) ∧ kept (body state element))
    (list : List Element) {state : State} (start : kept state) (along : Along body ok state list) :
    related state (list.foldl body state) ∧ kept (list.foldl body state) := by
  induction list generalizing state with
  | nil => exact ⟨same state, start⟩
  | cons element rest ih =>
    obtain ⟨first, further⟩ := turn state element start along.1
    obtain ⟨last, still⟩ := ih further along.2
    exact ⟨composed first last, still⟩

end

end SpaceApp.Foundation
