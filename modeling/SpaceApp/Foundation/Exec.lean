import Mathlib.Data.List.Basic

/-! Programs over a world which may fail part way: what was done before the failure stays done.

A program that cleans up keeps the error it failed with, unless the cleaning up fails itself.
-/

set_option autoImplicit false

namespace SpaceApp.Foundation

def Exec (World Error Result : Type) := World → Except Error Result × World

namespace Exec

variable {World Error Result Other Item : Type}

def run (program : Exec World Error Result) (world : World) : Except Error Result × World :=
  program world

instance : Monad (Exec World Error) where
  pure result := fun world => (.ok result, world)
  bind program next := fun world =>
    match program world with
    | (.ok result, after) => next result after
    | (.error error, after) => (.error error, after)

def fail (error : Error) : Exec World Error Result :=
  fun world => (.error error, world)

def read : Exec World Error World :=
  fun world => (.ok world, world)

def change (effect : World → World) : Exec World Error Unit :=
  fun world => (.ok (), effect world)

def rescue (program : Exec World Error Result) (handler : Error → Exec World Error Result) :
    Exec World Error Result :=
  fun world =>
    match program world with
    | (.ok result, after) => (.ok result, after)
    | (.error error, after) => handler error after

def ensuring (program : Exec World Error Result) (cleanUp : Exec World Error Unit) :
    Exec World Error Result :=
  fun world =>
    match cleanUp (program world).2 with
    | (.ok _, after) => ((program world).1, after)
    | (.error error, after) => (.error error, after)

def attempt (program : Exec World Error Unit) : Exec World Error (Option Error) :=
  fun world =>
    match program world with
    | (.ok _, after) => (.ok none, after)
    | (.error error, after) => (.ok (some error), after)

def forEach : List Item → (Item → Exec World Error Unit) → Exec World Error Unit
  | [], _ => pure ()
  | item :: items, body => do
      body item
      forEach items body

section

variable {program : Exec World Error Result} {next : Result → Exec World Error Other}
  {world after last : World}

@[simp] theorem run_pure (result : Result) : (pure result : Exec World Error Result).run world = (.ok result, world) := rfl

@[simp] theorem run_fail (error : Error) : (fail error : Exec World Error Result).run world = (.error error, world) := rfl

@[simp] theorem run_read : (read : Exec World Error World).run world = (.ok world, world) := rfl

theorem run_bind_ok {result : Result} (ran : program.run world = (.ok result, after)) :
    (program >>= next).run world = (next result).run after := by
  change (match program.run world with | (.ok result, after) => next result after | (.error error, after) => _) = _
  rw [ran]
  rfl

theorem run_bind_error {error : Error} (ran : program.run world = (.error error, after)) :
    (program >>= next).run world = (.error error, after) := by
  change (match program.run world with | (.ok result, after) => next result after | (.error error, after) => _) = _
  rw [ran]

@[simp] theorem run_read_bind (next : World → Exec World Error Other) :
    (read >>= next).run world = (next world).run world := rfl

@[simp] theorem run_change_bind (effect : World → World) (next : Unit → Exec World Error Other) :
    (change effect >>= next).run world = (next ()).run (effect world) := rfl

@[simp] theorem run_fail_bind (error : Error) (next : Result → Exec World Error Other) :
    (fail error >>= next).run world = (.error error, world) := rfl

theorem bind_ok_iff {result : Other} : (program >>= next).run world = (.ok result, last) ↔
    ∃ value after, program.run world = (.ok value, after) ∧ (next value).run after = (.ok result, last) := by
  rcases ran : program.run world with ⟨value | value, after⟩
  · rw [run_bind_error ran]
    simp
  · rw [run_bind_ok ran]
    simp

theorem run_rescue_ok {handler : Error → Exec World Error Result} {result : Result}
    (ran : program.run world = (.ok result, after)) : (program.rescue handler).run world = (.ok result, after) := by
  change (match program.run world with | (.ok result, after) => _ | (.error error, after) => handler error after) = _
  rw [ran]

theorem run_rescue_error {handler : Error → Exec World Error Result} {error : Error}
    (ran : program.run world = (.error error, after)) :
    (program.rescue handler).run world = (handler error).run after := by
  change (match program.run world with | (.ok result, after) => _ | (.error error, after) => handler error after) = _
  rw [ran]
  rfl

theorem run_ensuring {cleanUp : Exec World Error Unit} {result : Except Error Result}
    (ran : program.run world = (result, after)) : (program.ensuring cleanUp).run world =
      match cleanUp.run after with
      | (.ok _, last) => (result, last)
      | (.error error, last) => (.error error, last) := by
  change (match cleanUp.run (program.run world).2 with
    | (.ok _, last) => ((program.run world).1, last) | (.error error, last) => (.error error, last)) = _
  rw [ran]

theorem run_attempt_ok {program : Exec World Error Unit} (ran : program.run world = (.ok (), after)) :
    program.attempt.run world = (.ok none, after) := by
  change (match program.run world with | (.ok _, after) => _ | (.error error, after) => _) = _
  rw [ran]

theorem run_attempt_error {program : Exec World Error Unit} {error : Error}
    (ran : program.run world = (.error error, after)) : program.attempt.run world = (.ok (some error), after) := by
  change (match program.run world with | (.ok _, after) => _ | (.error error, after) => _) = _
  rw [ran]

end

section

variable {body : Item → Exec World Error Unit} {works : Item → Bool} {problem : Item → Error}
  {effect broken : Item → World → World}

/-- A loop over steps that work or fail whatever the world: it does the steps before the first one
that fails, and breaks off there. -/
theorem forEach_run {items : List Item}
    (steps : ∀ item ∈ items, ∀ world, (body item).run world =
      if works item then (.ok (), effect item world) else (.error (problem item), broken item world))
    (world : World) : (forEach items body).run world =
      match items.find? (fun item => !works item) with
      | none => (.ok (), items.foldl (fun world item => effect item world) world)
      | some item => (.error (problem item),
          broken item ((items.takeWhile works).foldl (fun world item => effect item world) world)) := by
  induction items generalizing world with
  | nil => rfl
  | cons item items ih =>
    have first := steps item (List.mem_cons_self ..) world
    rw [forEach]
    by_cases good : works item = true
    · rw [if_pos good] at first
      rw [run_bind_ok first, ih (fun later among => steps later (List.mem_cons_of_mem _ among))]
      simp only [List.find?_cons, List.takeWhile_cons, good, Bool.not_true, if_true, List.foldl_cons]
    · rw [if_neg good] at first
      rw [run_bind_error first]
      rw [Bool.not_eq_true] at good
      simp [good]

end

/-- Whatever the program does, and wherever it fails, this still holds. -/
def Keeps (invariant : World → Prop) (program : Exec World Error Result) : Prop :=
  ∀ world, invariant world → invariant (program.run world).2

section

variable {invariant : World → Prop}

theorem Keeps.pure (result : Result) : Keeps invariant (pure result : Exec World Error Result) :=
  fun _ holds => holds

theorem Keeps.fail (error : Error) : Keeps invariant (fail error : Exec World Error Result) :=
  fun _ holds => holds

theorem Keeps.read : Keeps invariant (read : Exec World Error World) :=
  fun _ holds => holds

section

variable {program : Exec World Error Result} (first : Keeps invariant program)

include first

theorem Keeps.bind {next : Result → Exec World Error Other} (rest : ∀ result, Keeps invariant (next result)) :
    Keeps invariant (program >>= next) := by
  intro world holds
  have held := first world holds
  rcases ran : program.run world with ⟨error | result, after⟩
  · rw [ran] at held
    rw [run_bind_error ran]
    exact held
  · rw [ran] at held
    rw [run_bind_ok ran]
    exact rest result after held

theorem Keeps.rescue {handler : Error → Exec World Error Result} (rest : ∀ error, Keeps invariant (handler error)) :
    Keeps invariant (program.rescue handler) := by
  intro world holds
  have held := first world holds
  rcases ran : program.run world with ⟨error | result, after⟩
  · rw [ran] at held
    rw [run_rescue_error ran]
    exact rest error after held
  · rw [ran] at held
    rw [run_rescue_ok ran]
    exact held

theorem Keeps.ensuring {cleanUp : Exec World Error Unit} (last : Keeps invariant cleanUp) :
    Keeps invariant (program.ensuring cleanUp) := by
  intro world holds
  have held := last _ (first world holds)
  rcases ran : program.run world with ⟨result, after⟩
  rw [ran] at held
  rw [run_ensuring ran]
  rcases cleaned : cleanUp.run after with ⟨problem | _, final⟩
  · rw [cleaned] at held
    exact held
  · rw [cleaned] at held
    exact held

end

theorem Keeps.forEach {items : List Item} {body : Item → Exec World Error Unit}
    (each : ∀ item ∈ items, Keeps invariant (body item)) : Keeps invariant (forEach items body) := by
  induction items with
  | nil => exact Keeps.pure ()
  | cons item items ih =>
    apply Keeps.bind (each item (List.mem_cons_self ..))
    intro _
    exact ih fun later among => each later (List.mem_cons_of_mem _ among)

end

end Exec

end SpaceApp.Foundation
