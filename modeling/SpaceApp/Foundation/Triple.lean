import SpaceApp.Foundation.Exec

/-! Pre- and postconditions of programs that may fail. -/

set_option autoImplicit false

namespace SpaceApp.Foundation

namespace Exec

variable {World Error Result Other Item : Type}

/-- From a world with `before`, the program ends with `after`, or fails with `failed`. -/
def Triple (before : World → Prop) (program : Exec World Error Result) (after : Result → World → Prop)
    (failed : Error → World → Prop) : Prop :=
  ∀ world, before world →
    match program.run world with
    | (.ok result, last) => after result last
    | (.error error, last) => failed error last

section

variable {before : World → Prop} {program : Exec World Error Result} {after : Result → World → Prop}
  {failed : Error → World → Prop}

section

variable (holds : Triple before program after failed) {world last : World} (known : before world)

include holds known

theorem Triple.ok {result : Result} (ran : program.run world = (.ok result, last)) : after result last := by
  have ended := holds world known
  rw [ran] at ended
  exact ended

theorem Triple.error {error : Error} (ran : program.run world = (.error error, last)) : failed error last := by
  have ended := holds world known
  rw [ran] at ended
  exact ended

end

theorem Triple.of_cases (ok : ∀ world last result, before world → program.run world = (.ok result, last) → after result last)
    (error : ∀ world last error, before world → program.run world = (.error error, last) → failed error last) :
    Triple before program after failed := by
  intro world known
  rcases ran : program.run world with ⟨problem | result, last⟩
  · exact error world last problem known ran
  · exact ok world last result known ran

theorem Triple.weaken {stronger : World → Prop} {laxer : Result → World → Prop} {laxerFailed : Error → World → Prop}
    (holds : Triple before program after failed) (first : ∀ world, stronger world → before world)
    (last : ∀ result world, after result world → laxer result world)
    (fails : ∀ error world, failed error world → laxerFailed error world) :
    Triple stronger program laxer laxerFailed := by
  apply Triple.of_cases
  · exact fun world _ _ known ran => last _ _ (holds.ok (first world known) ran)
  · exact fun world _ _ known ran => fails _ _ (holds.error (first world known) ran)

theorem Triple.of_keeps {invariant : World → Prop} (keeps : Keeps invariant program) :
    Triple invariant program (fun _ => invariant) (fun _ => invariant) := by
  apply Triple.of_cases
  · intro world last result known ran
    have held := keeps world known
    rwa [ran] at held
  · intro world last error known ran
    have held := keeps world known
    rwa [ran] at held

theorem Triple.either {other : World → Prop} (first : Triple before program after failed)
    (second : Triple other program after failed) : Triple (fun world => before world ∨ other world) program after failed := by
  rintro world (known | known)
  · exact first world known
  · exact second world known

theorem Triple.pure {result : Result} (known : ∀ world, before world → after result world) :
    Triple before (pure result : Exec World Error Result) after failed :=
  fun world holds => known world holds

theorem Triple.fail {error : Error} (known : ∀ world, before world → failed error world) :
    Triple before (fail error : Exec World Error Result) after failed :=
  fun world holds => known world holds

theorem Triple.change {effect : World → World} {after : Unit → World → Prop}
    (known : ∀ world, before world → after () (effect world)) :
    Triple before (change effect : Exec World Error Unit) after failed :=
  fun world holds => known world holds

theorem Triple.bind {next : Result → Exec World Error Other} {last : Other → World → Prop}
    (first : Triple before program after failed) (rest : ∀ result, Triple (after result) (next result) last failed) :
    Triple before (program >>= next) last failed := by
  intro world known
  rcases ran : program.run world with ⟨error | result, middle⟩
  · rw [run_bind_error ran]
    exact first.error known ran
  · rw [run_bind_ok ran]
    exact rest result middle (first.ok known ran)

theorem Triple.read_bind {next : World → Exec World Error Other} {last : Other → World → Prop}
    (rest : ∀ world, before world → Triple (fun now => now = world ∧ before now) (next world) last failed) :
    Triple before (Exec.read >>= next) last failed := by
  intro world known
  rw [run_read_bind]
  exact rest world known world ⟨rfl, known⟩

theorem Triple.rescue {handler : Error → Exec World Error Result} {broken : Error → World → Prop}
    (first : Triple before program after broken) (rest : ∀ error, Triple (broken error) (handler error) after failed) :
    Triple before (program.rescue handler) after failed := by
  intro world known
  rcases ran : program.run world with ⟨error | result, middle⟩
  · rw [run_rescue_error ran]
    exact rest error middle (first.error known ran)
  · rw [run_rescue_ok ran]
    exact first.ok known ran

/-- `try … finally`: an error of the cleaning up takes the place of what came before. -/
theorem Triple.ensuring {cleanUp : Exec World Error Unit} {done : Result → World → Prop} {broken : Error → World → Prop}
    (first : Triple before program done broken)
    (afterDone : ∀ result, Triple (done result) cleanUp (fun _ => after result) failed)
    (afterBroken : ∀ error, Triple (broken error) cleanUp (fun _ => failed error) failed) :
    Triple before (program.ensuring cleanUp) after failed := by
  intro world known
  rcases ran : program.run world with ⟨error | result, middle⟩
  · rw [run_ensuring ran]
    rcases cleaned : cleanUp.run middle with ⟨problem | _, last⟩
    · exact (afterBroken error).error (first.error known ran) cleaned
    · exact (afterBroken error).ok (first.error known ran) cleaned
  · rw [run_ensuring ran]
    rcases cleaned : cleanUp.run middle with ⟨problem | _, last⟩
    · exact (afterDone result).error (first.ok known ran) cleaned
    · exact (afterDone result).ok (first.ok known ran) cleaned

end

end Exec

end SpaceApp.Foundation
