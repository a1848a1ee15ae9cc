import Mathlib.Data.Int.Notation
import Mathlib.Logic.Function.Basic
import SpaceApp.Foundation.Reach

/-! The lock file of the canonical memory (`shared-state.ts`: `withFileLock`, `removeStaleLock`), one process per pid.

A process goes from one file operation to the next; each takes effect at once, and may fail. A process may die at any
step, and its pid is not used again.
-/

set_option autoImplicit false

namespace SpaceApp.Memory.FileLock

open SpaceApp.Foundation

def staleLockMs : ℤ := 30000

structure LockFile where
  id : Nat
  creator : Nat
  pid : Option Nat
  mtime : ℤ
  deriving DecidableEq

structure Attempt where
  startedAt : ℤ
  staleChecked : Bool
  deriving DecidableEq

/-- Where a process is in `withFileLock`. -/
inductive Place where
  | idle
  | opening (attempt : Attempt)
  | writing (id : Nat)
  | stating (attempt : Attempt)
  | reading (attempt : Attempt)
  | judging (attempt : Attempt) (pid : Option Nat)
  | removing (attempt : Attempt)
  | waiting (attempt : Attempt)
  | inside (id : Nat)
  | releasing (id : Nat)
  | dead
  deriving DecidableEq

structure World where
  file : Option LockFile := none
  place : Nat → Place := fun _ => .idle
  created : Nat := 0

inductive Event where
  | starts (process : Nat) (now : ℤ)
  | opens (process : Nat) (now : ℤ) (fails : Bool)
  | writes (process : Nat) (now : ℤ) (fails : Bool)
  | stats (process : Nat) (now : ℤ)
  | reads (process : Nat)
  | judges (process : Nat)
  | removes (process : Nat) (fails : Bool)
  | waits (process : Nat) (now : ℤ)
  | finishes (process : Nat)
  | releases (process : Nat) (fails : Bool)
  | dies (process : Nat)
  deriving DecidableEq

namespace World

def move (world : World) (process : Nat) (place : Place) : World :=
  { world with place := Function.update world.place process place }

def openLock (world : World) (process : Nat) (attempt : Attempt) (now : ℤ) : World :=
  match world.file with
  | none => { world.move process (.writing world.created) with
      file := some { id := world.created, creator := process, pid := none, mtime := now }
      created := world.created + 1 }
  | some _ =>
    if attempt.staleChecked then world.move process (.waiting attempt)
    else world.move process (.stating { attempt with staleChecked := true })

/-- The pid goes to the file the handle was opened on, which may be at the path no more. -/
def writePid (world : World) (process id : Nat) (now : ℤ) : World :=
  { world.move process (.inside id) with
    file := world.file.map fun file => if file.id = id then { file with pid := some process, mtime := now } else file }

def statLock (world : World) (process : Nat) (attempt : Attempt) (now : ℤ) : World :=
  match world.file with
  | none => world.move process (.waiting attempt)
  | some file =>
    if now - file.mtime < staleLockMs then world.move process (.waiting attempt)
    else world.move process (.reading attempt)

def readLock (world : World) (process : Nat) (attempt : Attempt) : World :=
  match world.file with
  | none => world.move process (.waiting attempt)
  | some file => world.move process (.judging attempt file.pid)

/-- `process.kill(pid, 0)`: a lock of a process that lives, or cannot be asked about, stays. -/
def judgeLock (world : World) (process : Nat) (attempt : Attempt) (pid : Option Nat) : World :=
  match pid with
  | none => world.move process (.removing attempt)
  | some other =>
    if other = 0 ∨ world.place other = .dead then world.move process (.removing attempt)
    else world.move process (.waiting attempt)

def step (world : World) : Event → World
  | .starts process now =>
    if world.place process = .idle then world.move process (.opening { startedAt := now, staleChecked := false }) else world
  | .opens process now fails =>
    match world.place process with
    | .opening attempt => if fails then world.move process .idle else world.openLock process attempt now
    | _ => world
  | .writes process now fails =>
    match world.place process with
    | .writing id => if fails then world.move process .idle else world.writePid process id now
    | _ => world
  | .stats process now =>
    match world.place process with
    | .stating attempt => world.statLock process attempt now
    | _ => world
  | .reads process =>
    match world.place process with
    | .reading attempt => world.readLock process attempt
    | _ => world
  | .judges process =>
    match world.place process with
    | .judging attempt pid => world.judgeLock process attempt pid
    | _ => world
  | .removes process fails =>
    match world.place process with
    | .removing attempt =>
      if fails then world.move process (.waiting attempt) else { world.move process (.opening attempt) with file := none }
    | _ => world
  | .waits process now =>
    match world.place process with
    | .waiting attempt =>
      if 5000 < now - attempt.startedAt then world.move process .idle else world.move process (.opening attempt)
    | _ => world
  | .finishes process =>
    match world.place process with
    | .inside id => world.move process (.releasing id)
    | _ => world
  | .releases process fails =>
    match world.place process with
    | .releasing _ => if fails then world.move process .idle else { world.move process .idle with file := none }
    | _ => world
  | .dies process => world.move process .dead

end World

/-- The process has made this lock file, and not released it. -/
def Place.holds : Place → Nat → Bool
  | .writing own, id => own = id
  | .inside own, id => own = id
  | .releasing own, id => own = id
  | _, _ => false

def Place.removes : Place → Bool
  | .removing _ => true
  | _ => false

/-- A waiter removes, as stale, the lock of a live process. -/
def removesHeld (world : World) : Event → Bool
  | .removes process false =>
    (world.place process).removes && world.file.any fun file => (world.place file.creator).holds file.id
  | _ => false

def Abandoned (world : World) (event : Event) : Prop := removesHeld world event = false

instance (world : World) (event : Event) : Decidable (Abandoned world event) := inferInstanceAs (Decidable (_ = false))

structure Exclusive (world : World) : Prop where
  alone : ∀ process other id otherId, world.place process = .inside id → world.place other = .inside otherId → process = other
  own : ∀ process id file, world.place process = .releasing id → world.file = some file →
    file.id = id ∧ file.creator = process

/-- The lock file of each holder is the one at the path. -/
def Held (world : World) : Prop :=
  ∀ process id, (world.place process).holds id = true →
    ∃ file, world.file = some file ∧ file.id = id ∧ file.creator = process

section

variable {world : World} {process : Nat} {place : Place}

section

variable (held : Held world)

include held

theorem Held.move (kept : ∀ id, place.holds id = true → (world.place process).holds id = true) :
    Held (world.move process place) := by
  intro other id holds
  unfold World.move at holds
  simp only [Function.update_apply] at holds
  split at holds
  · next same => exact same ▸ held process id (kept id holds)
  · exact held other id holds

theorem Held.leave (free : ∀ id, place.holds id = false) : Held (world.move process place) :=
  held.move fun id holds => by
    rw [free id] at holds
    cases holds

theorem Held.openLock (attempt : Attempt) (now : ℤ) : Held (world.openLock process attempt now) := by
  unfold World.openLock
  split
  · next absent =>
    intro other id holds
    unfold World.move at holds
    simp only [Function.update_apply] at holds
    split at holds
    · next same =>
      have id_ : world.created = id := by simpa [Place.holds] using holds
      exact ⟨_, rfl, id_, same.symm⟩
    · -- with no file at the path, nobody held one
      obtain ⟨file, present, -⟩ := held other id holds
      rw [absent] at present
      cases present
  · split
    · exact held.leave fun _ => rfl
    · exact held.leave fun _ => rfl

theorem Held.writePid {id : Nat} (now : ℤ) (made : world.place process = .writing id) :
    Held (world.writePid process id now) := by
  intro other otherId holds
  have before : (world.place other).holds otherId = true := by
    unfold World.writePid World.move at holds
    simp only [Function.update_apply] at holds
    split at holds
    · next same =>
      rw [same, made]
      exact holds
    · exact holds
  obtain ⟨file, present, sameId, creator⟩ := held other otherId before
  unfold World.writePid
  rw [present]
  refine ⟨_, rfl, ?_, ?_⟩ <;> dsimp only <;> split <;> assumption

theorem Held.remove (free : ∀ id, place.holds id = false)
    (unheld : ∀ file, world.file = some file → file.creator ≠ process → (world.place file.creator).holds file.id = false) :
    Held { world.move process place with file := none } := by
  intro other id holds
  unfold World.move at holds
  simp only [Function.update_apply] at holds
  split at holds
  · rw [free id] at holds
    cases holds
  next apart =>
  obtain ⟨file, present, rfl, rfl⟩ := held other id holds
  rw [unheld file present apart] at holds
  cases holds

theorem Held.step {event : Event} (abandoned : Abandoned world event) : Held (world.step event) := by
  cases event with
  | starts process now =>
    unfold World.step
    dsimp only
    split
    · exact held.leave fun _ => rfl
    · exact held
  | opens process now fails =>
    unfold World.step
    dsimp only
    split
    · split
      · exact held.leave fun _ => rfl
      · exact held.openLock _ _
    · exact held
  | writes process now fails =>
    unfold World.step
    dsimp only
    split
    · next made =>
      split
      · exact held.leave fun _ => rfl
      · exact held.writePid now made
    · exact held
  | stats process now =>
    unfold World.step World.statLock
    dsimp only
    split
    · split
      · exact held.leave fun _ => rfl
      · split <;> exact held.leave fun _ => rfl
    · exact held
  | reads process =>
    unfold World.step World.readLock
    dsimp only
    split
    · split <;> exact held.leave fun _ => rfl
    · exact held
  | judges process =>
    unfold World.step World.judgeLock
    dsimp only
    split
    · split
      · exact held.leave fun _ => rfl
      · split <;> exact held.leave fun _ => rfl
    · exact held
  | removes process fails =>
    unfold World.step
    dsimp only
    split
    · next attempt removing =>
      cases fails with
      | true => exact held.leave fun _ => rfl
      | false =>
        refine held.remove (fun _ => rfl) fun file present _ => ?_
        simpa only [Abandoned, removesHeld, removing, Place.removes, present, Bool.true_and, Option.any_some] using abandoned
    · exact held
  | waits process now =>
    unfold World.step
    dsimp only
    split
    · split <;> exact held.leave fun _ => rfl
    · exact held
  | finishes process =>
    unfold World.step
    dsimp only
    split
    · next inside =>
      refine held.move fun other holds => ?_
      rw [inside]
      exact holds
    · exact held
  | releases process fails =>
    unfold World.step
    dsimp only
    split
    · next id releasing =>
      split
      · exact held.leave fun _ => rfl
      · refine held.remove (fun _ => rfl) fun file present apart => ?_
        -- the lock at the path is the releaser's
        obtain ⟨own, found, -, creator⟩ := held process id (by rw [releasing]; exact decide_eq_true rfl)
        rw [present] at found
        cases found
        exact (apart creator).elim
    · exact held
  | dies process => exact held.leave fun _ => rfl

theorem Held.exclusive : Exclusive world := by
  constructor
  · intro process other id otherId here there
    obtain ⟨file, present, -, creator⟩ := held process id (by rw [here]; exact decide_eq_true rfl)
    obtain ⟨same, found, -, otherCreator⟩ := held other otherId (by rw [there]; exact decide_eq_true rfl)
    rw [present] at found
    cases found
    exact creator.symm.trans otherCreator
  · intro process id file releasing present
    obtain ⟨own, found, sameId, creator⟩ := held process id (by rw [releasing]; exact decide_eq_true rfl)
    rw [present] at found
    cases found
    exact ⟨sameId, creator⟩

end

end

/-- Where what is removed as stale is nobody's lock, the lock is exclusive. -/
theorem lock_exclusive {world : World}
    (reached : Reached (fun world => world = {}) Abandoned World.step world) : Exclusive world := by
  refine Held.exclusive (reached.invariant ?_ fun _ _ held abandoned => held.step abandoned)
  rintro _ rfl process id holds
  cases holds

namespace Sample

/-- A process finds a lock it takes for stale. -/
def judged (process : Nat) : List Event :=
  [.starts process 100000, .opens process 100000 false, .stats process 100000, .reads process, .judges process]

def crashed : List Event := [.starts 1 0, .opens 1 0 false, .writes 1 0 false, .dies 1]

def enters (process : Nat) : List Event :=
  [.removes process false, .opens process 100000 false, .writes process 100000 false]

end Sample

/-- A crashed writer's lock is removed, and its finder gets in. -/
theorem lock_exclusive_crashed :
    Exclusive ((Sample.crashed ++ Sample.judged 2 ++ Sample.enters 2).foldl World.step {}) ∧
      ((Sample.crashed ++ Sample.judged 2 ++ Sample.enters 2).foldl World.step {}).place 2 = .inside 1 :=
  ⟨lock_exclusive (Reached.run (.start rfl) (by decide)), by decide⟩

/-- Two processes judge one lock stale; the second removes the lock the first has made since. -/
theorem stale_lock_removed_twice : ¬ ∀ events : List Event, Exclusive (events.foldl World.step {}) := by
  intro always
  have exclusive := always (Sample.crashed ++ Sample.judged 2 ++ Sample.judged 3 ++ Sample.enters 2 ++ Sample.enters 3)
  exact absurd (exclusive.alone 2 3 1 2 (by decide) (by decide)) (by decide)

end SpaceApp.Memory.FileLock
