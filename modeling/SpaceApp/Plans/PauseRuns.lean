import SpaceApp.Plans.PauseTurns
import SpaceApp.Plans.Answering

/-! The fleet with its pauses noted, and what each thread of it knows of them. -/

set_option autoImplicit false

namespace SpaceApp.Plans

open SpaceApp.Foundation

def commandOf : Op → Option ManagedPlanCommand
  | .updateThreadSettings _ _ command => some command
  | .startManagedTurn _ _ _ start _ => some start
  | _ => none

def Advance.sends (advance : Advance) : Option ManagedPlanCommand :=
  match advance.main with
  | .waiting op _ => commandOf op
  | _ => none

/-- The driver is let through to send a command: when the last fence of its `beforeSend` showed the
record, and when the pause that stands by now, the first since the last resume, was committed. -/
structure Pass where
  command : ManagedPlanCommand
  fencedAt : Nat
  pausedAt : Option Nat

/-- The fleet, and what no code of it reads: how many events there were, when the standing pause
was committed, when each `beforeSend` was last shown the record, and the commands let through. -/
structure Watched where
  world : World
  count : Nat := 0
  pausedAt : Option Nat := none
  fencedAt : Nat → Nat → Nat := fun _ _ => 0
  passes : List Pass := []

def isClaim : Op → Bool
  | .claim => true
  | _ => false

namespace Watched

def patchedBy (options : ControllerOptions) (world : World) (view : Nat) (change : OperatorChange) :
    Option ManagedPlanExecution :=
  match world.views[view]? with
  | none => none
  | some execution =>
      match operatorPatch execution (options.ids.uuid world.nextId) world.clock change with
      | .error _ => none
      | .ok patch => (updateRecord world.record execution.revision patch none world.clock).toOption

def commits (options : ControllerOptions) (world : World) (view : Nat) (change : OperatorChange) : Bool :=
  (patchedBy options world view change).isSome

def pausedAfter (options : ControllerOptions) (watched : Watched) : Event → Option Nat
  | .operatorPatches view (.control .pause) =>
      if commits options watched.world view (.control .pause) then some (watched.pausedAt.getD watched.count)
      else watched.pausedAt
  | .operatorPatches view (.control .resume) =>
      if commits options watched.world view (.control .resume) then none else watched.pausedAt
  | _ => watched.pausedAt

/-- The claim of a `beforeSend` is answered. -/
def fences (world : World) : Event → Option (Nat × Nat)
  | .performs key (some index) _ _ =>
      match (world.advances key).bind fun advance => advance.thread (some index) with
      | some (.waiting op _) => if isClaim op then some (key, index) else none
      | _ => none
  | _ => none

def fencedAfter (watched : Watched) (event : Event) : Nat → Nat → Nat :=
  match fences watched.world event with
  | some (key, index) =>
      Function.update watched.fencedAt key (Function.update (watched.fencedAt key) index watched.count)
  | none => watched.fencedAt

def lets (watched : Watched) : Event → List Pass
  | .resumes key (some index) evidence =>
      match watched.world.advances key with
      | none => []
      | some advance =>
          match advance.callbacks[index]? with
          | some (op, .ready program) =>
              match (program.settle (watched.world.localOf advance evidence)).1, commandOf op with
              | .ended (.ok _), some command =>
                  if advance.sends = some command then
                    [{ command, fencedAt := watched.fencedAt key index, pausedAt := watched.pausedAt }]
                  else []
              | _, _ => []
          | _ => []
  | _ => []

def step (options : ControllerOptions) (watched : Watched) (event : Event) : Watched where
  world := watched.world.step options event
  count := watched.count + 1
  pausedAt := watched.pausedAfter options event
  fencedAt := watched.fencedAfter event
  passes := watched.lets event ++ watched.passes

def allowed (watched : Watched) (event : Event) : Prop := watched.world.allowed event

def created (input : CreateManagedPlanExecution) (watched : Watched) : Prop :=
  ∃ world, World.created input world ∧ watched = { world }

end Watched

namespace Pausing

open Dialogue

section

variable (stored : Nat → Gist) (watched : Watched) (key : Nat) (advance : Advance)

/-- What a patch that waits for its answer was asked with. -/
def Owed : Thread → Prop
  | .waiting (.update view patch) _ => Filed stored view ∧ (gist view).Steady patch
  | _ => True

def Advance.here (advance : Advance) : Local := { execution := advance.execution }

structure ThreadHeld (post : Except Failure Unit → Sight → Local → Local → Prop) (thread : Thread) (known : Sight) :
    Prop where
  owed : Owed stored thread
  keeps : thread.Keeps (rules stored) known (Advance.here advance) post

def mainPost (_ : Except Failure Unit) (_ : Sight) (_ later : Local) : Prop := Filed stored later.execution

def callPost (op : Op) (result : Except Failure Unit) (told : Sight) (since later : Local) : Prop :=
  Poised stored told since later ∧ (isCommand op = true → result = .ok () → told.claimed = some (gist since.execution))

structure CallHeld (callback : Op × Thread) (known : Sight) : Prop where
  thread : ThreadHeld stored advance (callPost stored callback.1) callback.2 known
  shares : known.share = .passing ∨ known.share = .loose ∧ ∃ op ∈ advance.calls, isInterrupt op = true
  command : isCommand callback.1 = true → known.share = .passing

structure MainHeld (known : Sight) : Prop where
  thread : ThreadHeld stored advance (mainPost stored) advance.main known
  stepping : known.share ≠ .passing
  strict : known.share = .strict → ∀ op ∈ advance.calls, isInterrupt op = false
  asked : ∀ op next, advance.main = .waiting op next → isCommand op = true →
    known.share = .strict ∧ ¬ (gist advance.execution).Held

/-- What the last claim showed was held, if a pause stood at the time. -/
def Fenced (index : Nat) (known : Sight) : Prop :=
  ∀ seen, known.claimed = some seen → watched.fencedAt key index < watched.count ∧
    ∀ paused, watched.pausedAt = some paused → paused ≤ watched.fencedAt key index → seen.Held

structure AdvanceHeld : Prop where
  filed : Filed stored advance.execution
  main : ∃ known, MainHeld stored advance known
  callbacks : ∀ index callback, advance.callbacks[index]? = some callback →
    ∃ known, CallHeld stored advance callback known ∧ Fenced watched key index known

structure WatchHeld : Prop where
  record : Filed stored watched.world.record
  held : watched.pausedAt.isSome = true → (gist watched.world.record).Held
  views : ∀ view ∈ watched.world.views, Filed stored view
  advances : ∀ key advance, watched.world.advances key = some advance → AdvanceHeld stored watched key advance
  passes : ∀ pass ∈ watched.passes, ∀ paused, pass.pausedAt = some paused → pass.fencedAt < paused

end

section

variable {options : ControllerOptions} {stored : Nat → Gist} {watched next : Watched} {world : World} {key index : Nat}
  {advance after : Advance} {known told : Sight} {reply : Reply} {driver : (op : Op) → Op.Answer op}
  {record : ManagedPlanExecution} {event : Event} {thread : Thread}
  {post : Except Failure Unit → Sight → Local → Local → Prop}

theorem ThreadHeld.moved (held : ThreadHeld stored advance post thread known) (filed : Filed stored after.execution)
    (same : known.share = .strict → gist after.execution = gist advance.execution) :
    ThreadHeld stored after post thread known where
  owed := held.owed
  keeps := Thread.Keeps.stable held.keeps ⟨filed, same⟩

theorem CallHeld.moved {callback : Op × Thread} (held : CallHeld stored advance callback known)
    (filed : Filed stored after.execution) (calls : ∀ op ∈ advance.calls, op ∈ after.calls) :
    CallHeld stored after callback known where
  thread := by
    apply held.thread.moved filed
    intro strict
    rcases held.shares with passing | ⟨loose, _⟩
    · rw [strict] at passing
      cases passing
    · rw [strict] at loose
      cases loose
  shares := held.shares.imp_right fun ⟨loose, op, member, interrupts⟩ => ⟨loose, op, calls op member, interrupts⟩
  command := held.command

/-- The last claim stays what it was; a new pause comes after it. -/
theorem Fenced.kept (fenced : Fenced watched key index known)
    (other : Watched.fences watched.world event ≠ some (key, index)) :
    Fenced (watched.step options event) key index known := by
  intro seen shows
  obtain ⟨before, held⟩ := fenced seen shows
  have same : (watched.step options event).fencedAt key index = watched.fencedAt key index := by
    show watched.fencedAfter event key index = _
    unfold Watched.fencedAfter
    cases found : Watched.fences watched.world event with
    | none => rfl
    | some place =>
      obtain ⟨otherKey, otherIndex⟩ := place
      dsimp only
      by_cases sameKey : key = otherKey
      · subst sameKey
        rw [Function.update_self, Function.update_of_ne]
        intro sameIndex
        rw [found, sameIndex] at other
        exact other rfl
      · rw [Function.update_of_ne sameKey]
  rw [same]
  refine ⟨Nat.lt_succ_of_lt before, ?_⟩
  intro paused standing late
  have standing : watched.pausedAfter options event = some paused := standing
  unfold Watched.pausedAfter at standing
  split at standing
  · split at standing
    · cases stood : watched.pausedAt with
      | none =>
        rw [stood] at standing
        cases standing
        exact absurd before (Nat.not_lt.mpr late)
      | some first =>
        rw [stood] at standing
        cases standing
        exact held _ stood late
    · exact held paused standing late
  · split at standing
    · cases standing
    · exact held paused standing late
  · exact held paused standing late

/-- The record a question leaves: the one before it up to the lease, or a steady patch of it. -/
theorem reply_gist {op : Op} {answer : Op.Answer op} {waits : Op.Answer op → Program Unit}
    (filed : Filed stored world.record) (owed : Owed stored (.waiting op waits))
    (replied : world.reply options advance reply driver op = (answer, record)) :
    gist record = gist world.record ∨ ∃ patch, gist record = (gist world.record).after patch ∧
      (gist world.record).Steady patch := by
  cases reply_stores replied with
  | same => exact .inl rfl
  | claims claimed => exact .inl (claimRecord_claimed claimed).1.gist
  | releases => exact .inl (releaseRecord_same _ _).gist
  | @updates view _ patch updated =>
    have same : gist view = gist world.record := by
      rw [show gist view = stored view.revision from owed.1, show gist world.record = _ from filed,
        (updateRecord_updated updated).1]
    refine .inr ⟨patch, ?_, same ▸ owed.2⟩
    rw [updated_patched updated, gist_patched]

variable (known) in
theorem reply_told {op : Op} {answer : Op.Answer op} {waits : Op.Answer op → Program Unit}
    (filed : Filed stored world.record) (owed : Owed stored (.waiting op waits)) (lands : Filed stored record)
    (replied : world.reply options advance reply driver op = (answer, record)) :
    ∃ told, answers stored known op answer told ∧
      (isClaim op = false ∧ told.claimed = known.claimed ∨
        isClaim op = true ∧ ∀ seen, told.claimed = some seen → seen = gist world.record) := by
  cases op with
  | claim =>
    match answer, replied with
    | .error failure, _ => exact ⟨{ known with claimed := none }, ⟨rfl, rfl⟩, .inr ⟨rfl, fun _ shows => by cases shows⟩⟩
    | .ok none, _ => exact ⟨{ known with claimed := none }, ⟨rfl, rfl⟩, .inr ⟨rfl, fun _ shows => by cases shows⟩⟩
    | .ok (some claimed), replied =>
      rcases reply_claim replied with ⟨-, unclaimed⟩ | ⟨claims, own⟩
      · exact absurd rfl (unclaimed claimed)
      · obtain rfl := own claimed rfl
        refine ⟨{ known with claimed := some (gist claimed) }, ⟨rfl, rfl, lands⟩, .inr ⟨rfl, ?_⟩⟩
        intro seen shows
        cases shows
        exact (claimRecord_claimed claims).1.gist
  | update view patch =>
    match answer, replied with
    | .error failure, _ => exact ⟨known, ⟨rfl, rfl⟩, .inl ⟨rfl, rfl⟩⟩
    | .ok after, replied =>
      rcases reply_update replied with ⟨-, failure, same⟩ | ⟨updated, same | ⟨failure, same⟩⟩
      · cases same
      · cases same
        have gists : gist view = gist world.record := by
          rw [show gist view = stored view.revision from owed.1, show gist world.record = _ from filed,
            (updateRecord_updated updated).1]
        refine ⟨known, ⟨rfl, rfl, lands, ?_⟩, .inl ⟨rfl, rfl⟩⟩
        rw [updated_patched updated, gist_patched, gists]
      · cases same
  | get =>
    match answer, replied with
    | .error failure, _ => exact ⟨known, ⟨rfl, rfl⟩, .inl ⟨rfl, rfl⟩⟩
    | .ok none, _ => exact ⟨known, ⟨rfl, rfl⟩, .inl ⟨rfl, rfl⟩⟩
    | .ok (some latest), replied =>
      obtain ⟨-, own⟩ := reply_get replied
      obtain rfl := own latest rfl
      exact ⟨known, ⟨rfl, rfl, filed⟩, .inl ⟨rfl, rfl⟩⟩
  | _ => exact ⟨known, ⟨rfl, rfl⟩, .inl ⟨rfl, rfl⟩⟩

end

end Pausing

end SpaceApp.Plans
