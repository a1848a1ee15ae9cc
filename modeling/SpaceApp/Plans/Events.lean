import SpaceApp.Plans.Runs

/-! One event after the other keeps what holds of the fleet. -/

set_option autoImplicit false

namespace SpaceApp.Plans

open SpaceApp.Foundation Dialogue

section

variable {options : ControllerOptions} {stored : Nat → ManagedPlanExecution} {alive : Prop} {world next : World}
  {advance after other : Advance} {known told : Known} {record : ManagedPlanExecution} {key otherKey : Nat}
  {reply : Reply} {driver : (op : Op) → Op.Answer op} {op : Op} {answer : Op.Answer op}
  {waits : Op.Answer op → Program Unit} {post : Except Failure Unit → Known → Local → Local → Prop}

/-- The record is written; the clock and the ids stand. -/
structure Wrote (world : World) (record : ManagedPlanExecution) (next : World) : Prop where
  clock : next.clock = world.clock
  nextId : next.nextId = world.nextId
  recorded : next.record = record

theorem reply_beside (replied : world.reply options advance reply driver op = (answer, record))
    (wrote : Wrote world record next) (lease : after.lease = other.lease) (released : after.released = false → other.released = false)
    (apart : after.released = false → World.isRelease op = true → Live world.record other → ¬ Live world.record advance) :
    Beside options world next other after where
  clock := wrote.clock.ge
  nextId := wrote.nextId.ge
  lease
  released
  held := by
    intro unreleased held leased own expiry unexpired bounded
    rw [wrote.clock] at bounded ⊢
    rw [wrote.recorded]
    exact reply_held replied (apart unreleased) leased own unexpired bounded

theorem ThreadKept.answered (kept : ThreadKept options stored alive world advance known post (.waiting op waits))
    (tells : Told options stored alive world advance after known record op answer told)
    (wrote : Wrote world record next) (lease : after.lease = advance.lease) (execution : after.execution = advance.execution)
    (genuine : Genuine options stored advance.execution) (issued : Issued options.ids world.nextId advance.execution) :
    ThreadKept options stored alive next after told post (.ready (waits answer)) where
  counted := by
    rw [tells.count, wrote.nextId]
  guarded := by
    intro id held living
    rw [execution]
    rw [tells.answers.1.1] at held
    exact kept.guarded id held living
  leased := by
    intro expiry knows unreleased
    rw [wrote.clock, wrote.recorded]
    exact tells.leased expiry knows unreleased
  owed := trivial
  keeps := by
    rw [lease]
    apply Thread.Keeps.stable (Thread.Keeps.answered kept.keeps tells.answers)
    have seen : (next.seen after).execution = advance.execution := execution
    apply relies_seen
    · rw [tells.count]
      exact wrote.nextId.ge
    · rw [seen]
      exact genuine
    · rw [seen]
      exact issued.mono wrote.nextId.ge
    · intro id held living
      rw [seen]
      rw [tells.answers.1.1] at held
      exact kept.guarded id held living
    · intro _
      rw [seen]

section
variable (kept : StepKept options stored alive world advance known)

include kept

theorem StepKept.answered (waiting : advance.main = .waiting op waits)
    (moved : after = { advance with
      released := advance.released || World.isRelease op, main := .ready (waits answer) })
    (beside : Beside options world next advance after)
    (tells : Told options stored alive world advance after known record op answer told)
    (wrote : Wrote world record next) (sendings : next.sendings = world.sendings)
    (genuine : Genuine options stored advance.execution)
    (issued : Issued options.ids world.nextId advance.execution) : StepKept options stored alive next after told := by
  subst moved
  have sameMode : told.mode = known.mode := tells.answers.1.1
  have owned : ThreadKept options stored alive world advance known (mainPost options stored alive) (.waiting op waits) :=
    waiting ▸ kept.thread
  constructor
  · exact owned.answered tells wrote rfl rfl genuine issued
  · rw [sameMode]
    exact kept.stepping
  · intro unreleased
    simp only [Bool.or_eq_false_iff] at unreleased
    obtain ⟨before, knows, -⟩ := kept.recorded unreleased.1
    obtain ⟨now, knowsNow, same⟩ := tells.recorded unreleased.2 before knows
    refine ⟨now, knowsNow, ?_⟩
    rw [wrote.recorded]
    exact same
  · intro released
    right
    simp only [Bool.or_eq_true] at released
    rcases released with before | releases
    · rcases kept.finished before with ended | silent
      · rw [waiting] at ended
        cases ended
      · exact tells.silent silent
    · exact tells.released releases
  · intro id knows unreleased living
    simp only [Bool.or_eq_false_iff] at unreleased
    rw [tells.answers.1.2.1] at knows
    rw [sendings]
    exact kept.unsent id knows unreleased.1 living
  · intro id starts
    cases starts
  · rw [sameMode]
    exact kept.calls
  · intro callback member
    obtain ⟨callTold, call⟩ := kept.callbacks callback member
    refine ⟨callTold, call.thread.beside beside genuine (issued.mono wrote.nextId.ge) call.thread.guarded fun _ => rfl,
      call.core, ?_⟩
    rw [sameMode]
    exact call.shares

theorem StepKept.callAnswered {index : Nat} {call : Op}
    (waiting : advance.callbacks[index]? = some (call, .waiting op waits))
    (moved : after = { advance with
      released := advance.released || World.isRelease op
      callbacks := advance.callbacks.modify index fun callback => (callback.1, .ready (waits answer)) })
    (quiet : World.isRelease op = false) (unchanged : core record = core world.record)
    (beside : Beside options world next advance after)
    (tells : ∀ own, CallbackKept options stored alive world advance known (call, .waiting op waits) own →
      ∃ told, Told options stored alive world advance after own record op answer told)
    (wrote : Wrote world record next) (sendings : next.sendings = world.sendings)
    (genuine : Genuine options stored advance.execution)
    (issued : Issued options.ids world.nextId advance.execution) : StepKept options stored alive next after known := by
  subst moved
  simp only [quiet, Bool.or_false] at beside tells ⊢
  constructor
  · exact kept.thread.beside beside genuine (issued.mono wrote.nextId.ge) kept.thread.guarded fun _ => rfl
  · exact kept.stepping
  · intro unreleased
    obtain ⟨before, knows, same⟩ := kept.recorded unreleased
    refine ⟨before, knows, fun living => ?_⟩
    rw [wrote.recorded, unchanged]
    exact same living
  · exact kept.finished
  · intro id knows unreleased living
    rw [sendings]
    exact kept.unsent id knows unreleased living
  · exact kept.starting
  · exact kept.calls
  · intro callback member
    obtain ⟨position, found⟩ := List.mem_iff_getElem?.mp member
    rcases modify_cases found with ⟨rfl, _, here, rfl⟩ | ⟨-, found⟩
    · cases waiting.symm.trans here
      obtain ⟨own, calls⟩ := kept.callbacks _ (List.mem_of_getElem? waiting)
      obtain ⟨told, tells⟩ := tells own calls
      refine ⟨told, calls.thread.answered tells wrote rfl rfl genuine issued, tells.silent calls.core, ?_⟩
      rw [tells.answers.1.1]
      exact calls.shares
    · obtain ⟨own, calls⟩ := kept.callbacks callback (List.mem_of_getElem? found)
      exact ⟨own, calls.thread.beside beside genuine (issued.mono wrote.nextId.ge) calls.thread.guarded fun _ => rfl,
        calls.core, calls.shares⟩

theorem StepKept.waiting {slot : Option Nat} (at_ : advance.thread slot = some (.waiting op waits)) :
    ∃ own post, ThreadKept options stored alive world advance own post (.waiting op waits) ∧
      (own.core.isSome → slot = none ∧ advance.released = false) ∧
      (World.isRelease op = true → slot = none ∧ advance.released = false) := by
  cases slot with
  | none =>
    have waiting : advance.main = .waiting op waits := Option.some.inj at_
    have thread : ThreadKept options stored alive world advance known (mainPost options stored alive)
        (.waiting op waits) := waiting ▸ kept.thread
    have unreleased (knows : known.core.isSome) : advance.released = false := by
      by_contra released
      rcases kept.finished (by simpa using released) with ended | silent
      · rw [waiting] at ended
        cases ended
      · rw [silent] at knows
        cases knows
    refine ⟨known, _, thread, fun knows => ⟨rfl, unreleased knows⟩, ?_⟩
    intro releases
    have owed := thread.owed
    cases op <;> first | exact ⟨rfl, unreleased owed⟩ | cases releases
  | some index =>
    simp only [Advance.thread, Option.map_eq_some_iff] at at_
    obtain ⟨callback, found, same⟩ := at_
    obtain ⟨own, calls⟩ := kept.callbacks callback (List.mem_of_getElem? found)
    have thread := calls.thread
    rw [same] at thread
    have silent : own.core.isSome → False := by
      rw [calls.core]
      intro knows
      cases knows
    refine ⟨own, _, thread, fun knows => (silent knows).elim, ?_⟩
    intro releases
    have owed := thread.owed
    cases op <;> first | exact (silent owed).elim | cases releases

end

/-- A released step holds nothing that a release could take. -/
theorem moved_beside {slot : Option Nat} {thread : Thread}
    (replied : world.reply options advance reply driver op = (answer, record)) (wrote : Wrote world record next) :
    Beside options world next advance (({ advance with released := advance.released || World.isRelease op } : Advance).setThread slot thread) := by
  have lease : (({ advance with released := advance.released || World.isRelease op } : Advance).setThread slot
      thread).lease = advance.lease := by
    cases slot <;> rfl
  have released : (({ advance with released := advance.released || World.isRelease op } : Advance).setThread slot
      thread).released = (advance.released || World.isRelease op) := by
    cases slot <;> rfl
  apply reply_beside replied wrote lease
  · intro unreleased
    rw [released, Bool.or_eq_false_iff] at unreleased
    exact unreleased.1
  · intro unreleased releases
    rw [released, Bool.or_eq_false_iff, releases] at unreleased
    cases unreleased.2

theorem AdvanceKept.answered (mine : AdvanceKept options stored world advance key) {slot : Option Nat}
    (waiting : advance.thread slot = some (.waiting op waits))
    (replied : world.reply options advance reply driver op = (answer, record))
    (moved : after = ({ advance with released := advance.released || World.isRelease op } : Advance).setThread slot
      (.ready (waits answer)))
    (wrote : Wrote world record next) (sendings : next.sendings = world.sendings) (running : next.running = world.running)
    (genuine : Genuine options stored record) (issued : Issued options.ids world.nextId record)
    (landed : ∀ view patch, op = .update view patch → record = world.record ∨ SameRecord record (patched view patch))
    (aside : slot ≠ none → core record = core world.record ∧ World.isRelease op = false) :
    AdvanceKept options stored next after key := by
  have follows : LeaseFollows world.record next.record := by
    rw [wrote.recorded]
    exact reply_follows replied
  have besideAll {final : World} (wrote : Wrote world record final) : Beside options world final advance after := by
    rw [moved]
    exact moved_beside replied wrote
  have epoch : ∃ held, next.record.lease = some held ∧ advance.lease.epoch ≤ held.epoch ∧
      (held.epoch = advance.lease.epoch → held.owner = advance.worker) := by
    obtain ⟨held, leased, atMost, own⟩ := mine.epoch
    obtain ⟨later, now, grown, stays⟩ := follows held leased
    refine ⟨later, now, atMost.trans grown, ?_⟩
    intro same
    have unchanged : later.epoch = held.epoch := by omega
    rw [stays unchanged]
    exact own (unchanged.symm.trans same)
  have tells {alive : Prop} {own : Known} {post : Except Failure Unit → Known → Local → Local → Prop}
      (thread : ThreadKept options stored alive world advance own post (.waiting op waits))
      (records : ∀ before, own.core = some before → alive → core world.record = before) :
      ∃ told, Told options stored alive world advance after own record op answer told :=
    told_op (besideAll ⟨rfl, rfl, rfl⟩) thread.leased thread.counted records genuine issued landed replied
  cases slot with
  | none =>
    have main : advance.main = .waiting op waits := Option.some.inj waiting
    have unreleased : advance.released = true → World.isOver advance.main = true → False := by
      intro _ ended
      rw [main] at ended
      cases ended
    refine ⟨?_, ?_, ?_, ?_, ?_, ?_, ?_, ?_⟩
    · rw [moved]
      exact mine.genuine
    · rw [moved]
      exact mine.issued.mono wrote.nextId.ge
    · rw [moved]
      exact mine.owner
    · rw [moved]
      exact epoch
    · intro _
      rw [moved, running]
      apply mine.running
      rw [main]
      rfl
    · intro ended
      rw [moved] at ended
      cases ended
    · intro id starts
      rw [moved] at starts
      cases starts
    · intro alive living
      rw [moved] at living
      obtain ⟨known, step⟩ := mine.step alive fun live => mine.live follows (living live)
      have thread : ThreadKept options stored alive world advance known (mainPost options stored alive)
          (.waiting op waits) := main ▸ step.thread
      obtain ⟨told, tells⟩ := tells thread (by
        intro before knows live
        cases released : advance.released with
        | true =>
          rcases step.finished released with ended | silent
          · exact (unreleased released ended).elim
          · rw [silent] at knows
            cases knows
        | false =>
          obtain ⟨core, knowsCore, same⟩ := step.recorded released
          rw [knows] at knowsCore
          cases knowsCore
          exact same live)
      exact ⟨told, step.answered main moved (besideAll wrote) tells wrote sendings
        mine.genuine mine.issued⟩
  | some index =>
    simp only [Advance.thread, Option.map_eq_some_iff] at waiting
    obtain ⟨callback, found, same⟩ := waiting
    obtain ⟨unchanged, quiet⟩ := aside (by simp)
    have call : advance.callbacks[index]? = some (callback.1, .waiting op waits) := by
      rw [found, ← same]
    refine ⟨?_, ?_, ?_, ?_, ?_, ?_, ?_, ?_⟩
    · rw [moved]
      exact mine.genuine
    · rw [moved]
      exact mine.issued.mono wrote.nextId.ge
    · rw [moved]
      exact mine.owner
    · rw [moved]
      exact epoch
    · intro going
      rw [moved] at going ⊢
      rw [running]
      exact mine.running going
    · intro ended
      rw [moved] at ended ⊢
      simp only [Advance.setThread, mine.ended ended, Bool.true_or]
    · intro id starts
      rw [moved] at starts
      rw [sendings]
      exact mine.handed id starts
    · intro alive living
      rw [moved] at living
      obtain ⟨known, step⟩ := mine.step alive fun live => mine.live follows (living live)
      refine ⟨known, step.callAnswered call moved quiet unchanged (besideAll wrote) ?_ wrote sendings
        mine.genuine mine.issued⟩
      intro own calls
      apply tells calls.thread
      intro before knows
      rw [calls.core] at knows
      cases knows

theorem WorldKept.performs (kept : WorldKept options stored world) {slot : Option Nat}
    (agrees : ∀ record ∈ (world.performs options key slot reply driver).past, SameRecord record (stored record.revision)) :
    WorldKept options stored (world.performs options key slot reply driver) := by
  unfold World.performs at agrees ⊢
  split
  · exact kept
  next advance present =>
  simp only [present] at agrees
  split
  next op waits waiting =>
    simp only [waiting] at agrees
    rcases replied : world.reply options advance reply driver op with ⟨answer, record⟩
    simp only [replied] at agrees ⊢
    have mine := kept.advances key advance present
    have follows := reply_follows replied
    -- what the record becomes does not depend on what a thread knows
    obtain ⟨known, step⟩ := mine.step _ fun live => live
    obtain ⟨own, post, thread, unreleased, releases⟩ := step.waiting waiting
    obtain ⟨sound, issued, keeps, landed, unchanged⟩ :=
      kept.replied thread (fun knows => (unreleased knows).2) replied
    have version : SameRecord record (stored record.revision) := agrees record (List.mem_cons_self ..)
    have genuine : Genuine options stored record := ⟨version, sound⟩
    refine kept.moved genuine issued rfl (kept.sendings.kept rfl le_rfl keeps) rfl ?_ ?_
    · refine mine.answered waiting replied rfl ⟨rfl, rfl, rfl⟩ rfl rfl genuine issued landed ?_
      intro called
      constructor
      · rcases unchanged with same | ⟨knows, -⟩
        · exact same
        · exact absurd (unreleased knows).1 called
      · by_contra release
        exact called (releases (by simpa using release)).1
    · intro otherKey other apart otherPresent
      have its := kept.advances otherKey other otherPresent
      constructor
      · refine reply_beside replied ⟨rfl, rfl, rfl⟩ rfl id ?_
        intro otherUnreleased release otherLive live
        exact apart (kept.sole present otherPresent (releases release).2 otherUnreleased live otherLive)
      · exact id
      · exact follows
      · intro otherUnreleased otherLive
        rcases unchanged with same | ⟨-, held, live⟩
        · exact same
        · exact absurd (kept.sole present otherPresent held otherUnreleased live (its.live follows otherLive)) apart
      · exact ⟨[], rfl, fun _ _ sending member => by cases member⟩
  · exact kept

end

end SpaceApp.Plans
