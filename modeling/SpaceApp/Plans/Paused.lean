import SpaceApp.Plans.PauseEvents
import SpaceApp.Plans.Reached

/-! A pause that stands holds the record in every state the fleet reaches, and lets no command
through whose last fence came after it. -/

set_option autoImplicit false

namespace SpaceApp.Plans

open SpaceApp.Foundation

namespace Pausing

open Dialogue

section

variable {options : ControllerOptions} {stored : Nat → Gist} {watched : Watched} {key : Nat} {advance : Advance}
  {evidence : String → TurnEvidence} {record : ManagedPlanExecution} {event : Event}

theorem WatchHeld.resumes (held : WatchHeld stored watched) {slot : Option Nat} :
    WatchHeld stored (watched.step options (.resumes key slot evidence)) := by
  have silent : Watched.fences watched.world (.resumes key slot evidence) = none := by
    cases slot <;> rfl
  have other (place : Nat × Nat) : Watched.fences watched.world (.resumes key slot evidence) ≠ some place := by
    rw [silent]
    simp
  cases present : watched.world.advances key with
  | none =>
    refine held.idle ?_ rfl silent ?_
    · simp only [World.step, World.resumes, present]
    · cases slot <;> simp [Watched.lets, present]
  | some advance =>
    have mine := held.advances key advance present
    have moves (after : Advance)
        (record : (watched.world.step options (.resumes key slot evidence)).record = watched.world.record)
        (views : (watched.world.step options (.resumes key slot evidence)).views = watched.world.views)
        (advances : (watched.world.step options (.resumes key slot evidence)).advances =
          (watched.world.put key after).advances)
        (kept : AdvanceHeld stored (watched.step options (.resumes key slot evidence)) key after)
        (passes : ∀ pass ∈ watched.lets (.resumes key slot evidence), ∀ paused,
          pass.pausedAt = some paused → pass.fencedAt < paused) :
        WatchHeld stored (watched.step options (.resumes key slot evidence)) := by
      apply held.moves _ _ _ _ passes
      · rw [record]
        exact held.record
      · rw [record]
        exact held.held
      · rw [views]
        exact held.views
      · intro place its now
        rw [advances] at now
        rcases put_advances now with ⟨rfl, rfl⟩ | ⟨-, before⟩
        · exact kept
        · exact (held.advances place its before).kept fun index => other (place, index)
    cases thread : advance.thread slot with
    | none =>
      refine held.idle ?_ rfl silent ?_
      · simp only [World.step, World.resumes, present, thread]
      · cases slot with
        | none => rfl
        | some index =>
          have missing : advance.callbacks[index]? = none := by simpa [Advance.thread] using thread
          simp only [Watched.lets, present, missing]
    | some resting =>
      cases slot with
      | none =>
        have main : advance.main = resting := Option.some.inj thread
        cases resting with
        | ready program =>
          have resumed : AdvanceHeld stored (watched.step options (.resumes key none evidence)) key _ :=
            mine.resumed main (watched.world.localOf advance evidence) rfl
              (advance.released || World.isOver (program.settle (watched.world.localOf advance evidence)).1)
              fun index => other (key, index)
          refine moves _ ?_ ?_ ?_ resumed fun pass member => by cases member
          all_goals
            simp only [World.step, World.resumes, present, thread]
            rfl
        | waiting op waits =>
          refine held.idle ?_ rfl silent ?_
          · simp only [World.step, World.resumes, present, thread]
          · rfl
        | ended result =>
          refine held.idle ?_ rfl silent ?_
          · simp only [World.step, World.resumes, present, thread]
          · rfl
      | some index =>
        obtain ⟨⟨call, own⟩, found, same⟩ := Option.map_eq_some_iff.mp thread
        subst same
        cases own with
        | ready program =>
          obtain ⟨resumed, passed⟩ : AdvanceHeld stored (watched.step options (.resumes key (some index) evidence)) key _ ∧ _ :=
            mine.callResumed found (watched.world.localOf advance evidence) rfl (advance.released || false)
              fun index => other (key, index)
          refine moves _ ?_ ?_ ?_ resumed ?_
          · simp only [World.step, World.resumes, present, thread]
            rfl
          · simp only [World.step, World.resumes, present, thread]
            rfl
          · simp only [World.step, World.resumes, present, thread]
            rfl
          · intro pass member
            simp only [Watched.lets, present, found] at member
            split at member
            · next ended commands =>
              split at member
              · next sends =>
                rw [List.mem_singleton.mp member]
                exact passed ended _ commands sends
              · cases member
            · cases member
        | waiting op waits =>
          refine held.idle ?_ rfl silent ?_
          · simp only [World.step, World.resumes, present, thread]
          · simp only [Watched.lets, present, found]
        | ended result =>
          refine held.idle ?_ rfl silent ?_
          · simp only [World.step, World.resumes, present, thread]
          · simp only [Watched.lets, present, found]

theorem AdvanceHeld.calledBack (held : AdvanceHeld stored watched key advance) (tidied : ∀ revision, (stored revision).Tidy)
    {op : Op} {program : Program Unit} (member : op ∈ advance.calls) (sends : beforeSend advance.lease op = some program)
    (other : ∀ index, Watched.fences watched.world event ≠ some (key, index)) :
    AdvanceHeld stored (watched.step options event) key
      { advance with callbacks := advance.callbacks ++ [(op, .ready program)] } where
  filed := held.filed
  main := by
    obtain ⟨known, main⟩ := held.main
    exact ⟨known, main.thread.moved held.filed fun _ => rfl, main.stepping, main.strict, main.asked⟩
  callbacks := by
    intro index callback found
    rw [List.getElem?_append] at found
    split at found
    · obtain ⟨known, calls, fenced⟩ := held.callbacks index callback found
      exact ⟨known, calls.moved held.filed fun _ => id, fenced.kept (other index)⟩
    · have found := List.mem_singleton.mp (List.mem_of_getElem? found)
      subst found
      have unfenced (share : Share) : Fenced (watched.step options event) key index { share, claimed := none } := by
        intro seen shows
        cases shows
      have command (commands : isCommand op = true) {command : ManagedPlanCommand}
          (same : program = beforeCommand advance.lease command) : ∃ known, CallHeld stored
            { advance with callbacks := advance.callbacks ++ [(op, .ready program)] } (op, .ready program) known ∧
              Fenced (watched.step options event) key index known := by
        refine ⟨{ share := .passing, claimed := none }, ⟨⟨trivial, ?_⟩, .inl rfl, fun _ => rfl⟩, unfenced _⟩
        intro later relied
        rw [same]
        apply (beforeCommand_holds ⟨relied.1, fun _ => rfl⟩).mono
        rintro result told since last ⟨poised, -, passed⟩
        exact ⟨poised, fun _ => passed⟩
      cases op with
      | updateThreadSettings => exact command rfl (Option.some.inj sends).symm
      | startManagedTurn => exact command rfl (Option.some.inj sends).symm
      | interruptTurn threadId turnId intent =>
        obtain rfl := Option.some.inj sends
        refine ⟨{ share := .loose, claimed := none },
          ⟨⟨trivial, ?_⟩, .inr ⟨rfl, _, member, rfl⟩, fun commands => by cases commands⟩, unfenced _⟩
        intro later relied
        apply (beforeInterrupt_holds tidied ⟨relied.1, Share.noConfusion⟩).mono
        intro result told since last stepping
        exact ⟨stepping.poised, fun commands => by cases commands⟩
      | _ => cases sends

theorem WatchHeld.callsBack (held : WatchHeld stored watched) (tidied : ∀ revision, (stored revision).Tidy) {call : Nat} :
    WatchHeld stored (watched.step options (.callsBack key call)) := by
  cases present : watched.world.advances key with
  | none => exact held.idle (by simp only [World.step, World.callsBack, present]) rfl rfl rfl
  | some advance =>
    cases asked : advance.calls[call]? with
    | none => exact held.idle (by simp only [World.step, World.callsBack, present, asked]) rfl rfl rfl
    | some op =>
      cases sends : beforeSend advance.lease op with
      | none => exact held.idle (by simp only [World.step, World.callsBack, present, asked, sends]) rfl rfl rfl
      | some program =>
        have same : watched.world.step options (.callsBack key call) = watched.world.put key
            { advance with callbacks := advance.callbacks ++ [(op, .ready program)] } := by
          simp only [World.step, World.callsBack, present, asked, sends]
        apply held.moves
        · rw [same]
          exact held.record
        · rw [same]
          exact held.held
        · rw [same]
          exact held.views
        · intro place its now
          rw [same] at now
          rcases put_advances now with ⟨rfl, rfl⟩ | ⟨-, before⟩
          · apply (held.advances place advance present).calledBack tidied (List.mem_of_getElem? asked) sends
            intro index fenced
            cases fenced
          · apply (held.advances place its before).kept
            intro index fenced
            cases fenced
        · intro pass member
          cases member

theorem begun_held {worker : Nat} {lease : PlanExecutionLease} (tidied : ∀ revision, (stored revision).Tidy)
    (filed : Filed stored record) :
    AdvanceHeld stored watched key { worker, lease, execution := record, main := .ready (Plans.advance options lease) } where
  filed
  main := by
    refine ⟨{ share := .strict, claimed := none }, ⟨trivial, ?_⟩, Share.noConfusion, ?_, ?_⟩
    · intro later relied
      have strict : Strict stored (gist later.execution) { share := .strict, claimed := none } later := ⟨relied.1, rfl, rfl⟩
      apply advance_holds tidied strict
      rw [show gist later.execution = stored later.execution.revision from relied.1]
      exact tidied _
    · intro _ op member
      cases member
    · intro op next asks
      cases asks
  callbacks := by
    intro index callback found
    cases found

theorem WatchHeld.begins (held : WatchHeld stored watched) (tidied : ∀ revision, (stored revision).Tidy) {worker : Nat}
    (agrees : ∀ record ∈ (watched.world.begins options worker key).past, Filed stored record) :
    WatchHeld stored (watched.step options (.begins worker key)) := by
  by_cases busy : watched.world.stopping worker = true ∨ (watched.world.running worker).isSome ∨
      (watched.world.advances key).isSome
  · exact held.idle (by simp only [World.step, World.begins, if_pos busy]) rfl rfl rfl
  cases claims : claimRecord watched.world.record worker watched.world.clock options.leaseMs with
  | none => exact held.idle (by simp only [World.step, World.begins, if_neg busy, claims]) rfl rfl rfl
  | some claimed =>
    cases leased : claimed.lease with
    | none => exact held.idle (by simp only [World.step, World.begins, if_neg busy, claims, leased]) rfl rfl rfl
    | some lease =>
      have same : watched.world.step options (.begins worker key) = { (watched.world.store claimed) with
          running := Function.update watched.world.running worker (some key) }.put key {
            worker, lease, execution := claimed, main := .ready (Plans.advance options lease) } := by
        simp only [World.step, World.begins, if_neg busy, claims, leased]
      have filed : Filed stored claimed := by
        apply agrees
        rw [show watched.world.begins options worker key = _ from same]
        exact List.mem_cons_self ..
      have unchanged := (claimRecord_claimed claims).1.gist
      apply held.moves
      · rw [same]
        exact filed
      · rw [same]
        intro standing
        show (gist claimed).Held
        rw [unchanged]
        exact held.held standing
      · rw [same]
        exact held.views
      · intro place its now
        rw [same] at now
        rcases put_advances now with ⟨rfl, rfl⟩ | ⟨-, before⟩
        · exact begun_held tidied filed
        · apply (held.advances place its before).kept
          intro index fenced
          cases fenced
      · intro pass member
        cases member

/-- What a patch of an operator leaves, of the record that operator had read. -/
theorem patch_lands {view : ManagedPlanExecution} {patch : ManagedPlanExecutionPatch} {now : ℚ}
    (read : Filed stored view) (filed : Filed stored watched.world.record)
    (updated : updateRecord watched.world.record view.revision patch none now = .ok record) :
    gist view = gist watched.world.record ∧ gist record = (gist view).after patch := by
  have same : gist view = gist watched.world.record := by
    rw [show gist view = stored view.revision from read, show gist watched.world.record = _ from filed,
      (updateRecord_updated updated).1]
  refine ⟨same, ?_⟩
  rw [updated_patched updated, gist_patched, same]

theorem operatorPatches_world (options : ControllerOptions) (world : World) (view : Nat) (change : OperatorChange) :
    (world.operatorPatches options view change).record =
        (Watched.patchedBy options world view change).getD world.record ∧
      (world.operatorPatches options view change).views = world.views ∧
      (world.operatorPatches options view change).advances = world.advances := by
  unfold World.operatorPatches Watched.patchedBy
  cases world.views[view]? with
  | none => exact ⟨rfl, rfl, rfl⟩
  | some execution =>
    simp only
    cases operatorPatch execution (options.ids.uuid world.nextId) world.clock change with
    | error message => exact ⟨rfl, rfl, rfl⟩
    | ok patch =>
      simp only
      cases updateRecord world.record execution.revision patch none world.clock with
      | error message => exact ⟨rfl, rfl, rfl⟩
      | ok record => exact ⟨rfl, rfl, rfl⟩

section
variable (held : WatchHeld stored watched) (tidied : ∀ revision, (stored revision).Tidy) {view : Nat}
  {change : OperatorChange}

include held tidied

theorem patchedBy_gist (patched : Watched.patchedBy options watched.world view change = some record) :
    (gist record).Tidy ∧ (change = .control .pause → (gist record).Held) ∧
      (change ≠ .control .resume → (gist watched.world.record).Held → (gist record).Held) := by
  unfold Watched.patchedBy at patched
  split at patched
  · cases patched
  next execution read =>
  split at patched
  · cases patched
  next patch asked =>
  cases updated : updateRecord watched.world.record execution.revision patch none watched.world.clock with
  | error message =>
    rw [updated] at patched
    cases patched
  | ok after =>
    rw [updated] at patched
    cases patched
    have filed := held.views execution (List.mem_of_getElem? read)
    obtain ⟨same, landed⟩ := patch_lands filed held.record updated
    have tidy : (gist execution).Tidy := by
      rw [show gist execution = stored execution.revision from filed]
      exact tidied _
    obtain ⟨tidyAfter, heldAfter⟩ := operator_steady tidy asked
    rw [landed, ← same]
    refine ⟨tidyAfter, ?_, heldAfter⟩
    rintro rfl
    simp only [operatorPatch, executionControlPatch, if_true] at asked
    split at asked
    · cases asked
    · cases asked
      exact pause_holds execution _ _

theorem WatchHeld.operatorPatches (lands : Filed stored (watched.world.operatorPatches options view change).record) :
    WatchHeld stored (watched.step options (.operatorPatches view change)) := by
  obtain ⟨record, views, advances⟩ := operatorPatches_world options watched.world view change
  apply held.moves (show Filed stored (watched.world.step options (.operatorPatches view change)).record from lands)
  · intro standing
    show (gist (watched.world.operatorPatches options view change).record).Held
    rw [record]
    cases patched : Watched.patchedBy options watched.world view change with
    | none =>
      have stands : watched.pausedAfter options (.operatorPatches view change) = watched.pausedAt := by
        unfold Watched.pausedAfter
        split
        · next same =>
          cases same
          simp [Watched.commits, patched]
        · next same =>
          cases same
          simp [Watched.commits, patched]
        · rfl
      rw [stands] at standing
      exact held.held standing
    | some after =>
      obtain ⟨-, pauses, keeps⟩ := patchedBy_gist held tidied patched
      unfold Watched.pausedAfter at standing
      split at standing
      · next same =>
        cases same
        exact pauses rfl
      · next same =>
        cases same
        simp [Watched.commits, patched] at standing
      · next unpaused unresumed =>
        apply keeps _ (held.held standing)
        intro same
        subst same
        exact unresumed _ rfl
  · show ∀ seen ∈ (watched.world.operatorPatches options view change).views, Filed stored seen
    rw [views]
    exact held.views
  · intro key its present
    have present : (watched.world.operatorPatches options view change).advances key = some its := present
    rw [advances] at present
    apply (held.advances key its present).kept
    intro index fenced
    cases fenced
  · intro pass member
    cases member

end

theorem record_past {world : World} (present : world.record ∈ world.past) :
    (world.step options event).record ∈ (world.step options event).past := by
  have stores : ((world.step options event).past = world.past ∧ (world.step options event).record = world.record) ∨ _ :=
    step_stores event
  rcases stores with ⟨past, record⟩ | ⟨past, -⟩
  · rw [past, record]
    exact present
  · rw [past]
    exact List.mem_cons_self ..

theorem WatchHeld.step (held : WatchHeld stored watched) (tidied : ∀ revision, (stored revision).Tidy)
    (agrees : ∀ record ∈ (watched.world.step options event).past, Filed stored record)
    (present : watched.world.record ∈ watched.world.past) : WatchHeld stored (watched.step options event) := by
  cases event with
  | begins worker key => exact held.begins tidied agrees
  | performs key slot reply driver => exact held.performs agrees
  | resumes key slot evidence => exact held.resumes
  | callsBack key call => exact held.callsBack tidied
  | operatorPatches view change =>
    exact held.operatorPatches tidied (agrees _ (record_past present))
  | operatorReads =>
    apply held.moves
    · exact held.record
    · exact held.held
    · intro view member
      rcases List.mem_append.mp member with old | new
      · exact held.views view old
      · rw [List.mem_singleton.mp new]
        exact held.record
    · intro key its before
      apply (held.advances key its before).kept
      intro index fenced
      cases fenced
    · intro pass member
      cases member
  | crashes worker =>
    apply held.unchanged rfl rfl _ rfl rfl rfl
    intro key its survives
    exact (Option.filter_eq_some_iff.mp survives).1
  | cleared worker =>
    apply held.unchanged _ _ _ rfl rfl rfl
    all_goals
      simp only [World.step]
      split
    all_goals first | rfl | exact fun _ _ => id
  | _ => exact held.unchanged rfl rfl (fun _ _ => id) rfl rfl rfl

theorem WatchHeld.tidy (held : WatchHeld stored watched) (tidied : ∀ revision, (stored revision).Tidy) (event : Event) :
    (gist (watched.world.step options event).record).Tidy := by
  have before : (gist watched.world.record).Tidy := by
    rw [show gist watched.world.record = _ from held.record]
    exact tidied _
  cases event with
  | begins worker key =>
    simp only [World.step, World.begins]
    split
    · exact before
    · split
      · exact before
      · next claimed claims =>
        split
        · exact before
        · show (gist claimed).Tidy
          rw [(claimRecord_claimed claims).1.gist]
          exact before
  | performs key slot reply driver =>
    simp only [World.step, World.performs]
    split
    · exact before
    · next advance present =>
      split
      · next op waits waiting =>
        rcases replied : watched.world.reply options advance reply driver op with ⟨answer, record⟩
        rcases reply_gist held.record ((held.advances key advance present).owed waiting) replied with
          same | ⟨patch, same, steady⟩
        · show (gist record).Tidy
          rw [same]
          exact before
        · show (gist record).Tidy
          rw [same]
          exact steady.tidy
      · exact before
  | resumes key slot evidence =>
    simp only [World.step, World.resumes]
    split
    · exact before
    · split <;> exact before
  | callsBack key call =>
    simp only [World.step, World.callsBack]
    split
    · exact before
    · split
      · exact before
      · split <;> exact before
  | operatorPatches view change =>
    show (gist (watched.world.operatorPatches options view change).record).Tidy
    rw [(operatorPatches_world options watched.world view change).1]
    cases patched : Watched.patchedBy options watched.world view change with
    | none => exact before
    | some record => exact (patchedBy_gist held tidied patched).1
  | cleared worker =>
    simp only [World.step]
    split <;> exact before
  | _ => exact before

/-- One tidy gist of each revision, whatever is said of those still to come. -/
theorem tidied_versions {world : World} (versions : Versions world.record world.past)
    (tidy : ∀ old ∈ world.past, (gist old).Tidy) :
    ∃ stored : Nat → Gist, (∀ revision, (stored revision).Tidy) ∧ ∀ old ∈ world.past, Filed stored old := by
  have each (revision : Nat) : ∃ seen : Gist, seen.Tidy ∧ ∀ old ∈ world.past, old.revision = revision → gist old = seen := by
    by_cases reached : ∃ old ∈ world.past, old.revision = revision
    · obtain ⟨first, memberFirst, rfl⟩ := reached
      refine ⟨gist first, tidy first memberFirst, ?_⟩
      intro old member same
      exact (versions.consistent old member first memberFirst same).gist
    · refine ⟨gist world.record, tidy _ versions.present, ?_⟩
      intro old member same
      exact absurd ⟨old, member, same⟩ reached
  choose stored tidied files using each
  exact ⟨stored, tidied, fun old member => files old.revision old member rfl⟩

structure Watchful (watched : Watched) : Prop where
  versions : Versions watched.world.record watched.world.past
  tidy : ∀ old ∈ watched.world.past, (gist old).Tidy
  held : ∀ stored : Nat → Gist, (∀ revision, (stored revision).Tidy) → (∀ old ∈ watched.world.past, Filed stored old) →
    WatchHeld stored watched

theorem Watchful.step (watchful : Watchful watched) : Watchful (watched.step options event) := by
  have stores : ((watched.world.step options event).past = watched.world.past ∧
      (watched.world.step options event).record = watched.world.record) ∨ _ := step_stores event
  obtain ⟨known, tidied, files⟩ := tidied_versions watchful.versions watchful.tidy
  have grows : ∀ old ∈ watched.world.past, old ∈ (watched.world.step options event).past := by
    intro old member
    rcases stores with ⟨past, -⟩ | ⟨past, -⟩
    · rw [past]
      exact member
    · rw [past]
      exact List.mem_cons_of_mem _ member
  constructor
  · show Versions (watched.world.step options event).record (watched.world.step options event).past
    rcases stores with ⟨past, record⟩ | ⟨past, succeeds⟩
    · rw [past, record]
      exact watchful.versions
    · rw [past]
      exact watchful.versions.stored succeeds
  · show ∀ old ∈ (watched.world.step options event).past, (gist old).Tidy
    intro old member
    rcases stores with ⟨past, -⟩ | ⟨past, -⟩
    · rw [past] at member
      exact watchful.tidy old member
    · rw [past] at member
      rcases List.mem_cons.mp member with rfl | before
      · exact (watchful.held known tidied files).tidy tidied event
      · exact watchful.tidy old before
  · intro stored tidied files
    have held := watchful.held stored tidied fun old member => files old (grows old member)
    exact held.step tidied files watchful.versions.present

theorem created_watchful {input : CreateManagedPlanExecution} (created : Watched.created input watched) :
    Watchful watched := by
  obtain ⟨world, ⟨clock, rfl⟩, rfl⟩ := created
  have only {old : ManagedPlanExecution} (member : old ∈ [newPlanExecution input]) : old = newPlanExecution input :=
    List.mem_singleton.mp member
  refine ⟨⟨List.mem_singleton.mpr rfl, ?_, ?_⟩, ?_, ?_⟩
  · intro old member
    rw [only member]
  · intro first memberFirst second memberSecond _
    rw [only memberFirst, only memberSecond]
    rfl
  · intro old member
    rw [only member]
    exact ⟨fun given => (by cases given), fun _ => rfl⟩
  · intro stored _ files
    refine ⟨files _ (List.mem_singleton.mpr rfl), ?_, ?_, ?_, ?_⟩
    · intro standing
      cases standing
    · intro view member
      cases member
    · intro key advance present
      cases present
    · intro pass member
      cases member

theorem reached_watchful {input : CreateManagedPlanExecution}
    (reached : Reached (Watched.created input) Watched.allowed (Watched.step options) watched) : Watchful watched := by
  apply reached.invariant
  · exact fun state created => created_watchful created
  · exact fun state event watchful _ => watchful.step

end

end Pausing

section

variable {options : ControllerOptions} {watched : Watched}

open Pausing

/-- As long as a pause stands nothing may be sent of the record, and no command is let through
whose last fence came after the pause. -/
theorem reached_paused {input : CreateManagedPlanExecution}
    (reached : Reached (Watched.created input) Watched.allowed (Watched.step options) watched) :
    (watched.pausedAt.isSome = true → (gist watched.world.record).Held) ∧
      ∀ pass ∈ watched.passes, ∀ paused, pass.pausedAt = some paused → pass.fencedAt < paused := by
  have watchful := reached_watchful reached
  obtain ⟨stored, tidied, files⟩ := tidied_versions watchful.versions watchful.tidy
  have held := watchful.held stored tidied files
  exact ⟨held.held, held.passes⟩

end

namespace Sample

def asks (slot : Option Nat) (rounds : Nat) : List Event :=
  (List.replicate rounds [Event.resumes 0 slot fun _ => { status := .observing, selection := none },
    .performs 0 slot .served driver]).flatten

/-- The driver is asked to set the model and checks twice whether it still may: an operator pauses
after the last fence of the first check, and before the second. -/
def pausing : List Event :=
  .begins 0 0 :: asks none 14 ++ [.resumes 0 none fun _ => { status := .observing, selection := none }, .callsBack 0 0] ++
    asks (some 0) 7 ++ [.operatorReads, .operatorPatches 0 (.control .pause),
      .resumes 0 (some 0) fun _ => { status := .observing, selection := none }, .callsBack 0 0] ++ asks (some 1) 8

def paused : Watched :=
  pausing.foldl (Watched.step options)
    { world := { record := newPlanExecution input, clock := 0, past := [newPlanExecution input] } }

end Sample

theorem allowed_watched {options : ControllerOptions} {events : List Event}
    (untimed : ∀ event ∈ events, ∀ now, event ≠ .tick now) (watched : Watched) :
    AllowedRun Watched.allowed (Watched.step options) watched events := by
  induction events generalizing watched with
  | nil => trivial
  | cons event rest ih =>
    refine ⟨?_, ih (fun other member => untimed other (List.mem_cons_of_mem _ member)) _⟩
    cases event with
    | tick now => exact absurd rfl (untimed _ (List.mem_cons_self ..) now)
    | _ => trivial

theorem paused_reached :
    Reached (Watched.created Sample.input) Watched.allowed (Watched.step Sample.options) Sample.paused := by
  apply Reached.run (.start ⟨_, ⟨0, rfl⟩, rfl⟩)
  apply allowed_watched
  intro event member now same
  subst same
  simp [Sample.pausing, Sample.asks] at member

theorem reached_paused_sample :
    (Sample.paused.passes.map fun pass => (pass.fencedAt, pass.pausedAt)) = [(44, some 46)] ∧
      (gist Sample.paused.world.record).Held ∧
      ∀ pass ∈ Sample.paused.passes, ∀ paused, pass.pausedAt = some paused → pass.fencedAt < paused :=
  ⟨by decide +kernel, (reached_paused paused_reached).1 (by decide +kernel), (reached_paused paused_reached).2⟩

end SpaceApp.Plans
