import SpaceApp.Foundation.Triple
import SpaceApp.Memory.Evidence

/-! What an execution leaves behind, wherever it fails or stops. -/

set_option autoImplicit false

namespace SpaceApp.Memory

open SpaceApp.Foundation
open SpaceApp.Foundation.Exec

section

variable (options : CanonicalMemoryMutationOptions) (changeSet : MemoryChangeSet)

def Rests (disk : Disk Content) : Prop :=
  Rest changeSet.sourcePath (journalPathFor options changeSet) changeSet.afterSnapshot disk

def Gone (execution : Execution) : Prop := execution.dead = true ∧ Rests options changeSet execution.disk

def Live (holds : Execution → Prop) (execution : Execution) : Prop := execution.dead = false ∧ holds execution

def Fell (holds : Execution → Prop) (execution : Execution) : Prop :=
  Live holds execution ∨ Gone options changeSet execution

end

section

variable {options : CanonicalMemoryMutationOptions} {changeSet : MemoryChangeSet} {Result Other : Type}
  {holds next : Execution → Prop} {fate : Fate}

theorem Fell.mono {execution : Execution} (implied : ∀ execution, holds execution → next execution)
    (fell : Fell options changeSet holds execution) : Fell options changeSet next execution :=
  fell.imp (fun live => ⟨live.1, implied execution live.2⟩) id

theorem step_live {effect : Disk Content → Except MutationError (Result × Disk Content)}
    {next : Result → Execution → Prop} {broken : MutationError → Execution → Prop}
    (stops : fate = .stops → ∀ execution, holds execution → Rests options changeSet execution.disk)
    (loses : fate = .loses → ∀ execution, holds execution → Rests options changeSet execution.disk.powerLoss)
    (throws : ∀ message, fate = .throws message → ∀ execution, holds execution → broken (.other message) execution)
    (ok : ∀ execution result disk, holds execution → effect execution.disk = .ok (result, disk) →
      next result { execution with disk })
    (error : ∀ execution problem, holds execution → effect execution.disk = .error problem → broken problem execution) :
    Triple (Live holds) (step fate effect) (fun result => Live (next result))
      (fun problem => Fell options changeSet (broken problem)) := by
  rintro execution ⟨alive, known⟩
  unfold Exec.run step
  rw [if_neg (by simp [alive])]
  cases fate with
  | done =>
    dsimp only
    cases ran : effect execution.disk with
    | ok made => exact ⟨alive, ok execution made.1 made.2 known ran⟩
    | error problem => exact .inl ⟨alive, error execution problem known ran⟩
  | throws message => exact .inl ⟨alive, throws message rfl execution known⟩
  | stops => exact .inr ⟨rfl, stops rfl execution known⟩
  | loses => exact .inr ⟨rfl, loses rfl execution known⟩

section

variable (broken : MutationError → Execution → Prop)
  (rests : ∀ execution, holds execution → Rests options changeSet execution.disk)
  (throws : ∀ message, fate = .throws message → ∀ execution, holds execution → broken (.other message) execution)

include broken rests throws

theorem perform_live {effect : Disk Content → Disk Content}
    (ok : ∀ execution, holds execution → next { execution with disk := effect execution.disk }) :
    Triple (Live holds) (perform fate effect) (fun _ => Live next) (fun problem => Fell options changeSet (broken problem)) := by
  apply step_live
  · exact fun _ => rests
  · exact fun _ execution known => (rests execution known).powerLoss
  · exact throws
  · intro execution result disk known made
    cases made
    exact ok execution known
  · intro execution problem known made
    cases made

theorem skip_live :
    Triple (Live holds) (skip fate) (fun _ => Live holds) (fun problem => Fell options changeSet (broken problem)) :=
  perform_live broken rests throws fun _ known => known

end

section

variable {condition : Prop} [Decidable condition] {error : MutationError} (broken : MutationError → Execution → Prop)
  (refused : ∀ execution, holds execution → broken error execution)

include broken refused

theorem refuse_live :
    Triple (Live holds) (refuse condition error) (fun _ => Live fun execution => holds execution ∧ ¬ condition)
      (fun problem => Fell options changeSet (broken problem)) := by
  unfold refuse
  split
  · exact Triple.fail fun execution known => .inl ⟨known.1, refused execution known.2⟩
  · next accepted => exact Triple.pure fun execution known => ⟨known.1, known.2, accepted⟩

theorem refuse_keep : Triple (Live holds) (refuse condition error) (fun _ => Live holds)
      (fun problem => Fell options changeSet (broken problem)) :=
  (refuse_live broken refused).weaken (fun _ known => known) (fun _ _ known => ⟨known.1, known.2.1⟩)
    fun _ _ known => known

end

section

variable {fact : Prop} {program : Mutation Result} {after : Result → Execution → Prop}
  {failed : MutationError → Execution → Prop}

theorem Triple.assuming (known : fact → Triple (Live holds) program after failed) :
    Triple (Live fun execution => holds execution ∧ fact) program after failed :=
  fun execution given => known given.2.2 execution ⟨given.1, given.2.1⟩

theorem Triple.given (implied : ∀ execution, holds execution → fact)
    (known : fact → Triple (Live holds) program after failed) : Triple (Live holds) program after failed :=
  fun execution given => known (implied execution given.2) execution given

end

theorem step_gone {effect : Disk Content → Except MutationError (Result × Disk Content)} :
    Keeps (Gone options changeSet) (step fate effect) := by
  rintro execution ⟨dead, rests⟩
  unfold Exec.run step
  rw [if_pos dead]
  exact ⟨dead, rests⟩

theorem perform_gone {effect : Disk Content → Disk Content} : Keeps (Gone options changeSet) (perform fate effect) :=
  step_gone

theorem skip_gone : Keeps (Gone options changeSet) (skip fate) := step_gone

theorem syncDirectory_gone {opens syncs closes : Fate} {directory : String} :
    Keeps (Gone options changeSet) (syncDirectory opens syncs closes directory) :=
  Keeps.bind skip_gone fun _ => Keeps.ensuring perform_gone skip_gone

section

variable {program : Mutation Result} {broken : MutationError → Execution → Prop}

theorem gone_fail {error : Result → MutationError} {never : Other → Execution → Prop}
    (keeps : Keeps (Gone options changeSet) program) :
    Triple (Gone options changeSet) (program >>= fun result => Exec.fail (error result)) never
      (fun problem => Fell options changeSet (broken problem)) := by
  apply Triple.bind ((Triple.of_keeps keeps).weaken (fun _ known => known) (fun _ _ known => known) fun _ _ known => .inr known)
  intro result
  exact Triple.fail fun execution known => .inr known

/-- A part that is run whatever became of the parts before it. -/
theorem fell_either {after : Result → Execution → Prop}
    (live : Triple (Live holds) program after (fun problem => Fell options changeSet (broken problem)))
    (gone : Triple (Gone options changeSet) program after (fun problem => Fell options changeSet (broken problem))) :
    Triple (Fell options changeSet holds) program after (fun problem => Fell options changeSet (broken problem)) :=
  live.either gone

theorem closing_live {after : Result → Execution → Prop}
    (first : Triple (Live holds) program (fun result => Live (after result))
      (fun problem => Fell options changeSet (broken problem)))
    (restsAfter : ∀ result execution, after result execution → Rests options changeSet execution.disk)
    (restsBroken : ∀ problem execution, broken problem execution → Rests options changeSet execution.disk)
    (throwsAfter : ∀ message, fate = .throws message → ∀ result execution, after result execution →
      broken (.other message) execution)
    (throwsBroken : ∀ message, fate = .throws message → ∀ problem execution, broken problem execution →
      broken (.other message) execution) :
    Triple (Live holds) (program.ensuring (skip fate)) (fun result => Live (after result))
      (fun problem => Fell options changeSet (broken problem)) := by
  apply Triple.ensuring first
  · intro result
    exact skip_live broken (restsAfter result) fun message same execution known => throwsAfter message same result execution known
  · intro problem
    apply fell_either
    · exact (skip_live broken (restsBroken problem) fun message same execution known =>
        throwsBroken message same problem execution known).weaken (fun _ known => known) (fun _ _ known => .inl known)
          (fun _ _ known => known)
    · exact (Triple.of_keeps skip_gone).weaken (fun _ known => known) (fun _ _ known => .inr known)
        (fun _ _ known => .inr known)

end

end

/-- Where an execution has come to before it replaces the target. -/
structure At (start : Disk Content) (added : List (Path × Nat)) (noted : List Path) (temporaryPath : Option Path)
    (journalCreated : Bool) (execution : Execution) : Prop where
  work : Work start execution.disk added noted
  temporaryPath : execution.temporaryPath = temporaryPath
  journalCreated : execution.journalCreated = journalCreated
  replaced : execution.replaced = false

/-- Only an execution says whether the target was replaced. -/
def Plain (problem : MutationError) : Prop := ∀ message replaced, problem ≠ .execution message replaced

section

variable (options : CanonicalMemoryMutationOptions) (changeSet : MemoryChangeSet)

/-- Nothing but the lock file is new. -/
abbrev Locked (start : Disk Content) (lock : Nat) : Execution → Prop := At start [(options.lockPath, lock)] [] none false

abbrev Resting (execution : Execution) : Prop := Rests options changeSet execution.disk

abbrev Harmless (problem : MutationError) : Execution → Prop :=
  Fell options changeSet fun execution => Plain problem ∧ Resting options changeSet execution

end

section

variable {options : CanonicalMemoryMutationOptions} {changeSet : MemoryChangeSet} {call : Call} {start : Disk Content}
  {added others : List (Path × Nat)} {noted : List Path} {temporary : Option Path} {created : Bool} {fate : Fate}
  {execution : Execution} {path source : Path} {file : Nat}

theorem At.rests (at_ : At start added noted temporary created execution) (rests : Rests options changeSet start) :
    Rests options changeSet execution.disk := at_.work.rest rests

theorem At.on {disk : Disk Content} {more : List (Path × Nat)} {known : List Path}
    (at_ : At start added noted temporary created execution) (work : Work start disk more known) :
    At start more known temporary created { execution with disk } :=
  { at_ with work := work }

theorem plain_other (message : String) : Plain (.other message) := by
  intro _ _ same
  cases same

theorem plain_conflict (message : String) : Plain (.conflict message) := by
  intro _ _ same
  cases same

section

variable (broken : MutationError → Execution → Prop) (rests : Rests options changeSet start)

include broken rests

theorem openNew_live {taken : MutationError} (plain : Plain taken)
    (refused : ∀ problem execution, Plain problem → At start added noted temporary created execution →
      broken problem execution) :
    Triple (Live (At start added noted temporary created)) (openNew fate path taken)
      (fun file => Live (At start ((path, file) :: added) noted temporary created))
      (fun problem => Fell options changeSet (broken problem)) := by
  apply step_live
  · exact fun _ _ known => known.rests rests
  · exact fun _ _ known => (known.rests rests).powerLoss
  · exact fun message _ execution known => refused _ execution (plain_other message) known
  · intro execution file disk known made
    cases free : execution.disk.entries path with
    | some other =>
      rw [free] at made
      cases made
    | none =>
      rw [free] at made
      cases made
      exact known.on (known.work.create free)
  · intro execution problem known made
    cases free : execution.disk.entries path with
    | some other =>
      rw [free] at made
      cases made
      exact refused _ execution plain known
    | none =>
      rw [free] at made
      cases made

theorem work_live {effect : Disk Content → Disk Content} {more : List (Path × Nat)} {known : List Path}
    (throws : ∀ message, fate = .throws message → ∀ execution, At start added noted temporary created execution →
      broken (.other message) execution)
    (works : ∀ disk, Work start disk added noted → Work start (effect disk) more known) :
    Triple (Live (At start added noted temporary created)) (perform fate effect)
      (fun _ => Live (At start more known temporary created)) (fun problem => Fell options changeSet (broken problem)) :=
  perform_live broken (fun _ known => known.rests rests) throws fun _ known => known.on (works _ known.work)

end

theorem write_unwritten {content : Content} (unwritten : content.isWritten = false) (before : DiskFile Content)
    (plain : unwrittenFile before) : unwrittenFile { before with written := content } := ⟨unwritten, plain.2⟩

theorem sync_unwritten (before : DiskFile Content) (plain : unwrittenFile before) :
    unwrittenFile { before with synced := before.written } := ⟨plain.1, plain.1⟩

theorem acquireLock_live (rests : Rests options changeSet start) :
    Triple (fun execution => execution = { disk := start }) (acquireLock options call)
      (fun _ => Live fun execution => ∃ lock, Locked options start lock execution)
      (Harmless options changeSet) := by
  have begins : Triple (Live (At start [] [] none false)) (acquireLock options call)
      (fun _ => Live fun execution => ∃ lock, Locked options start lock execution)
      (Harmless options changeSet) := by
    unfold acquireLock
    apply Triple.bind (refuse_live _ fun execution known => ⟨plain_conflict _, known.rests rests⟩)
    intro _
    apply Triple.assuming
    intro _
    apply Triple.bind
      (skip_live _ (fun _ known => known.rests rests) fun message _ _ known => ⟨plain_other message, known.rests rests⟩)
    intro _
    apply Triple.bind (openNew_live _ rests (plain_conflict _) fun _ _ plain known => ⟨plain, known.rests rests⟩)
    intro handle
    have lockFile : Triple (Live (At start [(options.lockPath, handle)] [] none false))
        (do
          perform (call.schedule .writeLock) (·.write handle .lock)
          perform (call.schedule .syncLock) (·.syncFile handle))
        (fun _ => Live (At start [(options.lockPath, handle)] [] none false))
        (fun problem => Fell options changeSet fun execution =>
          Plain problem ∧ At start [(options.lockPath, handle)] [] none false execution) := by
      apply Triple.bind (work_live _ rests (fun message _ _ known => ⟨plain_other message, known⟩)
        fun _ work => work.setFile (work.fresh _ _ List.mem_cons_self).2 (write_unwritten rfl))
      intro _
      exact work_live _ rests (fun message _ _ known => ⟨plain_other message, known⟩)
        fun _ work => work.setFile (work.fresh _ _ List.mem_cons_self).2 sync_unwritten
    apply Triple.rescue (lockFile.weaken (fun _ known => known)
      (fun _ _ known => ⟨known.1, handle, known.2⟩) fun _ _ known => known)
    intro error
    apply fell_either
    · apply Triple.bind (skip_live _ (fun _ known => known.2.rests rests)
        fun message _ _ known => ⟨plain_other message, known.2.rests rests⟩)
      intro _
      apply Triple.bind (perform_live _
        (fun _ known => known.2.rests rests) (fun message _ _ known => ⟨plain_other message, known.2.rests rests⟩) ?_)
      · intro _
        exact Triple.fail fun _ known => .inl known
      · intro execution known
        exact ⟨known.1, known.2.work.remove.rest rests⟩
    · apply Triple.bind ((Triple.of_keeps skip_gone).weaken (fun _ known => known) (fun _ _ known => known)
        fun _ _ known => .inr known)
      intro _
      exact gone_fail perform_gone
  refine begins.weaken ?_ (fun _ _ known => known) fun _ _ known => known
  rintro execution rfl
  exact ⟨rfl, Work.begin start, rfl, rfl, rfl⟩

end

end SpaceApp.Memory
