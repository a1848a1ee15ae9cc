import SpaceApp.Memory.Executions

/-! The parts of an execution: the PREPARED journal, the replacement, and what confirms it. -/

set_option autoImplicit false

namespace SpaceApp.Memory

open SpaceApp.Foundation
open SpaceApp.Foundation.Exec

section

variable {sha256 : Sha256} {options : CanonicalMemoryMutationOptions} {changeSet : MemoryChangeSet} {call : Call}
  {start : Disk Content} {lock file : Nat} {noted : List Path} {temporary : Option Path} {created : Bool}
  {execution : Execution}

/-- No step after the journal's rename throws, and neither does the removal of its temporary file. -/
structure Call.evidenced (call : Call) : Prop where
  openDirectory : ∀ message, call.schedule (.journal .prepared .openDirectory) ≠ .throws message
  syncDirectory : ∀ message, call.schedule (.journal .prepared .syncDirectory) ≠ .throws message
  closeDirectory : ∀ message, call.schedule (.journal .prepared .closeDirectory) ≠ .throws message
  removeTemporary : ∀ message, call.schedule (.journal .prepared .removeTemporary) ≠ .throws message

theorem journalTemporary_ne (phase : JournalPhase) :
    journalPathFor options changeSet ≠ journalTemporaryPath options changeSet call phase := by
  intro same
  have names := congrArg (fun path => path.name.length) same
  simp only [journalPathFor, journalTemporaryPath, String.length_append] at names
  have tail : ".tmp".length = 4 := rfl
  omega

theorem write_live {fate : Fate} (content : Content) {added : List (Path × Nat)} (rests : Rests options changeSet start)
    (new : start.next ≤ file) (unwritten : content.isWritten = false) :
    Triple (Live (At start added noted temporary created)) (perform fate (·.write file content))
      (fun _ => Live fun execution => At start added noted temporary created execution ∧
        (execution.disk.files file).written = content)
      (fun _ => Fell options changeSet (At start added noted temporary created)) := by
  apply perform_live _ (fun _ known => known.rests rests) fun _ _ _ known => known
  intro execution known
  refine ⟨known.on (known.work.setFile new (write_unwritten unwritten)), ?_⟩
  simp only [Disk.write, Disk.setFile, if_true]

theorem syncFile_live {fate : Fate} {content : Content} {added : List (Path × Nat)} (rests : Rests options changeSet start)
    (new : start.next ≤ file) :
    Triple (Live fun execution => At start added noted temporary created execution ∧
        (execution.disk.files file).written = content)
      (perform fate (·.syncFile file))
      (fun _ => Live fun execution => At start added noted temporary created execution ∧
        execution.disk.files file = { written := content, synced := content })
      (fun _ => Fell options changeSet (At start added noted temporary created)) := by
  apply perform_live _ (fun _ known => known.1.rests rests) fun _ _ _ known => known.1
  intro execution known
  refine ⟨known.1.on (known.1.work.setFile new sync_unwritten), ?_⟩
  simp only [Disk.syncFile, Disk.setFile, if_true, known.2]

theorem written_live (first second closes : Fate) (content : Content) {added : List (Path × Nat)}
    (rests : Rests options changeSet start) (new : start.next ≤ file) (unwritten : content.isWritten = false) :
    Triple (Live (At start added noted temporary created))
      (Exec.ensuring
        (do
          perform first (·.write file content)
          perform second (·.syncFile file))
        (skip closes))
      (fun _ => Live fun execution => At start added noted temporary created execution ∧
        execution.disk.files file = { written := content, synced := content })
      (fun _ => Fell options changeSet (At start added noted temporary created)) :=
  closing_live (Triple.bind (write_live content rests new unwritten) fun _ => syncFile_live rests new)
    (fun _ _ known => known.1.rests rests) (fun _ _ known => known.rests rests) (fun _ _ _ _ known => known.1)
    fun _ _ _ _ known => known

theorem named_live (handle : Nat) (rests : Rests options changeSet start) (evidenced : call.evidenced)
    (free : start.entries (journalPathFor options changeSet) = none)
    (apart : journalPathFor options changeSet ≠ options.lockPath) :
    Triple (Live (At start [(journalTemporaryPath options changeSet call .prepared, handle), (options.lockPath, lock)]
        [] none false))
      (do
        perform (call.schedule (.journal .prepared .rename))
          (·.rename (journalTemporaryPath options changeSet call .prepared) (journalPathFor options changeSet))
        syncDirectory (call.schedule (.journal .prepared .openDirectory))
          (call.schedule (.journal .prepared .syncDirectory)) (call.schedule (.journal .prepared .closeDirectory))
          options.journalRoot)
      (fun _ => Live (At start [(journalPathFor options changeSet, handle), (options.lockPath, lock)]
        [journalPathFor options changeSet, options.lockPath] none false))
      (fun _ => Fell options changeSet (At start
        [(journalTemporaryPath options changeSet call .prepared, handle), (options.lockPath, lock)] [] none false)) := by
  have renames (disk : Disk Content) (work : Work start disk
      [(journalTemporaryPath options changeSet call .prepared, handle), (options.lockPath, lock)] []) :
      Work start (disk.rename (journalTemporaryPath options changeSet call .prepared) (journalPathFor options changeSet))
        [(journalPathFor options changeSet, handle), (options.lockPath, lock)] [] := by
    refine work.rename ?_ (journalTemporary_ne .prepared)
    rw [work.entries, free, lookup_other (journalTemporary_ne .prepared), lookup_other apart]
    rfl
  apply Triple.bind (work_live _ rests (fun _ _ _ known => known) renames)
  intro _
  apply Triple.bind (skip_live _ (fun _ known => known.rests rests)
    fun message same => absurd same (evidenced.openDirectory message))
  intro _
  apply closing_live (work_live _ rests (fun message same => absurd same (evidenced.syncDirectory message))
    fun _ work => work.syncDirectory options.journalRoot)
  · exact fun _ _ known => known.rests rests
  · exact fun _ _ known => known.rests rests
  · exact fun message same => absurd same (evidenced.closeDirectory message)
  · exact fun message same => absurd same (evidenced.closeDirectory message)

theorem preparedJournal_live (rests : Rests options changeSet start) (evidenced : call.evidenced)
    (free : start.entries (journalPathFor options changeSet) = none)
    (apart : journalPathFor options changeSet ≠ options.lockPath) : Triple (Live (Locked options start lock))
      (atomicWriteJournal options changeSet call (preparedJournal changeSet call))
      (fun _ => Live fun execution => ∃ journal,
        At start [(journalPathFor options changeSet, journal), (options.lockPath, lock)]
          [journalPathFor options changeSet, options.lockPath] none false execution)
      (fun _ => Fell options changeSet (Locked options start lock)) := by
  apply Triple.bind (refuse_live (fun _ => Locked options start lock) fun _ known => known)
  intro _
  apply Triple.assuming
  intro _
  apply Triple.bind (openNew_live (fun _ => Locked options start lock) rests (plain_other _)
    fun _ _ _ known => known)
  intro handle
  apply Triple.given fun execution known => (known.work.fresh _ _ List.mem_cons_self).2
  intro new
  have writes : Triple (Live (At start
      [(journalTemporaryPath options changeSet call .prepared, handle), (options.lockPath, lock)] [] none false)) _ _ _ :=
    written_live (call.schedule (.journal .prepared .write)) (call.schedule (.journal .prepared .sync))
      (call.schedule (.journal .prepared .close)) (.journal (preparedJournal changeSet call)) rests new rfl
  have file := writes.weaken (fun _ known => known) (fun _ _ known => And.intro known.1 known.2.1) fun _ _ known => known
  apply Triple.rescue ((Triple.bind file fun _ => named_live handle rests evidenced free apart).weaken
    (fun _ known => known) (fun _ _ known => ⟨known.1, handle, known.2⟩) fun _ _ known => known)
  intro error
  apply fell_either
  · apply Triple.bind (work_live (fun _ => Locked options start lock) rests
      (fun message same => absurd same (evidenced.removeTemporary message)) fun _ work => work.remove)
    intro _
    exact Triple.fail fun _ known => .inl known
  · exact gone_fail perform_gone

def Swapped (execution : Execution) : Prop := execution.replaced = true ∧ execution.temporaryPath = none

/-- What an execution may find when it has thrown. -/
inductive Broken (options : CanonicalMemoryMutationOptions) (changeSet : MemoryChangeSet) (call : Call)
    (start : Disk Content) (lock : Nat) (execution : Execution) : Prop where
  | unprepared (at_ : At start [(options.lockPath, lock)] [] none false execution)
  | prepared (temporary : Option Path) (journal : Nat)
      (at_ : At start [(journalPathFor options changeSet, journal), (options.lockPath, lock)]
        [journalPathFor options changeSet, options.lockPath] temporary true execution)
      (name : temporary = none ∨ temporary = some (temporaryPathFor changeSet call))
      (apart : journalPathFor options changeSet ≠ options.lockPath)
  | opened (file journal : Nat)
      (at_ : At start [(temporaryPathFor changeSet call, file), (journalPathFor options changeSet, journal),
          (options.lockPath, lock)]
        [journalPathFor options changeSet, options.lockPath] (some (temporaryPathFor changeSet call)) true execution)
      (apart : journalPathFor options changeSet ≠ options.lockPath)
  | replaced (file : Nat) (settled : execution.disk.Settled changeSet.sourcePath file (.text changeSet.afterSnapshot))
      (swapped : Swapped execution)

def Prepared (options : CanonicalMemoryMutationOptions) (changeSet : MemoryChangeSet) (start : Disk Content) (lock : Nat)
    (execution : Execution) : Prop :=
  (∃ journal, At start [(journalPathFor options changeSet, journal), (options.lockPath, lock)]
    [journalPathFor options changeSet, options.lockPath] none true execution) ∧
  start.entries (journalPathFor options changeSet) = none ∧ journalPathFor options changeSet ≠ options.lockPath

theorem readSources_live {holds : Execution → Prop} {fate : Fate} (broken : MutationError → Execution → Prop)
    (rests : ∀ execution, holds execution → Rests options changeSet execution.disk)
    (throws : ∀ problem execution, holds execution → broken problem execution) :
    Triple (Live holds) (readSources options changeSet fate)
      (fun found => Live fun execution => holds execution ∧
        validateAndReadSources options changeSet execution.disk = .ok found)
      (fun problem => Fell options changeSet (broken problem)) := by
  apply step_live
  · exact fun _ => rests
  · exact fun _ execution known => (rests execution known).powerLoss
  · exact fun message _ execution known => throws _ execution known
  · intro execution result disk known made
    cases valid : validateAndReadSources options changeSet execution.disk with
    | error problem =>
      rw [valid] at made
      cases made
    | ok found =>
      rw [valid] at made
      cases made
      exact ⟨known, valid⟩
  · exact fun execution problem known _ => throws problem execution known

theorem lookForJournal_live {fate : Fate} (broken : MutationError → Execution → Prop) (rests : Rests options changeSet start)
    (throws : ∀ problem execution, Locked options start lock execution → broken problem execution) :
    Triple (Live (Locked options start lock))
      (step fate fun disk => .ok ((disk.entries (journalPathFor options changeSet)).isSome, disk))
      (fun found => Live fun execution => Locked options start lock execution ∧
        (¬ found = true → start.entries (journalPathFor options changeSet) = none ∧
          journalPathFor options changeSet ≠ options.lockPath))
      (fun problem => Fell options changeSet (broken problem)) := by
  apply step_live
  · exact fun _ _ known => known.rests rests
  · exact fun _ _ known => (known.rests rests).powerLoss
  · exact fun message _ execution known => throws _ execution known
  · intro execution found disk known made
    cases made
    refine ⟨known, ?_⟩
    intro missing
    rw [Option.not_isSome_iff_eq_none] at missing
    obtain ⟨apart, free⟩ := known.work.free missing
    refine ⟨free, ?_⟩
    rintro same
    rw [same, List.lookup_cons_self] at apart
    cases apart
  · intro execution problem known made
    cases made

theorem prepare_live (rests : Rests options changeSet start) (evidenced : call.evidenced) :
    Triple (Live (Locked options start lock)) (prepare sha256 options changeSet call)
      (fun _ => Live (Prepared options changeSet start lock))
      (fun _ => Fell options changeSet (Broken options changeSet call start lock)) := by
  have held (execution : Execution) (known : Locked options start lock execution) :
      Broken options changeSet call start lock execution := .unprepared known
  apply Triple.bind (skip_live _ (fun _ known => known.rests rests) fun _ _ execution known => held execution known)
  intro _
  apply Triple.bind (readSources_live _ (fun _ known => known.rests rests) fun _ execution known => held execution known)
  intro found
  apply Triple.bind (refuse_live _ fun execution known => held execution known.1)
  intro _
  apply Triple.bind (refuse_live _ fun execution known => held execution known.1.1)
  intro _
  apply Triple.bind (skip_live _ (fun _ known => known.1.1.1.rests rests)
    fun _ _ execution known => held execution known.1.1.1)
  intro _
  apply Triple.bind ((lookForJournal_live _ rests fun _ execution known => held execution known).weaken
    (fun _ known => ⟨known.1, known.2.1.1.1⟩) (fun _ _ known => known) fun _ _ known => known)
  intro found
  apply Triple.bind (refuse_live _ fun execution known => held execution known.1)
  intro _
  have facts (execution : Execution) (known : (Locked options start lock execution ∧
      (¬ found = true → start.entries (journalPathFor options changeSet) = none ∧
        journalPathFor options changeSet ≠ options.lockPath)) ∧ ¬ found = true) := known.1.2 known.2
  apply Triple.given facts
  rintro ⟨free, apart⟩
  have journal : Triple (Live (Locked options start lock)) _ _ _ :=
    preparedJournal_live rests evidenced free apart
  apply Triple.bind (journal.weaken (fun _ known => ⟨known.1, known.2.1.1⟩) (fun _ _ known => known)
    fun _ _ known => known.mono held)
  intro _
  rintro execution ⟨alive, number, at_⟩
  exact ⟨alive, ⟨number, at_.work, at_.temporaryPath, rfl, at_.replaced⟩, free, apart⟩

/-- The target is replaced, and a loss of power undoes it. -/
def Pending (options : CanonicalMemoryMutationOptions) (changeSet : MemoryChangeSet) (execution : Execution) : Prop :=
  ∃ file, execution.disk.entries changeSet.sourcePath = some file ∧
    execution.disk.files file = { written := .text changeSet.afterSnapshot, synced := .text changeSet.afterSnapshot } ∧
    Rests options changeSet execution.disk.powerLoss

section

variable (rests : Rests options changeSet start)

include rests

theorem temporary_live {added : List (Path × Nat)} (new : start.next ≤ file) :
    Triple (Live (At start added noted temporary created))
      (Exec.ensuring
        (do
          skip (call.schedule .setOwner)
          perform (call.schedule .writeTemporary) (·.write file (.text changeSet.afterSnapshot))
          perform (call.schedule .syncTemporary) (·.syncFile file)
          skip (call.schedule .afterTemporaryFileSynced))
        (skip (call.schedule .closeTemporary)))
      (fun _ => Live fun execution => At start added noted temporary created execution ∧
        execution.disk.files file = { written := .text changeSet.afterSnapshot, synced := .text changeSet.afterSnapshot })
      (fun _ => Fell options changeSet (At start added noted temporary created)) := by
  apply closing_live
  · apply Triple.bind (skip_live _ (fun _ known => known.rests rests) fun _ _ _ known => known)
    intro _
    apply Triple.bind (write_live (.text changeSet.afterSnapshot) rests new rfl)
    intro _
    apply Triple.bind (syncFile_live rests new)
    intro _
    exact skip_live _ (fun _ known => known.1.rests rests) fun _ _ _ known => known.1
  · exact fun _ _ known => known.1.rests rests
  · exact fun _ _ known => known.rests rests
  · exact fun _ _ _ _ known => known.1
  · exact fun _ _ _ _ known => known

theorem rename_pending {source : Path} {added : List (Path × Nat)}
    (known : At start ((source, file) :: added) noted temporary created execution ∧
      execution.disk.files file = { written := .text changeSet.afterSnapshot, synced := .text changeSet.afterSnapshot }) :
    Pending options changeSet { execution with disk := execution.disk.rename source changeSet.sourcePath } := by
  refine ⟨file, ?_, known.2, (known.1.rests rests).powerLoss⟩
  simp only [Disk.rename, if_true, known.1.work.entries source, List.lookup_cons_self, Option.some_or]

theorem replace_at {journal : Nat} (apart : journalPathFor options changeSet ≠ options.lockPath) : Triple
      (Live (At start [(journalPathFor options changeSet, journal), (options.lockPath, lock)]
        [journalPathFor options changeSet, options.lockPath] none true))
      (replace changeSet call)
      (fun _ => Live fun execution => Pending options changeSet execution ∧ Swapped execution)
      (fun _ => Fell options changeSet (Broken options changeSet call start lock)) := by
  have held (temporary : Option Path) (name : temporary = none ∨ temporary = some (temporaryPathFor changeSet call))
      (execution : Execution) (known : At start [(journalPathFor options changeSet, journal), (options.lockPath, lock)]
        [journalPathFor options changeSet, options.lockPath] temporary true execution) :
      Broken options changeSet call start lock execution := .prepared temporary journal known name apart
  apply Triple.bind (skip_live _ (fun _ known => known.rests rests)
    fun _ _ execution known => held none (.inl rfl) execution known)
  intro _
  have names : Triple (Live (At start [(journalPathFor options changeSet, journal), (options.lockPath, lock)]
        [journalPathFor options changeSet, options.lockPath] none true))
      (Exec.change fun execution => { execution with temporaryPath := some (temporaryPathFor changeSet call) } :
        Mutation Unit)
      (fun _ => Live (At start [(journalPathFor options changeSet, journal), (options.lockPath, lock)]
        [journalPathFor options changeSet, options.lockPath] (some (temporaryPathFor changeSet call)) true))
      (fun _ => Fell options changeSet (Broken options changeSet call start lock)) :=
    Triple.change fun _ known => ⟨known.1, known.2.work, rfl, known.2.journalCreated, known.2.replaced⟩
  apply Triple.bind names
  intro _
  apply Triple.bind (openNew_live _ rests (plain_other _)
    fun _ execution _ known => held (some (temporaryPathFor changeSet call)) (.inr rfl) execution known)
  intro file
  have opened (execution : Execution) (known : At start [(temporaryPathFor changeSet call, file),
      (journalPathFor options changeSet, journal), (options.lockPath, lock)]
      [journalPathFor options changeSet, options.lockPath] (some (temporaryPathFor changeSet call)) true execution) :
      Broken options changeSet call start lock execution := .opened file journal known apart
  apply Triple.given fun execution known => (known.work.fresh _ _ List.mem_cons_self).2
  intro new
  apply Triple.bind ((temporary_live rests new).weaken (fun _ known => known) (fun _ _ known => known)
    fun _ _ known => known.mono opened)
  intro _
  apply Triple.bind (perform_live _ (fun _ known => known.1.rests rests)
    (fun _ _ execution known => opened execution known.1) fun _ known => rename_pending rests known)
  intro _
  exact Triple.change fun _ known => ⟨known.1, known.2, rfl, rfl⟩

end

end

end SpaceApp.Memory
