import SpaceApp.Memory.Journals

/-! How an execution ends: its target replaced for good, or everything as it was. -/

set_option autoImplicit false

namespace SpaceApp.Memory

open SpaceApp.Foundation
open SpaceApp.Foundation.Exec

section

variable {sha256 : Sha256} {options : CanonicalMemoryMutationOptions} {changeSet : MemoryChangeSet} {call : Call}
  {start : Disk Content} {lock file : Nat} {noted : List Path} {execution : Execution} {fate : Fate}

def Final (changeSet : MemoryChangeSet) (file : Nat) (execution : Execution) : Prop :=
  execution.disk.Settled changeSet.sourcePath file (.text changeSet.afterSnapshot) ∧ Swapped execution

theorem Final.rests (final : Final changeSet file execution) : Rests options changeSet execution.disk :=
  Rest.of_settled final.1

theorem final_live {effect : Disk Content → Disk Content}
    (keeps : ∀ disk : Disk Content, disk.Settled changeSet.sourcePath file (.text changeSet.afterSnapshot) →
      (effect disk).Settled changeSet.sourcePath file (.text changeSet.afterSnapshot)) :
    Triple (Live (Final changeSet file)) (perform fate effect) (fun _ => Live (Final changeSet file))
      (fun _ => Fell options changeSet (Final changeSet file)) :=
  perform_live _ (fun _ known => known.rests) (fun _ _ _ known => known) fun _ known => ⟨keeps _ known.1, known.2⟩

theorem final_skip : Triple (Live (Final changeSet file)) (skip fate) (fun _ => Live (Final changeSet file))
    (fun _ => Fell options changeSet (Final changeSet file)) := final_live fun _ settled => settled

theorem final_refuse {condition : Prop} [Decidable condition] {error : MutationError} :
    Triple (Live (Final changeSet file)) (refuse condition error) (fun _ => Live (Final changeSet file))
      (fun _ => Fell options changeSet (Final changeSet file)) :=
  refuse_keep _ fun _ known => known

theorem final_read : Triple (Live (Final changeSet file)) (readSources options changeSet fate)
    (fun _ => Live (Final changeSet file)) (fun _ => Fell options changeSet (Final changeSet file)) :=
  (readSources_live (fun _ => Final changeSet file) (fun _ known => known.rests) fun _ _ known => known).weaken
    (fun _ known => known) (fun _ _ known => ⟨known.1, known.2.1⟩) fun _ _ known => known

theorem final_sync {opens syncs closes : Fate} (directory : String) :
    Triple (Live (Final changeSet file)) (syncDirectory opens syncs closes directory)
      (fun _ => Live (Final changeSet file)) (fun _ => Fell options changeSet (Final changeSet file)) := by
  apply Triple.bind final_skip
  intro _
  exact closing_live (final_live fun _ settled => settled.syncDirectory directory) (fun _ _ known => known.rests)
    (fun _ _ known => known.rests) (fun _ _ _ _ known => known) fun _ _ _ _ known => known

theorem final_openNew {path : Path} {taken : MutationError} :
    Triple (Live (Final changeSet file)) (openNew fate path taken)
      (fun handle => Live fun execution => Final changeSet file execution ∧ file ≠ handle ∧ changeSet.sourcePath ≠ path)
      (fun _ => Fell options changeSet (Final changeSet file)) := by
  apply step_live
  · exact fun _ _ known => known.rests
  · exact fun _ _ known => (known.rests).powerLoss
  · exact fun _ _ _ known => known
  · intro execution handle disk known made
    cases free : execution.disk.entries path with
    | some other =>
      rw [free] at made
      cases made
    | none =>
      rw [free] at made
      cases made
      have apart : changeSet.sourcePath ≠ path := by
        intro same
        rw [← same, known.1.named] at free
        cases free
      exact ⟨⟨known.1.create apart _, known.2⟩,
        Nat.ne_of_lt (execution.disk.entries_exist _ _ known.1.named), apart⟩
  · exact fun _ _ known _ => known

theorem writtenJournal_live {journal : MemoryMutationJournal}
    (apart : journalPathFor options changeSet ≠ changeSet.sourcePath) :
    Triple (Live (Final changeSet file)) (atomicWriteJournal options changeSet call journal)
      (fun _ => Live (Final changeSet file)) (fun _ => Fell options changeSet (Final changeSet file)) := by
  apply Triple.bind final_refuse
  intro _
  apply Triple.bind final_openNew
  intro handle
  apply Triple.assuming
  rintro ⟨new, free⟩
  apply Triple.rescue
  rotate_left
  · intro error
    apply fell_either
    · apply Triple.bind (final_live fun _ settled => settled.remove free)
      intro _
      exact Triple.fail fun _ known => .inl known
    · exact gone_fail perform_gone
  · apply Triple.bind (closing_live (Triple.bind (final_live fun _ settled => settled.setFile new _)
      fun _ => final_live fun _ settled => settled.setFile new _) (fun _ _ known => known.rests)
      (fun _ _ known => known.rests) (fun _ _ _ _ known => known) fun _ _ _ _ known => known)
    intro _
    apply Triple.bind (final_live fun _ settled => settled.rename free apart.symm)
    intro _
    exact final_sync _

theorem verify_live (apart : journalPathFor options changeSet ≠ changeSet.sourcePath) :
    Triple (Live (Final changeSet file)) (verify sha256 options changeSet call) (fun _ => Live (Final changeSet file))
      (fun _ => Fell options changeSet (Final changeSet file)) := by
  apply Triple.bind final_skip
  intro _
  apply Triple.bind final_read
  intro found
  apply Triple.bind final_refuse
  intro _
  apply Triple.bind (writtenJournal_live apart)
  intro _
  apply Triple.bind final_skip
  intro _
  apply Triple.bind final_refuse
  intro _
  exact Triple.pure fun _ known => known

/-- The step is done, or the power is lost before it. -/
def Fate.survives (fate : Fate) : Prop := fate = .done ∨ fate = .loses

/-- Nothing but a loss of power comes between the target's rename and its sync. -/
structure Call.replacing (call : Call) : Prop where
  afterRename : (call.schedule .afterRename).survives
  openDirectory : (call.schedule .openTargetDirectory).survives
  syncDirectory : (call.schedule .syncTargetDirectory).survives

theorem pending_live {effect : Disk Content → Disk Content} {next : Execution → Prop}
    {broken : MutationError → Execution → Prop} (survives : fate.survives)
    (works : ∀ execution, Pending options changeSet execution ∧ Swapped execution →
      next { execution with disk := effect execution.disk }) :
    Triple (Live fun execution => Pending options changeSet execution ∧ Swapped execution)
      (perform fate effect) (fun _ => Live next) (fun problem => Fell options changeSet (broken problem)) := by
  apply step_live
  · intro same
    rw [same] at survives
    rcases survives with other | other <;> cases other
  · rintro _ execution ⟨⟨file, named, content, rests⟩, replaced⟩
    exact rests
  · intro message same
    rw [same] at survives
    rcases survives with other | other <;> cases other
  · intro execution result disk known made
    cases made
    exact works execution known
  · intro execution problem known made
    cases made

theorem pending_skip {broken : MutationError → Execution → Prop} (survives : fate.survives) :
    Triple (Live fun execution => Pending options changeSet execution ∧ Swapped execution) (skip fate)
      (fun _ => Live fun execution => Pending options changeSet execution ∧ Swapped execution)
      (fun problem => Fell options changeSet (broken problem)) := pending_live survives fun _ known => known

theorem confirm_live (replacing : call.replacing) (apart : journalPathFor options changeSet ≠ changeSet.sourcePath) :
    Triple (Live fun execution => Pending options changeSet execution ∧ Swapped execution)
      (confirm sha256 options changeSet call) (fun _ => Live fun execution => ∃ file, Final changeSet file execution)
      (fun _ => Fell options changeSet fun execution => ∃ file, Final changeSet file execution) := by
  apply Triple.bind (pending_skip replacing.afterRename)
  intro _
  have synced : Triple (Live fun execution => Pending options changeSet execution ∧ Swapped execution)
      (syncDirectory (call.schedule .openTargetDirectory) (call.schedule .syncTargetDirectory)
        (call.schedule .closeTargetDirectory) changeSet.sourcePath.directory)
      (fun _ => Live fun execution => ∃ file, Final changeSet file execution)
      (fun _ => Fell options changeSet fun execution => ∃ file, Final changeSet file execution) := by
    apply Triple.bind (pending_skip replacing.openDirectory)
    intro _
    apply closing_live (pending_live replacing.syncDirectory ?_)
    · exact fun _ _ ⟨_, known⟩ => known.rests
    · exact fun _ _ ⟨_, known⟩ => known.rests
    · exact fun _ _ _ _ known => known
    · exact fun _ _ _ _ known => known
    · rintro execution ⟨⟨file, named, content, -⟩, replaced⟩
      refine ⟨file, ⟨named, ?_, content⟩, replaced⟩
      simp only [Disk.syncDirectory, if_true, named]
  apply Triple.bind synced
  rintro _ execution ⟨alive, file, final⟩
  exact (verify_live apart).weaken (fun _ known => known) (fun _ _ known => ⟨known.1, file, known.2⟩)
    (fun _ _ known => known.mono fun _ final => ⟨file, final⟩) execution ⟨alive, final⟩

/-- No step of the cleaning up throws. -/
structure Call.cleaning (call : Call) : Prop where
  removeTemporary : ∀ message, call.schedule .removeTemporary ≠ .throws message
  removeJournal : ∀ message, call.schedule .removeJournal ≠ .throws message
  openJournalRoot : ∀ message, call.schedule .openJournalRoot ≠ .throws message
  syncJournalRoot : ∀ message, call.schedule .syncJournalRoot ≠ .throws message
  closeJournalRoot : ∀ message, call.schedule .closeJournalRoot ≠ .throws message

/-- What is left when the cleaning up is done. -/
inductive Cleaned (options : CanonicalMemoryMutationOptions) (changeSet : MemoryChangeSet) (start : Disk Content)
    (lock : Nat) (execution : Execution) : Prop where
  | undone (noted : List Path) (apart : journalPathFor options changeSet ∉ noted)
      (work : Work start execution.disk [(options.lockPath, lock)] noted) (unreplaced : execution.replaced = false)
  | replaced (file : Nat) (final : Final changeSet file execution)

theorem dropJournal_live {journal : Nat} {temporary : Option Path} (rests : Rests options changeSet start)
    (cleaning : call.cleaning) (apart : journalPathFor options changeSet ≠ options.lockPath) : Triple
      (Live (At start [(journalPathFor options changeSet, journal), (options.lockPath, lock)]
        [journalPathFor options changeSet, options.lockPath] temporary true))
      (dropJournal options changeSet call) (fun _ => Live (Cleaned options changeSet start lock))
      (fun _ => Fell options changeSet fun _ => False) := by
  apply Triple.bind (work_live _ rests (fun message same => absurd same (cleaning.removeJournal message))
    fun _ work => work.remove)
  intro _
  apply Triple.bind (skip_live _ (fun _ known => known.rests rests)
    fun message same => absurd same (cleaning.openJournalRoot message))
  intro _
  apply Triple.weaken (closing_live (work_live (fun _ _ => False) rests
      (fun message same => absurd same (cleaning.syncJournalRoot message))
      fun _ work => work.syncDirectory options.journalRoot) (fun _ _ known => known.rests rests)
      (fun _ _ known => known.elim) (fun message same => absurd same (cleaning.closeJournalRoot message))
      fun message same => absurd same (cleaning.closeJournalRoot message))
    (fun _ known => known) _ fun _ _ known => known
  rintro _ execution ⟨alive, at_⟩
  refine ⟨alive, .undone _ ?_ at_.work at_.replaced⟩
  simp [journalPathFor] at apart ⊢
  exact apart

theorem temporaryPath_ne : temporaryPathFor changeSet call ≠ journalPathFor options changeSet := by
  intro same
  have last := congrArg (fun path => path.name.toList.getLast?) same
  simp [temporaryPathFor, journalPathFor, List.getLast?_cons, List.getLast?_append] at last

/-- The disk and the call let an execution that fails be undone. -/
structure Careful (options : CanonicalMemoryMutationOptions) (changeSet : MemoryChangeSet) (start : Disk Content)
    (call : Call) : Prop where
  evidenced : call.evidenced
  replacing : call.replacing
  cleaning : call.cleaning
  free : start.entries (temporaryPathFor changeSet call) = none
  apart : temporaryPathFor changeSet call ≠ options.lockPath

theorem cleanUp_live (rests : Rests options changeSet start) (careful : Careful options changeSet start call) :
    Triple (Live (Broken options changeSet call start lock)) (cleanUp options changeSet call)
      (fun _ => Live (Cleaned options changeSet start lock)) (fun _ => Fell options changeSet fun _ => False) := by
  apply Triple.read_bind
  rintro world ⟨-, broken⟩
  -- the handler is chosen by what the world read looks like
  cases broken with
  | unprepared at_ =>
    rw [at_.temporaryPath, at_.journalCreated, if_neg (by simp)]
    rintro execution ⟨rfl, alive, -⟩
    exact ⟨alive, .undone [] (by simp) at_.work at_.replaced⟩
  | prepared temporary journal at_ name apart =>
    rw [at_.temporaryPath, at_.journalCreated, at_.replaced, if_pos ⟨rfl, rfl⟩]
    have drops : Triple (Live (At start [(journalPathFor options changeSet, journal), (options.lockPath, lock)]
          [journalPathFor options changeSet, options.lockPath] temporary true)) (dropTemporary call temporary)
        (fun _ => Live (At start [(journalPathFor options changeSet, journal), (options.lockPath, lock)]
          [journalPathFor options changeSet, options.lockPath] temporary true))
        (fun _ => Fell options changeSet fun _ => False) := by
      rcases name with rfl | rfl
      · exact Triple.pure fun _ known => known
      · apply work_live _ rests (fun message same => absurd same (careful.cleaning.removeTemporary message))
        intro disk work
        apply work.remove_free
        rw [work.entries, lookup_other temporaryPath_ne, lookup_other careful.apart, careful.free]
        rfl
    apply Triple.bind (drops.weaken _ (fun _ _ known => known) fun _ _ known => known)
    · intro _
      exact dropJournal_live rests careful.cleaning apart
    · rintro execution ⟨rfl, alive, -⟩
      exact ⟨alive, at_⟩
  | opened file journal at_ apart =>
    rw [at_.temporaryPath, at_.journalCreated, at_.replaced, if_pos ⟨rfl, rfl⟩]
    have drops : Triple (Live (At start [(temporaryPathFor changeSet call, file), (journalPathFor options changeSet, journal),
          (options.lockPath, lock)] [journalPathFor options changeSet, options.lockPath]
          (some (temporaryPathFor changeSet call)) true)) (dropTemporary call (some (temporaryPathFor changeSet call)))
        (fun _ => Live (At start [(journalPathFor options changeSet, journal), (options.lockPath, lock)]
          [journalPathFor options changeSet, options.lockPath] (some (temporaryPathFor changeSet call)) true))
        (fun _ => Fell options changeSet fun _ => False) :=
      work_live _ rests (fun message same => absurd same (careful.cleaning.removeTemporary message))
        fun _ work => work.remove
    apply Triple.bind (drops.weaken _ (fun _ _ known => known) fun _ _ known => known)
    · intro _
      exact dropJournal_live rests careful.cleaning apart
    · rintro execution ⟨rfl, alive, -⟩
      exact ⟨alive, at_⟩
  | replaced file settled swapped =>
    rw [swapped.2, swapped.1, if_neg (by simp)]
    rintro execution ⟨rfl, alive, -⟩
    exact ⟨alive, .replaced file ⟨settled, swapped⟩⟩

theorem cleanUp_gone : Keeps (Gone options changeSet) (cleanUp options changeSet call) := by
  refine Keeps.bind Keeps.read fun execution => Keeps.bind ?_ ?_
  · cases execution.temporaryPath with
    | none => exact Keeps.pure ()
    | some path => exact perform_gone
  · intro _
    split
    · exact Keeps.bind perform_gone fun _ => syncDirectory_gone
    · exact Keeps.pure ()

def Halted (options : CanonicalMemoryMutationOptions) (changeSet : MemoryChangeSet) (start : Disk Content) (lock : Nat)
    (problem : MutationError) (execution : Execution) : Prop :=
  (∃ message, problem = .execution message execution.replaced) ∧ Cleaned options changeSet start lock execution

theorem fails_fell {Result : Type} {never : Result → Execution → Prop} (rests : Rests options changeSet start)
    (careful : Careful options changeSet start call) (error : MutationError) :
    Triple (Fell options changeSet (Broken options changeSet call start lock)) (fails options changeSet call error) never
      (fun problem => Fell options changeSet (Halted options changeSet start lock problem)) := by
  have uncleaned (error : MutationError) : Triple (Fell options changeSet fun _ => False)
      (do
        let execution ← Exec.read
        Exec.fail (.execution "Canonical memory mutation failed and its temporary evidence could not be cleaned safely."
          execution.replaced))
      (fun _ : Unit => Live (Cleaned options changeSet start lock))
      (fun problem => Fell options changeSet (Halted options changeSet start lock problem)) := by
    apply fell_either
    · rintro execution ⟨-, impossible⟩
      exact impossible.elim
    · exact gone_fail Keeps.read
  apply fell_either
  · apply Triple.bind (Triple.rescue (cleanUp_live rests careful) uncleaned)
    intro _
    apply Triple.read_bind
    rintro world -
    rintro execution ⟨rfl, alive, cleaned⟩
    exact .inl ⟨alive, ⟨_, rfl⟩, cleaned⟩
  · have gone : Keeps (Gone options changeSet) (Exec.rescue (cleanUp options changeSet call) fun _ => do
        let execution ← Exec.read
        Exec.fail (.execution "Canonical memory mutation failed and its temporary evidence could not be cleaned safely."
          execution.replaced)) :=
      Keeps.rescue cleanUp_gone fun _ => Keeps.bind Keeps.read fun _ => Keeps.fail _
    apply Triple.bind ((Triple.of_keeps gone).weaken (fun _ known => known) (fun _ _ known => known)
      fun _ _ known => .inr known)
    intro _
    exact gone_fail Keeps.read

/-- The disk reads as before, the target also after a loss of power, and so does the journal, or as it
would if its directory had been synced before. -/
structure Restored (options : CanonicalMemoryMutationOptions) (changeSet : MemoryChangeSet) (start disk : Disk Content) :
    Prop where
  read : ∀ path, disk.read path = start.read path
  target : disk.readDurable changeSet.sourcePath = start.readDurable changeSet.sourcePath
  journal : disk.readDurable (journalPathFor options changeSet) = start.readDurable (journalPathFor options changeSet) ∨
    disk.readDurable (journalPathFor options changeSet) =
      (start.syncDirectory options.journalRoot).readDurable (journalPathFor options changeSet)

theorem Work.restored {disk : Disk Content} (work : Work start disk [] noted) (rests : Rests options changeSet start)
    (apart : journalPathFor options changeSet ∉ noted) : Restored options changeSet start disk := by
  have same (path : Path) : disk.entries path = start.entries path := by
    rw [work.entries path]
    rfl
  refine ⟨?_, ?_, ?_⟩
  · intro path
    cases named : start.entries path with
    | none => rw [Disk.read, Disk.read, same, named, Option.map_none, Option.map_none]
    | some file => exact work.read_kept named
  · obtain ⟨file, content, settled, -⟩ := rests
    rw [settled.readDurable, (work.settled settled).readDurable]
  · have reads (durable : Option Nat) (exists_ : ∀ file, durable = some file → file < start.next) :
        (durable.map fun file => (disk.files file).synced) = durable.map fun file => (start.files file).synced := by
      cases durable with
      | none => rfl
      | some file => rw [Option.map_some, Option.map_some, work.old file (exists_ file rfl)]
    rcases work.durable (journalPathFor options changeSet) with durable | durable | ⟨inside, -, -⟩
    · left
      rw [Disk.readDurable, Disk.readDurable, durable]
      exact reads _ (start.durable_exist _)
    · right
      have noted_ : (start.syncDirectory options.journalRoot).durable (journalPathFor options changeSet) =
          start.entries (journalPathFor options changeSet) := by
        simp only [Disk.syncDirectory, journalPathFor, if_true]
      rw [Disk.readDurable, Disk.readDurable, durable, noted_]
      exact reads _ (start.entries_exist _)
    · exact absurd inside apart

def Ended (options : CanonicalMemoryMutationOptions) (changeSet : MemoryChangeSet) (start : Disk Content)
    (problem : MutationError) (execution : Execution) : Prop :=
  Rests options changeSet execution.disk ∧
    ∀ message, problem = .execution message false → Restored options changeSet start execution.disk

theorem ended_plain {problem : MutationError} (plain : Plain problem) (rests : Rests options changeSet execution.disk) :
    Ended options changeSet start problem execution := ⟨rests, fun message same => absurd same (plain message false)⟩

theorem Cleaned.rests (cleaned : Cleaned options changeSet start lock execution) (rests : Rests options changeSet start) :
    Rests options changeSet execution.disk := by
  cases cleaned with
  | undone noted apart work => exact work.rest rests
  | replaced file final => exact final.rests

theorem releaseLock_live {holds after : Execution → Prop}
    (rests : ∀ execution, holds execution → Rests options changeSet execution.disk)
    (removes : ∀ execution, holds execution → after { execution with disk := execution.disk.remove options.lockPath }) :
    Triple (Live holds) (releaseLock options call) (fun _ => Live after)
      (Harmless options changeSet) := by
  apply Triple.bind (skip_live _ rests fun message _ execution known => ⟨plain_other message, rests execution known⟩)
  intro _
  exact perform_live _ rests (fun message _ execution known => ⟨plain_other message, rests execution known⟩) removes

theorem releaseLock_gone : Keeps (Gone options changeSet) (releaseLock options call) :=
  Keeps.bind skip_gone fun _ => perform_gone

section
variable (rests : Rests options changeSet start)

include rests

theorem lock_apart (work : Work start execution.disk [(options.lockPath, lock)] noted) :
    changeSet.sourcePath ≠ options.lockPath := by
  obtain ⟨file, content, settled, -⟩ := rests
  intro same
  have free := (work.fresh _ _ List.mem_cons_self).1
  rw [← same, settled.named] at free
  cases free

section

variable (careful : Careful options changeSet start call)

include careful

theorem mutate_live : Triple (Live (Locked options start lock))
      (do
        prepare sha256 options changeSet call
        replace changeSet call
        confirm sha256 options changeSet call)
      (fun _ => Live fun execution => ∃ file, Final changeSet file execution)
      (fun _ => Fell options changeSet (Broken options changeSet call start lock)) := by
  apply Triple.bind (prepare_live rests careful.evidenced)
  rintro _ execution ⟨alive, ⟨journal, at_⟩, free, apart⟩
  have target : journalPathFor options changeSet ≠ changeSet.sourcePath := by
    obtain ⟨file, content, settled, -⟩ := rests
    intro same
    rw [same, settled.named] at free
    cases free
  refine (Triple.bind (replace_at rests apart) fun _ => (confirm_live careful.replacing target).weaken
    (fun _ known => known) (fun _ _ known => known) ?_) execution ⟨alive, at_⟩
  rintro _ after known
  apply known.mono
  rintro execution ⟨file, final⟩
  exact .replaced file final.1 final.2

theorem locked_live : Triple (Live (Locked options start lock))
      (Exec.ensuring
        (Exec.rescue
          (do
            prepare sha256 options changeSet call
            replace changeSet call
            confirm sha256 options changeSet call)
          (fails options changeSet call))
        (releaseLock options call))
      (fun _ => Live (Resting options changeSet))
      (fun problem => Fell options changeSet (Ended options changeSet start problem)) := by
  apply Triple.given fun execution known => lock_apart rests known.work
  intro apart
  have kept {execution : Execution} {file : Nat} (final : Final changeSet file execution) :
      Rests options changeSet (execution.disk.remove options.lockPath) := Rest.of_settled (final.1.remove apart)
  apply Triple.ensuring (Triple.rescue (mutate_live rests careful) fun error => fails_fell rests careful error)
  · intro _
    exact (releaseLock_live (fun _ known => known.elim fun _ final => final.rests)
      fun _ known => known.elim fun _ final => kept final).weaken (fun _ known => known) (fun _ _ known => known)
        fun _ _ known => known.mono fun _ plain => ended_plain plain.1 plain.2
  · intro problem
    apply fell_either
    · have releases : Triple (Live (Halted options changeSet start lock problem)) (releaseLock options call)
          (fun _ => Live (Ended options changeSet start problem))
          (fun problem => Fell options changeSet fun execution =>
            Plain problem ∧ Rests options changeSet execution.disk) := by
        apply releaseLock_live fun _ known => known.2.rests rests
        rintro execution ⟨⟨message, rfl⟩, cleaned⟩
        cases cleaned with
        | undone noted absent work unreplaced =>
          exact ⟨work.remove.rest rests, fun _ _ => work.remove.restored rests absent⟩
        | replaced file final =>
          refine ⟨kept final, ?_⟩
          intro other same
          rw [final.2.1] at same
          cases same
      exact releases.weaken (fun _ known => known) (fun _ _ known => .inl known)
        fun _ _ known => known.mono fun _ plain => ended_plain plain.1 plain.2
    · exact (Triple.of_keeps releaseLock_gone).weaken (fun _ known => known) (fun _ _ known => .inr known)
        fun _ _ known => .inr known

theorem execute_ends : Triple (Live fun execution => execution = { disk := start })
      (executeCanonicalMemoryMutation sha256 options changeSet call)
      (fun _ => Live (Resting options changeSet))
      (fun problem => Fell options changeSet (Ended options changeSet start problem)) := by
  have refused (message : String) (execution : Execution) (known : execution = { disk := start }) :
      Ended options changeSet start (.conflict message) execution := by
    subst known
    exact ended_plain (plain_conflict message) rests
  apply Triple.bind (refuse_keep _ (refused _))
  intro _
  apply Triple.bind (Triple.bind (refuse_keep _ (refused _)) fun _ => refuse_keep _ (refused _))
  intro _
  apply Triple.bind ((acquireLock_live rests).weaken (fun _ known => known.2) (fun _ _ known => known)
    fun _ _ known => known.mono fun _ plain => ended_plain plain.1 plain.2)
  rintro _ execution ⟨alive, lock, at_⟩
  exact locked_live rests careful execution ⟨alive, at_⟩

end

end

end

end SpaceApp.Memory
