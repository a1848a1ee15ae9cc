import SpaceApp.Foundation.Reach
import SpaceApp.Memory.Outcomes

/-! What recovery answers in every run of executions, recoveries and losses of power. -/

set_option autoImplicit false

namespace SpaceApp.Memory

open SpaceApp.Foundation
open SpaceApp.Foundation.Exec

section

variable {sha256 : Sha256} {options : CanonicalMemoryMutationOptions} {changeSet : MemoryChangeSet} {call : Call}
  {start disk : Disk Content} {lock : Nat} {noted : List Path} {execution : Execution} {fate : Fate}

theorem Rest.remove {target journal path : Path} {afterSnapshot : String} (rest : Rest target journal afterSnapshot disk)
    (apart : target ≠ path) : Rest target journal afterSnapshot (disk.remove path) := by
  obtain ⟨file, content, settled, known⟩ := rest
  refine ⟨file, content, settled.remove apart, known.imp id ?_⟩
  rintro unwritten number (named | named)
  · simp only [Disk.remove] at named
    split at named
    · cases named
    · exact unwritten number (.inl named)
  · exact unwritten number (.inr named)

theorem Rest.syncDirectory {target journal : Path} {afterSnapshot : String} (rest : Rest target journal afterSnapshot disk)
    (directory : String) : Rest target journal afterSnapshot (disk.syncDirectory directory) := by
  obtain ⟨file, content, settled, known⟩ := rest
  refine ⟨file, content, settled.syncDirectory directory, known.imp id ?_⟩
  rintro unwritten number (named | named)
  · exact unwritten number (.inl named)
  · simp only [Disk.syncDirectory] at named
    split at named
    · exact unwritten number (.inl named)
    · exact unwritten number (.inr named)

theorem rests_live {effect : Disk Content → Disk Content}
    (keeps : ∀ disk, Rests options changeSet disk → Rests options changeSet (effect disk)) :
    Triple (Live (Resting options changeSet)) (perform fate effect)
      (fun _ => Live (Resting options changeSet))
      (fun _ => Fell options changeSet (Resting options changeSet)) :=
  perform_live _ (fun _ known => known) (fun _ _ _ known => known) fun _ known => keeps _ known

theorem releaseLock_never {never : Unit → Execution → Prop} {broken : MutationError → Execution → Prop} :
    Triple (Gone options changeSet) (releaseLock options call) never
      (fun problem => Fell options changeSet (broken problem)) := by
  rintro execution ⟨dead, rests⟩
  have stops : (skip (call.schedule .closeLock)).run execution = (.error .stopped, execution) := if_pos dead
  unfold releaseLock
  rw [run_bind_error stops]
  exact .inr ⟨dead, rests⟩

theorem inspected_gone {Value : Type} {program : Mutation Value} (keeps : Keeps (Gone options changeSet) program) :
    Keeps (Gone options changeSet) (inspected program) :=
  Keeps.rescue (Keeps.bind keeps fun _ => Keeps.pure _) fun _ => Keeps.pure _

theorem fell_of_keeps {Result : Type} {program : Mutation Result} {next : Result → Execution → Prop}
    {broken : MutationError → Execution → Prop} (keeps : Keeps (Gone options changeSet) program) :
    Triple (Gone options changeSet) program (fun result => Fell options changeSet (next result))
      (fun problem => Fell options changeSet (broken problem)) :=
  (Triple.of_keeps keeps).weaken (fun _ known => known) (fun _ _ known => .inr known) fun _ _ known => .inr known

theorem inspected_live {Value : Type} {program : Mutation Value} {holds : Execution → Prop} {fact : Value → Prop}
    {broken : MutationError → Execution → Prop}
    (reads : Triple (Live holds) program (fun value => Live fun execution => holds execution ∧ fact value)
      (fun _ => Fell options changeSet holds)) :
    Triple (Live holds) (inspected program)
      (fun found => Fell options changeSet fun execution => holds execution ∧ ∀ value, found = .ok value → fact value)
      (fun problem => Fell options changeSet (broken problem)) := by
  have answers : Triple (Live holds)
      (do
        let value ← program
        pure (.ok value))
      (fun found : Except String Value => Fell options changeSet fun execution =>
        holds execution ∧ ∀ value, found = .ok value → fact value)
      (fun _ => Fell options changeSet holds) := by
    apply Triple.bind reads
    intro value
    rintro execution ⟨alive, known, read⟩
    refine .inl ⟨alive, known, ?_⟩
    intro other same
    cases same
    exact read
  apply Triple.rescue answers
  intro error execution fell
  apply fell.mono
  intro execution known
  exact ⟨known, fun _ same => by cases same⟩

theorem readSource_ok {source : CanonicalMemoryMutationSource} {validated : ValidatedSource}
    (read : readSource disk source = .ok validated) : disk.read validated.path = some (.text validated.content) := by
  unfold readSource at read
  split at read
  · next content found =>
    cases read
    exact found
  · cases read

theorem mapM_read {sources : List CanonicalMemoryMutationSource} {validated : List ValidatedSource}
    (read : sources.mapM (readSource disk) = .ok validated) :
    ∀ source ∈ validated, disk.read source.path = some (.text source.content) := by
  induction sources generalizing validated with
  | nil =>
    cases read
    exact fun source member => by cases member
  | cons source rest ih =>
    rw [List.mapM_cons] at read
    cases first : readSource disk source with
    | error problem =>
      rw [first] at read
      cases read
    | ok found =>
      cases others : rest.mapM (readSource disk) with
      | error problem =>
        rw [first, others] at read
        cases read
      | ok more =>
        rw [first, others] at read
        cases read
        intro item member
        rcases List.mem_cons.mp member with rfl | member
        · exact readSource_ok first
        · exact ih others item member

theorem validated_target {found : List ValidatedSource × ValidatedSource}
    (valid : validateAndReadSources options changeSet disk = .ok found) :
    disk.read changeSet.sourcePath = some (.text found.2.content) := by
  unfold validateAndReadSources at valid
  split at valid
  · cases valid
  split at valid
  · cases valid
  cases read : options.sources.mapM (readSource disk) with
  | error problem =>
    rw [read] at valid
    cases valid
  | ok sources =>
    rw [read] at valid
    simp only [bind, Except.bind] at valid
    split at valid
    · cases valid
    · next target listed =>
      cases valid
      have named := List.find?_some listed
      simp only [decide_eq_true_eq] at named
      rw [← named]
      exact mapM_read read target (List.mem_of_find?_eq_some listed)

/-- An answer that names a snapshot, which the target holds. -/
def Truthful (changeSet : MemoryChangeSet) (disk : Disk Content) (result : MemoryMutationRecoveryResult) : Prop :=
  (result.status = .completeApplied → disk.read changeSet.sourcePath = some (.text changeSet.afterSnapshot)) ∧
    (result.status = .completeFailed → disk.read changeSet.sourcePath = some (.text changeSet.beforeSnapshot))

theorem truthful_required (reason : String) : Truthful changeSet disk (operatorRequired reason) := by
  constructor
  all_goals
    intro same
    cases same

theorem classify_truthful {journal : MemoryMutationJournal} {sources : List ValidatedSource} {target : ValidatedSource}
    (read : disk.read changeSet.sourcePath = some (.text target.content)) :
    Truthful changeSet disk (classify sha256 changeSet journal sources target) := by
  unfold classify
  dsimp only
  split
  · exact truthful_required _
  split
  · next applied =>
    split
    · exact truthful_required _
    · refine ⟨fun _ => ?_, (fun same => by cases same)⟩
      rw [read, applied.2]
  split
  · next failed =>
    split
    · exact truthful_required _
    · refine ⟨(fun same => by cases same), fun _ => ?_⟩
      rw [read, failed.2]
  · exact truthful_required _

theorem readJournal_live {found : MemoryMutationJournal → Prop} (rests : Rests options changeSet start)
    (reads : ∀ disk entry, Work start disk [(options.lockPath, lock)] [] →
      disk.read (journalPathFor options changeSet) = some (.journal entry) → found entry) :
    Triple (Live (Locked options start lock)) (readJournal options changeSet call)
      (fun entry => Live fun execution => Locked options start lock execution ∧ found entry)
      (fun _ => Fell options changeSet (Locked options start lock)) := by
  apply Triple.bind (skip_live _ (fun _ known => known.rests rests) fun _ _ _ known => known)
  intro _
  apply step_live
  · exact fun _ _ known => known.rests rests
  · exact fun _ _ known => (known.rests rests).powerLoss
  · exact fun _ _ _ known => known
  · intro execution entry disk known made
    split at made
    · next journal present =>
      split at made
      · cases made
        exact ⟨known, reads execution.disk entry known.work present⟩
      · cases made
    · cases made
  · exact fun _ _ known _ => known

theorem inspect_live (rests : Rests options changeSet start) :
    Triple (Live (Locked options start lock)) (inspect sha256 options changeSet call)
      (fun result => Fell options changeSet fun execution =>
        Locked options start lock execution ∧ Truthful changeSet start result)
      (Harmless options changeSet) := by
  have target : ∃ file content, start.Settled changeSet.sourcePath file (.text content) := by
    obtain ⟨file, content, settled, -⟩ := rests
    exact ⟨file, content, settled⟩
  have journals : Triple (Live (Locked options start lock))
      (do
        assertImmutableSnapshots sha256 changeSet
        readJournal options changeSet call)
      (fun _ => Live fun execution => Locked options start lock execution ∧ True)
      (fun _ => Fell options changeSet (Locked options start lock)) := by
    apply Triple.bind (Triple.bind (refuse_keep (fun _ => Locked options start lock)
      fun _ known => known) fun _ => refuse_keep _ fun _ known => known)
    intro _
    exact readJournal_live rests fun _ _ _ _ => trivial
  have sources : Triple (Live (Locked options start lock))
      (readSources options changeSet (call.schedule .readSources))
      (fun found => Live fun execution => Locked options start lock execution ∧
        start.read changeSet.sourcePath = some (.text found.2.content))
      (fun _ => Fell options changeSet (Locked options start lock)) := by
    apply (readSources_live (fun _ => Locked options start lock)
      (fun _ known => known.rests rests) fun _ _ known => known).weaken (fun _ known => known) _ fun _ _ known => known
    rintro found execution ⟨alive, at_, valid⟩
    refine ⟨alive, at_, ?_⟩
    obtain ⟨file, content, settled⟩ := target
    rw [← at_.work.read_kept settled.named]
    exact validated_target valid
  apply Triple.bind (inspected_live journals)
  intro journal
  apply fell_either
  · cases journal with
    | error reason => exact Triple.pure fun _ known => .inl ⟨known.1, known.2.1, truthful_required reason⟩
    | ok entry =>
      dsimp only
      split
      · exact Triple.pure fun _ known => .inl ⟨known.1, known.2.1, truthful_required _⟩
      · apply Triple.bind ((inspected_live sources).weaken (fun _ known => ⟨known.1, known.2.1⟩)
          (fun _ _ known => known) fun _ _ known => known)
        intro validated
        cases validated with
        | error reason =>
          exact Triple.pure fun _ known => known.mono fun _ known => ⟨known.1, truthful_required reason⟩
        | ok found =>
          exact Triple.pure fun _ known => known.mono fun _ known =>
            ⟨known.1, classify_truthful (known.2 found rfl)⟩
  · apply fell_of_keeps
    cases journal with
    | error reason => exact Keeps.pure _
    | ok entry =>
      dsimp only
      split
      · exact Keeps.pure _
      · refine Keeps.bind (inspected_gone step_gone) fun validated => ?_
        cases validated with
        | error reason => exact Keeps.pure _
        | ok found => exact Keeps.pure _

/-- An answer, and what holds of the disk when it is given. -/
def Answered (options : CanonicalMemoryMutationOptions) (changeSet : MemoryChangeSet)
    (result : MemoryMutationRecoveryResult) (disk : Disk Content) : Prop :=
  Rests options changeSet disk ∧ Truthful changeSet disk result

theorem release_ends {Result : Type} {holds after : Result → Execution → Prop}
    (rests : ∀ result execution, holds result execution → Rests options changeSet execution.disk)
    (removes : ∀ result execution, holds result execution →
      after result { execution with disk := execution.disk.remove options.lockPath })
    (result : Result) :
    Triple (Fell options changeSet (holds result)) (releaseLock options call) (fun _ => Live (after result))
      (Harmless options changeSet) :=
  fell_either (releaseLock_live (rests result) (removes result)) releaseLock_never

theorem release_fails {problem : MutationError} (apart : changeSet.sourcePath ≠ options.lockPath) :
    Triple (Harmless options changeSet problem)
      (releaseLock options call)
      (fun _ => Harmless options changeSet problem)
      (Harmless options changeSet) := by
  apply fell_either _ releaseLock_never
  exact (releaseLock_live (fun _ known => known.2) fun _ known =>
    (⟨known.1, known.2.remove apart⟩ : Plain problem ∧ Rests options changeSet _)).weaken (fun _ known => known)
      (fun _ _ known => .inl known) fun _ _ known => known

theorem recover_ends (rests : Rests options changeSet start) :
    Triple (Live fun execution => execution = { disk := start })
      (recoverCanonicalMemoryMutation sha256 options changeSet call)
      (fun result => Live fun execution => Answered options changeSet result execution.disk)
      (Harmless options changeSet) := by
  apply Triple.bind (refuse_keep _ fun execution known => ⟨plain_conflict _, by rw [known]; exact rests⟩)
  intro _
  apply Triple.bind ((acquireLock_live rests).weaken (fun _ known => known.2) (fun _ _ known => known)
    fun _ _ known => known)
  rintro _ execution ⟨alive, lock, at_⟩
  have apart := lock_apart rests at_.work
  refine Triple.ensuring (inspect_live rests) (release_ends (fun _ _ known => known.1.rests rests) ?_) (fun _ => release_fails apart)
    execution ⟨alive, at_⟩
  rintro result execution ⟨known, truthful⟩
  refine ⟨known.work.remove.rest rests, ?_⟩
  obtain ⟨file, content, settled, -⟩ := rests
  unfold Truthful
  rw [known.work.remove.read_kept settled.named]
  exact truthful

theorem dropJournal_rests (apart : changeSet.sourcePath ≠ journalPathFor options changeSet) :
    Triple (Live (Resting options changeSet)) (dropJournal options changeSet call)
      (fun _ => Live (Resting options changeSet))
      (fun _ => Fell options changeSet (Resting options changeSet)) := by
  apply Triple.bind (rests_live fun _ rest => rest.remove apart)
  intro _
  apply Triple.bind (rests_live fun _ rest => rest)
  intro _
  exact closing_live (rests_live fun _ rest => rest.syncDirectory options.journalRoot) (fun _ _ known => known)
    (fun _ _ known => known) (fun _ _ _ _ known => known) fun _ _ _ _ known => known

theorem finalize_ends (rests : Rests options changeSet start) :
    Triple (Live fun execution => execution = { disk := start })
      (finalizeCanonicalMemoryMutationJournal sha256 options changeSet call)
      (fun _ => Live (Resting options changeSet))
      (fun _ => Fell options changeSet (Resting options changeSet)) := by
  apply Triple.bind (refuse_keep _ fun execution known => by rw [known]; exact rests)
  intro _
  apply Triple.bind ((acquireLock_live rests).weaken (fun _ known => known.2) (fun _ _ known => known)
    fun _ _ known => known.mono fun _ plain => plain.2)
  rintro _ execution ⟨alive, lock, at_⟩
  have apart := lock_apart rests at_.work
  -- the journal is a journal, and the target a text
  have elsewhere (disk : Disk Content) (entry : MemoryMutationJournal)
      (work : Work start disk [(options.lockPath, lock)] [])
      (found : disk.read (journalPathFor options changeSet) = some (.journal entry)) :
      changeSet.sourcePath ≠ journalPathFor options changeSet := by
    obtain ⟨file, content, settled, -⟩ := rests
    intro same
    rw [← same, (work.settled settled).read] at found
    cases found
  have drops : Triple (Live (Locked options start lock))
      (do
        assertImmutableSnapshots sha256 changeSet
        let journal ← readJournal options changeSet call
        refuse (journal.phase ≠ .written ∨ journal.matches changeSet = false ∨
            journal.resultingSourceHash ≠ changeSet.resultingSourceHash)
          (.conflict ("Memory change set " ++ changeSet.id ++ " does not match its WRITTEN journal evidence."))
        dropJournal options changeSet call)
      (fun _ => Live (Resting options changeSet))
      (fun _ => Fell options changeSet (Resting options changeSet)) := by
    apply Triple.bind (Triple.bind (refuse_keep (fun _ execution => Rests options changeSet execution.disk)
      fun _ known => known.rests rests) fun _ => refuse_keep _ fun _ known => known.rests rests)
    intro _
    apply Triple.bind ((readJournal_live rests elsewhere).weaken (fun _ known => known) (fun _ _ known => known)
      fun _ _ known => known.mono fun _ at_ => at_.rests rests)
    intro journal
    apply Triple.bind (refuse_keep _ fun _ known => known.1.rests rests)
    intro _
    apply Triple.assuming
    intro target
    exact (dropJournal_rests target).weaken (fun _ known => ⟨known.1, known.2.rests rests⟩) (fun _ _ known => known)
      fun _ _ known => known
  have releases : Triple
      (Fell options changeSet (Resting options changeSet)) (releaseLock options call)
      (fun _ => Live (Resting options changeSet))
      (fun _ => Fell options changeSet (Resting options changeSet)) :=
    (fell_either (releaseLock_live (fun _ known => known) fun _ known => known.remove apart) releaseLock_never).weaken
      (fun _ known => known) (fun _ _ known => known) fun _ _ known => known.mono fun _ plain => plain.2
  refine Triple.ensuring drops (fun _ => ?_) (fun _ => ?_) execution ⟨alive, at_⟩
  · exact releases.weaken (fun _ known => .inl known) (fun _ _ known => known) fun _ _ known => known
  · exact releases.weaken (fun _ known => known) (fun _ _ known => .inl known) fun _ _ known => known

/-- Nothing was done for the change set yet, and its target is durable. -/
def Begun (options : CanonicalMemoryMutationOptions) (changeSet : MemoryChangeSet) (disk : Disk Content) : Prop :=
  (∃ file content, disk.Settled changeSet.sourcePath file (.text content)) ∧
    disk.entries (journalPathFor options changeSet) = none ∧ disk.durable (journalPathFor options changeSet) = none

theorem Begun.rests (begun : Begun options changeSet disk) : Rests options changeSet disk := by
  obtain ⟨⟨file, content, settled⟩, absent, lost⟩ := begun
  refine ⟨file, content, settled, .inr ?_⟩
  rintro number (named | named)
  · rw [absent] at named
    cases named
  · rw [lost] at named
    cases named

def Allowed (options : CanonicalMemoryMutationOptions) (changeSet : MemoryChangeSet) (disk : Disk Content) : Event → Prop
  | .execute _ call => Careful options changeSet disk call
  | _ => True

theorem rests_of_triple {Result : Type} {program : Mutation Result} {after : Result → Execution → Prop}
    {failed : MutationError → Execution → Prop}
    (ends : Triple (Live fun execution => execution = { disk := start }) program
      (fun result => Live (after result)) (fun problem => Fell options changeSet (failed problem)))
    (rests : ∀ result execution, after result execution → Rests options changeSet execution.disk)
    (restsFailed : ∀ problem execution, failed problem execution → Rests options changeSet execution.disk) :
    Rests options changeSet (program.run { disk := start }).2.disk := by
  have ended := ends { disk := start } ⟨rfl, rfl⟩
  rcases ran : program.run { disk := start } with ⟨problem | result, last⟩
  · rw [ran] at ended
    rcases ended with live | gone
    · exact restsFailed problem last live.2
    · exact gone.2
  · rw [ran] at ended
    exact rests result last ended.2

theorem after_rests {event : Event} (rests : Rests options changeSet disk) (may : Allowed options changeSet disk event) :
    Rests options changeSet (after sha256 options changeSet disk event) := by
  cases event with
  | execute status call =>
    have careful : Careful options { changeSet with status } disk call :=
      { may with }
    have ends : Triple _ (executeCanonicalMemoryMutation sha256 options { changeSet with status } call) _ _ :=
      execute_ends rests careful
    exact rests_of_triple ends (fun _ _ known => known) fun _ _ known => known.1
  | recover status call =>
    have ends : Triple _ (recoverCanonicalMemoryMutation sha256 options { changeSet with status } call) _ _ :=
      recover_ends rests
    exact rests_of_triple ends (fun _ _ known => known.1) fun _ _ known => known.2
  | finalize status resultingSourceHash call =>
    have ends : Triple _ (finalizeCanonicalMemoryMutationJournal sha256 options
      { changeSet with status, resultingSourceHash } call) _ _ := finalize_ends rests
    exact rests_of_triple ends (fun _ _ known => known) fun _ _ known => known
  | powerLoss => exact rests.powerLoss
  | unlock =>
    unfold after unlock
    dsimp only
    split
    · exact rests
    · next apart => exact rests.remove (Ne.symm apart)

/-- The target holds `content`, also after a loss of power. -/
def Holds (changeSet : MemoryChangeSet) (disk : Disk Content) (content : String) : Prop :=
  disk.read changeSet.sourcePath = some (.text content) ∧ disk.readDurable changeSet.sourcePath = some (.text content)

def answer (sha256 : Sha256) (options : CanonicalMemoryMutationOptions) (changeSet : MemoryChangeSet) (disk : Disk Content)
    (status : MemoryChangeStatus) (call : Call) : Option RecoveryStatus :=
  match ((recoverCanonicalMemoryMutation sha256 options { changeSet with status } call).run { disk }).1 with
  | .ok result => some result.status
  | .error _ => none

def throwsUnreplaced (sha256 : Sha256) (options : CanonicalMemoryMutationOptions) (changeSet : MemoryChangeSet)
    (disk : Disk Content) (status : MemoryChangeStatus) (call : Call) : Bool :=
  match (executeCanonicalMemoryMutation sha256 options { changeSet with status } call).run { disk } with
  | (.error (.execution _ false), execution) => !execution.dead
  | _ => false

structure AllOrNothing (sha256 : Sha256) (options : CanonicalMemoryMutationOptions) (changeSet : MemoryChangeSet)
    (disk : Disk Content) : Prop where
  applied : ∀ status call, answer sha256 options changeSet disk status call = some .completeApplied →
    Holds changeSet (after sha256 options changeSet disk (.recover status call)) changeSet.afterSnapshot
  failed : ∀ status call, answer sha256 options changeSet disk status call = some .completeFailed →
    Holds changeSet (after sha256 options changeSet disk (.recover status call)) changeSet.beforeSnapshot
  written : ∀ entry, disk.readDurable (journalPathFor options changeSet) = some (.journal entry) → entry.phase = .written →
    disk.readDurable changeSet.sourcePath = some (.text changeSet.afterSnapshot)
  undone : ∀ status call, Allowed options changeSet disk (.execute status call) →
    throwsUnreplaced sha256 options changeSet disk status call = true →
      Restored options changeSet disk (after sha256 options changeSet disk (.execute status call))

section

variable (rests : Rests options changeSet disk)

include rests

theorem Rests.holds {content : String} (reads : disk.read changeSet.sourcePath = some (.text content)) :
    Holds changeSet disk content := by
  obtain ⟨file, held, settled, -⟩ := rests
  have same := reads
  rw [settled.read] at same
  cases same
  exact ⟨reads, settled.readDurable⟩

theorem Rests.written {entry : MemoryMutationJournal}
    (durable : disk.readDurable (journalPathFor options changeSet) = some (.journal entry))
    (written : entry.phase = .written) :
    disk.readDurable changeSet.sourcePath = some (.text changeSet.afterSnapshot) := by
  obtain ⟨file, content, settled, rfl | unwritten⟩ := rests
  · exact settled.readDurable
  · unfold Disk.readDurable at durable
    cases named : disk.durable (journalPathFor options changeSet) with
    | none =>
      rw [named] at durable
      cases durable
    | some number =>
      rw [named, Option.map_some, Option.some_inj] at durable
      have plain := (unwritten number (.inr named)).2
      rw [durable] at plain
      simp [Content.isWritten, written] at plain

theorem answered {status : MemoryChangeStatus} {call : Call} {named : RecoveryStatus}
    (said : answer sha256 options changeSet disk status call = some named) : ∃ result, result.status = named ∧
      Answered options changeSet result (after sha256 options changeSet disk (.recover status call)) := by
  have ends : Triple _ (recoverCanonicalMemoryMutation sha256 options { changeSet with status } call) _ _ :=
    recover_ends rests
  have ended := ends { disk } ⟨rfl, rfl⟩
  unfold answer at said
  rcases ran : (recoverCanonicalMemoryMutation sha256 options { changeSet with status } call).run { disk } with
    ⟨problem | result, last⟩
  · rw [ran] at said
    cases said
  · rw [ran] at said ended
    cases said
    have left : after sha256 options changeSet disk (.recover status call) = last.disk :=
      congrArg (fun ended => ended.2.disk) ran
    rw [left]
    exact ⟨result, rfl, ended.2⟩

theorem undone {status : MemoryChangeStatus} {call : Call} (careful : Careful options changeSet disk call)
    (thrown : throwsUnreplaced sha256 options changeSet disk status call = true) :
    Restored options changeSet disk (after sha256 options changeSet disk (.execute status call)) := by
  have same : Careful options { changeSet with status } disk call :=
    { careful with }
  have ends : Triple _ (executeCanonicalMemoryMutation sha256 options { changeSet with status } call) _ _ :=
    execute_ends rests same
  have ended := ends { disk } ⟨rfl, rfl⟩
  unfold throwsUnreplaced at thrown
  rcases ran : (executeCanonicalMemoryMutation sha256 options { changeSet with status } call).run { disk } with
    ⟨problem | result, last⟩
  · have left : after sha256 options changeSet disk (.execute status call) = last.disk :=
      congrArg (fun ended => ended.2.disk) ran
    rw [ran] at thrown ended
    rw [left]
    cases problem with
    | execution message replaced =>
      cases replaced with
      | true => cases thrown
      | false =>
        rcases ended with live | gone
        · have restored := live.2.2 message rfl
          exact { restored with }
        · dsimp only at thrown
          rw [gone.1] at thrown
          cases thrown
    | _ => cases thrown
  · rw [ran] at thrown
    cases thrown

end

/-- Canonical memory mutations are all or nothing and recover truthfully, in every run whose executions
are careful. -/
theorem mutations_all_or_nothing
    (reached : Reached (Begun options changeSet) (Allowed options changeSet) (after sha256 options changeSet) disk) :
    AllOrNothing sha256 options changeSet disk := by
  have rests : Rests options changeSet disk := by
    apply reached.invariant
    · exact fun _ begun => begun.rests
    · exact fun _ _ rests may => after_rests rests may
  constructor
  · intro status call said
    obtain ⟨result, named, known, applied, -⟩ := answered rests said
    exact known.holds (applied named)
  · intro status call said
    obtain ⟨result, named, known, -, failed⟩ := answered rests said
    exact known.holds (failed named)
  · exact fun entry durable written => Rests.written rests durable written
  · exact fun status call careful thrown => undone rests careful thrown

end

namespace Sample

def target : Path := ⟨"/memory", "space.md"⟩

def digests : Sha256 := fun content =>
  if content = "before" then "6db7d803e74f1ffa7d8f5adc0bf95b3e15bf4c8373fffadf546227cc6c6742cb"
  else if content = "after" then "f39592393ef0859cb196a52693d2cea00fb2df784b3c04ae54aa7cadb8e562f8"
  else if content = "/memory/space.md\n6db7d803e74f1ffa7d8f5adc0bf95b3e15bf4c8373fffadf546227cc6c6742cb" then
    "3ddeed513bcae088acb8eb887446db4eed44b330061999df4d0e6004330a5004"
  else if content = "/memory/space.md\nf39592393ef0859cb196a52693d2cea00fb2df784b3c04ae54aa7cadb8e562f8" then
    "974af58ec494ee9bbda1138e77c05bd1c05b28861515f6328e5365aa866bb373"
  else ""

def options : CanonicalMemoryMutationOptions where
  sources := [{ path := target, kind := .index }]
  journalRoot := "/journal"
  lockPath := ⟨"/memory", "memory.lock"⟩

def changeSet : MemoryChangeSet where
  id := "5f0c3c5e"
  status := .approved
  sourcePath := target
  expectedSourceHash := digests ("/memory/space.md\n" ++ digests "before")
  resultingSourceHash := none
  beforeContentHash := digests "before"
  afterContentHash := digests "after"
  beforeSnapshot := "before"
  afterSnapshot := "after"

def disk : Disk Content where
  files := fun _ => { written := .text "before", synced := .text "before" }
  next := 1
  entries := fun path => if path = target then some 0 else none
  durable := fun path => if path = target then some 0 else none
  entries_exist := by
    intro path file named
    split at named
    · cases named
      exact Nat.one_pos
    · cases named
  durable_exist := by
    intro path file named
    split at named
    · cases named
      exact Nat.one_pos
    · cases named

def call (schedule : Step → Fate) : Call where
  schedule := schedule
  journalStamp := fun _ => "41.1760000000000"
  temporaryStamp := "41.1760000000001"
  preparedAt := 1760000000000
  writtenAt := 1760000000002
  durationMs := 2

def undisturbed : Call := call fun _ => .done

def unsynced : Call := call fun step => if step = .afterRename then .throws "EIO" else .done

/-- The sync of the journal's directory throws, after the PREPARED journal was renamed. -/
def unnoted : Call := call fun step => if step = .journal .prepared .syncDirectory then .throws "EIO" else .done

def unreplaced : Call := call fun step => if step = .renameTemporary then .throws "EIO" else .done

theorem begun : Begun options changeSet disk := by
  refine ⟨⟨0, "before", ?_⟩, rfl, rfl⟩
  exact ⟨rfl, rfl, rfl⟩

theorem unreplaced_careful : Careful options changeSet disk unreplaced where
  evidenced := ⟨fun _ => nofun, fun _ => nofun, fun _ => nofun, fun _ => nofun⟩
  replacing := ⟨.inl rfl, .inl rfl, .inl rfl⟩
  cleaning := ⟨fun _ => nofun, fun _ => nofun, fun _ => nofun, fun _ => nofun, fun _ => nofun⟩
  free := by decide +kernel
  apart := by decide +kernel

theorem undisturbed_careful :
    Careful options changeSet (after digests options changeSet disk (.execute .approved unreplaced)).powerLoss
      undisturbed where
  evidenced := ⟨fun _ => nofun, fun _ => nofun, fun _ => nofun, fun _ => nofun⟩
  replacing := ⟨.inl rfl, .inl rfl, .inl rfl⟩
  cleaning := ⟨fun _ => nofun, fun _ => nofun, fun _ => nofun, fun _ => nofun, fun _ => nofun⟩
  free := by decide +kernel
  apart := by decide +kernel

end Sample

open Sample in
/-- A rename that throws leaves nothing, and after a loss of power the change set is executed again. -/
theorem mutations_all_or_nothing_twice :
    AllOrNothing digests options changeSet
      (after digests options changeSet
        (after digests options changeSet (after digests options changeSet disk (.execute .approved unreplaced)) .powerLoss)
        (.execute .approved undisturbed)) := by
  apply mutations_all_or_nothing
  have failed : Reached (Begun options changeSet) (Allowed options changeSet) (after digests options changeSet)
      (after digests options changeSet disk (.execute .approved unreplaced)) :=
    .step (.start begun) unreplaced_careful
  have restarted : Reached (Begun options changeSet) (Allowed options changeSet) (after digests options changeSet)
      (after digests options changeSet (after digests options changeSet disk (.execute .approved unreplaced))
        .powerLoss) := .step failed trivial
  exact .step restarted undisturbed_careful

open Sample in
/-- Recovery answers that an unsynced replacement is applied, and a loss of power brings the before snapshot back.
A journal whose directory was not synced stays behind, and the change set cannot be executed again. -/
theorem unsynced_directories :
    (answer digests options changeSet (after digests options changeSet disk (.execute .approved unsynced)) .applying
        undisturbed = some .completeApplied ∧
      ((after digests options changeSet (after digests options changeSet disk (.execute .approved unsynced))
        (.recover .applying undisturbed)).powerLoss.read target = some (.text "before"))) ∧
    (throwsUnreplaced digests options changeSet disk .approved unnoted = true ∧
      ((executeCanonicalMemoryMutation digests options changeSet undisturbed).run
        { disk := after digests options changeSet disk (.execute .approved unnoted) }).1.isOk = false ∧
      (after digests options changeSet disk (.execute .approved unnoted)).entries (journalPathFor options changeSet) ≠
        disk.entries (journalPathFor options changeSet)) := by
  decide +kernel

end SpaceApp.Memory
