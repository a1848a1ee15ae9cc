import Mathlib.Data.List.SplitOn
import SpaceApp.Foundation.Disk
import SpaceApp.Foundation.Exec
import SpaceApp.Foundation.JsText

/-! One approved change of a canonical memory file, under a lock and with a journal
(`memory-mutation-executor.ts`).

Every step may throw, and the process or the power may go before it: which ones do is a schedule.
What is checked of a path, and of a file's kind, size and owner, only makes a step throw.
-/

set_option autoImplicit false

namespace SpaceApp.Memory

open SpaceApp.Foundation

inductive MemoryChangeStatus where
  | proposed | approved | applying | applied | failed | rolledBack | rejected
  deriving DecidableEq

structure MemoryChangeSet where
  id : String
  status : MemoryChangeStatus
  sourcePath : Path
  expectedSourceHash : String
  resultingSourceHash : Option String
  beforeContentHash : String
  afterContentHash : String
  beforeSnapshot : String
  afterSnapshot : String

inductive JournalPhase where
  | prepared | written
  deriving DecidableEq

structure MemoryMutationJournal where
  phase : JournalPhase
  changeSetId : String
  sourcePath : Path
  expectedSourceHash : String
  beforeContentHash : String
  afterContentHash : String
  resultingSourceHash : Option String
  preparedAt : ℤ
  updatedAt : ℤ
  deriving DecidableEq

/-- `memoryMutationJournalSchema`, of a journal whose texts come from a change set. -/
def memoryMutationJournalSchema (journal : MemoryMutationJournal) : Bool :=
  match journal.phase with
  | .prepared => journal.resultingSourceHash.isNone
  | .written => journal.resultingSourceHash.isSome

/-- A journal and the content of a lock are kept as the values they stand for. -/
inductive Content where
  | text (content : String)
  | journal (journal : MemoryMutationJournal)
  | lock
  deriving DecidableEq

def Content.empty : Content := .text ""

inductive MemoryGraphSourceKind where
  | index | monthly
  deriving DecidableEq

structure CanonicalMemoryMutationSource where
  path : Path
  kind : MemoryGraphSourceKind

structure ValidatedSource extends CanonicalMemoryMutationSource where
  content : String

structure CanonicalMemoryMutationOptions where
  sources : List CanonicalMemoryMutationSource
  journalRoot : String
  lockPath : Path
  lockTimeoutMs : Nat := 5000

def Path.text (path : Path) : String := path.directory ++ "/" ++ path.name

/-- SHA-256 in hexadecimal. -/
abbrev Sha256 := String → String

/-- `calculateMemoryGraphSourceHash` (`parser.ts`). -/
def calculateMemoryGraphSourceHash (sha256 : Sha256) (sources : List ValidatedSource) : String :=
  let archived (source : ValidatedSource) : Bool :=
    ((Path.text source.path).toList.splitOnP fun c => c = '/' || c = '\\').contains "_archive".toList
  let lines := (sources.filter fun source => !archived source).map fun source =>
    Path.text source.path ++ "\n" ++ sha256 source.content
  sha256 (String.intercalate "\n" (lines.mergeSort fun a b => !textLess b a))

inductive JournalStep where
  | openTemporary | write | sync | close | rename | openDirectory | syncDirectory | closeDirectory | removeTemporary
  deriving DecidableEq

inductive Step where
  | lockDirectory | openLock | writeLock | syncLock | abandonLock | dropLock | closeLock | removeLock
  | afterLock | readSources | journalRoot | lookForJournal
  | journal (phase : JournalPhase) (part : JournalStep)
  | afterPrepared | openTemporary | setOwner | writeTemporary | syncTemporary | afterTemporaryFileSynced
  | closeTemporary | renameTemporary
  | afterRename | openTargetDirectory | syncTargetDirectory | closeTargetDirectory | afterDirectorySynced
  | readSourcesAgain | afterWritten
  | removeTemporary | removeJournal | openJournalRoot | syncJournalRoot | closeJournalRoot
  | readJournalRoot | readJournal
  deriving DecidableEq

/-- What becomes of a step. The process may stop before it, or lose power. -/
inductive Fate where
  | done
  | throws (message : String)
  | stops
  | loses
  deriving DecidableEq

inductive MutationError where
  | conflict (message : String)
  | execution (message : String) (canonicalReplaced : Bool)
  | other (message : String)
  /-- There is nobody left to see it. -/
  | stopped

def MutationError.message : MutationError → String
  | .conflict message | .execution message _ | .other message => message
  | .stopped => ""

structure Execution where
  disk : Disk Content
  /-- The process has stopped: nothing it would do has an effect any more. -/
  dead : Bool := false
  temporaryPath : Option Path := none
  journalCreated : Bool := false
  replaced : Bool := false

abbrev Mutation (Result : Type) := Exec Execution MutationError Result

def step {Result : Type} (fate : Fate) (effect : Disk Content → Except MutationError (Result × Disk Content)) :
    Mutation Result :=
  fun execution =>
    if execution.dead = true then (.error .stopped, execution)
    else
      match fate with
      | .done =>
        match effect execution.disk with
        | .ok (result, disk) => (.ok result, { execution with disk })
        | .error error => (.error error, execution)
      | .throws message => (.error (.other message), execution)
      | .stops => (.error .stopped, { execution with dead := true })
      | .loses => (.error .stopped, { execution with dead := true, disk := execution.disk.powerLoss })

def perform (fate : Fate) (effect : Disk Content → Disk Content) : Mutation Unit :=
  step fate fun disk => .ok ((), effect disk)

def skip (fate : Fate) : Mutation Unit := perform fate id

def openNew (fate : Fate) (path : Path) (taken : MutationError) : Mutation Nat :=
  step fate fun disk =>
    match disk.entries path with
    | some _ => .error taken
    | none => .ok (disk.next, disk.create path Content.empty)

def refuse (condition : Prop) [Decidable condition] (error : MutationError) : Mutation Unit :=
  if condition then Exec.fail error else pure ()

/-- What a call reads of the process and the clock, and what becomes of its steps. -/
structure Call where
  schedule : Step → Fate
  journalStamp : JournalPhase → String
  temporaryStamp : String
  preparedAt : ℤ
  writtenAt : ℤ
  durationMs : Nat

section

variable (sha256 : Sha256) (options : CanonicalMemoryMutationOptions) (changeSet : MemoryChangeSet) (call : Call)

def journalPathFor : Path := ⟨options.journalRoot, changeSet.id ++ ".json"⟩

def journalTemporaryPath (phase : JournalPhase) : Path :=
  ⟨options.journalRoot, changeSet.id ++ ".json" ++ ("." ++ call.journalStamp phase ++ ".tmp")⟩

def temporaryPathFor : Path :=
  ⟨changeSet.sourcePath.directory,
    "." ++ changeSet.sourcePath.name ++ "." ++ changeSet.id ++ "." ++ call.temporaryStamp ++ ".tmp"⟩

def assertImmutableSnapshots : Mutation Unit := do
  refuse (sha256 changeSet.beforeSnapshot ≠ changeSet.beforeContentHash)
    (.conflict ("Memory change set " ++ changeSet.id ++ " has an invalid before snapshot hash."))
  refuse (sha256 changeSet.afterSnapshot ≠ changeSet.afterContentHash)
    (.conflict ("Memory change set " ++ changeSet.id ++ " has an invalid after snapshot hash."))

/-- The attempts to open the lock until one succeeds or the time is up are one step. -/
def acquireLock : Mutation Unit := do
  refuse (60000 < options.lockTimeoutMs)
    (.conflict "Canonical memory lock timeout must be between 0 and 60000 milliseconds.")
  skip (call.schedule .lockDirectory)
  let handle ← openNew (call.schedule .openLock) options.lockPath
    (.conflict ("Canonical memory lock " ++ Path.text options.lockPath ++ " was not acquired within " ++
      toString options.lockTimeoutMs ++ "ms."))
  Exec.rescue
    (do
      perform (call.schedule .writeLock) (·.write handle .lock)
      perform (call.schedule .syncLock) (·.syncFile handle))
    fun error => do
      skip (call.schedule .abandonLock)
      perform (call.schedule .dropLock) (·.remove options.lockPath)
      Exec.fail error

def releaseLock : Mutation Unit := do
  skip (call.schedule .closeLock)
  perform (call.schedule .removeLock) (·.remove options.lockPath)

def syncDirectory (opens syncs closes : Fate) (directory : String) : Mutation Unit := do
  skip opens
  Exec.ensuring (perform syncs (·.syncDirectory directory)) (skip closes)

def atomicWriteJournal (journal : MemoryMutationJournal) : Mutation Unit := do
  refuse (memoryMutationJournalSchema journal = false) (.other "invalid journal")
  let temporaryPath := journalTemporaryPath options changeSet call journal.phase
  let fate (part : JournalStep) : Fate := call.schedule (.journal journal.phase part)
  let handle ← openNew (fate .openTemporary) temporaryPath (.other "EEXIST")
  Exec.rescue
    (do
      Exec.ensuring
        (do
          perform (fate .write) (·.write handle (.journal journal))
          perform (fate .sync) (·.syncFile handle))
        (skip (fate .close))
      perform (fate .rename) (·.rename temporaryPath (journalPathFor options changeSet))
      syncDirectory (fate .openDirectory) (fate .syncDirectory) (fate .closeDirectory) options.journalRoot)
    fun error => do
      perform (fate .removeTemporary) (·.remove temporaryPath)
      Exec.fail error

/-- A journal or a lock is not a canonical source. -/
def readSource (disk : Disk Content) (source : CanonicalMemoryMutationSource) : Except MutationError ValidatedSource :=
  match disk.read source.path with
  | some (.text content) => .ok { source with content }
  | _ => .error (.conflict ("Canonical source " ++ Path.text source.path ++ " must be a regular file."))

def validateAndReadSources (disk : Disk Content) : Except MutationError (List ValidatedSource × ValidatedSource) :=
  if options.sources.length = 0 ∨ 24 < options.sources.length then
    .error (.conflict "Canonical mutation requires between one and 24 allowlisted sources.")
  else if ¬ (options.sources.map (·.path)).Nodup then .error (.conflict "Canonical source is duplicated.")
  else do
    let sources ← options.sources.mapM (readSource disk)
    match sources.find? fun source => source.path = changeSet.sourcePath with
    | none => .error (.conflict ("Memory change target " ++ Path.text changeSet.sourcePath ++
        " is outside the canonical source allowlist."))
    | some target => .ok (sources, target)

def readSources (fate : Fate) : Mutation (List ValidatedSource × ValidatedSource) :=
  step fate fun disk => (validateAndReadSources options changeSet disk).map fun validated => (validated, disk)

def preparedJournal : MemoryMutationJournal where
  phase := .prepared
  changeSetId := changeSet.id
  sourcePath := changeSet.sourcePath
  expectedSourceHash := changeSet.expectedSourceHash
  beforeContentHash := changeSet.beforeContentHash
  afterContentHash := changeSet.afterContentHash
  resultingSourceHash := none
  preparedAt := call.preparedAt
  updatedAt := call.preparedAt

def prepare : Mutation Unit := do
  skip (call.schedule .afterLock)
  let (sources, target) ← readSources options changeSet (call.schedule .readSources)
  refuse (target.content ≠ changeSet.beforeSnapshot)
    (.conflict ("Memory change set " ++ changeSet.id ++ " target does not match its exact before snapshot."))
  refuse (calculateMemoryGraphSourceHash sha256 sources ≠ changeSet.expectedSourceHash)
    (.conflict ("Memory change set " ++ changeSet.id ++ " expected source hash is stale."))
  skip (call.schedule .journalRoot)
  let found ← step (call.schedule .lookForJournal) fun disk =>
    .ok ((disk.entries (journalPathFor options changeSet)).isSome, disk)
  refuse (found = true) (.conflict ("Memory change set " ++ changeSet.id ++ " already has recovery evidence."))
  atomicWriteJournal options changeSet call (preparedJournal changeSet call)
  Exec.change fun execution => { execution with journalCreated := true }

def replace : Mutation Unit := do
  let temporaryPath := temporaryPathFor changeSet call
  skip (call.schedule .afterPrepared)
  Exec.change fun execution => { execution with temporaryPath := some temporaryPath }
  let handle ← openNew (call.schedule .openTemporary) temporaryPath (.other "EEXIST")
  Exec.ensuring
    (do
      skip (call.schedule .setOwner)
      perform (call.schedule .writeTemporary) (·.write handle (.text changeSet.afterSnapshot))
      perform (call.schedule .syncTemporary) (·.syncFile handle)
      skip (call.schedule .afterTemporaryFileSynced))
    (skip (call.schedule .closeTemporary))
  perform (call.schedule .renameTemporary) (·.rename temporaryPath changeSet.sourcePath)
  Exec.change fun execution => { execution with temporaryPath := none, replaced := true }

structure MemoryMutationExecutionResult where
  resultingSourceHash : String
  journalPath : Path
  durationMs : Nat

def verify : Mutation MemoryMutationExecutionResult := do
  skip (call.schedule .afterDirectorySynced)
  let (sources, target) ← readSources options changeSet (call.schedule .readSourcesAgain)
  refuse (sha256 target.content ≠ changeSet.afterContentHash ∨ target.content ≠ changeSet.afterSnapshot)
    (.conflict ("Memory change set " ++ changeSet.id ++ " failed exact post-write verification."))
  let resultingSourceHash := calculateMemoryGraphSourceHash sha256 sources
  atomicWriteJournal options changeSet call { preparedJournal changeSet call with
    phase := .written, resultingSourceHash := some resultingSourceHash, updatedAt := call.writtenAt }
  skip (call.schedule .afterWritten)
  refuse (3600000 < call.durationMs) (.other "invalid result")
  pure { resultingSourceHash, journalPath := journalPathFor options changeSet, durationMs := call.durationMs }

def confirm : Mutation MemoryMutationExecutionResult := do
  skip (call.schedule .afterRename)
  syncDirectory (call.schedule .openTargetDirectory) (call.schedule .syncTargetDirectory)
    (call.schedule .closeTargetDirectory) changeSet.sourcePath.directory
  verify sha256 options changeSet call

def dropTemporary : Option Path → Mutation Unit
  | some temporaryPath => perform (call.schedule .removeTemporary) (·.remove temporaryPath)
  | none => pure ()

def dropJournal : Mutation Unit := do
  perform (call.schedule .removeJournal) (·.remove (journalPathFor options changeSet))
  syncDirectory (call.schedule .openJournalRoot) (call.schedule .syncJournalRoot) (call.schedule .closeJournalRoot)
    options.journalRoot

/-- What was left of a failed execution goes, the journal only if the target was not replaced. -/
def cleanUp : Mutation Unit := do
  let execution ← Exec.read
  dropTemporary call execution.temporaryPath
  if execution.journalCreated = true ∧ execution.replaced = false then dropJournal options changeSet call else pure ()

def fails {Result : Type} (error : MutationError) : Mutation Result := do
  Exec.rescue (cleanUp options changeSet call) fun _ => do
    let execution ← Exec.read
    Exec.fail (.execution
      "Canonical memory mutation failed and its temporary evidence could not be cleaned safely." execution.replaced)
  let execution ← Exec.read
  Exec.fail (.execution error.message execution.replaced)

def executeCanonicalMemoryMutation : Mutation MemoryMutationExecutionResult := do
  refuse (changeSet.status ≠ .approved)
    (.conflict ("Memory change set " ++ changeSet.id ++ " must be APPROVED before execution."))
  assertImmutableSnapshots sha256 changeSet
  acquireLock options call
  Exec.ensuring
    (Exec.rescue
      (do
        prepare sha256 options changeSet call
        replace changeSet call
        confirm sha256 options changeSet call)
      (fails options changeSet call))
    (releaseLock options call)

inductive RecoveryStatus where
  | completeApplied | completeFailed | operatorRequired
  deriving DecidableEq

structure MemoryMutationRecoveryResult where
  status : RecoveryStatus
  resultingSourceHash : Option String
  reason : Option String

def operatorRequired (reason : String) : MemoryMutationRecoveryResult where
  status := .operatorRequired
  resultingSourceHash := none
  reason := some reason

def readJournal : Mutation MemoryMutationJournal := do
  skip (call.schedule .readJournalRoot)
  step (call.schedule .readJournal) fun disk =>
    match disk.read (journalPathFor options changeSet) with
    | some (.journal journal) =>
      if memoryMutationJournalSchema journal = true then .ok (journal, disk) else .error (.other "invalid journal")
    | _ => .error (.other "Memory mutation journal must be a regular file.")

def MemoryMutationJournal.matches (journal : MemoryMutationJournal) (changeSet : MemoryChangeSet) : Bool :=
  journal.changeSetId = changeSet.id && journal.sourcePath = changeSet.sourcePath &&
    journal.expectedSourceHash = changeSet.expectedSourceHash &&
    journal.beforeContentHash = changeSet.beforeContentHash && journal.afterContentHash = changeSet.afterContentHash

def classify (journal : MemoryMutationJournal) (sources : List ValidatedSource) (target : ValidatedSource) :
    MemoryMutationRecoveryResult :=
  let reconstructedBefore := sources.map fun source =>
    if source.path = changeSet.sourcePath then { source with content := changeSet.beforeSnapshot } else source
  if calculateMemoryGraphSourceHash sha256 reconstructedBefore ≠ changeSet.expectedSourceHash then
    operatorRequired "Another canonical source drifted after the mutation was approved."
  else if sha256 target.content = changeSet.afterContentHash ∧ target.content = changeSet.afterSnapshot then
    let resultingSourceHash := calculateMemoryGraphSourceHash sha256 sources
    if journal.phase = .written ∧ journal.resultingSourceHash ≠ some resultingSourceHash then
      operatorRequired "Written journal result hash does not match the canonical sources."
    else { status := .completeApplied, resultingSourceHash := some resultingSourceHash, reason := none }
  else if sha256 target.content = changeSet.beforeContentHash ∧ target.content = changeSet.beforeSnapshot then
    if journal.phase = .written then operatorRequired "Written journal conflicts with canonical before-content."
    else {
      status := .completeFailed, resultingSourceHash := none
      reason := some "Canonical source remains at the exact approved before snapshot." }
  else operatorRequired "Canonical content matches neither immutable mutation snapshot."

/-- `try { … } catch (error) { return operatorRequired(…); }` -/
def inspected {Value : Type} (program : Mutation Value) : Mutation (Except String Value) :=
  Exec.rescue (do
      let value ← program
      pure (.ok value))
    fun error => pure (.error error.message)

def inspect : Mutation MemoryMutationRecoveryResult := do
  let journal ← inspected (do
    assertImmutableSnapshots sha256 changeSet
    readJournal options changeSet call)
  match journal with
  | .error reason => pure (operatorRequired reason)
  | .ok journal =>
    if journal.matches changeSet = false then
      pure (operatorRequired "Mutation journal identity or immutable hashes do not match the applying change set.")
    else do
      let validated ← inspected (readSources options changeSet (call.schedule .readSources))
      match validated with
      | .error reason => pure (operatorRequired reason)
      | .ok (sources, target) => pure (classify sha256 changeSet journal sources target)

def recoverCanonicalMemoryMutation : Mutation MemoryMutationRecoveryResult := do
  refuse (changeSet.status ≠ .applying)
    (.conflict ("Memory change set " ++ changeSet.id ++ " must be APPLYING for recovery."))
  acquireLock options call
  Exec.ensuring (inspect sha256 options changeSet call) (releaseLock options call)

def finalizeCanonicalMemoryMutationJournal : Mutation Unit := do
  refuse (changeSet.status ≠ .applied ∨ changeSet.resultingSourceHash.isNone)
    (.conflict ("Memory change set " ++ changeSet.id ++ " must be APPLIED before journal finalization."))
  acquireLock options call
  Exec.ensuring
    (do
      assertImmutableSnapshots sha256 changeSet
      let journal ← readJournal options changeSet call
      refuse (journal.phase ≠ .written ∨ journal.matches changeSet = false ∨
          journal.resultingSourceHash ≠ changeSet.resultingSourceHash)
        (.conflict ("Memory change set " ++ changeSet.id ++ " does not match its WRITTEN journal evidence."))
      dropJournal options changeSet call)
    (releaseLock options call)

end

inductive Event where
  | execute (status : MemoryChangeStatus) (call : Call)
  | recover (status : MemoryChangeStatus) (call : Call)
  | finalize (status : MemoryChangeStatus) (resultingSourceHash : Option String) (call : Call)
  | powerLoss
  /-- An operator removes the lock of a process that stopped, but not a canonical source. -/
  | unlock

def unlock (options : CanonicalMemoryMutationOptions) (changeSet : MemoryChangeSet) (disk : Disk Content) :
    Disk Content :=
  if options.lockPath = changeSet.sourcePath then disk else disk.remove options.lockPath

def after (sha256 : Sha256) (options : CanonicalMemoryMutationOptions) (changeSet : MemoryChangeSet)
    (disk : Disk Content) : Event → Disk Content
  | .execute status call =>
    ((executeCanonicalMemoryMutation sha256 options { changeSet with status } call).run { disk }).2.disk
  | .recover status call =>
    ((recoverCanonicalMemoryMutation sha256 options { changeSet with status } call).run { disk }).2.disk
  | .finalize status resultingSourceHash call =>
    ((finalizeCanonicalMemoryMutationJournal sha256 options { changeSet with status, resultingSourceHash } call).run
      { disk }).2.disk
  | .powerLoss => disk.powerLoss
  | .unlock => unlock options changeSet disk

end SpaceApp.Memory
