import Mathlib.Data.List.AList
import SpaceApp.Foundation.Exec

/-! Restoring a portable backup: the databases one by one, then the files of both roots.

Every command and file operation may fail on its own; which ones do is a schedule.
-/

set_option autoImplicit false

namespace SpaceApp.Maintenance

open SpaceApp.Foundation

/-- SpaceApp's own database and the two of Temporal. -/
inductive DatabaseName where
  | core | temporal | temporalVisibility
deriving DecidableEq

inductive RootName where
  | data | memory
deriving DecidableEq

/-- The public schema of a database, table by table. -/
abbrev Schema (Table : Type) := List Table

/-- A directory of dumps made by `pg_dump`. -/
abbrev Dumps (Table : Type) := DatabaseName → Option (Schema Table)

/-- Top-level entries of a directory, as `readdir` lists them. -/
abbrev Directory (File : Type) := AList fun _ : String => File

/-- A root without the restore's working directories, and these. -/
structure Root (File : Type) where
  entries : Directory File
  staging : Directory File
  previous : Directory File

structure Host (Table File : Type) where
  databases : DatabaseName → Option (Schema Table)
  roots : RootName → Root File
  rollback : Dumps Table

def stagingName : String := ".spaceapp-restore-staging"
def rollbackName : String := ".spaceapp-restore-rollback"
def previousName : String := ".spaceapp-restore-previous"
def hostSecretEntries : List String := ["google-oauth.json", "telegram"]

def preserved : RootName → List String
  | .data => ["memory", stagingName, rollbackName] ++ hostSecretEntries
  | .memory => [stagingName]

/-- A swap leaves this entry of the root where it is. -/
def keeps (root : RootName) (entry : String) : Bool :=
  (preserved root).contains entry || entry == previousName

/-- What `createPortableBackup` writes: its archives leave out what a restore keeps. -/
structure Backup (Table File : Type) where
  dumps : Dumps Table
  archive : RootName → Directory File
  core_dumped : (dumps .core).isSome = true
  archive_leaves : ∀ root entry, keeps root entry = true → entry ∉ archive root

structure RestoreOptions where
  confirmation : String := ""
  backupDirectory : String
  databaseName : String
  dataRoot : String := "/var/lib/spaceapp"
  memoryRoot : String := "/var/lib/spaceapp/memory"

inductive Step where
  | selectBackup | validateManifest | validateTarArchive (root : RootName)
  | clearStaging (root : RootName) | makeStaging (root : RootName) | extract (root : RootName)
  | readDatabaseUrl | listDatabases | clearRollback | makeRollback | dump (database : DatabaseName)
  | emptySchema (database : DatabaseName) | load (database : DatabaseName)
  | clearPrevious (root : RootName) | makePrevious (root : RootName)
  | readRoot (root : RootName) | moveOut (root : RootName) (entry : String)
  | readStaging (root : RootName) | moveIn (root : RootName) (entry : String)
  | undoMoveIn (root : RootName) (entry : String) | undoMoveOut (root : RootName) (entry : String)
  | undoPrevious (root : RootName)
  | undoEmptySchema (database : DatabaseName) | undoLoad (database : DatabaseName)
  | dropPrevious (root : RootName) | dropStaging (root : RootName) | dropRollback
  | setTreeOwnership
deriving DecidableEq

/-- A removal that fails has left some of the names in the directory whole. -/
inductive Outcome where
  | done
  | fails (message : String) (left : String → Bool)

abbrev Schedule := Step → Outcome

def Outcome.isDone : Outcome → Bool
  | .done => true
  | .fails .. => false

inductive RestoreError where
  | unchanged (message : String)
  | failed (message : String)

def RestoreError.message : RestoreError → String
  | .unchanged message | .failed message => message

def RestoreError.isUnchanged : RestoreError → Bool
  | .unchanged _ => true
  | .failed _ => false

structure Swap where
  root : RootName
  movedOut : List String
  movedIn : List String

structure Swapped where
  data : Swap
  memory : Option Swap := none

structure RestoreState (Table File : Type) where
  host : Host Table File
  changed : Bool := false
  restored : List DatabaseName := []
  swapped : Option Swapped := none
  stillRestored : List DatabaseName := []
  keepRollback : Bool := false

section

variable {Table File : Type}

abbrev Restore (Table File Result : Type) := Exec (RestoreState Table File) RestoreError Result

def perform (outcome : Outcome) (effect : Host Table File → Host Table File)
    (partly : (String → Bool) → Host Table File → Host Table File) : Restore Table File Unit := do
  match outcome with
  | .done => Exec.change fun state => { state with host := effect state.host }
  | .fails message left => do
      Exec.change fun state => { state with host := partly left state.host }
      Exec.fail (.failed message)

/-- A command that has no effect when it fails. -/
def command (outcome : Outcome) (effect : Host Table File → Host Table File) : Restore Table File Unit :=
  perform outcome effect fun _ host => host

/-- A command that only reads. -/
def check (outcome : Outcome) : Restore Table File Unit :=
  command outcome id

def Host.setRoot (host : Host Table File) (root : RootName) (change : Root File → Root File) :
    Host Table File :=
  { host with roots := fun name => if name = root then change (host.roots name) else host.roots name }

def Host.setDatabase (host : Host Table File) (database : DatabaseName)
    (change : Schema Table → Schema Table) : Host Table File :=
  { host with databases := fun name =>
      if name = database then (host.databases name).map change else host.databases name }

/-- `DROP SCHEMA IF EXISTS public CASCADE; CREATE SCHEMA public;` -/
def emptySchema (database : DatabaseName) (host : Host Table File) : Host Table File :=
  host.setDatabase database fun _ => []

/-- `pg_restore` adds the tables of the dump. -/
def loadDump (database : DatabaseName) (tables : Schema Table) (host : Host Table File) :
    Host Table File :=
  host.setDatabase database (· ++ tables)

/-- The entries of a directory that a failed removal has left whole. -/
def Directory.leave (left : String → Bool) : List String → Directory File → Directory File
  | [], directory => directory
  | entry :: entries, directory =>
      if left entry then leave left entries directory else leave left entries (directory.erase entry)

def moveEntry (entry : String) (source target : Directory File) : Directory File × Directory File :=
  match source.lookup entry with
  | some file => (source.erase entry, target.insert entry file)
  | none => (source, target)

def dumpDatabase (database : DatabaseName) (host : Host Table File) : Host Table File :=
  { host with
    rollback := fun name => if name = database then host.databases database else host.rollback name }

def dumpName : DatabaseName → String
  | .core => "database.dump"
  | .temporal => "temporal.dump"
  | .temporalVisibility => "temporal_visibility.dump"

def Dumps.leave (left : String → Bool) (dumps : Dumps Table) : Dumps Table :=
  fun database => if left (dumpName database) = true then dumps database else none

variable (schedule : Schedule)

def emptySchemaSql : String := "DROP SCHEMA IF EXISTS public CASCADE; CREATE SCHEMA public;"
def restoreArgs : List String := ["--no-owner", "--no-acl", "--single-transaction", "--exit-on-error"]

def restoreDatabase (emptied loaded : Step) (database : DatabaseName) (dump : Option (Schema Table)) :
    Restore Table File Unit := do
  command (schedule emptied) (emptySchema database)
  match dump with
  | some tables => command (schedule loaded) (loadDump database tables)
  | none => Exec.fail (.failed "pg_restore failed (1).")

def temporalDatabases : List DatabaseName := [.temporal, .temporalVisibility]

def restores (backup : Backup Table File) : List DatabaseName :=
  .core :: temporalDatabases.filter fun database => (backup.dumps database).isSome

def databaseText (options : RestoreOptions) : DatabaseName → String
  | .core => options.databaseName
  | .temporal => "temporal"
  | .temporalVisibility => "temporal_visibility"

def openSwap (root : RootName) : Restore Table File Unit := do
  perform (schedule (.clearPrevious root)) (·.setRoot root fun files => { files with previous := ∅ })
    fun left host => host.setRoot root fun files =>
      { files with previous := files.previous.leave left files.previous.keys }
  command (schedule (.makePrevious root)) (·.setRoot root fun files => { files with previous := ∅ })
  check (schedule (.readRoot root))

def moveEntriesOut (root : RootName) (entries : List String) : Restore Table File Unit :=
  Exec.forEach entries fun entry =>
    command (schedule (.moveOut root entry)) (·.setRoot root fun files =>
      let moved := moveEntry entry files.entries files.previous
      { files with entries := moved.1, previous := moved.2 })

def moveEntriesIn (root : RootName) (entries : List String) : Restore Table File Unit :=
  Exec.forEach entries fun entry =>
    command (schedule (.moveIn root entry)) (·.setRoot root fun files =>
      let moved := moveEntry entry files.staging files.entries
      { files with staging := moved.1, entries := moved.2 })

/-- Moves the current entries of the root aside and the staged ones in. What was moved is known to
the caller only when every move has worked. -/
def swapEntries (root : RootName) : Restore Table File Swap := do
  openSwap schedule root
  let state ← Exec.read
  let movedOut := (state.host.roots root).entries.keys.filter fun entry => !keeps root entry
  moveEntriesOut schedule root movedOut
  check (schedule (.readStaging root))
  let state ← Exec.read
  let movedIn := (state.host.roots root).staging.keys
  moveEntriesIn schedule root movedIn
  pure { root, movedOut, movedIn }

def removeMovedIn (root : RootName) (entries : List String) : Restore Table File Unit :=
  Exec.forEach entries fun entry =>
    perform (schedule (.undoMoveIn root entry))
      (·.setRoot root fun files => { files with entries := files.entries.erase entry })
      fun left host => host.setRoot root fun files =>
        { files with entries := files.entries.leave left [entry] }

def moveEntriesBack (root : RootName) (entries : List String) : Restore Table File Unit :=
  Exec.forEach entries fun entry =>
    command (schedule (.undoMoveOut root entry)) (·.setRoot root fun files =>
      let moved := moveEntry entry files.previous files.entries
      { files with previous := moved.1, entries := moved.2 })

def undoOne (swap : Swap) : Restore Table File Unit := do
  removeMovedIn schedule swap.root swap.movedIn
  moveEntriesBack schedule swap.root swap.movedOut
  perform (schedule (.undoPrevious swap.root))
    (·.setRoot swap.root fun files => { files with previous := ∅ })
    fun left host => host.setRoot swap.root fun files =>
      { files with previous := files.previous.leave left files.previous.keys }

def undoSwap (swapped : Swapped) : Restore Table File Unit :=
  Exec.forEach (swapped.memory.toList ++ [swapped.data]) (undoOne schedule)

variable (options : RestoreOptions) (backup : Backup Table File)

def stageArchive (root : RootName) : Restore Table File Unit := do
  perform (schedule (.clearStaging root)) (·.setRoot root fun files => { files with staging := ∅ })
    fun left host => host.setRoot root fun files =>
      { files with staging := files.staging.leave left files.staging.keys }
  command (schedule (.makeStaging root)) (·.setRoot root fun files => { files with staging := ∅ })
  command (schedule (.extract root)) (·.setRoot root fun files => { files with staging := backup.archive root })

/-- The databases of the backup that exist here. `psql` connects to the core database. -/
def listPresent : Restore Table File (List DatabaseName) := do
  check (schedule .readDatabaseUrl)
  check (schedule .listDatabases)
  let state ← Exec.read
  if (state.host.databases .core).isNone then Exec.fail (.failed "psql failed (2).")
  else pure (.core :: temporalDatabases.filter fun database => (state.host.databases database).isSome)

def absentMessage (absent : List DatabaseName) : String :=
  "\n".intercalate [
    "This backup holds workflow history (" ++ ", ".intercalate (absent.map (databaseText options)) ++
      ") that this installation has no database for: it runs without",
    "workflows (profile small). Nothing was changed. Install the medium or large profile, for example",
    "'npx --yes run-spaceapp@latest install --profile medium', and run the restore again."]

def copyDatabases (present : List DatabaseName) : Restore Table File Unit := do
  perform (schedule .clearRollback) (fun host => { host with rollback := fun _ => none })
    fun left host => { host with rollback := host.rollback.leave left }
  command (schedule .makeRollback) (fun host => { host with rollback := fun _ => none })
  Exec.forEach ((restores backup).filter fun database => present.contains database) fun database =>
    command (schedule (.dump database)) (dumpDatabase database)

def prepare : Restore Table File (List DatabaseName) := do
  stageArchive schedule backup .data
  stageArchive schedule backup .memory
  let present ← listPresent schedule
  let absent := (restores backup).filter fun database => !present.contains database
  if absent ≠ [] then Exec.fail (.unchanged (absentMessage options absent))
  else do
    copyDatabases schedule backup present
    pure present

def apply : Restore Table File Unit := do
  Exec.forEach (restores backup) fun database => do
    restoreDatabase schedule (.emptySchema database) (.load database) database (backup.dumps database)
    Exec.change fun state => { state with restored := state.restored ++ [database] }
  let data ← swapEntries schedule .data
  Exec.change fun state => { state with swapped := some { data } }
  let memory ← swapEntries schedule .memory
  Exec.change fun state => { state with swapped := some { data, memory := some memory } }

def undoSwapped (swapped : Option Swapped) : Restore Table File (Option RestoreError) :=
  match swapped with
  | some swapped => (undoSwap schedule swapped).attempt
  | none => pure none

def markStillRestored (database : DatabaseName) : Restore Table File Unit :=
  Exec.change fun state => { state with stillRestored := state.stillRestored ++ [database] }

def putBack (present : List DatabaseName) (database : DatabaseName) : Restore Table File Unit :=
  if present.contains database then do
    let state ← Exec.read
    (restoreDatabase schedule (.undoEmptySchema database) (.undoLoad database) database
      (state.host.rollback database)).rescue fun _ => markStillRestored database
  else markStillRestored database

def undoCommand (present : List DatabaseName) (database : DatabaseName) : String :=
  let name := databaseText options database
  if present.contains database then
    "psql --dbname=" ++ name ++ " --command=\"" ++ emptySchemaSql ++ "\" && pg_restore " ++
      " ".intercalate restoreArgs ++ " --dbname=" ++ name ++ " " ++ options.dataRoot ++ "/" ++
      rollbackName ++ "/" ++ name ++ ".dump"
  else "(no copy: " ++ name ++ " did not exist before the restore)"

def notUndoneMessage (present : List DatabaseName) (reason : String)
    (stillRestored : List DatabaseName) (fileProblem : Option RestoreError) : String :=
  "\n".intercalate (
    ["Restore failed (" ++ reason ++ ") and could not be fully undone."] ++
    stillRestored.map (fun database =>
      databaseText options database ++ " is at the backup's state, not at its state before the restore.") ++
    (fileProblem.toList.map fun problem =>
      "The files could not be put back (" ++ problem.message ++ "); the replaced files are in " ++
        options.dataRoot ++ "/" ++ previousName ++ " and " ++ options.memoryRoot ++ "/" ++ previousName ++ ".") ++
    ["To finish the restore instead, run the same restore again: it restores every database and the files from the backup.",
     "To put a database back as it was before the restore, run in the core container, with its database connection:"] ++
    stillRestored.map (undoCommand options present))

def undo (present : List DatabaseName) (error : RestoreError) : Restore Table File Unit := do
  let state ← Exec.read
  let fileProblem ← undoSwapped schedule state.swapped
  Exec.forEach state.restored.reverse (putBack schedule present)
  let state ← Exec.read
  if state.stillRestored = [] ∧ fileProblem.isNone then
    Exec.fail (.unchanged ("Restore failed (" ++ error.message ++
      "). Every database and file was put back as it was before the restore."))
  else do
    Exec.change fun state => { state with keepRollback := true }
    Exec.fail (.failed (notUndoneMessage options present error.message state.stillRestored fileProblem))

def dropPrevious (root : RootName) : Restore Table File Unit :=
  perform (schedule (.dropPrevious root)) (·.setRoot root fun files => { files with previous := ∅ })
    fun left host => host.setRoot root fun files =>
      { files with previous := files.previous.leave left files.previous.keys }

def dropStaging (root : RootName) : Restore Table File Unit :=
  perform (schedule (.dropStaging root)) (·.setRoot root fun files => { files with staging := ∅ })
    fun left host => host.setRoot root fun files =>
      { files with staging := files.staging.leave left files.staging.keys }

def cleanUp : Restore Table File Unit := do
  dropStaging schedule .data
  dropStaging schedule .memory
  let state ← Exec.read
  if state.keepRollback then pure ()
  else do
    perform (schedule .dropRollback) (fun host => { host with rollback := fun _ => none })
      fun left host => { host with rollback := host.rollback.leave left }

/-- The `try` block the clean-up follows. -/
def exchange : Restore Table File Unit := do
  let present ← prepare schedule options backup
  Exec.change fun state => { state with changed := true }
  (apply schedule backup).rescue (undo schedule options present)
  dropPrevious schedule .data
  dropPrevious schedule .memory

def validate : Restore Table File Unit := do
  check (schedule .selectBackup)
  check (schedule .validateManifest)
  check (schedule (.validateTarArchive .data))
  check (schedule (.validateTarArchive .memory))

def restoreBackup : Restore Table File String :=
  if options.confirmation ≠ "RESTORE" then
    Exec.fail (.failed "Portable restore requires explicit RESTORE confirmation.")
  else do
    validate schedule
    (exchange schedule options backup).ensuring (cleanUp schedule)
    check (schedule .setTreeOwnership)
    pure options.backupDirectory

/-- A failure before the first database is restored leaves the installation untouched. -/
def restorePortableBackup : Restore Table File String :=
  (restoreBackup schedule options backup).rescue fun error => do
    let state ← Exec.read
    if state.changed || error.isUnchanged then Exec.fail error
    else Exec.fail (.unchanged (error.message ++ " Nothing was changed."))

end

end SpaceApp.Maintenance
