import SpaceApp.Foundation.Exec

/-! The launcher's backup and restore commands, and when they can leave SpaceApp frozen or stopped without a word.

Of the extras of a backup nothing is kept: they neither pause nor stop a service.
-/

set_option autoImplicit false

namespace SpaceApp.Maintenance.Freezing

open SpaceApp.Foundation

inductive Service where
  | spaceappCore | spaceappCli | spaceappBrowser | temporal

inductive DockerCommand where
  | pauseWriters | backup | unpauseWriters | stopForPortableRestore | restore (backupId : String) | up

/-- How a command ends, the services it has paused or stopped by then, and the backups it has made. -/
structure Outcome where
  /-- None: it throws, with an error that names no command. -/
  code : Option ℕ
  affected : List Service := []
  made : List String := []

/-- A line on stderr, cut at the command it names. -/
structure Message where
  before : String
  command : Option String := none
  after : String := ""

structure Launcher where
  backups : List String
  done : List (DockerCommand × Outcome) := []
  stderr : List Message := []

abbrev Launch := Exec Launcher Unit

/-- `/^spaceapp-backup-\d{8}T\d{9}Z$/` -/
def isBackupId (name : String) : Bool :=
  let rest := name.toList.drop 16
  name.toList.take 16 == "spaceapp-backup-".toList && rest.length == 19 && (rest.take 8).all Char.isDigit &&
    rest[8]? == some 'T' && ((rest.drop 9).take 9).all Char.isDigit && rest[18]? == some 'Z'

def latestBackup (entries : List String) : Option String :=
  ((entries.filter isBackupId).mergeSort fun first second => first ≤ second).getLast?

def selectLatestBackupId : Launch String := do
  match latestBackup (← Exec.read).backups with
  | none => Exec.fail ()
  | some backupId => return backupId

def write (message : Message) : Launch Unit :=
  Exec.change fun launcher => { launcher with stderr := launcher.stderr ++ [message] }

section

variable (universalCommand : String) (docker : DockerCommand → Outcome)

def execute (command : DockerCommand) : Launch ℕ := do
  Exec.change fun launcher => { launcher with
    backups := launcher.backups ++ (docker command).made
    done := launcher.done ++ [(command, docker command)] }
  match (docker command).code with
  | none => Exec.fail ()
  | some code => return code

def resumeWriters : Launch ℕ := do
  let resumeCode ← (execute docker .unpauseWriters).rescue fun _ => pure 1
  if resumeCode ≠ 0 then
    write ⟨s!"SpaceApp writers could not be resumed (exit {resumeCode}). Run \"", some s!"{universalCommand} up", "\"."⟩
  return resumeCode

def backupWithWritersPaused : Launch ℕ := do
  let pauseCode ← execute docker .pauseWriters
  if pauseCode ≠ 0 then
    return pauseCode
  -- `finally`: a backup that throws is thrown on once the writers are resumed
  let backupCode ← (execute docker .backup).rescue fun error => do
    let _ ← resumeWriters universalCommand docker
    Exec.fail error
  let resumeCode ← resumeWriters universalCommand docker
  return if backupCode ≠ 0 then backupCode else resumeCode

def backupCommand : Launch ℕ := do
  let backupCode ← backupWithWritersPaused universalCommand docker
  if backupCode ≠ 0 then
    return backupCode
  return 0

def restoreUnchangedExit : ℕ := 3

/-- The restore of `backupId` once a safety backup is made. -/
def restoreBackedUp (backupId : String) : Launch ℕ := do
  let stopCode ← execute docker .stopForPortableRestore
  if stopCode ≠ 0 then
    return stopCode
  let safetyBackupId ← selectLatestBackupId.rescue fun _ => pure "the newest backup"
  let restoreCode ← execute docker (.restore backupId)
  if restoreCode ≠ 0 then
    if restoreCode = restoreUnchangedExit then
      let againCode ← execute docker .up
      write (if againCode = 0 then
        ⟨s!"The restore of {backupId} did not happen; SpaceApp runs again with its data from before the restore " ++
          s!"(also kept in the backup {safetyBackupId}).", none, ""⟩
      else
        ⟨s!"The restore of {backupId} did not happen and SpaceApp could not be started again; run \"",
          some s!"{universalCommand} up", "\". Its data from before the restore is kept in the backup " ++
            s!"{safetyBackupId}."⟩)
      return restoreCode
    write ⟨s!"The restore of {backupId} failed and SpaceApp stays stopped: the messages above say what is left at the " ++
      "backup's state. To start SpaceApp anyway, run \"", some s!"{universalCommand} up", s!"\"; to try again, run " ++
        s!"\"{universalCommand} restore\". The data from before the restore is kept in the backup {safetyBackupId}."⟩
    return restoreCode
  let upCode ← execute docker .up
  if upCode ≠ 0 then
    return upCode
  return 0

def restoreCommand (confirmation : String) : Launch ℕ := do
  if confirmation ≠ "RESTORE" then
    Exec.fail ()
  let backupId ← selectLatestBackupId
  let backupCode ← backupWithWritersPaused universalCommand docker
  if backupCode ≠ 0 then
    return backupCode
  restoreBackedUp universalCommand docker backupId

def DockerCommand.bringsBack : DockerCommand → DockerCommand → Bool
  | .pauseWriters, .unpauseWriters | .stopForPortableRestore, .up => true
  | _, _ => false

/-- What a command has paused or stopped is unpaused or started again by a later one that succeeds. -/
def Resumed : List (DockerCommand × Outcome) → Prop
  | [] => True
  | (command, outcome) :: later => Resumed later ∧
      match command with
      | .pauseWriters | .stopForPortableRestore => outcome.affected = [] ∨
          ∃ other ∈ later, command.bringsBack other.1 = true ∧ other.2.code = some 0
      | _ => True

def NotSilent (launcher : Launcher) : Prop :=
  Resumed launcher.done ∨ ∃ message ∈ launcher.stderr, message.command.isSome = true

/-- The writers are paused, or none of them. -/
def PauseFits : Prop := (docker .pauseWriters).code = some 0 ∨ (docker .pauseWriters).affected = []

def StopFits (backupId : String) : Prop :=
  (docker .stopForPortableRestore).affected = [] ∨ (docker .stopForPortableRestore).code = some 0 ∧
    ∃ code, (docker (.restore backupId)).code = some code ∧ (code = 0 → (docker .up).code = some 0) ∧
      (code = restoreUnchangedExit → (docker .up).code.isSome = true)

def RestoreFits (backupId : String) : Prop := PauseFits docker ∧
  ((docker .pauseWriters).code = some 0 → (docker .backup).code = some 0 → (docker .unpauseWriters).code = some 0 →
    StopFits docker backupId)

variable {universalCommand docker} {launcher : Launcher}

def Launcher.after (launcher : Launcher) (docker : DockerCommand → Outcome) (command : DockerCommand) : Launcher :=
  { launcher with
    backups := launcher.backups ++ (docker command).made
    done := launcher.done ++ [(command, docker command)] }

section

variable {Result : Type} {command : DockerCommand} {next : ℕ → Launch Result} {handler : Unit → Launch ℕ}

theorem execute_run : (execute docker command).run launcher =
    ((docker command).code.elim (.error ()) .ok, launcher.after docker command) := by
  cases code : (docker command).code <;> simp [execute, code, Launcher.after]

theorem execute_ok {code : ℕ} (ends : (docker command).code = some code) :
    (execute docker command >>= next).run launcher = (next code).run (launcher.after docker command) :=
  Exec.run_bind_ok (by rw [execute_run, ends]; rfl)

theorem execute_throws (throws : (docker command).code = none) :
    (execute docker command >>= next).run launcher = (.error (), launcher.after docker command) :=
  Exec.run_bind_error (by rw [execute_run, throws]; rfl)

theorem rescue_ok {code : ℕ} (ends : (docker command).code = some code) :
    ((execute docker command).rescue handler >>= next).run launcher = (next code).run (launcher.after docker command) :=
  Exec.run_bind_ok (Exec.run_rescue_ok (by rw [execute_run, ends]; rfl))

theorem rescue_throws (throws : (docker command).code = none) :
    ((execute docker command).rescue handler >>= next).run launcher =
      (handler () >>= next).run (launcher.after docker command) := by
  have rescued : ((execute docker command).rescue handler).run launcher = (handler ()).run (launcher.after docker command) :=
    Exec.run_rescue_error (by rw [execute_run, throws]; rfl)
  rcases ran : (handler ()).run (launcher.after docker command) with ⟨error | value, after⟩
  · rw [Exec.run_bind_error ran, Exec.run_bind_error (rescued.trans ran)]
  · rw [Exec.run_bind_ok ran, Exec.run_bind_ok (rescued.trans ran)]

end

theorem resume_run : ∃ stderr, (resumeWriters universalCommand docker).run launcher =
      (.ok ((docker .unpauseWriters).code.getD 1), { launcher.after docker .unpauseWriters with stderr }) ∧
    if (docker .unpauseWriters).code = some 0 then stderr = launcher.stderr
    else ∃ message ∈ stderr, message.command.isSome = true := by
  rw [resumeWriters]
  cases ends : (docker .unpauseWriters).code with
  | none =>
    rw [rescue_throws ends]
    exact ⟨_, rfl, by simp [Launcher.after]⟩
  | some code =>
    rw [rescue_ok ends]
    cases code with
    | zero => exact ⟨_, rfl, rfl⟩
    | succ code => exact ⟨_, rfl, by simp [Launcher.after]⟩

/-- The writers that were paused are resumed, or the command to run is named, and all is well only where they are. -/
theorem backup_run (paused : (docker .pauseWriters).code = some 0) : ∃ result stderr,
    (backupWithWritersPaused universalCommand docker).run launcher = (result,
      { ((launcher.after docker .pauseWriters).after docker .backup).after docker .unpauseWriters with stderr }) ∧
    (if (docker .unpauseWriters).code = some 0 then stderr = launcher.stderr
      else ∃ message ∈ stderr, message.command.isSome = true) ∧
    (result = .ok 0 ↔ (docker .backup).code = some 0 ∧ (docker .unpauseWriters).code = some 0) := by
  obtain ⟨stderr, ran, told⟩ := @resume_run universalCommand docker
    ((launcher.after docker .pauseWriters).after docker .backup)
  rw [backupWithWritersPaused, execute_ok paused, if_neg (by simp)]
  cases ends : (docker .backup).code with
  | none =>
    refine ⟨.error (), stderr, ?_, told, by simp⟩
    rw [rescue_throws ends]
    exact Exec.run_bind_error (by rw [Exec.run_bind_ok ran]; rfl)
  | some code =>
    refine ⟨.ok (if code ≠ 0 then code else (docker .unpauseWriters).code.getD 1), stderr, ?_, told, ?_⟩
    · rw [rescue_ok ends, Exec.run_bind_ok ran]
      rfl
    · by_cases zero : code = 0
      · cases (docker .unpauseWriters).code <;> simp [zero]
      · simp [zero]

theorem unpaused_run (fails : (docker .pauseWriters).code ≠ some 0) : ∃ result,
    (backupWithWritersPaused universalCommand docker).run launcher = (result, launcher.after docker .pauseWriters) ∧
      result ≠ .ok 0 := by
  rw [backupWithWritersPaused]
  cases ends : (docker .pauseWriters).code with
  | none => exact ⟨_, execute_throws ends, by simp⟩
  | some code =>
    have failed : code ≠ 0 := fun zero => fails (by rw [ends, zero])
    rw [execute_ok ends, if_pos failed]
    exact ⟨_, rfl, by simpa using failed⟩

def backedUp (docker : DockerCommand → Outcome) : List (DockerCommand × Outcome) :=
  [.pauseWriters, .backup, .unpauseWriters].map fun command => (command, docker command)

/-- What holds once the backup is over, and stays so where nothing follows it. -/
theorem paused_told (backups : List String) : ∃ result after,
    (backupWithWritersPaused universalCommand docker).run { backups } = (result, after) ∧
      (NotSilent after ↔ PauseFits docker) ∧ (∀ backupId outcome, (.restore backupId, outcome) ∉ after.done) ∧
      (result = .ok 0 ↔ (docker .pauseWriters).code = some 0 ∧ (docker .backup).code = some 0 ∧
        (docker .unpauseWriters).code = some 0) ∧
      (result = .ok 0 → after.stderr = [] ∧ after.done = backedUp docker) := by
  by_cases paused : (docker .pauseWriters).code = some 0
  · obtain ⟨result, stderr, ran, told, well⟩ := @backup_run universalCommand docker { backups } paused
    refine ⟨result, _, ran, ?_, by simp [Launcher.after], well.trans (by simp [paused]), ?_⟩
    · by_cases resumed : (docker .unpauseWriters).code = some 0
      · simp [NotSilent, PauseFits, paused, Launcher.after, Resumed, DockerCommand.bringsBack, resumed]
      · rw [if_neg resumed] at told
        simp [NotSilent, PauseFits, paused, told]
    · intro fine
      rw [if_pos (well.mp fine).2] at told
      exact ⟨told, rfl⟩
  · obtain ⟨result, ran, failed⟩ := @unpaused_run universalCommand docker { backups } paused
    refine ⟨result, _, ran, ?_, by simp [Launcher.after], by simp [failed, paused], fun fine => absurd fine failed⟩
    simp [NotSilent, PauseFits, paused, Launcher.after, Resumed]

theorem selectLatestBackupId_run : selectLatestBackupId.run launcher =
    ((latestBackup launcher.backups).elim (.error ()) .ok, launcher) := by
  cases found : latestBackup launcher.backups <;> simp [selectLatestBackupId, found]

theorem selected_run : ∃ safetyBackupId,
    (selectLatestBackupId.rescue fun _ => pure "the newest backup").run launcher = (.ok safetyBackupId, launcher) := by
  have selects := @selectLatestBackupId_run launcher
  cases found : latestBackup launcher.backups with
  | none => exact ⟨_, Exec.run_rescue_error (by rw [selects, found]; rfl)⟩
  | some backupId => exact ⟨_, Exec.run_rescue_ok (by rw [selects, found]; rfl)⟩

attribute [local simp] backedUp Launcher.after NotSilent Resumed DockerCommand.bringsBack in
theorem stopped_told {backupId : String} (silent : launcher.stderr = []) (earlier : launcher.done = backedUp docker)
    (unpaused : (docker .unpauseWriters).code = some 0) :
    (NotSilent ((restoreBackedUp universalCommand docker backupId).run launcher).2 ↔ StopFits docker backupId) ∧
      ∀ restored outcome, (.restore restored, outcome) ∈
        ((restoreBackedUp universalCommand docker backupId).run launcher).2.done → restored = backupId := by
  rw [restoreBackedUp, StopFits]
  cases stops : (docker .stopForPortableRestore).code with
  | none => simp [execute_throws stops, silent, earlier, unpaused]
  | some stopCode =>
    rw [execute_ok stops]
    by_cases stopped : stopCode = 0
    · obtain ⟨safetyBackupId, selected⟩ := @selected_run (launcher.after docker .stopForPortableRestore)
      rw [if_neg (by simp [stopped]), Exec.run_bind_ok selected]
      cases restores : (docker (.restore backupId)).code with
      | none => simp [execute_throws restores, silent, earlier, unpaused]
      | some restoreCode =>
        rw [execute_ok restores]
        by_cases restored : restoreCode = 0
        · rw [if_neg (by simp [restored])]
          cases starts : (docker .up).code with
          | none => simp [execute_throws starts, silent, earlier, unpaused, restored, starts]
          | some upCode =>
            rw [execute_ok starts]
            cases upCode <;> simp [silent, earlier, unpaused, stopped, restored, starts, restoreUnchangedExit]
        · rw [if_pos restored]
          by_cases unchanged : restoreCode = restoreUnchangedExit
          · rw [if_pos unchanged]
            cases starts : (docker .up).code with
            | none => simp [execute_throws starts, silent, earlier, unpaused, unchanged, starts, restoreUnchangedExit]
            | some againCode =>
              rw [execute_ok starts]
              cases againCode <;>
                simp [write, silent, earlier, unpaused, stopped, unchanged, starts, restoreUnchangedExit]
          · simp [write, silent, earlier, unpaused, stopped, restored, unchanged]
    · simp [silent, earlier, unpaused, stopped]

theorem latestBackup_mem {entries : List String} {backupId : String} (latest : latestBackup entries = some backupId) :
    backupId ∈ entries :=
  (List.mem_filter.mp (List.mem_mergeSort.mp (List.mem_of_getLast? latest))).1

variable (universalCommand docker)

theorem backup_told (backups : List String) :
    NotSilent ((backupCommand universalCommand docker).run { backups }).2 ↔ PauseFits docker := by
  obtain ⟨result, after, ran, told, -⟩ := @paused_told universalCommand docker backups
  rw [backupCommand]
  rcases result with error | code
  · rwa [Exec.run_bind_error ran]
  · rw [Exec.run_bind_ok ran]
    split <;> exact told

/-- Exactly when a backup and a restore leave nothing frozen or stopped without a word; no restore takes a backup which
it has made itself. -/
theorem frozen_told_iff (backups : List String) :
    (NotSilent ((backupCommand universalCommand docker).run { backups }).2 ↔ PauseFits docker) ∧ ∀ confirmation,
      (NotSilent ((restoreCommand universalCommand docker confirmation).run { backups }).2 ↔
        (confirmation = "RESTORE" → ∀ backupId, latestBackup backups = some backupId → RestoreFits docker backupId)) ∧
      ∀ restored outcome, (.restore restored, outcome) ∈
        ((restoreCommand universalCommand docker confirmation).run { backups }).2.done → restored ∈ backups := by
  obtain ⟨result, after, ran, told, unrestored, well, fine⟩ := @paused_told universalCommand docker backups
  refine ⟨backup_told universalCommand docker backups, fun confirmation => ?_⟩
  rw [restoreCommand]
  by_cases confirmed : confirmation = "RESTORE"
  · have selects := @selectLatestBackupId_run { backups }
    rw [if_neg (by simp [confirmed])]
    beta_reduce
    cases latest : latestBackup backups with
    | none =>
      rw [Exec.run_bind_error (by rw [selects, latest]; rfl)]
      simp [NotSilent, Resumed]
    | some backupId =>
      have fits : (confirmation = "RESTORE" → ∀ found, some backupId = some found → RestoreFits docker found) ↔
          RestoreFits docker backupId := by simp [confirmed]
      rw [fits, Exec.run_bind_ok (by rw [selects, latest]; rfl)]
      by_cases backed : result = .ok 0
      · obtain ⟨paused, stored, unpaused⟩ := well.mp backed
        obtain ⟨stays, takes⟩ := @stopped_told universalCommand docker after backupId (fine backed).1 (fine backed).2 unpaused
        rw [Exec.run_bind_ok (ran.trans (by rw [backed])), if_neg (by simp)]
        refine ⟨stays.trans ?_, fun restored outcome done => ?_⟩
        · simp [RestoreFits, PauseFits, paused, stored, unpaused]
        · rw [takes restored outcome done]
          exact latestBackup_mem latest
      · have early : ∃ last, (backupWithWritersPaused universalCommand docker >>= fun backupCode => if backupCode ≠ 0 then
            pure backupCode else restoreBackedUp universalCommand docker backupId).run { backups } = (last, after) := by
          rcases result with error | code
          · exact ⟨_, Exec.run_bind_error ran⟩
          · refine ⟨.ok code, (Exec.run_bind_ok ran).trans ?_⟩
            rw [if_pos fun zero => backed (by rw [zero])]
            rfl
        obtain ⟨last, early⟩ := early
        rw [early]
        refine ⟨told.trans ⟨fun fits => ⟨fits, fun paused stored unpaused => ?_⟩, fun fits => fits.1⟩, ?_⟩
        · exact absurd (well.mpr ⟨paused, stored, unpaused⟩) backed
        · exact fun restored outcome done => absurd done (unrestored restored outcome)
  · simp [confirmed, NotSilent, Resumed]

end

/-- A pause which freezes SpaceApp and then fails. -/
theorem failed_pause_silent : ¬ NotSilent ((backupCommand "spaceapp" fun
    | .pauseWriters => ⟨some 1, [.spaceappCore], []⟩
    | _ => ⟨some 0, [], []⟩).run { backups := [] }).2 := by
  rw [backup_told]
  simp [PauseFits]

end SpaceApp.Maintenance.Freezing
