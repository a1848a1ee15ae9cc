import Mathlib.Logic.Function.Basic
import Mathlib.Data.Option.Basic

/-! The worktree registry (`worktree-service.ts`): calls are queued, reads swallow their errors, and a write replaces
the whole file.

A record of the file is kept by its own fields; what else a registry holds is left out.
-/

set_option autoImplicit false

namespace SpaceApp.Api.WorktreeRegistry

/-- A record of the file, or the part of one that is given; what is missing is undefined. -/
structure WorktreeRecord where
  id : Option String := none
  worktreePath : String
  repoPath : Option String := none
  branch : Option String := none
  baseBranch : Option String := none
  baseCommit : Option String := none
  roomId : Option String := none
  paneId : Option String := none
  status : Option String := none
  mergeCommitSha : Option String := none
  createdAt : Option String := none
  updatedAt : Option String := none
  mergedAt : Option String := none
  discardedAt : Option String := none
  deriving DecidableEq

abbrev Worktrees := String → Option WorktreeRecord

/-- What the file holds: a registry, whose `worktrees` may be `null`, or anything else. -/
inductive Content where
  | registry (worktrees : Option Worktrees)
  | other

/-- `first || second` -/
def orElse (first second : Option String) : Option String := first.filter (· ≠ "") <|> second

section

variable (resolve basename : String → String)

def recordUpdate (worktrees : Worktrees) (record : WorktreeRecord) (now : String) : WorktreeRecord × String × String :=
  let normPath := resolve record.worktreePath
  let wtId := basename normPath
  let existing := worktrees normPath <|> worktrees wtId
  let updated := {
    id := orElse record.id (orElse (existing.bind (·.id)) s!"wt:{wtId}")
    worktreePath := normPath
    repoPath := orElse record.repoPath (orElse (existing.bind (·.repoPath)) "/opt/spaceapp")
    branch := orElse record.branch (orElse (existing.bind (·.branch)) s!"space/{wtId}")
    baseBranch := orElse record.baseBranch (orElse (existing.bind (·.baseBranch)) "main")
    baseCommit := orElse record.baseCommit (orElse (existing.bind (·.baseCommit)) "")
    roomId := orElse record.roomId (existing.bind (·.roomId))
    paneId := orElse record.paneId (existing.bind (·.paneId))
    status := orElse record.status (orElse (existing.bind (·.status)) "ACTIVE")
    mergeCommitSha := orElse record.mergeCommitSha (existing.bind (·.mergeCommitSha))
    createdAt := orElse (existing.bind (·.createdAt)) (orElse record.createdAt now)
    updatedAt := now
    mergedAt := orElse record.mergedAt (if record.status = some "MERGED" then orElse (existing.bind (·.mergedAt)) now
      else existing.bind (·.mergedAt))
    discardedAt := orElse record.discardedAt (if record.status = some "DISCARDED" then
      orElse (existing.bind (·.discardedAt)) now else existing.bind (·.discardedAt)) }
  (updated, normPath, wtId)

/-- Both registry keys already hold this record, apart from `updatedAt`. -/
def changesNothing (worktrees : Worktrees) : WorktreeRecord × String × String → Bool
  | (updated, normPath, wtId) =>
    let comparable := fun value : Option WorktreeRecord => value.map fun value => { value with updatedAt := none }
    comparable (worktrees normPath) = comparable (some updated) && comparable (worktrees wtId) = comparable (some updated)

/-- Where the first call of the queue is. -/
inductive Stage where
  | waits
  | shares (version : String)
  | reads
  | writes (worktrees : Worktrees) (normPath wtId : String) (unread : Bool)

/-- A write of the file; `unread` where the read before it failed. -/
structure Written where
  normPath : String
  wtId : String
  before : Option Content
  after : Option Content
  unread : Bool

/-- The registry file and the process: the shared copy, the calls in their order, and what was written so far. -/
structure Service where
  file : Option Content
  cached : Option (String × Option Worktrees) := none
  queue : List WorktreeRecord := []
  stage : Stage := .waits
  written : List Written := []

inductive Event where
  | records (record : WorktreeRecord)
  | stats (version now : String)
  | readsShared (fails : Bool) (now : String)
  | readsFresh (fails : Bool) (now : String)
  | writes (succeeds : Bool)
  /-- Another reader takes a shared copy. -/
  | shares (version : String) (fails : Bool)

/-- `worktrees` of the registry that is read; a file that is missing fails to be read. -/
def readRegistry (file : Option Content) (fails : Bool) : Option Worktrees :=
  match file, fails with
  | some (.registry worktrees), false => worktrees
  | _, _ => some fun _ => none

def Service.finish (service : Service) : Service := { service with queue := service.queue.tail, stage := .waits }

/-- A call that changes nothing, or whose registry has no worktrees to look at, is over. -/
def Service.judge (service : Service) (worktrees : Option Worktrees) (record : WorktreeRecord) (now : String) : Service :=
  match worktrees with
  | none => service.finish
  | some worktrees =>
    if changesNothing worktrees (recordUpdate resolve basename worktrees record now) then service.finish
    else { service with stage := .reads }

def Service.step (service : Service) : Event → Service
  | .records record => { service with queue := service.queue ++ [record] }
  | .stats version now =>
    match service.stage, service.queue with
    | .waits, record :: _ =>
      match service.cached with
      | some (known, worktrees) =>
        if known = version then service.judge resolve basename worktrees record now
        else { service with stage := .shares version }
      | none => { service with stage := .shares version }
    | _, _ => service
  | .readsShared fails now =>
    match service.stage, service.queue with
    | .shares version, record :: _ =>
      let worktrees := readRegistry service.file fails
      { service with cached := some (version, worktrees) }.judge resolve basename worktrees record now
    | _, _ => service
  | .readsFresh fails now =>
    match service.stage, service.queue with
    | .reads, record :: _ =>
      match readRegistry service.file fails with
      | none => service.finish
      | some worktrees =>
        let (updated, normPath, wtId) := recordUpdate resolve basename worktrees record now
        { service with
          stage := .writes (Function.update (Function.update worktrees normPath updated) wtId updated) normPath wtId fails }
    | _, _ => service
  | .writes succeeds =>
    match service.stage with
    | .writes worktrees normPath wtId unread =>
      if succeeds then
        { service with
          file := some (.registry worktrees)
          written := service.written ++ [{ normPath, wtId, before := service.file, after := some (.registry worktrees), unread }] : Service }.finish
      else service.finish
    | _ => service
  | .shares version fails => { service with cached := some (version, readRegistry service.file fails) }

/-! What a write keeps. -/

def recordsOf : Option Content → Worktrees
  | some (.registry (some worktrees)) => worktrees
  | _ => fun _ => none

/-- Only the two entries of the worktree change, and a file that is there but was not read is not overwritten. -/
structure Written.Keeps (write : Written) : Prop where
  others : ∀ key, key ≠ write.normPath → key ≠ write.wtId → recordsOf write.after key = recordsOf write.before key
  unread : write.unread = true → write.before = none

/-- What is about to be written is the file as it is, where the read of it worked. -/
structure Service.Sound (service : Service) : Prop where
  pending : ∀ worktrees normPath wtId unread, service.stage = .writes worktrees normPath wtId unread →
    (unread = true → service.file = none) → ∀ key, key ≠ normPath → key ≠ wtId →
      worktrees key = recordsOf service.file key
  written : ∀ write ∈ service.written, (write.unread = true → write.before = none) → write.Keeps

theorem readRegistry_records {file : Option Content} {fails : Bool} {worktrees : Worktrees}
    (read : readRegistry file fails = some worktrees) (missing : fails = true → file = none) : worktrees = recordsOf file := by
  cases fails with
  | true =>
    rw [missing rfl] at read ⊢
    exact (Option.some.inj read).symm
  | false =>
    match file with
    | none => exact (Option.some.inj read).symm
    | some .other => exact (Option.some.inj read).symm
    | some (.registry found) =>
      obtain rfl : found = some worktrees := read
      rfl

section

variable {resolve basename : String → String} {service after : Service} (sound : service.Sound)

include sound

theorem Service.Sound.idle (idle : ∀ worktrees normPath wtId unread, after.stage ≠ .writes worktrees normPath wtId unread)
    (written : after.written = service.written) : after.Sound where
  pending _ _ _ _ writes := absurd writes (idle _ _ _ _)
  written := written ▸ sound.written

theorem Service.Sound.judge (worktrees : Option Worktrees) (record : WorktreeRecord) (now : String) :
    (service.judge resolve basename worktrees record now).Sound := by
  unfold Service.judge
  split
  · exact sound.idle nofun rfl
  · split <;> exact sound.idle nofun rfl

theorem Service.Sound.step (event : Event) : (service.step resolve basename event).Sound := by
  unfold Service.step
  split
  · exact { sound with }
  · split
    · split
      · split
        · exact sound.judge _ _ _
        · exact sound.idle nofun rfl
      · exact sound.idle nofun rfl
    · exact sound
  · next fails now =>
    split
    · next version record rest stage queue =>
      have shared : { service with cached := some (version, readRegistry service.file fails) : Service }.Sound := { sound with }
      exact shared.judge _ _ _
    · exact sound
  · next fails now =>
    split
    · split
      · exact sound.idle nofun rfl
      · next read =>
        refine ⟨fun worktrees normPath wtId unread writes missing key notPath notId => ?_, sound.written⟩
        cases writes
        rw [Function.update_of_ne notId, Function.update_of_ne notPath]
        rw [readRegistry_records read missing]
    · exact sound
  · next succeeds =>
    split
    · next worktrees normPath wtId unread writes =>
      split
      · refine ⟨nofun, fun write member fresh => ?_⟩
        rcases List.mem_append.mp member with old | new
        · exact sound.written write old fresh
        · obtain rfl := List.mem_singleton.mp new
          exact ⟨sound.pending _ _ _ _ writes fresh, fresh⟩
      · exact sound.idle nofun rfl
    · exact sound
  · exact { sound with }

end

/-- The registry loses no record exactly as far as no file that is there is written after a read of it that failed. -/
theorem registry_kept_iff (file : Option Content) (cached : Option (String × Option Worktrees)) (events : List Event) :
    (∀ write ∈ (events.foldl (Service.step resolve basename) { file, cached }).written, write.Keeps) ↔
      ∀ write ∈ (events.foldl (Service.step resolve basename) { file, cached }).written,
        write.unread = true → write.before = none := by
  have sound : (events.foldl (Service.step resolve basename) { file, cached }).Sound := by
    generalize start : ({ file, cached } : Service) = service
    have begun : service.Sound := by
      subst start
      exact ⟨nofun, nofun⟩
    clear start
    induction events generalizing service with
    | nil => exact begun
    | cons event rest ih => exact ih _ (begun.step event)
  exact ⟨fun kept write member => (kept write member).unread, fun missing write member =>
    sound.written write member (missing write member)⟩

end

/-- The call of one worktree takes the record of another one out of the file. -/
theorem failed_read_loses_record : ¬ ∀ resolve basename file cached events,
    ∀ write ∈ (List.foldl (Service.step resolve basename) { file, cached } events).written, write.Keeps := by
  intro claimed
  let other : WorktreeRecord := { worktreePath := "/w/a" }
  have kept := claimed id id (some (.registry (some fun key => if key = "/w/a" then some other else none))) none
    [.records { worktreePath := "/w/b" }, .stats "1" "t", .readsShared false "t", .readsFresh true "t", .writes true]
    _ (List.mem_singleton.mpr rfl)
  exact absurd (kept.others "/w/a" (by decide) (by decide)) (by decide)

end SpaceApp.Api.WorktreeRegistry
