import SpaceApp.Maintenance.RestoreSteps

/-! Whether a restore says the truth about what it has done: nothing, everything, or something that
can still be put back.
-/

set_option autoImplicit false

namespace SpaceApp.Maintenance

open SpaceApp.Foundation

section

variable {Table File : Type}

/-! ## What a restore may say -/

/-- Every database and file of the backup is in place. -/
structure InPlace (backup : Backup Table File) (host : Host Table File) : Prop where
  databases : ∀ name tables, backup.dumps name = some tables → host.databases name = some tables
  entries : ∀ root entry file, (backup.archive root).lookup entry = some file →
    (host.roots root).entries.lookup entry = some file

/-- Every database and every entry is as before. -/
structure Unchanged (before after : Host Table File) : Prop where
  databases : ∀ name, after.databases name = before.databases name
  entries : ∀ root entry, (after.roots root).entries.lookup entry = (before.roots root).entries.lookup entry

/-- What is not as before is still kept in the rollback or a previous directory. -/
structure KeptAside (before after : Host Table File) : Prop where
  databases : ∀ name tables, before.databases name = some tables →
    after.databases name = some tables ∨ after.rollback name = some tables
  entries : ∀ root entry file, (before.roots root).entries.lookup entry = some file →
    (after.roots root).entries.lookup entry = some file ∨ (after.roots root).previous.lookup entry = some file

/-- The way a restore ends fits what it has done. -/
def TellsTruth (backup : Backup Table File) (before : Host Table File) :
    Except RestoreError String × RestoreState Table File → Prop
  | (.ok _, after) => InPlace backup after.host
  | (.error (.unchanged _), after) => Unchanged before after.host
  | (.error (.failed _), after) => KeptAside before after.host

variable (schedule : Schedule) (options : RestoreOptions) (backup : Backup Table File)
  (before : Host Table File)

/-! ## When it does -/

def validates : Bool :=
  (schedule .selectBackup).isDone && (schedule .validateManifest).isDone &&
    (schedule (.validateTarArchive .data)).isDone && (schedule (.validateTarArchive .memory)).isDone

def proceeds : Bool :=
  options.confirmation == "RESTORE" && validates schedule && prepares schedule backup before

def names (root : RootName) : List String :=
  namesToMove root (before.roots root).entries

def staged (root : RootName) : List String :=
  (backup.archive root).keys

/-- The moves made before a swap broke off add up to nothing. -/
def MovesCancel (root : RootName) : Prop :=
  (∀ entry ∈ movedOut schedule root (names before root),
    entry ∈ movedIn schedule root (names before root) (staged backup root)) ∧
  ∀ entry ∈ movedIn schedule root (names before root) (staged backup root),
    (backup.archive root).lookup entry = (before.roots root).entries.lookup entry

def cleansUp : Bool :=
  cleansStaging schedule && (schedule .dropRollback).isDone

/-- The clean-up leaves the copy of this database, although it is to remove all of them. -/
def rollbackLeft (name : DatabaseName) : Bool :=
  !cleansStaging schedule ||
    (!(schedule .dropRollback).isDone && (schedule .dropRollback).left (dumpName name))

/-- The removal of the previous directories leaves this entry. -/
def previousLeft : RootName → String → Bool
  | .data, entry => !(schedule (.dropPrevious .data)).isDone && (schedule (.dropPrevious .data)).left entry
  | .memory, entry => !(schedule (.dropPrevious .data)).isDone ||
      (!(schedule (.dropPrevious .memory)).isDone && (schedule (.dropPrevious .memory)).left entry)

def finishes : Bool :=
  (schedule (.dropPrevious .data)).isDone && (schedule (.dropPrevious .memory)).isDone && cleansUp schedule &&
    (schedule .setTreeOwnership).isDone

/-- Everything the restore has replaced was the same before, or its copy was left by a failed removal. -/
def OldLeft : Prop :=
  (∀ name ∈ restores backup, before.databases name = backup.dumps name ∨ rollbackLeft schedule name = true) ∧
  ∀ root, ∀ entry ∈ names before root,
    (before.roots root).entries.lookup entry = (backup.archive root).lookup entry ∨
      previousLeft schedule root entry = true

/-- No failure the undo does not cover: a dump that does not load after its schema was emptied, a
swap that breaks off between two moves, or a removal that fails when everything is in place. -/
def Covered : Prop :=
  proceeds schedule options backup before = true →
  match (restores backup).find? fun name => !restoresDatabase schedule name with
  | some name =>
      (schedule (.emptySchema name)).isDone = false ∨ before.databases name = some [] ∨
        (∃ earlier ∈ (restores backup).takeWhile (restoresDatabase schedule),
          undoesDatabase schedule earlier = false) ∨
        rollbackLeft schedule name = true
  | none =>
      if swapsEntries schedule .data (names before .data) (staged backup .data) = false then
        MovesCancel schedule backup before .data ∨
          (∃ name ∈ restores backup, undoesDatabase schedule name = false) ∨ cleansUp schedule = false
      else if swapsEntries schedule .memory (names before .memory) (staged backup .memory) = false then
        MovesCancel schedule backup before .memory ∨
          (∃ name ∈ restores backup, undoesDatabase schedule name = false) ∨
          undoesFiles schedule .data (names before .data) (staged backup .data) = false ∨ cleansUp schedule = false
      else finishes schedule = true ∨ OldLeft schedule backup before

/-- The first database the restore stops at. -/
abbrev stopsAt : Option DatabaseName := (restores backup).find? fun name => !restoresDatabase schedule name

abbrev swaps (root : RootName) : Bool := swapsEntries schedule root (names before root) (staged backup root)

/-- The restore of this host says the truth. -/
abbrev Truthful : Prop := TellsTruth backup before ((restorePortableBackup schedule options backup).run { host := before })

/-! ## A restore that changes nothing -/

structure Untouched (state : RestoreState Table File) : Prop where
  changed : state.changed = false
  databases : state.host.databases = before.databases
  entries : ∀ root, (state.host.roots root).entries = (before.roots root).entries

variable {schedule options backup before}

theorem Untouched.unchanged {state : RestoreState Table File} (untouched : Untouched before state) :
    Unchanged before state.host where
  databases name := by rw [untouched.databases]
  entries root entry := by rw [untouched.entries]

theorem Untouched.withRoot {state : RestoreState Table File} (untouched : Untouched before state)
    {root : RootName} {files : Root File} (same : files.entries = (state.host.roots root).entries) :
    Untouched before (state.withRoot root files) where
  __ := untouched
  entries name := by
    by_cases here : name = root
    · subst here
      rw [withRoot_same, same, untouched.entries]
    · rw [withRoot_other _ _ here, untouched.entries]

theorem perform_keeps {outcome : Outcome} {effect : Host Table File → Host Table File}
    {partly : (String → Bool) → Host Table File → Host Table File}
    (whole : ∀ state, Untouched before state → Untouched before (state.onHost effect))
    (part : ∀ left state, Untouched before state → Untouched before (state.onHost (partly left))) :
    Exec.Keeps (Untouched before) (perform outcome effect partly) := by
  intro state untouched
  rw [perform_run]
  split
  · exact whole state untouched
  · exact part _ state untouched

theorem check_keeps (outcome : Outcome) : Exec.Keeps (Untouched before) (check outcome : Restore Table File Unit) :=
  perform_keeps (fun _ untouched => untouched) fun _ _ untouched => untouched

theorem stageArchive_keeps (root : RootName) : Exec.Keeps (Untouched before) (stageArchive schedule backup root) := by
  have same : ∀ (change : Root File → Root File), (∀ files, (change files).entries = files.entries) →
      ∀ state, Untouched before state → Untouched before (state.onHost (·.setRoot root change)) := by
    intro change kept state untouched
    rw [onHost_setRoot]
    exact untouched.withRoot (kept _)
  apply Exec.Keeps.bind
  · exact perform_keeps (same _ fun _ => rfl) fun left => same _ fun _ => rfl
  intro _
  apply Exec.Keeps.bind
  · exact perform_keeps (same _ fun _ => rfl) fun _ _ untouched => untouched
  intro _
  exact perform_keeps (same _ fun _ => rfl) fun _ _ untouched => untouched

theorem listPresent_keeps : Exec.Keeps (Untouched before) (listPresent schedule : Restore Table File _) := by
  apply Exec.Keeps.bind (check_keeps _)
  intro _
  apply Exec.Keeps.bind (check_keeps _)
  intro _
  refine Exec.Keeps.bind Exec.Keeps.read fun state => ?_
  split
  · exact Exec.Keeps.fail _
  · exact Exec.Keeps.pure _

theorem copyDatabases_keeps (present : List DatabaseName) :
    Exec.Keeps (Untouched before) (copyDatabases schedule backup present) := by
  have same : ∀ effect : Host Table File → Host Table File,
      (∀ host, (effect host).databases = host.databases ∧ (effect host).roots = host.roots) →
      ∀ state, Untouched before state → Untouched before (state.onHost effect) := by
    intro effect kept state untouched
    refine ⟨untouched.changed, ?_, fun root => ?_⟩
    · exact (kept _).1.trans untouched.databases
    · change ((effect state.host).roots root).entries = _
      rw [(kept _).2, untouched.entries]
  apply Exec.Keeps.bind
  · exact perform_keeps (same _ fun _ => ⟨rfl, rfl⟩) fun left => same _ fun _ => ⟨rfl, rfl⟩
  intro _
  apply Exec.Keeps.bind
  · exact perform_keeps (same _ fun _ => ⟨rfl, rfl⟩) fun _ _ untouched => untouched
  intro _
  apply Exec.Keeps.forEach
  intro name _
  exact perform_keeps (same _ fun _ => ⟨rfl, rfl⟩) fun _ _ untouched => untouched

theorem prepare_keeps : Exec.Keeps (Untouched before) (prepare schedule options backup) := by
  apply Exec.Keeps.bind (stageArchive_keeps _)
  intro _
  apply Exec.Keeps.bind (stageArchive_keeps _)
  intro _
  apply Exec.Keeps.bind listPresent_keeps
  intro present
  dsimp only
  split
  · exact Exec.Keeps.fail _
  · apply Exec.Keeps.bind (copyDatabases_keeps present)
    intro _
    exact Exec.Keeps.pure _

theorem validate_ok_iff {state after : RestoreState Table File} {value : Unit} :
    (validate schedule : Restore Table File Unit).run state = (.ok value, after) ↔
      validates schedule = true ∧ state = after := by
  simp only [validate, Exec.bind_ok_iff, check_ok_iff, validates, Bool.and_eq_true]
  constructor
  · rintro ⟨_, _, ⟨selected, rfl⟩, _, _, ⟨manifest, rfl⟩, _, _, ⟨data, rfl⟩, memory, rfl⟩
    exact ⟨⟨⟨⟨selected, manifest⟩, data⟩, memory⟩, rfl⟩
  · rintro ⟨⟨⟨⟨selected, manifest⟩, data⟩, memory⟩, rfl⟩
    exact ⟨(), _, ⟨selected, rfl⟩, (), _, ⟨manifest, rfl⟩, (), _, ⟨data, rfl⟩, memory, rfl⟩

theorem validate_keeps : Exec.Keeps (Untouched before) (validate schedule : Restore Table File Unit) := by
  apply Exec.Keeps.bind (check_keeps _)
  intro _
  apply Exec.Keeps.bind (check_keeps _)
  intro _
  apply Exec.Keeps.bind (check_keeps _)
  intro _
  exact check_keeps _

theorem Untouched.of_cleanUp {state : RestoreState Table File} (untouched : Untouched before state) :
    ∃ result after, (cleanUp schedule).run state = (result, after) ∧ Untouched before after := by
  obtain ⟨result, host, ran, same, -, -⟩ := cleanUp_run schedule state
  refine ⟨result, _, ran, untouched.changed, ?_, fun root => ?_⟩
  · exact same.databases.trans untouched.databases
  · exact (same.entries root).trans (untouched.entries root)

theorem untouched_told {error : RestoreError} {state : RestoreState Table File}
    (ran : (restoreBackup schedule options backup).run { host := before } = (.error error, state))
    (untouched : Untouched before state) : ∃ message,
    (restorePortableBackup schedule options backup).run { host := before } = (.error (.unchanged message), state) := by
  rw [restorePortableBackup, Exec.run_rescue_error ran, Exec.run_read_bind, untouched.changed, Bool.false_or]
  cases error with
  | unchanged message => exact ⟨message, rfl⟩
  | failed message => exact ⟨message ++ " Nothing was changed.", rfl⟩

theorem not_proceeds_unchanged (stops : proceeds schedule options backup before = false) : ∃ message state,
    (restorePortableBackup schedule options backup).run { host := before } =
      (.error (.unchanged message), state) ∧ Unchanged before state.host := by
  have start : Untouched before { host := before } := ⟨rfl, rfl, fun _ => rfl⟩
  have told : ∃ error state, (restoreBackup schedule options backup).run { host := before } = (.error error, state) ∧
      Untouched before state := by
    rw [restoreBackup]
    by_cases confirmed : options.confirmation = "RESTORE"
    case neg => exact ⟨_, _, by rw [if_pos confirmed]; rfl, start⟩
    rw [if_neg (not_not.mpr confirmed)]
    have afterValidation : Untouched before ((validate schedule).run { host := before }).2 := validate_keeps _ start
    rcases ran : (validate schedule : Restore Table File Unit).run { host := before } with ⟨error | value, state⟩
    · rw [ran] at afterValidation
      exact ⟨error, state, Exec.run_bind_error ran, afterValidation⟩
    · rw [Exec.run_bind_ok ran]
      obtain ⟨valid, rfl⟩ := validate_ok_iff.mp ran
      have afterPreparation : Untouched before ((prepare schedule options backup).run { host := before }).2 :=
        prepare_keeps _ start
      rcases prepared : (prepare schedule options backup).run { host := before } with ⟨error | present, state⟩
      · rw [prepared] at afterPreparation
        have failed : (exchange schedule options backup).run { host := before } = (.error error, state) :=
          Exec.run_bind_error prepared
        obtain ⟨result, after, cleaned, untouched⟩ := afterPreparation.of_cleanUp
        have ended : ((exchange schedule options backup).ensuring (cleanUp schedule)).run { host := before } = _ :=
          Exec.run_ensuring failed
        rw [cleaned] at ended
        cases result with
        | ok _ => exact ⟨error, after, Exec.run_bind_error ended, untouched⟩
        | error later => exact ⟨later, after, Exec.run_bind_error ended, untouched⟩
      · obtain ⟨all, -, -⟩ := (prepare_ok_iff schedule options backup).mp prepared
        simp [proceeds, confirmed, valid, all] at stops
  obtain ⟨error, state, ran, untouched⟩ := told
  obtain ⟨message, told⟩ := untouched_told ran untouched
  exact ⟨message, state, told, untouched.unchanged⟩

/-! ## From the first change on -/

variable (schedule backup before) in
def changing : RestoreState Table File :=
  { host := before.prepared backup, changed := true }

section
variable (goes : proceeds schedule options backup before = true)

include goes

theorem proceeds_prepared :
    options.confirmation = "RESTORE" ∧ validates schedule = true ∧ prepares schedule backup before = true := by
  simp only [proceeds, Bool.and_eq_true, beq_iff_eq] at goes
  exact ⟨goes.1.1, goes.1.2, goes.2⟩

theorem exchange_run : (exchange schedule options backup).run { host := before } =
      ((apply schedule backup).rescue (undo schedule options (presentDatabases before)) >>= fun _ => do
        dropPrevious schedule .data
        dropPrevious schedule .memory).run (changing backup before) := by
  obtain ⟨-, -, prepared⟩ := proceeds_prepared goes
  have ran : (prepare schedule options backup).run { host := before } = _ :=
    (prepare_ok_iff schedule options backup).mpr ⟨prepared, rfl, rfl⟩
  rw [exchange, Exec.run_bind_ok ran, Exec.run_change_bind]
  rfl

/-- How the restore ends once it has come to its first change. -/
theorem restore_run {result : Except RestoreError Unit} {state : RestoreState Table File}
    (ran : (exchange schedule options backup).run { host := before } = (result, state)) (changed : state.changed = true) :
    ∃ (cleaned : Except RestoreError Unit) (host : Host Table File), SameFiles state.host host ∧
    host.rollback = rollbackAfter schedule state.keepRollback state.host.rollback ∧
    (if cleansStaging schedule && (state.keepRollback || (schedule .dropRollback).isDone) then cleaned = .ok ()
    else ∃ message, cleaned = .error (.failed message)) ∧
    (restorePortableBackup schedule options backup).run { host := before } =
      (match cleaned, result with
        | .error error, _ => .error error
        | .ok _, .error error => .error error
        | .ok _, .ok _ =>
            if (schedule .setTreeOwnership).isDone then .ok options.backupDirectory
            else .error (schedule .setTreeOwnership).problem,
        { state with host := host }) := by
  obtain ⟨confirmed, valid, -⟩ := proceeds_prepared goes
  obtain ⟨cleaned, host, cleaning, same, rollback, how⟩ := cleanUp_run schedule state
  refine ⟨cleaned, host, same, rollback, how, ?_⟩
  have validated : (validate schedule : Restore Table File Unit).run { host := before } = (.ok (), { host := before }) :=
    validate_ok_iff.mpr ⟨valid, rfl⟩
  have ended : ((exchange schedule options backup).ensuring (cleanUp schedule)).run { host := before } = _ :=
    Exec.run_ensuring ran
  rw [cleaning] at ended
  have retold : ∀ error, (restoreBackup schedule options backup).run { host := before } =
      (.error error, { state with host := host }) →
      (restorePortableBackup schedule options backup).run { host := before } =
        (.error error, { state with host := host }) := by
    intro error failed
    rw [restorePortableBackup, Exec.run_rescue_error failed, Exec.run_read_bind]
    simp only [changed, Bool.true_or, if_true, Exec.run_fail]
  have unfolded : (restoreBackup schedule options backup).run { host := before } =
      ((exchange schedule options backup).ensuring (cleanUp schedule) >>= fun _ => do
        check (schedule .setTreeOwnership)
        pure options.backupDirectory).run { host := before } := by
    rw [restoreBackup, if_neg (not_not.mpr confirmed), Exec.run_bind_ok validated]
  cases cleaned with
  | error error =>
    apply retold
    rw [unfolded]
    exact Exec.run_bind_error ended
  | ok value =>
    cases result with
    | error error =>
      apply retold
      rw [unfolded]
      exact Exec.run_bind_error ended
    | ok done =>
      rw [Exec.run_bind_ok ended] at unfolded
      by_cases owned : (schedule .setTreeOwnership).isDone = true
      · rw [Exec.run_bind_ok (check_done owned), Exec.run_pure] at unfolded
        rw [if_pos owned]
        exact Exec.run_rescue_ok unfolded
      · rw [Exec.run_bind_error (check_fails owned)] at unfolded
        rw [if_neg owned]
        exact retold _ unfolded

theorem failed_verdict {error : RestoreError} {state : RestoreState Table File}
    (ran : ((apply schedule backup).rescue (undo schedule options (presentDatabases before))).run
      (changing backup before) = (.error error, state))
    (changed : state.changed = true) : ∃ host, SameFiles state.host host ∧
      host.rollback = rollbackAfter schedule state.keepRollback state.host.rollback ∧
      (Truthful schedule options backup before ↔
        if cleansStaging schedule && (state.keepRollback || (schedule .dropRollback).isDone) then
          TellsTruth backup before (.error error, { state with host := host })
        else KeptAside before host) := by
  have exchanged : (exchange schedule options backup).run { host := before } = (.error error, state) := by
    rw [exchange_run goes, Exec.run_bind_error ran]
  obtain ⟨cleaned, host, same, rollback, how, told⟩ := restore_run goes exchanged changed
  refine ⟨host, same, rollback, ?_⟩
  rw [Truthful, told]
  split at how
  · next fine =>
    rw [if_pos fine, how]
  · next broken =>
    obtain ⟨message, rfl⟩ := how
    rw [if_neg broken]
    exact Iff.rfl

end

/-! ## After the undo -/

variable (schedule options) in
theorem undo_run (state middle : RestoreState Table File) (present : List DatabaseName) (error : RestoreError)
    (problem : Option RestoreError) (files : (undoSwapped schedule state.swapped).run state = (.ok problem, middle))
    (none_ : middle.stillRestored = []) (here : ∀ name ∈ state.restored, present.contains name = true)
    (copied : ∀ name ∈ state.restored, (middle.host.rollback name).isSome = true) :
    ∃ databases still keep ended,
      (undo schedule options present error).run state = (.error ended,
        { middle with host := { middle.host with databases := databases }, stillRestored := still, keepRollback := keep }) ∧
      (∀ name, name ∉ state.restored → databases name = middle.host.databases name) ∧
      if (∀ name ∈ state.restored, undoesDatabase schedule name = true) ∧ problem.isNone = true then
        (∃ message, ended = .unchanged message) ∧ keep = middle.keepRollback ∧
          ∀ name ∈ state.restored, databases name =
            (middle.host.databases name).map fun _ => (middle.host.rollback name).getD []
      else (∃ message, ended = .failed message) ∧ keep = true ∧
        ((∀ name ∈ state.restored, undoesDatabase schedule name = true) →
          ∀ name ∈ state.restored, databases name =
            (middle.host.databases name).map fun _ => (middle.host.rollback name).getD []) := by
  obtain ⟨databases, still, ran, others, how⟩ := putBackAll_run schedule present state.restored.reverse middle
    (fun name among => here name (List.mem_reverse.mp among))
    (fun name among => copied name (List.mem_reverse.mp among))
  simp only [List.mem_reverse] at others how
  rw [none_, List.nil_append] at ran
  rw [undo, Exec.run_read_bind, Exec.run_bind_ok files, Exec.run_bind_ok ran, Exec.run_read_bind]
  by_cases all : ∀ name ∈ state.restored, undoesDatabase schedule name = true
  · rw [if_pos all] at how
    obtain ⟨rfl, put⟩ := how
    by_cases fine : problem.isNone = true
    · rw [if_pos ⟨rfl, fine⟩]
      refine ⟨databases, [], middle.keepRollback, _, rfl, others, ?_⟩
      rw [if_pos ⟨all, fine⟩]
      exact ⟨⟨_, rfl⟩, rfl, put⟩
    · rw [if_neg fun both => fine both.2]
      refine ⟨databases, [], true, _, rfl, others, ?_⟩
      rw [if_neg fun both => fine both.2]
      exact ⟨⟨_, rfl⟩, rfl, fun _ => put⟩
  · rw [if_neg all] at how
    rw [if_neg fun both => how both.1]
    refine ⟨databases, still, true, _, rfl, others, ?_⟩
    rw [if_neg fun both => all both.1]
    exact ⟨⟨_, rfl⟩, rfl, fun every => absurd every all⟩

section
variable (goes : proceeds schedule options backup before = true) {name : DatabaseName}
  (among : name ∈ restores backup)

include goes among

theorem present_of_proceeds :
    (presentDatabases before).contains name = true ∧ ∃ tables, before.databases name = some tables := by
  obtain ⟨-, -, prepared⟩ := proceeds_prepared goes
  simp only [prepares, Bool.and_eq_true] at prepared
  obtain ⟨⟨⟨⟨⟨⟨-, -⟩, listed⟩, every⟩, -⟩, -⟩, -⟩ := prepared
  have here := List.all_eq_true.mp every name among
  refine ⟨here, ?_⟩
  rw [List.contains_iff_mem, mem_presentDatabases] at here
  rcases here with rfl | found
  · simp only [listsPresent, Bool.and_eq_true] at listed
    exact Option.isSome_iff_exists.mp listed.2
  · exact Option.isSome_iff_exists.mp found

theorem prepared_rollback : (before.prepared backup).rollback name = before.databases name ∧
      ((before.prepared backup).rollback name).isSome = true := by
  obtain ⟨-, tables, found⟩ := present_of_proceeds goes among
  simp [Host.prepared, among, found]

theorem put_back_same {now : Option (Schema Table)} (exists_ : now.isSome = true) :
    (now.map fun _ => ((before.prepared backup).rollback name).getD []) = before.databases name := by
  obtain ⟨tables, found⟩ := (present_of_proceeds goes among).2
  obtain ⟨current, rfl⟩ := Option.isSome_iff_exists.mp exists_
  rw [(prepared_rollback goes among).1, found]
  rfl

end

theorem withDumps_isSome (host : Host Table File) (dumps : Dumps Table) (taken : List DatabaseName)
    (name : DatabaseName) (here : (host.databases name).isSome = true) :
    ((host.withDumps dumps taken).databases name).isSome = true := by
  simp only [Host.withDumps]
  split
  · rw [Option.isSome_map]
    exact here
  · exact here

variable (schedule) in
theorem rollbackAfter_lookup {dumps : Dumps Table} {name : DatabaseName} {tables : Schema Table}
    (held : dumps name = some tables) : rollbackAfter schedule false dumps name = some tables ↔
      rollbackLeft schedule name = true := by
  rw [rollbackAfter, rollbackLeft]
  cases staging : cleansStaging schedule with
  | false => simp [held]
  | true =>
    cases dropped : (schedule .dropRollback).isDone with
    | true => simp
    | false => simp [Dumps.leave, held]

/-! ## The verdicts -/

theorem not_all_undone {taken : List DatabaseName} (some_ : ¬∀ name ∈ taken, undoesDatabase schedule name = true) :
    ∃ name ∈ taken, undoesDatabase schedule name = false := by
  simpa using some_

theorem all_undone {taken : List DatabaseName} (all : ∀ name ∈ taken, undoesDatabase schedule name = true) :
    ¬∃ name ∈ taken, undoesDatabase schedule name = false := by
  rintro ⟨name, among, bad⟩
  rw [all name among] at bad
  cases bad

theorem not_mem_taken {name : DatabaseName} (first : stopsAt schedule backup = some name) :
    name ∉ (restores backup).takeWhile (restoresDatabase schedule) := by
  intro among
  have works := List.mem_takeWhile_imp among
  have fails := List.find?_some first
  rw [works] at fails
  cases fails

variable (schedule backup before) in
def stoppedAt (taken : List DatabaseName) (name : DatabaseName) : RestoreState Table File :=
  ((changing backup before).withDumps backup.dumps taken).onHost
    (if (schedule (.emptySchema name)).isDone then emptySchema name else id)

section
variable (taken : List DatabaseName) (name : DatabaseName)

@[simp] theorem stoppedAt_rollback :
    (stoppedAt schedule backup before taken name).host.rollback = (before.prepared backup).rollback := by
  simp only [stoppedAt, RestoreState.onHost]
  split <;> rfl

@[simp] theorem stoppedAt_roots :
    (stoppedAt schedule backup before taken name).host.roots = (before.prepared backup).roots := by
  simp only [stoppedAt, RestoreState.onHost]
  split <;> rfl

end

theorem stoppedAt_databases (taken : List DatabaseName) (name other : DatabaseName) :
    (stoppedAt schedule backup before taken name).host.databases other =
      if other = name ∧ (schedule (.emptySchema name)).isDone = true then
        ((before.withDumps backup.dumps taken).databases other).map fun _ => []
      else (before.withDumps backup.dumps taken).databases other := by
  simp only [stoppedAt, RestoreState.onHost]
  by_cases emptied : (schedule (.emptySchema name)).isDone = true
  · simp only [emptied, if_true, and_true, emptySchema, Host.setDatabase]
    rfl
  · simp only [emptied, and_false, if_false, Bool.false_eq_true]
    rfl

variable (before) in
theorem apply_stops {name : DatabaseName}
    (first : stopsAt schedule backup = some name) : ∃ error,
    (apply schedule backup).run (changing backup before) = (.error error,
      stoppedAt schedule backup before ((restores backup).takeWhile (restoresDatabase schedule)) name) := by
  have stops := restoreAll_run schedule backup.dumps (restores backup)
    (fun name member => (mem_restores backup).mp member) (changing backup before)
  simp only [first] at stops
  exact ⟨_, Exec.run_bind_error stops⟩

section

variable (goes : proceeds schedule options backup before = true) {name : DatabaseName}

include goes

theorem dumped_isSome (among : name ∈ restores backup) (taken : List DatabaseName) :
    ((before.withDumps backup.dumps taken).databases name).isSome = true := by
  apply withDumps_isSome
  obtain ⟨tables, found⟩ := (present_of_proceeds goes among).2
  rw [found]
  rfl

/-- Of a restore that fails after its first change; in `middle` the undo has dealt with the files. -/
theorem undo_verdict {error : RestoreError} {stopped middle : RestoreState Table File} {problem : Option RestoreError}
    (stops : (apply schedule backup).run (changing backup before) = (.error error, stopped))
    (inside : ∀ name ∈ stopped.restored, name ∈ restores backup)
    (files : (undoSwapped schedule stopped.swapped).run stopped = (.ok problem, middle))
    (fresh : middle.stillRestored = [] ∧ middle.keepRollback = false ∧ middle.changed = true)
    (exist : ∀ name ∈ stopped.restored, (middle.host.databases name).isSome = true)
    (outside : ∀ name, name ∉ restores backup → middle.host.databases name = before.databases name)
    (copied : middle.host.rollback = (before.prepared backup).rollback)
    (kept : ∀ root entry file, (before.roots root).entries.lookup entry = some file →
      (middle.host.roots root).entries.lookup entry = some file ∨
        (middle.host.roots root).previous.lookup entry = some file) :
    Truthful schedule options backup before ↔
      (∃ name ∈ stopped.restored, undoesDatabase schedule name = false) ∨ problem.isNone = false ∨
        if cleansUp schedule = true then
          (∀ name, name ∉ stopped.restored → middle.host.databases name = before.databases name) ∧
            ∀ root entry, (middle.host.roots root).entries.lookup entry = (before.roots root).entries.lookup entry
        else ∀ name ∈ restores backup, name ∉ stopped.restored →
          middle.host.databases name = before.databases name ∨ rollbackLeft schedule name = true := by
  obtain ⟨databases, still, keep, ended, undone, others, how⟩ := undo_run schedule options stopped middle
    (presentDatabases before) error problem files fresh.1
    (fun name among => (present_of_proceeds goes (inside name among)).1)
    (fun name among => by
      rw [copied]
      exact (prepared_rollback goes (inside name among)).2)
  rw [copied, fresh.2.1] at how
  have failed : ((apply schedule backup).rescue (undo schedule options (presentDatabases before))).run
      (changing backup before) = _ := Exec.run_rescue_error stops
  rw [undone] at failed
  obtain ⟨host, same, rollbackIs, verdict⟩ := failed_verdict goes failed fresh.2.2
  rw [verdict]
  have keptHost : ∀ root entry file, (before.roots root).entries.lookup entry = some file →
      (host.roots root).entries.lookup entry = some file ∨ (host.roots root).previous.lookup entry = some file := by
    intro root entry file held
    rw [same.entries, same.previous]
    exact kept root entry file held
  have free : ∀ name, name ∉ stopped.restored → host.databases name = middle.host.databases name := by
    intro name apart
    rw [same.databases]
    exact others name apart
  by_cases putBack : (∀ name ∈ stopped.restored, undoesDatabase schedule name = true) ∧ problem.isNone = true
  · rw [if_pos putBack] at how
    obtain ⟨⟨message, rfl⟩, rfl, put⟩ := how
    have databasesSame : ∀ name ∈ stopped.restored, host.databases name = before.databases name := by
      intro name among
      rw [same.databases]
      exact (put name among).trans (put_back_same goes (inside name among) (exist name among))
    simp only [all_undone putBack.1, putBack.2, Bool.true_eq_false, false_or, Bool.false_or]
    change (if cleansUp schedule = true then _ else _) ↔ _
    split
    · constructor
      · intro unchanged
        refine ⟨fun name apart => ?_, fun root entry => ?_⟩
        · rw [← free name apart]
          exact Unchanged.databases unchanged name
        · rw [← same.entries]
          exact Unchanged.entries unchanged root entry
      · rintro ⟨untaken, entries⟩
        refine Unchanged.mk (fun name => ?_) fun root entry => by rw [same.entries, entries]
        by_cases among : name ∈ stopped.restored
        · exact databasesSame name among
        · rw [free name among, untaken name among]
    · have left_iff : ∀ name ∈ restores backup, ∀ tables, before.databases name = some tables →
          (host.rollback name = some tables ↔ rollbackLeft schedule name = true) := by
        intro name among tables held
        rw [rollbackIs]
        exact rollbackAfter_lookup schedule (by rw [copied, (prepared_rollback goes among).1, held])
      constructor
      · intro keptAside name among apart
        obtain ⟨tables, held⟩ := (present_of_proceeds goes among).2
        rcases keptAside.databases name tables held with there | aside
        · exact .inl (by rw [← free name apart, there, held])
        · exact .inr ((left_iff name among tables held).mp aside)
      · intro either
        refine ⟨fun name tables held => ?_, keptHost⟩
        by_cases taken : name ∈ stopped.restored
        · exact .inl (by rw [databasesSame name taken, held])
        by_cases among : name ∈ restores backup
        · rcases either name among taken with there | left
          · exact .inl (by rw [free name taken, there, held])
          · exact .inr ((left_iff name among tables held).mpr left)
        · exact .inl (by rw [free name taken, outside name among, held])
  · rw [if_neg putBack] at how
    obtain ⟨⟨message, rfl⟩, rfl, -⟩ := how
    have keptAside : KeptAside before host := by
      refine ⟨fun name tables held => ?_, keptHost⟩
      by_cases among : name ∈ restores backup
      · right
        rw [rollbackIs, rollbackAfter, Bool.true_or, if_pos rfl, copied, (prepared_rollback goes among).1, held]
      · left
        rw [free name fun taken => among (inside name taken), outside name among, held]
    have told : (∃ name ∈ stopped.restored, undoesDatabase schedule name = false) ∨ problem.isNone = false := by
      rcases not_and_or.mp putBack with some_ | bad
      · exact .inl (not_all_undone some_)
      · exact .inr (Bool.not_eq_true _ ▸ bad)
    rw [← or_assoc, iff_true_intro (Or.inl told), iff_true]
    split <;> exact keptAside

theorem database_verdict (first : stopsAt schedule backup = some name) : Truthful schedule options backup before ↔
      (schedule (.emptySchema name)).isDone = false ∨ before.databases name = some [] ∨
        (∃ earlier ∈ (restores backup).takeWhile (restoresDatabase schedule),
          undoesDatabase schedule earlier = false) ∨
        rollbackLeft schedule name = true := by
  have among := List.mem_of_find?_eq_some first
  have apart := not_mem_taken first
  have inside : ∀ earlier ∈ (restores backup).takeWhile (restoresDatabase schedule), earlier ∈ restores backup :=
    fun _ member => List.takeWhile_subset _ member
  obtain ⟨error, stops⟩ := apply_stops before first
  generalize (restores backup).takeWhile (restoresDatabase schedule) = taken at apart inside stops ⊢
  have others : ∀ other, other ≠ name → (stoppedAt schedule backup before taken name).host.databases other =
      (before.withDumps backup.dumps taken).databases other := by
    intro other differ
    rw [stoppedAt_databases, if_neg fun both => differ both.1]
  have free : ∀ other, other ∉ taken → other ≠ name →
      (stoppedAt schedule backup before taken name).host.databases other = before.databases other := by
    intro other outside differ
    rw [others other differ]
    simp [Host.withDumps, outside]
  -- The database the restore stopped at is not put back.
  have here : (stoppedAt schedule backup before taken name).host.databases name = before.databases name ↔
      (schedule (.emptySchema name)).isDone = false ∨ before.databases name = some [] := by
    obtain ⟨tables, found⟩ := (present_of_proceeds goes among).2
    rw [stoppedAt_databases]
    cases emptied : (schedule (.emptySchema name)).isDone <;> simp [Host.withDumps, apart, found, eq_comm]
  have verdict := @undo_verdict _ _ schedule options backup before goes _ _
    (stoppedAt schedule backup before taken name) none stops inside rfl ⟨rfl, rfl, rfl⟩
    (fun other member => by
      rw [others other (ne_of_mem_of_not_mem member apart)]
      exact dumped_isSome goes (inside other member) taken)
    (fun other outside => free other (fun member => outside (inside other member))
      (ne_of_mem_of_not_mem among outside).symm)
    (stoppedAt_rollback ..) (by
      intro root entry file held
      rw [stoppedAt_roots]
      exact .inl held)
  have roots : ∀ root entry, ((stoppedAt schedule backup before taken name).host.roots root).entries.lookup entry =
      (before.roots root).entries.lookup entry := by
    intro root entry
    rw [stoppedAt_roots]
    rfl
  rw [verdict]
  constructor
  · rintro (undone | ended | kept)
    · exact .inr (.inr (.inl undone))
    · cases ended
    · split at kept
      · exact or_assoc.mp (.inl (here.mp (kept.1 name apart)))
      · rcases kept name among apart with same | left
        · exact or_assoc.mp (.inl (here.mp same))
        · exact .inr (.inr (.inr left))
  · intro either
    rw [← or_assoc, ← here] at either
    rcases either with same | undone | left
    · have all : ∀ other, other ∉ taken →
          (stoppedAt schedule backup before taken name).host.databases other = before.databases other := by
        intro other outside
        by_cases differ : other = name
        · rw [differ, same]
        · exact free other outside differ
      right; right
      split
      · exact ⟨all, roots⟩
      · exact fun other _ outside => .inl (all other outside)
    · exact .inl undone
    · right; right
      split
      · next cleans =>
        simp only [cleansUp, Bool.and_eq_true] at cleans
        simp [rollbackLeft, cleans] at left
      · intro other _ outside
        by_cases differ : other = name
        · exact .inr (differ ▸ left)
        · exact .inl (free other outside differ)

end

section
variable {root : RootName} {after : Root File}
  (leaves : SwapLeaves schedule root ((before.prepared backup).roots root) after)

include leaves

theorem SwapLeaves.lookup (entry : String) : after.entries.lookup entry =
      if entry ∈ movedIn schedule root (names before root) (staged backup root) then
        (backup.archive root).lookup entry
      else if entry ∈ movedOut schedule root (names before root) then none
      else (before.roots root).entries.lookup entry :=
  leaves.entries entry

/-- A broken swap has left the root as before exactly when its moves cancel. -/
theorem SwapLeaves.same_iff : (∀ entry, after.entries.lookup entry = (before.roots root).entries.lookup entry) ↔
      MovesCancel schedule backup before root := by
  constructor
  · intro same
    refine ⟨fun entry out => ?_, fun entry into => ?_⟩
    · by_contra stays
      have gone := same entry
      rw [leaves.lookup, if_neg stays, if_pos out] at gone
      have named : entry ∈ names before root := by
        rw [movedOut] at out
        split at out
        · exact List.takeWhile_subset _ out
        · cases out
      obtain ⟨file, found⟩ := lookup_some_of_mem (mem_namesToMove.mp named).1
      rw [found] at gone
      cases gone
    · rw [← same entry, leaves.lookup, if_pos into]
  · rintro ⟨returned, equal⟩ entry
    rw [leaves.lookup]
    split
    · next into => exact equal entry into
    · next stays =>
      rw [if_neg fun out => stays (returned entry out)]

theorem SwapLeaves.all_same_iff {roots : RootName → Root File} (here : roots root = after)
    (others : ∀ other, other ≠ root → ∀ entry,
      (roots other).entries.lookup entry = (before.roots other).entries.lookup entry) :
    (∀ root entry, (roots root).entries.lookup entry = (before.roots root).entries.lookup entry) ↔
      MovesCancel schedule backup before root := by
  rw [← leaves.same_iff, ← here]
  refine ⟨fun same => same root, fun same other entry => ?_⟩
  by_cases differ : other = root
  · rw [differ, same]
  · exact others other differ entry

/-- What a broken or finished swap has moved aside is in the previous directory. -/
theorem SwapLeaves.kept {entry : String} {file : File} (held : (before.roots root).entries.lookup entry = some file) :
    after.entries.lookup entry = some file ∨ after.previous.lookup entry = some file := by
  by_cases out : entry ∈ movedOut schedule root (names before root)
  · right
    rw [leaves.previous entry out]
    exact held
  · left
    rw [leaves.lookup, if_neg, if_neg out, held]
    -- What is moved in was moved out before, or was not there.
    intro into
    have everyOut : movedOut schedule root (names before root) = names before root := by
      rw [movedIn] at into
      split at into
      · next opened =>
        simp only [Bool.and_eq_true] at opened
        rw [movedOut, if_pos opened.1.1]
        exact takeWhile_all opened.1.2
      · cases into
    have archived : entry ∈ backup.archive root := by
      rw [movedIn] at into
      split at into
      · exact List.takeWhile_subset _ into
      · cases into
    rw [everyOut] at out
    exact backup.archive_leaves root entry (kept_of_not_moved held out) archived

end

variable (backup before) in
def allRestored : RestoreState Table File :=
  (changing backup before).withDumps backup.dumps (restores backup)

theorem allRestored_outside {name : DatabaseName} (apart : name ∉ restores backup) :
    (allRestored backup before).host.databases name = before.databases name := by
  simp [allRestored, RestoreState.withDumps, Host.withDumps, apart, changing, Host.prepared]

variable (schedule backup) in
def swapBoth : Restore Table File Unit := do
  let data ← swapEntries schedule .data
  Exec.change fun state => { state with swapped := some { data } }
  let memory ← swapEntries schedule .memory
  Exec.change fun state => { state with swapped := some { data, memory := some memory } }

theorem apply_goes_on (all : stopsAt schedule backup = none) :
    (apply schedule backup).run (changing backup before) = (swapBoth schedule).run (allRestored backup before) := by
  have restored := restoreAll_run schedule backup.dumps (restores backup)
    (fun name member => (mem_restores backup).mp member) (changing backup before)
  simp only [all] at restored
  exact Exec.run_bind_ok restored

section
variable (goes : proceeds schedule options backup before = true)

include goes

/-- Of a restore that fails with every database restored. -/
theorem swap_verdict {error : RestoreError} {stopped : RestoreState Table File} {problem : Option RestoreError}
    {roots : RootName → Root File} {swapped : Option Swapped}
    (stops : (apply schedule backup).run (changing backup before) = (.error error, stopped))
    (taken : stopped.restored = restores backup)
    (files : (undoSwapped schedule stopped.swapped).run stopped = (.ok problem, { allRestored backup before with
      host := { (allRestored backup before).host with roots := roots }, swapped := swapped }))
    (kept : ∀ root entry file, (before.roots root).entries.lookup entry = some file →
      (roots root).entries.lookup entry = some file ∨ (roots root).previous.lookup entry = some file) :
    Truthful schedule options backup before ↔
      (∀ root entry, (roots root).entries.lookup entry = (before.roots root).entries.lookup entry) ∨
        (∃ name ∈ restores backup, undoesDatabase schedule name = false) ∨ problem.isNone = false ∨
        cleansUp schedule = false := by
  have outside : ∀ name, name ∉ restores backup → (allRestored backup before).host.databases name = before.databases name :=
    fun _ apart => allRestored_outside apart
  rw [undo_verdict goes stops (fun _ among => taken ▸ among) files ⟨rfl, rfl, rfl⟩
    (fun name among => dumped_isSome goes (taken ▸ among) _) outside rfl kept, taken]
  cases cleansUp schedule with
  | true =>
    rw [if_pos rfl, and_iff_right outside]
    simp [or_assoc, or_comm, or_left_comm]
  | false => simp +contextual

theorem dataSwap_verdict (all : stopsAt schedule backup = none) (breaks : swaps schedule backup before .data = false) :
    Truthful schedule options backup before ↔
      MovesCancel schedule backup before .data ∨
        (∃ name ∈ restores backup, undoesDatabase schedule name = false) ∨ cleansUp schedule = false := by
  obtain ⟨result, after, ran, leaves, how⟩ := swapEntries_run schedule .data (allRestored backup before)
  obtain ⟨message, rfl⟩ := (if_neg (ne_true_of_eq_false breaks)).mp how
  have dataLeaves : SwapLeaves schedule .data ((before.prepared backup).roots .data) after := leaves
  have stops := (apply_goes_on all).trans (Exec.run_bind_error ran)
  have verdict := @swap_verdict _ _ schedule options backup before goes _ _ none
    ((allRestored backup before).withRoot .data after).host.roots none stops rfl rfl (by
      intro root entry file held
      cases root with
      | data => exact dataLeaves.kept held
      | memory => exact .inl held)
  rw [verdict, dataLeaves.all_same_iff]
  · simp only [Option.isNone_none, Bool.true_eq_false, false_or]
  · rfl
  · rintro (_ | _) other
    · exact absurd rfl other
    · exact fun _ => rfl

end

variable (schedule) in
theorem undoSwapped_data (swap : Swap) (state : RestoreState Table File) :
    (undoSwapped schedule (some { data := swap })).run state =
      match (undoOne schedule swap).run state with
      | (.ok _, after) => (.ok none, after)
      | (.error error, after) => (.ok (some error), after) := by
  rcases ran : (undoOne schedule swap).run state with ⟨error | value, after⟩
  · have loop : (undoSwap schedule { data := swap }).run state = (.error error, after) :=
      Exec.run_bind_error ran
    exact Exec.run_attempt_error loop
  · have loop : (undoSwap schedule { data := swap }).run state = (.ok (), after) :=
      Exec.run_bind_ok ran
    exact Exec.run_attempt_ok loop

theorem SwapLeaves.through {root : RootName} {after : Root File}
    (leaves : SwapLeaves schedule root ((before.prepared backup).roots root) after)
    (works : swaps schedule backup before root = true) :
    (∀ entry, after.entries.lookup entry = if entry ∈ staged backup root then (backup.archive root).lookup entry
      else if entry ∈ names before root then none else (before.roots root).entries.lookup entry) ∧
    ∀ entry ∈ names before root, after.previous.lookup entry = (before.roots root).entries.lookup entry := by
  simp only [swapsEntries, Bool.and_eq_true] at works
  obtain ⟨⟨⟨opened, out⟩, listed⟩, into⟩ := works
  have outIs : movedOut schedule root (names before root) = names before root := by
    rw [movedOut, if_pos opened]
    exact takeWhile_all out
  have inIs : movedIn schedule root (names before root) (staged backup root) = staged backup root := by
    rw [movedIn, opened, out, listed]
    exact takeWhile_all into
  refine ⟨fun entry => ?_, fun entry among => ?_⟩
  · rw [leaves.lookup, inIs, outIs]
  · apply leaves.previous
    change entry ∈ movedOut schedule root (names before root)
    rw [outIs]
    exact among

variable (backup before) in
def dataSwapped (after : Root File) : RestoreState Table File :=
  { (allRestored backup before).withRoot .data after with
    swapped := some { data := ⟨.data, names before .data, staged backup .data⟩ } }

theorem swapBoth_goes_on {after : Root File}
    (ran : (swapEntries schedule .data).run (allRestored backup before) =
      (.ok ⟨.data, names before .data, staged backup .data⟩, (allRestored backup before).withRoot .data after)) :
    (swapBoth schedule).run (allRestored backup before) = (swapEntries schedule .memory >>= fun memory =>
      Exec.change fun state => { state with
        swapped := some { data := ⟨.data, names before .data, staged backup .data⟩, memory := some memory } }).run
      (dataSwapped backup before after) := by
  rw [swapBoth, Exec.run_bind_ok ran, Exec.run_change_bind]
  rfl

theorem dataSwap_ok (works : swaps schedule backup before .data = true) :
    ∃ after, (swapEntries schedule .data).run (allRestored backup before) =
      (.ok ⟨.data, names before .data, staged backup .data⟩, (allRestored backup before).withRoot .data after) ∧
      SwapLeaves schedule .data ((before.prepared backup).roots .data) after := by
  obtain ⟨result, after, ran, leaves, how⟩ := swapEntries_run schedule .data (allRestored backup before)
  obtain rfl : result = .ok ⟨.data, names before .data, staged backup .data⟩ := (if_pos works).mp how
  exact ⟨after, ran, leaves⟩

theorem memorySwap_verdict (goes : proceeds schedule options backup before = true)
    (all : stopsAt schedule backup = none) (works : swaps schedule backup before .data = true)
    (breaks : swaps schedule backup before .memory = false) : Truthful schedule options backup before ↔
      MovesCancel schedule backup before .memory ∨
        (∃ name ∈ restores backup, undoesDatabase schedule name = false) ∨
        undoesFiles schedule .data (names before .data) (staged backup .data) = false ∨
        cleansUp schedule = false := by
  obtain ⟨data, dataRan, dataLeaves⟩ := dataSwap_ok works
  obtain ⟨result, memory, memoryRan, leaves, how⟩ :=
    swapEntries_run schedule .memory (dataSwapped backup before data)
  have memoryLeaves : SwapLeaves schedule .memory ((before.prepared backup).roots .memory) memory := leaves
  obtain ⟨message, rfl⟩ := (if_neg (ne_true_of_eq_false breaks)).mp how
  have stops : (apply schedule backup).run (changing backup before) = _ :=
    (apply_goes_on all).trans ((swapBoth_goes_on dataRan).trans (Exec.run_bind_error memoryRan))
  -- The undo first takes the data root back.
  obtain ⟨dataEntries, dataPrevious⟩ := dataLeaves.through works
  obtain ⟨undoing, back, backRan, keptData, howBack⟩ := undoOne_run schedule .data (before.roots .data).entries
    (backup.archive .data) (backup.archive_leaves .data) ((dataSwapped backup before data).withRoot .memory memory)
    dataEntries dataPrevious
  change (undoOne schedule ⟨.data, names before .data, staged backup .data⟩).run _ = _ at backRan
  have told := undoSwapped_data schedule ⟨.data, names before .data, staged backup .data⟩
    ((dataSwapped backup before data).withRoot .memory memory)
  rw [backRan] at told
  obtain ⟨problem, files, problemIs⟩ : ∃ problem, (undoSwapped schedule
      ((dataSwapped backup before data).withRoot .memory memory).swapped).run
        ((dataSwapped backup before data).withRoot .memory memory) =
      (.ok problem, ((dataSwapped backup before data).withRoot .memory memory).withRoot .data back) ∧
      (problem.isNone = undoesFiles schedule .data (names before .data) (staged backup .data)) := by
    by_cases undoes : undoesFiles schedule .data (names before .data) (staged backup .data) = true
    · obtain ⟨rfl, -⟩ := (if_pos undoes).mp howBack
      exact ⟨none, told, undoes.symm⟩
    · obtain ⟨why, rfl⟩ := (if_neg undoes).mp howBack
      exact ⟨some _, told, (Bool.not_eq_true _ ▸ undoes).symm⟩
  have verdict := @swap_verdict _ _ schedule options backup before goes _ _ problem
    (((dataSwapped backup before data).withRoot .memory memory).withRoot .data back).host.roots _ stops rfl files (by
      intro root entry file held
      cases root with
      | data => exact keptData entry file held
      | memory => exact memoryLeaves.kept held)
  rw [verdict, problemIs]
  by_cases undoes : undoesFiles schedule .data (names before .data) (staged backup .data) = true
  · have whole := ((if_pos undoes).mp howBack).2
    rw [memoryLeaves.all_same_iff rfl]
    rintro (_ | _) other
    · exact whole
    · exact absurd rfl other
  · simp [undoes]

variable (backup before) in
structure Applied (host : Host Table File) : Prop where
  restored : ∀ name ∈ restores backup, host.databases name = backup.dumps name
  outside : ∀ name, name ∉ restores backup → host.databases name = before.databases name
  moved : ∀ root, ∀ entry ∈ names before root,
    (host.roots root).entries.lookup entry = (backup.archive root).lookup entry
  staged : ∀ root entry file, (backup.archive root).lookup entry = some file →
    (host.roots root).entries.lookup entry = some file
  kept : ∀ root entry file, entry ∉ names before root → (before.roots root).entries.lookup entry = some file →
    (host.roots root).entries.lookup entry = some file

theorem Applied.inPlace {host : Host Table File} (applied : Applied backup before host) : InPlace backup host where
  databases name tables dumped := by
    rw [applied.restored name ((mem_restores backup).mpr (by rw [dumped]; rfl)), dumped]
  entries := applied.staged

theorem Applied.of_sameFiles {host after : Host Table File} (applied : Applied backup before host)
    (databases : after.databases = host.databases)
    (entries : ∀ root, (after.roots root).entries = (host.roots root).entries) : Applied backup before after where
  restored name among := by rw [databases, applied.restored name among]
  outside name apart := by rw [databases, applied.outside name apart]
  moved root entry among := by rw [entries, applied.moved root entry among]
  staged root entry file found := by rw [entries, applied.staged root entry file found]
  kept root entry file apart held := by rw [entries, applied.kept root entry file apart held]

theorem lookup_of_not_staged {root : RootName} {entry : String} (apart : entry ∉ staged backup root) :
    (backup.archive root).lookup entry = none :=
  AList.lookup_eq_none.mpr apart

theorem applied_root {root : RootName} {after : Root File}
    (leaves : SwapLeaves schedule root ((before.prepared backup).roots root) after)
    (works : swaps schedule backup before root = true) :
    (∀ entry ∈ names before root, after.entries.lookup entry = (backup.archive root).lookup entry) ∧
    (∀ entry file, (backup.archive root).lookup entry = some file → after.entries.lookup entry = some file) ∧
    ∀ entry file, entry ∉ names before root → (before.roots root).entries.lookup entry = some file →
      after.entries.lookup entry = some file := by
  obtain ⟨entries, -⟩ := leaves.through works
  refine ⟨fun entry among => ?_, fun entry file found => ?_, fun entry file apart held => ?_⟩
  · rw [entries]
    split
    · rfl
    · next unstaged => rw [lookup_of_not_staged unstaged]
  · rw [entries, if_pos, found]
    exact AList.lookup_isSome.mp (by rw [found]; rfl)
  · rw [entries, if_neg, if_neg apart, held]
    exact backup.archive_leaves root entry (kept_of_not_moved held apart)

theorem apply_run (goes : proceeds schedule options backup before = true) (all : stopsAt schedule backup = none)
    (dataWorks : swaps schedule backup before .data = true) (memoryWorks : swaps schedule backup before .memory = true) :
    ∃ state, (apply schedule backup).run (changing backup before) = (.ok (), state) ∧
      state.changed = true ∧ state.keepRollback = false ∧
      state.host.rollback = (before.prepared backup).rollback ∧ Applied backup before state.host ∧
      ∀ root, ∀ entry ∈ names before root,
        (state.host.roots root).previous.lookup entry = (before.roots root).entries.lookup entry := by
  obtain ⟨data, dataRan, dataLeaves⟩ := dataSwap_ok dataWorks
  obtain ⟨result, memory, memoryRan, leaves, how⟩ :=
    swapEntries_run schedule .memory (dataSwapped backup before data)
  have memoryLeaves : SwapLeaves schedule .memory ((before.prepared backup).roots .memory) memory := leaves
  obtain rfl : result = .ok ⟨.memory, names before .memory, staged backup .memory⟩ := (if_pos memoryWorks).mp how
  refine ⟨_, (apply_goes_on all).trans ((swapBoth_goes_on dataRan).trans (Exec.run_bind_ok memoryRan)), rfl, rfl, rfl,
    ⟨fun name among => ?_, fun name apart => allRestored_outside apart, fun root => ?_, fun root => ?_,
      fun root => ?_⟩, fun root => ?_⟩
  · obtain ⟨tables, found⟩ := (present_of_proceeds goes among).2
    obtain ⟨dump, dumped⟩ := Option.isSome_iff_exists.mp ((mem_restores backup).mp among)
    change (if name ∈ restores backup then ((before.prepared backup).databases name).map fun _ =>
      (backup.dumps name).getD [] else _) = _
    rw [if_pos among, dumped]
    simp [Host.prepared, found]
  · cases root with
    | data => exact (applied_root dataLeaves dataWorks).1
    | memory => exact (applied_root memoryLeaves memoryWorks).1
  · cases root with
    | data => exact (applied_root dataLeaves dataWorks).2.1
    | memory => exact (applied_root memoryLeaves memoryWorks).2.1
  · cases root with
    | data => exact (applied_root dataLeaves dataWorks).2.2
    | memory => exact (applied_root memoryLeaves memoryWorks).2.2
  · cases root with
    | data => exact (dataLeaves.through dataWorks).2
    | memory => exact (memoryLeaves.through memoryWorks).2

variable (schedule) in
theorem dropPrevious_run (root : RootName) (state : RestoreState Table File) : ∃ previous,
    (dropPrevious schedule root).run state =
      (if (schedule (.dropPrevious root)).isDone then .ok () else .error (schedule (.dropPrevious root)).problem,
        state.withRoot root { state.host.roots root with previous := previous }) ∧
    ∀ entry, previous.lookup entry =
      if !(schedule (.dropPrevious root)).isDone && (schedule (.dropPrevious root)).left entry then
        (state.host.roots root).previous.lookup entry
      else none := by
  rw [dropPrevious, perform_run]
  by_cases dropped : (schedule (.dropPrevious root)).isDone = true
  · rw [if_pos dropped]
    refine ⟨∅, ?_, fun entry => by simp [dropped]⟩
    rw [onHost_setRoot, if_pos dropped]
  · rw [if_neg dropped]
    refine ⟨(state.host.roots root).previous.leave (schedule (.dropPrevious root)).left
      (state.host.roots root).previous.keys, ?_, fun entry => ?_⟩
    · rw [onHost_setRoot, if_neg dropped]
    · rw [leave_keys_lookup]
      simp [dropped]

variable (schedule before) in
theorem dropBoth_run (state : RestoreState Table File)
    (previous : ∀ root, ∀ entry ∈ names before root,
      (state.host.roots root).previous.lookup entry = (before.roots root).entries.lookup entry) :
    ∃ result host, (do
      dropPrevious schedule .data
      dropPrevious schedule .memory : Restore Table File Unit).run state = (result, { state with host := host }) ∧
    host.databases = state.host.databases ∧ host.rollback = state.host.rollback ∧
    (∀ root, (host.roots root).entries = (state.host.roots root).entries) ∧
    (∀ root, ∀ entry ∈ names before root, (host.roots root).previous.lookup entry =
      if previousLeft schedule root entry then (before.roots root).entries.lookup entry else none) ∧
    if (schedule (.dropPrevious .data)).isDone && (schedule (.dropPrevious .memory)).isDone then result = .ok ()
    else ∃ message, result = .error (.failed message) := by
  obtain ⟨data, first, dataLeft⟩ := dropPrevious_run schedule .data state
  by_cases dataDone : (schedule (.dropPrevious .data)).isDone = true
  · rw [if_pos dataDone] at first
    obtain ⟨memory, second, memoryLeft⟩ := dropPrevious_run schedule .memory
      (state.withRoot .data { state.host.roots .data with previous := data })
    rw [Exec.run_bind_ok first, second]
    refine ⟨_, _, rfl, rfl, rfl, fun root => ?_, fun root entry among => ?_, ?_⟩
    · cases root <;> rfl
    · cases root with
      | data =>
        change data.lookup entry = _
        rw [dataLeft]
        simp [previousLeft, dataDone]
      | memory =>
        change memory.lookup entry = _
        rw [memoryLeft]
        change (if _ then (state.host.roots .memory).previous.lookup entry else none) = _
        rw [previous .memory entry among]
        simp [previousLeft, dataDone]
    · by_cases memoryDone : (schedule (.dropPrevious .memory)).isDone = true
      · simp [dataDone, memoryDone]
      · simp [memoryDone]
  · rw [if_neg dataDone] at first
    rw [Exec.run_bind_error first]
    refine ⟨_, _, rfl, rfl, rfl, fun root => ?_, fun root entry among => ?_, ?_⟩
    · cases root <;> rfl
    · cases root with
      | data =>
        change data.lookup entry = _
        rw [dataLeft, previous .data entry among]
        simp [previousLeft]
      | memory =>
        change (state.host.roots .memory).previous.lookup entry = _
        rw [previous .memory entry among]
        simp [previousLeft, dataDone]
    · simp [dataDone]

/-- Once everything is in place, what is kept aside is what the removals have left. -/
theorem Applied.kept_iff (goes : proceeds schedule options backup before = true) {host : Host Table File}
    (applied : Applied backup before host)
    (rollback : host.rollback = rollbackAfter schedule false (before.prepared backup).rollback)
    (previous : ∀ root, ∀ entry ∈ names before root, (host.roots root).previous.lookup entry =
      if previousLeft schedule root entry then (before.roots root).entries.lookup entry else none) :
    KeptAside before host ↔ OldLeft schedule backup before := by
  have copied : ∀ name ∈ restores backup, ∃ tables, before.databases name = some tables ∧
      (host.rollback name = some tables ↔ rollbackLeft schedule name = true) := by
    intro name among
    obtain ⟨tables, found⟩ := (present_of_proceeds goes among).2
    refine ⟨tables, found, ?_⟩
    rw [rollback]
    exact rollbackAfter_lookup schedule (by rw [(prepared_rollback goes among).1, found])
  constructor
  · intro kept
    refine ⟨fun name among => ?_, fun root entry among => ?_⟩
    · obtain ⟨tables, found, left⟩ := copied name among
      rcases kept.databases name tables found with same | aside
      · rw [applied.restored name among] at same
        exact .inl (found.trans same.symm)
      · exact .inr (left.mp aside)
    · obtain ⟨file, found⟩ := lookup_some_of_mem (mem_namesToMove.mp among).1
      rcases kept.entries root entry file found with same | aside
      · rw [applied.moved root entry among] at same
        exact .inl (found.trans same.symm)
      · rw [previous root entry among] at aside
        split at aside
        · next left => exact .inr left
        · cases aside
  · rintro ⟨databases, entries⟩
    refine ⟨fun name tables held => ?_, fun root entry file held => ?_⟩
    · by_cases among : name ∈ restores backup
      · obtain ⟨same, found, left⟩ := copied name among
        obtain rfl : tables = same := Option.some.inj (held.symm.trans found)
        rcases databases name among with equal | isLeft
        · exact .inl (by rw [applied.restored name among, ← equal, held])
        · exact .inr (left.mpr isLeft)
      · exact .inl (by rw [applied.outside name among, held])
    · by_cases among : entry ∈ names before root
      · rcases entries root entry among with equal | isLeft
        · exact .inl (by rw [applied.moved root entry among, ← equal, held])
        · exact .inr (by rw [previous root entry among, if_pos isLeft, held])
      · exact .inl (applied.kept root entry file among held)

theorem applied_verdict (goes : proceeds schedule options backup before = true) (all : stopsAt schedule backup = none)
    (dataWorks : swaps schedule backup before .data = true) (memoryWorks : swaps schedule backup before .memory = true) :
    Truthful schedule options backup before ↔
      finishes schedule = true ∨ OldLeft schedule backup before := by
  obtain ⟨state, ran, changed, keep, rollback, applied, previous⟩ := apply_run goes all dataWorks memoryWorks
  obtain ⟨result, dropped, drops, databases, copies, entries, left, how⟩ := dropBoth_run schedule before state previous
  have exchanged : (exchange schedule options backup).run { host := before } =
      (result, { state with host := dropped }) := by
    rw [exchange_run goes, Exec.run_bind_ok (Exec.run_rescue_ok ran)]
    exact drops
  obtain ⟨cleaned, host, same, rollbackIs, howCleaned, told⟩ := restore_run goes exchanged changed
  have appliedHost : Applied backup before host := by
    apply applied.of_sameFiles
    · exact same.databases.trans databases
    · intro root
      exact (same.entries root).trans (entries root)
  have kept_iff : KeptAside before host ↔ OldLeft schedule backup before := by
    apply appliedHost.kept_iff goes
    · rw [rollbackIs]
      simp only [keep, copies, rollback]
    · intro root entry among
      rw [same.previous]
      exact left root entry among
  simp only [keep, Bool.false_or] at howCleaned
  rw [Truthful, told]
  -- The restore returns when the removals, the clean-up and the ownership work, and fails otherwise.
  by_cases finished : finishes schedule = true
  · have parts := finished
    simp only [finishes, cleansUp, Bool.and_eq_true] at parts
    obtain ⟨⟨⟨dataDone, memoryDone⟩, cleaning⟩, owned⟩ := parts
    rw [if_pos (by rw [dataDone, memoryDone]; rfl)] at how
    rw [if_pos (by rw [cleaning.1, cleaning.2]; rfl)] at howCleaned
    subst how howCleaned
    simp only [owned, if_true, finished, true_or, iff_true]
    exact appliedHost.inPlace
  · simp only [finished, false_or, Bool.false_eq_true]
    rw [← kept_iff]
    split at howCleaned
    case isFalse =>
      obtain ⟨message, rfl⟩ := howCleaned
      exact Iff.rfl
    case isTrue clean =>
      subst howCleaned
      split at how
      case isFalse =>
        obtain ⟨message, rfl⟩ := how
        exact Iff.rfl
      case isTrue both =>
        subst how
        have notOwned : ¬(schedule .setTreeOwnership).isDone = true := by
          intro owned
          apply finished
          rw [finishes, both, cleansUp, clean, owned]
          rfl
        obtain ⟨message, problem⟩ := (schedule .setTreeOwnership).problem_failed
        simp only [notOwned, problem]
        exact Iff.rfl

end

/-! ## The result -/

/-- One table before the restore, another in the backup, and nothing else. -/
def sampleHost : Host String String where
  databases
    | .core => some ["current"]
    | _ => none
  roots := fun _ => ⟨∅, ∅, ∅⟩
  rollback := fun _ => none

def sampleBackup : Backup String String where
  dumps
    | .core => some ["saved"]
    | _ => none
  archive := fun _ => ∅
  core_dumped := rfl
  archive_leaves := fun _ _ _ => AList.notMem_empty _

def loadFails : Schedule
  | .load _ => .fails "pg_restore failed (1)." fun _ => false
  | _ => .done

def sampleOptions : RestoreOptions where
  confirmation := "RESTORE"
  backupDirectory := "/backups/spaceapp-backup-20261016T120000000Z"
  databaseName := "spaceapp"

end SpaceApp.Maintenance
