import Mathlib.Data.List.TakeWhile
import SpaceApp.Maintenance.Restore

/-! What each operation of a restore does to the host, when it works and where it breaks off. -/

set_option autoImplicit false

namespace SpaceApp.Maintenance

open SpaceApp.Foundation

section

variable {Table File : Type}

/-! ## Single steps -/

def Outcome.problem : Outcome → RestoreError
  | .done => .failed ""
  | .fails message _ => .failed message

def Outcome.left : Outcome → String → Bool
  | .done => fun _ => true
  | .fails _ left => left

def RestoreState.onHost (state : RestoreState Table File) (effect : Host Table File → Host Table File) :
    RestoreState Table File :=
  { state with host := effect state.host }

theorem perform_run (outcome : Outcome) (effect : Host Table File → Host Table File)
    (partly : (String → Bool) → Host Table File → Host Table File) (state : RestoreState Table File) :
    (perform outcome effect partly).run state =
      if outcome.isDone then (.ok (), state.onHost effect)
      else (.error outcome.problem, state.onHost (partly outcome.left)) := by
  cases outcome <;> rfl

theorem command_run (outcome : Outcome) (effect : Host Table File → Host Table File)
    (state : RestoreState Table File) : (command outcome effect).run state =
      if outcome.isDone then (.ok (), state.onHost effect) else (.error outcome.problem, state) :=
  perform_run outcome effect _ state

theorem check_run (outcome : Outcome) (state : RestoreState Table File) :
    (check outcome : Restore Table File Unit).run state =
      if outcome.isDone then (.ok (), state) else (.error outcome.problem, state) :=
  command_run outcome id state

section

variable {outcome : Outcome} {effect : Host Table File → Host Table File}
  {partly : (String → Bool) → Host Table File → Host Table File} {state : RestoreState Table File}

theorem perform_done (good : outcome.isDone = true) :
    (perform outcome effect partly).run state = (.ok (), state.onHost effect) := by
  rw [perform_run, if_pos good]

theorem perform_fails (bad : ¬outcome.isDone = true) : (perform outcome effect partly).run state =
    (.error outcome.problem, state.onHost (partly outcome.left)) := by
  rw [perform_run, if_neg bad]

theorem command_done (good : outcome.isDone = true) :
    (command outcome effect).run state = (.ok (), state.onHost effect) :=
  perform_done good

theorem command_fails (bad : ¬outcome.isDone = true) :
    (command outcome effect).run state = (.error outcome.problem, state) :=
  perform_fails bad

theorem check_done (good : outcome.isDone = true) :
    (check outcome : Restore Table File Unit).run state = (.ok (), state) :=
  command_done good

theorem check_fails (bad : ¬outcome.isDone = true) :
    (check outcome : Restore Table File Unit).run state = (.error outcome.problem, state) :=
  command_fails bad

end

@[simp] theorem Outcome.problem_failed (outcome : Outcome) : ∃ message, outcome.problem = .failed message := by
  cases outcome with
  | done => exact ⟨_, rfl⟩
  | fails message left => exact ⟨message, rfl⟩

/-! ## Databases -/

theorem setDatabase_twice (host : Host Table File) (database : DatabaseName)
    (first second : Schema Table → Schema Table) : (host.setDatabase database first).setDatabase database second =
      host.setDatabase database (second ∘ first) := by
  simp only [Host.setDatabase, Host.mk.injEq, and_true]
  funext name
  split
  · rw [Option.map_map]
  · rfl

theorem restoreDatabase_run (schedule : Schedule) (emptied loaded : Step) (database : DatabaseName)
    (tables : Schema Table) (state : RestoreState Table File) :
    (restoreDatabase schedule emptied loaded database (some tables)).run state =
      if (schedule emptied).isDone && (schedule loaded).isDone then
        (.ok (), state.onHost (·.setDatabase database fun _ => tables))
      else if (schedule emptied).isDone then
        (.error (schedule loaded).problem, state.onHost (emptySchema database))
      else (.error (schedule emptied).problem, state) := by
  unfold restoreDatabase
  by_cases first : (schedule emptied).isDone = true
  · rw [Exec.run_bind_ok (command_done first)]
    simp only [first, Bool.true_and, if_true]
    rw [command_run]
    split
    · have both : loadDump database tables (emptySchema database state.host) =
          state.host.setDatabase database fun _ => tables := by
        unfold loadDump emptySchema
        rw [setDatabase_twice]
        rfl
      simp only [RestoreState.onHost, both]
    · rfl
  · rw [Exec.run_bind_error (command_fails first)]
    simp only [first, Bool.false_and, if_false, Bool.false_eq_true]

def Host.withDumps (host : Host Table File) (dumps : Dumps Table) (names : List DatabaseName) :
    Host Table File :=
  { host with
    databases := fun name =>
      if name ∈ names then (host.databases name).map fun _ => (dumps name).getD [] else host.databases name }

theorem withDumps_nil (host : Host Table File) (dumps : Dumps Table) : host.withDumps dumps [] = host := by
  simp [Host.withDumps]

theorem withDumps_cons (host : Host Table File) (dumps : Dumps Table) (name : DatabaseName) (names : List DatabaseName) :
    (host.setDatabase name fun _ => (dumps name).getD []).withDumps dumps names =
      host.withDumps dumps (name :: names) := by
  simp only [Host.withDumps, Host.setDatabase, Host.mk.injEq, and_true]
  funext other
  by_cases same : other = name
  · subst same
    cases host.databases other <;> simp
  · simp [same]

end

/-! ## Moving entries -/

section

variable {File : Type}

theorem erase_lookup (name entry : String) (directory : Directory File) :
    (directory.erase name).lookup entry = if entry = name then none else directory.lookup entry := by
  split
  · next same => rw [same, AList.lookup_erase]
  · next differ => exact AList.lookup_erase_ne differ

def moveAll (names : List String) (directories : Directory File × Directory File) :
    Directory File × Directory File :=
  names.foldl (fun pair entry => moveEntry entry pair.1 pair.2) directories

theorem moveEntry_source (entry other : String) (source target : Directory File) :
    (moveEntry entry source target).1.lookup other =
      if other = entry then none else source.lookup other := by
  unfold moveEntry
  split
  · exact erase_lookup entry other source
  · next missing =>
    split
    · next same => rw [same, missing]
    · rfl

theorem moveEntry_target (entry other : String) (source target : Directory File) :
    (moveEntry entry source target).2.lookup other =
      if other = entry then (source.lookup other).or (target.lookup other) else target.lookup other := by
  unfold moveEntry
  split
  · next file found =>
    split
    · next same =>
      rw [same, AList.lookup_insert, found]
      rfl
    · next differ => exact AList.lookup_insert_ne differ
  · next missing =>
    split
    · next same =>
      rw [same, missing]
      rfl
    · rfl

theorem moveAll_source (names : List String) (source target : Directory File) (entry : String) :
    (moveAll names (source, target)).1.lookup entry =
      if entry ∈ names then none else source.lookup entry := by
  induction names generalizing source target with
  | nil => rfl
  | cons name names ih =>
    change (moveAll names (moveEntry name source target)).1.lookup entry = _
    rw [ih, moveEntry_source]
    by_cases same : entry = name <;> simp [same]

theorem moveAll_target (names : List String) (source target : Directory File) (entry : String) :
    (moveAll names (source, target)).2.lookup entry =
      if entry ∈ names then (source.lookup entry).or (target.lookup entry) else target.lookup entry := by
  induction names generalizing source target with
  | nil => rfl
  | cons name names ih =>
    change (moveAll names (moveEntry name source target)).2.lookup entry = _
    rw [ih, moveEntry_source, moveEntry_target]
    by_cases same : entry = name
    · by_cases among : entry ∈ names <;> simp [same]
    · simp [same]

theorem leave_lookup (left : String → Bool) (names : List String) (directory : Directory File)
    (entry : String) : (Directory.leave left names directory).lookup entry =
      if entry ∈ names ∧ left entry = false then none else directory.lookup entry := by
  induction names generalizing directory with
  | nil => simp [Directory.leave]
  | cons name names ih =>
    rw [Directory.leave]
    split
    · next stays =>
      rw [ih]
      by_cases same : entry = name
      · simp [same, stays]
      · simp [same]
    · next goes =>
      rw [ih, erase_lookup]
      by_cases same : entry = name <;> simp [same, goes]

theorem leave_keys_lookup (left : String → Bool) (directory : Directory File) (entry : String) :
    (Directory.leave left directory.keys directory).lookup entry =
      if left entry then directory.lookup entry else none := by
  rw [leave_lookup]
  cases stays : left entry with
  | true => simp
  | false =>
    by_cases among : entry ∈ directory.keys
    · simp [among]
    · simp only [among, false_and, if_false, Bool.false_eq_true]
      exact AList.lookup_eq_none.mpr among

end

/-! ## Operations on one root -/

section

variable {Table File : Type}

def RestoreState.withRoot (state : RestoreState Table File) (root : RootName) (files : Root File) :
    RestoreState Table File :=
  state.onHost (·.setRoot root fun _ => files)

section
variable (state : RestoreState Table File)

@[simp] theorem withRoot_same (root : RootName) (files : Root File) : (state.withRoot root files).host.roots root = files := by
  simp [RestoreState.withRoot, RestoreState.onHost, Host.setRoot]

@[simp] theorem withRoot_keepRollback (root : RootName) (files : Root File) :
    (state.withRoot root files).keepRollback = state.keepRollback := rfl

theorem withRoot_other {root other : RootName} (files : Root File)
    (differ : other ≠ root) : (state.withRoot root files).host.roots other = state.host.roots other := by
  simp [RestoreState.withRoot, RestoreState.onHost, Host.setRoot, differ]

@[simp] theorem withRoot_twice (root : RootName) (first second : Root File) :
    (state.withRoot root first).withRoot root second = state.withRoot root second := by
  simp only [RestoreState.withRoot, RestoreState.onHost, Host.setRoot, RestoreState.mk.injEq, Host.mk.injEq,
    and_true, true_and]
  funext name
  split <;> rfl

@[simp] theorem withRoot_self (root : RootName) : state.withRoot root (state.host.roots root) = state := by
  have same : state.host.setRoot root (fun _ => state.host.roots root) = state.host := by
    simp only [Host.setRoot]
    congr 1
    funext name
    split
    · next same => rw [same]
    · rfl
  simp only [RestoreState.withRoot, RestoreState.onHost, same]

theorem onHost_setRoot (root : RootName) (change : Root File → Root File) :
    state.onHost (·.setRoot root change) = state.withRoot root (change (state.host.roots root)) := by
  simp only [RestoreState.withRoot, RestoreState.onHost, Host.setRoot, RestoreState.mk.injEq, Host.mk.injEq,
    and_true, true_and]
  funext name
  split
  · next same => rw [same]
  · rfl

end

theorem foldl_withRoot (root : RootName) (change : String → Root File → Root File) (names : List String)
    (state : RestoreState Table File) :
    names.foldl (fun state entry => state.onHost (·.setRoot root (change entry))) state =
      state.withRoot root (names.foldl (fun files entry => change entry files) (state.host.roots root)) := by
  induction names generalizing state with
  | nil => exact (withRoot_self state root).symm
  | cons name names ih => rw [List.foldl_cons, ih, onHost_setRoot, withRoot_same, withRoot_twice, List.foldl_cons]

variable (schedule : Schedule)

def loopResult (step : String → Step) (names : List String) : Except RestoreError Unit :=
  match names.find? fun entry => !(schedule (step entry)).isDone with
  | none => .ok ()
  | some entry => .error (schedule (step entry)).problem

theorem none_fails {Name : Type} {works : Name → Bool} {names : List Name} :
    (names.find? fun name => !works name) = none ↔ names.all works = true := by
  simp only [List.find?_eq_none, List.all_eq_true, Bool.not_eq_true', Bool.not_eq_false]

theorem loopResult_ok {step : String → Step} {names : List String}
    (all : names.all (fun entry => (schedule (step entry)).isDone) = true) :
    loopResult schedule step names = .ok () := by
  rw [loopResult, none_fails.mpr all]

theorem loopResult_error {step : String → Step} {names : List String}
    (some_ : ¬names.all (fun entry => (schedule (step entry)).isDone) = true) :
    ∃ message, loopResult schedule step names = .error (.failed message) := by
  cases found : names.find? (fun entry => !(schedule (step entry)).isDone) with
  | none => exact absurd (none_fails.mp found) some_
  | some entry =>
    rw [loopResult, found]
    obtain ⟨message, problem⟩ := (schedule (step entry)).problem_failed
    exact ⟨message, congrArg Except.error problem⟩

theorem takeWhile_all {works : String → Bool} {names : List String} (all : names.all works = true) :
    names.takeWhile works = names := by
  rw [List.takeWhile_eq_self_iff]
  exact List.all_eq_true.mp all

theorem rootLoop_run (root : RootName) (step : String → Step) (change : String → Root File → Root File)
    (names : List String) (state : RestoreState Table File) :
    (Exec.forEach names fun entry => command (schedule (step entry)) (·.setRoot root (change entry))).run state =
      (loopResult schedule step names, state.withRoot root
        ((names.takeWhile fun entry => (schedule (step entry)).isDone).foldl
          (fun files entry => change entry files) (state.host.roots root))) := by
  rw [Exec.forEach_run (fun entry _ world => command_run (schedule (step entry)) (·.setRoot root (change entry)) world)]
  rw [loopResult]
  cases found : names.find? (fun entry => !(schedule (step entry)).isDone) with
  | none => simp only [takeWhile_all (none_fails.mp found), foldl_withRoot]
  | some entry => simp only [foldl_withRoot]

def Root.moveOut (files : Root File) (names : List String) : Root File :=
  { files with
    entries := (moveAll names (files.entries, files.previous)).1
    previous := (moveAll names (files.entries, files.previous)).2 }

def Root.moveIn (files : Root File) (names : List String) : Root File :=
  { files with
    staging := (moveAll names (files.staging, files.entries)).1
    entries := (moveAll names (files.staging, files.entries)).2 }

def Root.moveBack (files : Root File) (names : List String) : Root File :=
  { files with
    previous := (moveAll names (files.previous, files.entries)).1
    entries := (moveAll names (files.previous, files.entries)).2 }

section
variable (root : RootName) (names : List String) (state : RestoreState Table File)

theorem moveEntriesOut_run :
    (moveEntriesOut schedule root names).run state = (loopResult schedule (.moveOut root) names,
      state.withRoot root ((state.host.roots root).moveOut
        (names.takeWhile fun entry => (schedule (.moveOut root entry)).isDone))) := by
  rw [moveEntriesOut, rootLoop_run]
  generalize names.takeWhile _ = done
  generalize state.host.roots root = files
  induction done generalizing files with
  | nil => rfl
  | cons name done ih => exact ih _

theorem moveEntriesIn_run : (moveEntriesIn schedule root names).run state = (loopResult schedule (.moveIn root) names,
      state.withRoot root ((state.host.roots root).moveIn
        (names.takeWhile fun entry => (schedule (.moveIn root entry)).isDone))) := by
  rw [moveEntriesIn, rootLoop_run]
  generalize names.takeWhile _ = done
  generalize state.host.roots root = files
  induction done generalizing files with
  | nil => rfl
  | cons name done ih => exact ih _

theorem moveEntriesBack_run :
    (moveEntriesBack schedule root names).run state = (loopResult schedule (.undoMoveOut root) names,
      state.withRoot root ((state.host.roots root).moveBack
        (names.takeWhile fun entry => (schedule (.undoMoveOut root entry)).isDone))) := by
  rw [moveEntriesBack, rootLoop_run]
  generalize names.takeWhile _ = done
  generalize state.host.roots root = files
  induction done generalizing files with
  | nil => rfl
  | cons name done ih => exact ih _

end

/-! ## The swap -/

def namesToMove (root : RootName) (directory : Directory File) : List String :=
  directory.keys.filter fun entry => !keeps root entry

def opensSwap (root : RootName) : Bool :=
  (schedule (.clearPrevious root)).isDone && (schedule (.makePrevious root)).isDone &&
    (schedule (.readRoot root)).isDone

def movesOut (root : RootName) (names : List String) : Bool :=
  names.all fun entry => (schedule (.moveOut root entry)).isDone

def movesIn (root : RootName) (staged : List String) : Bool :=
  staged.all fun entry => (schedule (.moveIn root entry)).isDone

def movedOut (root : RootName) (names : List String) : List String :=
  if opensSwap schedule root then names.takeWhile fun entry => (schedule (.moveOut root entry)).isDone else []

def movedIn (root : RootName) (names staged : List String) : List String :=
  if opensSwap schedule root && movesOut schedule root names && (schedule (.readStaging root)).isDone then
    staged.takeWhile fun entry => (schedule (.moveIn root entry)).isDone
  else []

def swapsEntries (root : RootName) (names staged : List String) : Bool :=
  opensSwap schedule root && movesOut schedule root names && (schedule (.readStaging root)).isDone &&
    movesIn schedule root staged

/-- The root after a swap that is through or has broken off. -/
structure SwapLeaves (root : RootName) (files after : Root File) : Prop where
  entries : ∀ entry, after.entries.lookup entry =
    if entry ∈ movedIn schedule root (namesToMove root files.entries) files.staging.keys then
      files.staging.lookup entry
    else if entry ∈ movedOut schedule root (namesToMove root files.entries) then none
    else files.entries.lookup entry
  previous : ∀ entry ∈ movedOut schedule root (namesToMove root files.entries),
    after.previous.lookup entry = files.entries.lookup entry

theorem SwapLeaves.closed {root : RootName} {files after : Root File} (entries : after.entries = files.entries)
    (shut : opensSwap schedule root = false) : SwapLeaves schedule root files after where
  entries entry := by simp [movedIn, movedOut, shut, entries]
  previous entry among := by simp [movedOut, shut] at among

theorem mem_namesToMove {root : RootName} {directory : Directory File} {entry : String} :
    entry ∈ namesToMove root directory ↔ entry ∈ directory.keys ∧ keeps root entry = false := by
  simp [namesToMove]

theorem lookup_some_of_mem {directory : Directory File} {entry : String} (among : entry ∈ directory.keys) :
    ∃ file, directory.lookup entry = some file :=
  Option.isSome_iff_exists.mp (AList.lookup_isSome.mpr among)

theorem kept_of_not_moved {root : RootName} {directory : Directory File} {entry : String} {file : File}
    (held : directory.lookup entry = some file) (apart : entry ∉ namesToMove root directory) : keeps root entry = true := by
  rw [mem_namesToMove, not_and, Bool.not_eq_false] at apart
  exact apart (AList.lookup_isSome.mp (by rw [held]; rfl))

theorem openSwap_run (root : RootName) (state : RestoreState Table File) : ∃ result after,
    (openSwap schedule root).run state = (result, state.withRoot root after) ∧
    after.entries = (state.host.roots root).entries ∧ after.staging = (state.host.roots root).staging ∧
    if opensSwap schedule root then result = .ok () ∧ after.previous = ∅
    else ∃ message, result = .error (.failed message) := by
  unfold openSwap opensSwap
  by_cases cleared : (schedule (.clearPrevious root)).isDone = true
  · rw [Exec.run_bind_ok (perform_done cleared), onHost_setRoot]
    by_cases made : (schedule (.makePrevious root)).isDone = true
    · rw [Exec.run_bind_ok (command_done made), onHost_setRoot, withRoot_same, withRoot_twice]
      by_cases listed : (schedule (.readRoot root)).isDone = true
      · rw [check_done listed]
        exact ⟨_, _, rfl, rfl, rfl, by simp [cleared, made, listed]⟩
      · rw [check_fails listed]
        refine ⟨_, _, rfl, rfl, rfl, ?_⟩
        simp [listed]
    · rw [Exec.run_bind_error (command_fails made)]
      refine ⟨_, _, rfl, rfl, rfl, ?_⟩
      simp [made]
  · rw [Exec.run_bind_error (perform_fails cleared), onHost_setRoot]
    refine ⟨_, _, rfl, rfl, rfl, ?_⟩
    simp [cleared]

theorem SwapLeaves.out {root : RootName} {files opened : Root File} {names : List String}
    (opens : opensSwap schedule root = true) (entries : opened.entries = files.entries) (empty : opened.previous = ∅)
    (all : names = namesToMove root files.entries) (short : movedIn schedule root names files.staging.keys = []) :
    SwapLeaves schedule root files
      (opened.moveOut (names.takeWhile fun entry => (schedule (.moveOut root entry)).isDone)) where
  entries entry := by
    subst all
    simp only [Root.moveOut, moveAll_source, entries, short, movedOut, opens, List.not_mem_nil, if_false, if_true]
  previous entry among := by
    subst all
    simp only [movedOut, opens, if_true] at among
    simp only [Root.moveOut, moveAll_target, entries, empty, among, if_true]
    simp

theorem SwapLeaves.into {root : RootName} {files opened : Root File} {names staged : List String}
    (opens : opensSwap schedule root = true) (allOut : movesOut schedule root names = true)
    (listed : (schedule (.readStaging root)).isDone = true) (entries : opened.entries = files.entries)
    (staging : opened.staging = files.staging) (empty : opened.previous = ∅)
    (all : names = namesToMove root files.entries) (every : staged = files.staging.keys) :
    SwapLeaves schedule root files ((opened.moveOut names).moveIn
      (staged.takeWhile fun entry => (schedule (.moveIn root entry)).isDone)) where
  entries entry := by
    subst all every
    have out : movedOut schedule root (namesToMove root files.entries) = namesToMove root files.entries := by
      simp only [movedOut, opens, if_true]
      exact takeWhile_all allOut
    simp only [Root.moveIn, Root.moveOut, moveAll_target, moveAll_source, staging, entries, out]
    simp only [movedIn, opens, allOut, listed, Bool.and_self, if_true]
    by_cases among : entry ∈ files.staging.keys.takeWhile fun entry => (schedule (.moveIn root entry)).isDone
    · obtain ⟨file, found⟩ := lookup_some_of_mem (List.takeWhile_subset _ among)
      simp only [among, if_true, found, Option.some_or]
    · simp only [among, if_false]
  previous entry among := by
    subst all every
    have moved : entry ∈ namesToMove root files.entries := by
      simp only [movedOut, opens, if_true] at among
      exact List.takeWhile_subset _ among
    simp only [Root.moveIn, Root.moveOut, moveAll_target, entries, empty, moved, if_true]
    simp

/-- A swap either breaks off or moves everything; what it leaves is told by the steps it has done. -/
theorem swapEntries_run (root : RootName) (state : RestoreState Table File) : ∃ result after,
    (swapEntries schedule root).run state = (result, state.withRoot root after) ∧
    SwapLeaves schedule root (state.host.roots root) after ∧
    (let names := namesToMove root (state.host.roots root).entries
     let staged := (state.host.roots root).staging.keys
     if swapsEntries schedule root names staged then result = .ok ⟨root, names, staged⟩
     else ∃ message, result = .error (.failed message)) := by
  obtain ⟨opening, opened, ran, entries, staging, how⟩ := openSwap_run schedule root state
  unfold swapEntries
  by_cases opens : opensSwap schedule root = true
  case neg =>
    rw [if_neg opens] at how
    obtain ⟨message, rfl⟩ := how
    rw [Exec.run_bind_error ran]
    rw [Bool.not_eq_true] at opens
    exact ⟨_, _, rfl, .closed schedule entries opens, by simp [swapsEntries, opens]⟩
  rw [if_pos opens] at how
  obtain ⟨rfl, empty⟩ := how
  have names : opened.entries.keys.filter (fun entry => !keeps root entry) =
      namesToMove root (state.host.roots root).entries := by
    rw [entries]
    rfl
  rw [Exec.run_bind_ok ran, Exec.run_read_bind, withRoot_same, names]
  have out := moveEntriesOut_run schedule root (namesToMove root (state.host.roots root).entries)
    (state.withRoot root opened)
  rw [withRoot_same, withRoot_twice] at out
  by_cases allOut : movesOut schedule root (namesToMove root (state.host.roots root).entries) = true
  case neg =>
    obtain ⟨message, broken⟩ := loopResult_error schedule allOut
    rw [broken] at out
    rw [Exec.run_bind_error out]
    refine ⟨_, _, rfl, .out schedule opens entries empty rfl ?_, ?_⟩
    · simp [movedIn, allOut]
    · simp [swapsEntries, allOut]
  rw [loopResult_ok schedule allOut] at out
  rw [Exec.run_bind_ok out]
  by_cases listed : (schedule (.readStaging root)).isDone = true
  case neg =>
    rw [Exec.run_bind_error (check_fails listed)]
    refine ⟨_, _, rfl, .out schedule opens entries empty rfl ?_, ?_⟩
    · simp [movedIn, listed]
    · simp [swapsEntries, listed]
  have into := moveEntriesIn_run schedule root (state.host.roots root).staging.keys
    (state.withRoot root (opened.moveOut (namesToMove root (state.host.roots root).entries)))
  rw [withRoot_same, withRoot_twice] at into
  have leaves := SwapLeaves.into schedule opens allOut listed entries staging empty rfl rfl
  have stagedSame : (opened.moveOut (namesToMove root (state.host.roots root).entries)).staging.keys =
      (state.host.roots root).staging.keys := by rw [← staging]; rfl
  rw [takeWhile_all allOut, Exec.run_bind_ok (check_done listed), Exec.run_read_bind, withRoot_same, stagedSame]
  by_cases allIn : movesIn schedule root (state.host.roots root).staging.keys = true
  · rw [loopResult_ok schedule allIn] at into
    rw [Exec.run_bind_ok into]
    refine ⟨_, _, rfl, leaves, ?_⟩
    simp [swapsEntries, opens, allOut, listed, allIn]
  · obtain ⟨message, broken⟩ := loopResult_error schedule allIn
    rw [broken] at into
    rw [Exec.run_bind_error into]
    refine ⟨_, _, rfl, leaves, ?_⟩
    simp [swapsEntries, allIn]

/-! ## Undoing a swap -/

def undoesFiles (root : RootName) (names staged : List String) : Bool :=
  staged.all (fun entry => (schedule (.undoMoveIn root entry)).isDone) &&
    names.all (fun entry => (schedule (.undoMoveOut root entry)).isDone) &&
    (schedule (.undoPrevious root)).isDone

theorem removeMovedIn_run (root : RootName) (names : List String) (state : RestoreState Table File) :
    ∃ result after, (removeMovedIn schedule root names).run state = (result, state.withRoot root after) ∧
    after.previous = (state.host.roots root).previous ∧
    (∀ entry, entry ∉ names → after.entries.lookup entry = (state.host.roots root).entries.lookup entry) ∧
    if names.all (fun entry => (schedule (.undoMoveIn root entry)).isDone) then
      result = .ok () ∧ ∀ entry ∈ names, after.entries.lookup entry = none
    else ∃ message, result = .error (.failed message) := by
  induction names generalizing state with
  | nil =>
    refine ⟨.ok (), state.host.roots root, ?_, rfl, fun _ _ => rfl, by simp⟩
    rw [withRoot_self]
    rfl
  | cons name names ih =>
    rw [removeMovedIn, Exec.forEach]
    by_cases removed : (schedule (.undoMoveIn root name)).isDone = true
    · rw [Exec.run_bind_ok (perform_done removed), onHost_setRoot]
      obtain ⟨result, after, ran, previous, others, how⟩ := ih (state.withRoot root
        { state.host.roots root with entries := (state.host.roots root).entries.erase name })
      rw [withRoot_same] at previous others
      rw [withRoot_twice] at ran
      refine ⟨result, after, ran, previous, ?_, ?_⟩
      · intro entry apart
        rw [List.mem_cons, not_or] at apart
        rw [others entry apart.2, erase_lookup, if_neg apart.1]
      · simp only [List.all_cons, removed, Bool.true_and]
        split at how
        · next all =>
          obtain ⟨rfl, gone⟩ := how
          rw [if_pos all]
          refine ⟨rfl, fun entry among => ?_⟩
          by_cases later : entry ∈ names
          · exact gone entry later
          · rw [List.mem_cons, or_iff_left later] at among
            rw [others entry later, erase_lookup, if_pos among]
        · next some_ =>
          rw [if_neg some_]
          exact how
    · rw [Exec.run_bind_error (perform_fails removed), onHost_setRoot]
      refine ⟨_, _, rfl, rfl, ?_, ?_⟩
      · intro entry apart
        rw [List.mem_cons, not_or] at apart
        rw [leave_lookup, if_neg]
        rintro ⟨among, -⟩
        exact apart.1 (List.mem_singleton.mp among)
      · simp [removed]

/-- The root after an undone swap: whole again, or with every lost entry still in its previous
directory. -/
theorem undoOne_run (root : RootName) (original archive : Directory File)
    (avoids : ∀ entry, keeps root entry = true → entry ∉ archive) (state : RestoreState Table File)
    (entries : ∀ entry, (state.host.roots root).entries.lookup entry =
      if entry ∈ archive.keys then archive.lookup entry
      else if entry ∈ namesToMove root original then none else original.lookup entry)
    (previous : ∀ entry ∈ namesToMove root original,
      (state.host.roots root).previous.lookup entry = original.lookup entry) :
    ∃ result after,
      (undoOne schedule ⟨root, namesToMove root original, archive.keys⟩).run state =
        (result, state.withRoot root after) ∧
      (∀ entry file, original.lookup entry = some file →
        after.entries.lookup entry = some file ∨ after.previous.lookup entry = some file) ∧
      if undoesFiles schedule root (namesToMove root original) archive.keys then
        result = .ok () ∧ ∀ entry, after.entries.lookup entry = original.lookup entry
      else ∃ message, result = .error (.failed message) := by
  -- An entry of the original is kept in place, and then not in the archive, or was moved aside.
  have kept : ∀ entry, entry ∉ namesToMove root original → ∀ file, original.lookup entry = some file →
      entry ∉ archive.keys := by
    intro entry apart file found among
    exact avoids entry (kept_of_not_moved found apart) among
  obtain ⟨result, removed, ran, same, others, how⟩ := removeMovedIn_run schedule root archive.keys state
  rw [undoOne]
  by_cases allIn : archive.keys.all (fun entry => (schedule (.undoMoveIn root entry)).isDone) = true
  case neg =>
    rw [if_neg allIn] at how
    obtain ⟨message, rfl⟩ := how
    rw [Exec.run_bind_error ran]
    refine ⟨_, _, rfl, ?_, by simp [undoesFiles, allIn]⟩
    intro entry file found
    by_cases moved : entry ∈ namesToMove root original
    · right
      rw [same, previous entry moved, found]
    · left
      have out := kept entry moved file found
      rw [others entry out, entries, if_neg out, if_neg moved, found]
  rw [if_pos allIn] at how
  obtain ⟨rfl, gone⟩ := how
  rw [Exec.run_bind_ok ran]
  have back := moveEntriesBack_run schedule root (namesToMove root original) (state.withRoot root removed)
  rw [withRoot_same, withRoot_twice] at back
  by_cases allOut : (namesToMove root original).all (fun entry => (schedule (.undoMoveOut root entry)).isDone) = true
  case neg =>
    obtain ⟨message, broken⟩ := loopResult_error schedule allOut
    rw [broken] at back
    rw [Exec.run_bind_error back]
    refine ⟨_, _, rfl, ?_, by simp [undoesFiles, allOut]⟩
    intro entry file found
    simp only [Root.moveBack, moveAll_source, moveAll_target, same]
    by_cases moved : entry ∈ namesToMove root original
    · rw [previous entry moved, found]
      by_cases returned : entry ∈ (namesToMove root original).takeWhile
          fun entry => (schedule (.undoMoveOut root entry)).isDone
      · simp [returned]
      · simp [returned]
    · left
      have out := kept entry moved file found
      have notBack : entry ∉ (namesToMove root original).takeWhile
          fun entry => (schedule (.undoMoveOut root entry)).isDone :=
        fun among => moved (List.takeWhile_subset _ among)
      rw [if_neg notBack, others entry out, entries, if_neg out, if_neg moved, found]
  rw [loopResult_ok schedule allOut, takeWhile_all allOut] at back
  rw [Exec.run_bind_ok back]
  have whole : ∀ entry, (removed.moveBack (namesToMove root original)).entries.lookup entry =
      original.lookup entry := by
    intro entry
    simp only [Root.moveBack, moveAll_target, same]
    by_cases moved : entry ∈ namesToMove root original
    · obtain ⟨file, found⟩ := lookup_some_of_mem (mem_namesToMove.mp moved).1
      rw [if_pos moved, previous entry moved, found, Option.some_or]
    · rw [if_neg moved]
      by_cases among : entry ∈ archive.keys
      · rw [gone entry among]
        cases found : original.lookup entry with
        | none => rfl
        | some file => exact absurd among (kept entry moved file found)
      · rw [others entry among, entries, if_neg among, if_neg moved]
  have restored : ∀ entry file, original.lookup entry = some file →
      (removed.moveBack (namesToMove root original)).entries.lookup entry = some file := by
    intro entry file found
    rw [whole, found]
  by_cases cleared : (schedule (.undoPrevious root)).isDone = true
  · rw [perform_done cleared, onHost_setRoot, withRoot_same, withRoot_twice]
    refine ⟨_, _, rfl, fun entry file found => .inl (restored entry file found), ?_⟩
    simp only [undoesFiles, allIn, allOut, cleared, Bool.and_self, if_true, true_and]
    exact whole
  · rw [perform_fails cleared, onHost_setRoot, withRoot_same, withRoot_twice]
    refine ⟨_, _, rfl, fun entry file found => .inl (restored entry file found), ?_⟩
    simp [undoesFiles, cleared]

/-! ## The loops over the databases -/

def restoresDatabase (database : DatabaseName) : Bool :=
  (schedule (.emptySchema database)).isDone && (schedule (.load database)).isDone

def undoesDatabase (database : DatabaseName) : Bool :=
  (schedule (.undoEmptySchema database)).isDone && (schedule (.undoLoad database)).isDone

def restoreAll (dumps : Dumps Table) (names : List DatabaseName) : Restore Table File Unit :=
  Exec.forEach names fun database => do
    restoreDatabase schedule (.emptySchema database) (.load database) database (dumps database)
    Exec.change fun state => { state with restored := state.restored ++ [database] }

def RestoreState.withDumps (state : RestoreState Table File) (dumps : Dumps Table)
    (names : List DatabaseName) : RestoreState Table File :=
  { state with host := state.host.withDumps dumps names, restored := state.restored ++ names }

theorem restoreAll_run (dumps : Dumps Table) (names : List DatabaseName)
    (dumped : ∀ name ∈ names, (dumps name).isSome = true) (state : RestoreState Table File) :
    (restoreAll schedule dumps names).run state =
      match names.find? fun name => !restoresDatabase schedule name with
      | none => (.ok (), state.withDumps dumps names)
      | some name =>
          (.error (if (schedule (.emptySchema name)).isDone then (schedule (.load name)).problem
              else (schedule (.emptySchema name)).problem),
            (state.withDumps dumps (names.takeWhile (restoresDatabase schedule))).onHost
              (if (schedule (.emptySchema name)).isDone then emptySchema name else id)) := by
  have fold : ∀ (names : List DatabaseName) (state : RestoreState Table File),
      names.foldl (fun state name => { state with
        host := state.host.setDatabase name fun _ => (dumps name).getD []
        restored := state.restored ++ [name] }) state = state.withDumps dumps names := by
    intro names
    induction names with
    | nil =>
      simp [RestoreState.withDumps, withDumps_nil]
    | cons name names ih =>
      intro state
      rw [List.foldl_cons, ih]
      simp [RestoreState.withDumps, withDumps_cons]
  have steps : ∀ name ∈ names, ∀ world : RestoreState Table File,
      (do
        restoreDatabase schedule (.emptySchema name) (.load name) name (dumps name)
        Exec.change fun state => { state with restored := state.restored ++ [name] }).run world =
      if restoresDatabase schedule name then
        (.ok (), { world with
          host := world.host.setDatabase name fun _ => (dumps name).getD []
          restored := world.restored ++ [name] })
      else
        (.error (if (schedule (.emptySchema name)).isDone then (schedule (.load name)).problem
            else (schedule (.emptySchema name)).problem),
          world.onHost (if (schedule (.emptySchema name)).isDone then emptySchema name else id)) := by
    intro name among world
    obtain ⟨tables, found⟩ := Option.isSome_iff_exists.mp (dumped name among)
    have ran := restoreDatabase_run schedule (.emptySchema name) (.load name) name tables world
    rw [found]
    by_cases both : restoresDatabase schedule name = true
    · rw [if_pos both, Exec.run_bind_ok (ran.trans (if_pos both))]
      rfl
    · rw [if_neg both]
      replace ran := ran.trans (if_neg both)
      by_cases emptied : (schedule (.emptySchema name)).isDone = true
      · rw [if_pos emptied] at ran
        rw [Exec.run_bind_error ran, if_pos emptied, if_pos emptied]
      · rw [if_neg emptied] at ran
        rw [Exec.run_bind_error ran, if_neg emptied, if_neg emptied]
        rfl
  rw [restoreAll, Exec.forEach_run steps]
  cases names.find? (fun name => !restoresDatabase schedule name) <;> simp only [fold]

/-- The databases after putting them back: all as copied, or some of them known not to be. -/
theorem putBackAll_run (present names : List DatabaseName) (state : RestoreState Table File)
    (here : ∀ name ∈ names, present.contains name = true)
    (copied : ∀ name ∈ names, (state.host.rollback name).isSome = true) : ∃ databases still,
    (Exec.forEach names (putBack schedule present)).run state =
      (.ok (), { state with
        host := { state.host with databases := databases }
        stillRestored := state.stillRestored ++ still }) ∧
    (∀ name, name ∉ names → databases name = state.host.databases name) ∧
    if ∀ name ∈ names, undoesDatabase schedule name = true then
      still = [] ∧ ∀ name ∈ names, databases name =
        (state.host.databases name).map fun _ => (state.host.rollback name).getD []
    else still ≠ [] := by
  induction names generalizing state with
  | nil => exact ⟨state.host.databases, [], by simp; rfl, fun _ _ => rfl, by simp⟩
  | cons name names ih =>
    obtain ⟨tables, found⟩ := Option.isSome_iff_exists.mp (copied name (List.mem_cons_self ..))
    have ran := restoreDatabase_run schedule (.undoEmptySchema name) (.undoLoad name) name tables state
    have isHere := here name (List.mem_cons_self ..)
    rw [Exec.forEach]
    by_cases undone : undoesDatabase schedule name = true
    · have first : (putBack schedule present name).run state =
          (.ok (), state.onHost (·.setDatabase name fun _ => tables)) := by
        rw [putBack, if_pos isHere, Exec.run_read_bind, found]
        exact Exec.run_rescue_ok (ran.trans (if_pos undone))
      obtain ⟨databases, still, rest, others, how⟩ := ih (state.onHost (·.setDatabase name fun _ => tables))
        (fun later among => here later (List.mem_cons_of_mem _ among))
        (fun later among => copied later (List.mem_cons_of_mem _ among))
      refine ⟨databases, still, ?_, ?_, ?_⟩
      · rw [Exec.run_bind_ok first, rest]
        rfl
      · intro other apart
        rw [List.mem_cons, not_or] at apart
        rw [others other apart.2]
        simp [RestoreState.onHost, Host.setDatabase, apart.1]
      · simp only [List.forall_mem_cons, undone, true_and]
        split at how
        · next all =>
          rw [if_pos all]
          obtain ⟨none_, put⟩ := how
          refine ⟨none_, ?_, fun later among => ?_⟩
          · by_cases later : name ∈ names
            · rw [put name later]
              simp [RestoreState.onHost, Host.setDatabase, Function.comp_def]
            · rw [others name later]
              simp [RestoreState.onHost, Host.setDatabase, found]
          · rw [put later among]
            by_cases same : later = name
            · subst same
              simp [RestoreState.onHost, Host.setDatabase, Function.comp_def]
            · simp [RestoreState.onHost, Host.setDatabase, same]
        · next some_ =>
          rw [if_neg some_]
          exact how
    · obtain ⟨broken, first, others⟩ : ∃ broken, (putBack schedule present name).run state =
          (.ok (), { state with
            host := { state.host with databases := broken }
            stillRestored := state.stillRestored ++ [name] }) ∧
          ∀ other, other ≠ name → broken other = state.host.databases other := by
        rw [putBack, if_pos isHere, Exec.run_read_bind, found]
        replace ran := ran.trans (if_neg undone)
        by_cases emptied : (schedule (.undoEmptySchema name)).isDone = true
        · rw [if_pos emptied] at ran
          refine ⟨(emptySchema name state.host).databases, ?_, ?_⟩
          · rw [Exec.run_rescue_error ran]
            rfl
          · intro other differ
            simp [emptySchema, Host.setDatabase, differ]
        · rw [if_neg emptied] at ran
          refine ⟨state.host.databases, ?_, fun _ _ => rfl⟩
          rw [Exec.run_rescue_error ran]
          rfl
      obtain ⟨databases, still, rest, later, how⟩ := ih { state with
          host := { state.host with databases := broken }
          stillRestored := state.stillRestored ++ [name] }
        (fun later among => here later (List.mem_cons_of_mem _ among))
        (fun later among => copied later (List.mem_cons_of_mem _ among))
      refine ⟨databases, name :: still, ?_, ?_, ?_⟩
      · rw [Exec.run_bind_ok first, rest]
        simp
      · intro other apart
        rw [List.mem_cons, not_or] at apart
        rw [later other apart.2]
        exact others other apart.1
      · rw [if_neg]
        · exact List.cons_ne_nil _ _
        · intro all
          exact undone (all name (List.mem_cons_self ..))

/-! ## Cleaning up -/

def cleansStaging : Bool :=
  (schedule (.dropStaging .data)).isDone && (schedule (.dropStaging .memory)).isDone

def rollbackAfter (keepRollback : Bool) (dumps : Dumps Table) : Dumps Table :=
  if keepRollback || !cleansStaging schedule then dumps
  else if (schedule .dropRollback).isDone then fun _ => none
  else dumps.leave (schedule .dropRollback).left

structure SameFiles (before after : Host Table File) : Prop where
  databases : after.databases = before.databases
  entries : ∀ root, (after.roots root).entries = (before.roots root).entries
  previous : ∀ root, (after.roots root).previous = (before.roots root).previous

theorem SameFiles.withStaging (state : RestoreState Table File) (root : RootName)
    (staging : Directory File) : SameFiles state.host
      (state.withRoot root { state.host.roots root with staging := staging }).host where
  databases := rfl
  entries name := by
    by_cases same : name = root
    · subst same
      rw [withRoot_same]
    · rw [withRoot_other _ _ same]
  previous name := by
    by_cases same : name = root
    · subst same
      rw [withRoot_same]
    · rw [withRoot_other _ _ same]

theorem SameFiles.trans {first second third : Host Table File} (left : SameFiles first second)
    (right : SameFiles second third) : SameFiles first third where
  databases := right.databases.trans left.databases
  entries root := (right.entries root).trans (left.entries root)
  previous root := (right.previous root).trans (left.previous root)

theorem dropStaging_run (root : RootName) (state : RestoreState Table File) : ∃ staging,
    (dropStaging schedule root).run state =
      (if (schedule (.dropStaging root)).isDone then .ok () else .error (schedule (.dropStaging root)).problem,
        state.withRoot root { state.host.roots root with staging := staging }) := by
  rw [dropStaging, perform_run]
  split
  · exact ⟨∅, by rw [onHost_setRoot]⟩
  · exact ⟨(state.host.roots root).staging.leave (schedule (.dropStaging root)).left
      (state.host.roots root).staging.keys, by rw [onHost_setRoot]⟩

theorem cleanUp_run (state : RestoreState Table File) : ∃ result host,
    (cleanUp schedule).run state = (result, { state with host := host }) ∧
    SameFiles state.host host ∧
    host.rollback = rollbackAfter schedule state.keepRollback state.host.rollback ∧
    if cleansStaging schedule && (state.keepRollback || (schedule .dropRollback).isDone) then result = .ok ()
    else ∃ message, result = .error (.failed message) := by
  obtain ⟨data, first⟩ := dropStaging_run schedule .data state
  have keptData := SameFiles.withStaging state .data data
  rw [cleanUp]
  by_cases dataDone : (schedule (.dropStaging .data)).isDone = true
  case neg =>
    rw [if_neg dataDone] at first
    rw [Exec.run_bind_error first]
    refine ⟨_, _, rfl, keptData, ?_, ?_⟩
    · simp [rollbackAfter, cleansStaging, dataDone, Host.setRoot]
    · simp [cleansStaging, dataDone]
  rw [if_pos dataDone] at first
  rw [Exec.run_bind_ok first]
  obtain ⟨memory, second⟩ := dropStaging_run schedule .memory
    (state.withRoot .data { state.host.roots .data with staging := data })
  have keptMemory := keptData.trans (SameFiles.withStaging _ .memory memory)
  by_cases memoryDone : (schedule (.dropStaging .memory)).isDone = true
  case neg =>
    rw [if_neg memoryDone] at second
    rw [Exec.run_bind_error second]
    refine ⟨_, _, rfl, keptMemory, ?_, ?_⟩
    · simp [rollbackAfter, cleansStaging, memoryDone, RestoreState.withRoot, RestoreState.onHost, Host.setRoot]
    · simp [cleansStaging, memoryDone]
  rw [if_pos memoryDone] at second
  rw [Exec.run_bind_ok second, Exec.run_read_bind, withRoot_keepRollback, withRoot_keepRollback]
  have both : cleansStaging schedule = true := by simp [cleansStaging, dataDone, memoryDone]
  by_cases keep : state.keepRollback = true
  · rw [if_pos keep]
    refine ⟨.ok (), _, rfl, keptMemory, ?_, ?_⟩
    · rw [rollbackAfter, keep]
      rfl
    · simp [both, keep]
  · rw [if_neg keep, perform_run]
    by_cases dropped : (schedule .dropRollback).isDone = true
    · rw [if_pos dropped]
      refine ⟨_, _, rfl, { keptMemory with }, ?_, ?_⟩
      · simp [rollbackAfter, both, dropped, keep]
      · simp [both, dropped]
    · rw [if_neg dropped]
      refine ⟨_, _, rfl, { keptMemory with }, ?_, ?_⟩
      · simp [rollbackAfter, both, dropped, keep, RestoreState.withRoot, RestoreState.onHost, Host.setRoot]
      · simp [dropped, keep]

/-! ## Before the first change -/

section

variable {outcome : Outcome} {state after : RestoreState Table File} {value : Unit}

theorem perform_ok_iff {effect : Host Table File → Host Table File}
    {partly : (String → Bool) → Host Table File → Host Table File} :
    (perform outcome effect partly).run state = (.ok value, after) ↔
      outcome.isDone = true ∧ state.onHost effect = after := by
  rw [perform_run]
  split <;> simp_all

theorem check_ok_iff : (check outcome : Restore Table File Unit).run state = (.ok value, after) ↔
      outcome.isDone = true ∧ state = after := by
  rw [check_run]
  split <;> simp_all

end

variable (options : RestoreOptions) (backup : Backup Table File)

def stages (root : RootName) : Bool :=
  (schedule (.clearStaging root)).isDone && (schedule (.makeStaging root)).isDone &&
    (schedule (.extract root)).isDone

theorem stageArchive_ok_iff {root : RootName} {state after : RestoreState Table File} {value : Unit} :
    (stageArchive schedule backup root).run state = (.ok value, after) ↔ stages schedule root = true ∧
      state.withRoot root { state.host.roots root with staging := backup.archive root } = after := by
  simp only [stageArchive, command, Exec.bind_ok_iff, perform_ok_iff, stages, Bool.and_eq_true]
  constructor
  · rintro ⟨_, _, ⟨cleared, rfl⟩, _, _, ⟨made, rfl⟩, extracted, rfl⟩
    refine ⟨⟨⟨cleared, made⟩, extracted⟩, ?_⟩
    simp only [onHost_setRoot, withRoot_same, withRoot_twice]
  · rintro ⟨⟨⟨cleared, made⟩, extracted⟩, rfl⟩
    refine ⟨(), _, ⟨cleared, rfl⟩, (), _, ⟨made, rfl⟩, extracted, ?_⟩
    simp only [onHost_setRoot, withRoot_same, withRoot_twice]

def presentDatabases (host : Host Table File) : List DatabaseName :=
  .core :: temporalDatabases.filter fun database => (host.databases database).isSome

def listsPresent (host : Host Table File) : Bool :=
  (schedule .readDatabaseUrl).isDone && (schedule .listDatabases).isDone && (host.databases .core).isSome

theorem listPresent_ok_iff {state after : RestoreState Table File} {present : List DatabaseName} :
    (listPresent schedule).run state = (.ok present, after) ↔ listsPresent schedule state.host = true ∧
      presentDatabases state.host = present ∧ state = after := by
  simp only [listPresent, listsPresent, Exec.bind_ok_iff, check_ok_iff, Exec.run_read, Bool.and_eq_true]
  constructor
  · rintro ⟨_, _, ⟨url, rfl⟩, _, _, ⟨listed, rfl⟩, _, _, ran, last⟩
    cases ran
    split at last
    · cases last
    · next core =>
      cases last
      refine ⟨⟨⟨url, listed⟩, ?_⟩, rfl, rfl⟩
      simpa [Option.isSome_iff_ne_none] using core
  · rintro ⟨⟨⟨url, listed⟩, core⟩, rfl, rfl⟩
    refine ⟨(), state, ⟨url, rfl⟩, (), state, ⟨listed, rfl⟩, state, state, rfl, ?_⟩
    rw [if_neg (by simp [Option.isSome_iff_ne_none.mp core])]
    rfl

theorem mem_presentDatabases {host : Host Table File} {database : DatabaseName} :
    database ∈ presentDatabases host ↔ database = .core ∨ (host.databases database).isSome = true := by
  cases database <;> simp [presentDatabases, temporalDatabases]

theorem mem_restores {database : DatabaseName} :
    database ∈ restores backup ↔ (backup.dumps database).isSome = true := by
  cases database <;> simp [restores, temporalDatabases, backup.core_dumped]

/-- The host before the first change: archives staged, databases copied. -/
def Host.prepared (host : Host Table File) : Host Table File where
  databases := host.databases
  roots := fun root => { host.roots root with staging := backup.archive root }
  rollback := fun database => if database ∈ restores backup then host.databases database else none

/-- Every step before the first change works, and the databases of the backup exist. -/
def prepares (host : Host Table File) : Bool :=
  stages schedule .data && stages schedule .memory && listsPresent schedule host &&
    (restores backup).all (fun database => (presentDatabases host).contains database) &&
    (schedule .clearRollback).isDone && (schedule .makeRollback).isDone &&
    (restores backup).all fun database => (schedule (.dump database)).isDone

theorem foldl_dumpDatabase (names : List DatabaseName) (state : RestoreState Table File) :
    names.foldl (fun state name => state.onHost (dumpDatabase name)) state =
      state.onHost fun host => { host with
        rollback := fun name => if name ∈ names then host.databases name else host.rollback name } := by
  induction names generalizing state with
  | nil => simp [RestoreState.onHost]
  | cons name names ih =>
    rw [List.foldl_cons, ih]
    simp only [RestoreState.onHost, dumpDatabase, RestoreState.mk.injEq, Host.mk.injEq, and_true, true_and]
    funext other
    by_cases same : other = name
    · simp [same]
    · simp [same]

theorem dumpAll_ok_iff {names : List DatabaseName} {state after : RestoreState Table File} {value : Unit} :
    (Exec.forEach names fun name => command (schedule (.dump name)) (dumpDatabase name)).run state =
      (.ok value, after) ↔
    names.all (fun name => (schedule (.dump name)).isDone) = true ∧
      (state.onHost fun host => { host with
        rollback := fun name => if name ∈ names then host.databases name else host.rollback name }) = after := by
  rw [Exec.forEach_run fun name _ world => command_run (schedule (.dump name)) (dumpDatabase name) world,
    foldl_dumpDatabase]
  cases found : names.find? (fun name => !(schedule (.dump name)).isDone) with
  | none => simp [none_fails.mp found]
  | some name =>
    have some_ : ¬names.all (fun name => (schedule (.dump name)).isDone) = true := by
      intro all
      rw [none_fails.mpr all] at found
      cases found
    simp only [some_, Bool.false_eq_true, false_and, iff_false]
    intro same
    cases same

theorem copyDatabases_ok_iff {present : List DatabaseName} {state after : RestoreState Table File} {value : Unit} :
    (copyDatabases schedule backup present).run state = (.ok value, after) ↔
    (schedule .clearRollback).isDone = true ∧ (schedule .makeRollback).isDone = true ∧
      ((restores backup).filter fun name => present.contains name).all
        (fun name => (schedule (.dump name)).isDone) = true ∧
      (state.onHost fun host => { host with
        rollback := fun name =>
          if name ∈ (restores backup).filter fun name => present.contains name then host.databases name
          else none }) = after := by
  simp only [copyDatabases, Exec.bind_ok_iff, dumpAll_ok_iff]
  simp only [command, perform_ok_iff]
  constructor
  · rintro ⟨_, _, ⟨cleared, rfl⟩, _, _, ⟨made, rfl⟩, copied, rfl⟩
    exact ⟨cleared, made, copied, rfl⟩
  · rintro ⟨cleared, made, copied, rfl⟩
    exact ⟨(), _, ⟨cleared, rfl⟩, (), _, ⟨made, rfl⟩, copied, rfl⟩

theorem staged_both (state : RestoreState Table File) :
    (state.withRoot .data { state.host.roots .data with staging := backup.archive .data }).withRoot .memory
      { (state.withRoot .data { state.host.roots .data with staging := backup.archive .data }).host.roots .memory with
        staging := backup.archive .memory } =
    state.onHost fun host => { host with
      roots := fun root => { host.roots root with staging := backup.archive root } } := by
  simp only [RestoreState.withRoot, RestoreState.onHost, Host.setRoot, RestoreState.mk.injEq, Host.mk.injEq,
    and_true, true_and]
  funext root
  cases root <;> rfl

theorem prepare_ok_iff {state after : RestoreState Table File} {present : List DatabaseName} :
    (prepare schedule options backup).run state = (.ok present, after) ↔
      prepares schedule backup state.host = true ∧ presentDatabases state.host = present ∧
        state.onHost (·.prepared backup) = after := by
  have none_absent : ((restores backup).filter fun name => !(presentDatabases state.host).contains name) = [] ↔
      (restores backup).all (fun name => (presentDatabases state.host).contains name) = true := by
    simp [List.filter_eq_nil_iff]
  have all_present : ((restores backup).all fun name => (presentDatabases state.host).contains name) = true →
      ((restores backup).filter fun name => (presentDatabases state.host).contains name) = restores backup := by
    rw [List.filter_eq_self, List.all_eq_true]
    exact id
  simp only [prepare, Exec.bind_ok_iff, stageArchive_ok_iff, listPresent_ok_iff]
  constructor
  · rintro ⟨_, _, ⟨data, rfl⟩, _, _, ⟨memory, rfl⟩, _, _, ⟨listed, rfl, rfl⟩, last⟩
    rw [staged_both] at last listed
    split at last
    · cases last
    · next here =>
      have every := none_absent.mp (not_not.mp here)
      obtain ⟨_, _, copied, last⟩ := Exec.bind_ok_iff.mp last
      cases last
      obtain ⟨cleared, made, dumped, rfl⟩ := (copyDatabases_ok_iff schedule backup).mp copied
      change ((restores backup).filter fun name => (presentDatabases state.host).contains name).all _ = true at dumped
      rw [all_present every] at dumped
      refine ⟨?_, rfl, ?_⟩
      · simp only [prepares, data, memory, every, cleared, made, dumped, Bool.and_true]
        exact listed
      · have same := congrArg (fun names => state.onHost fun host => { host with
          roots := fun root => { host.roots root with staging := backup.archive root }
          rollback := fun name => if name ∈ names then host.databases name else none }) (all_present every)
        exact same.symm
  · rintro ⟨prepared, rfl, rfl⟩
    simp only [prepares, Bool.and_eq_true] at prepared
    obtain ⟨⟨⟨⟨⟨⟨data, memory⟩, listed⟩, every⟩, cleared⟩, made⟩, dumped⟩ := prepared
    refine ⟨(), _, ⟨data, rfl⟩, (), _, ⟨memory, rfl⟩, presentDatabases state.host, _, ⟨?_, ?_, rfl⟩, ?_⟩
    · exact listed
    · rfl
    · rw [staged_both, if_neg (not_not.mpr (none_absent.mpr every)), Exec.bind_ok_iff]
      refine ⟨(), _, (copyDatabases_ok_iff schedule backup).mpr ⟨cleared, made, ?_, rfl⟩, ?_⟩
      · rw [all_present every]
        exact dumped
      · rw [all_present every]
        rfl

end

end SpaceApp.Maintenance
