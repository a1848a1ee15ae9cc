import Mathlib.Data.List.Nodup
import SpaceApp.Memory.Mutation

/-! What holds of the disk while a mutation is under way, up to the rename that replaces the target:
new files under names that were free, and nothing else. -/

set_option autoImplicit false

namespace SpaceApp.Memory

open SpaceApp.Foundation

def Content.isWritten : Content → Bool
  | .journal entry => entry.phase = .written
  | _ => false

def unwrittenFile (file : DiskFile Content) : Prop := file.written.isWritten = false ∧ file.synced.isWritten = false

/-- No WRITTEN journal is at `path`, or comes back there. -/
def Unwritten (disk : Disk Content) (path : Path) : Prop :=
  ∀ file, disk.entries path = some file ∨ disk.durable path = some file → unwrittenFile (disk.files file)

/-- Between two calls the target is settled, and a WRITTEN journal says the truth about it. -/
def Rest (target journal : Path) (afterSnapshot : String) (disk : Disk Content) : Prop :=
  ∃ file content, disk.Settled target file (.text content) ∧ (content = afterSnapshot ∨ Unwritten disk journal)

section

variable {target journal : Path} {afterSnapshot : String} {disk : Disk Content}

theorem Rest.powerLoss (rest : Rest target journal afterSnapshot disk) :
    Rest target journal afterSnapshot disk.powerLoss := by
  obtain ⟨file, content, settled, known⟩ := rest
  refine ⟨file, content, settled.powerLoss, known.imp id ?_⟩
  intro unwritten other named
  have plain := (unwritten other (.inr (named.elim id id))).2
  exact ⟨plain, plain⟩

theorem Rest.of_settled {file : Nat} (settled : disk.Settled target file (.text afterSnapshot)) :
    Rest target journal afterSnapshot disk := ⟨file, afterSnapshot, settled, .inl rfl⟩

end

/-- `disk` is `start` with the files `added`; the names `noted` may come back after a loss of power. -/
structure Work (start disk : Disk Content) (added : List (Path × Nat)) (noted : List Path) : Prop where
  next : start.next ≤ disk.next
  old : ∀ file < start.next, disk.files file = start.files file
  entries : ∀ path, disk.entries path = (added.lookup path).or (start.entries path)
  names : (added.map (·.1)).Nodup
  fresh : ∀ path file, (path, file) ∈ added → start.entries path = none ∧ start.next ≤ file
  durable : ∀ path, disk.durable path = start.durable path ∨ disk.durable path = start.entries path ∨
    (path ∈ noted ∧ start.entries path = none ∧ ∃ file, disk.durable path = some file ∧ start.next ≤ file)
  unwritten : ∀ file, start.next ≤ file → file < disk.next → unwrittenFile (disk.files file)

section

variable {start disk : Disk Content} {added others : List (Path × Nat)} {noted : List Path} {path other : Path} {file : Nat}

theorem lookup_some (found : added.lookup path = some file) : (path, file) ∈ added := by
  induction added with
  | nil => cases found
  | cons first rest ih =>
    obtain ⟨name, value⟩ := first
    by_cases same : path = name
    · subst same
      rw [List.lookup_cons_self] at found
      cases found
      exact List.mem_cons_self
    · rw [List.lookup_cons, beq_false_of_ne same] at found
      exact List.mem_cons_of_mem _ (ih found)

theorem lookup_none (absent : path ∉ added.map (·.1)) : added.lookup path = none := by
  cases found : added.lookup path with
  | none => rfl
  | some file => exact absurd (List.mem_map_of_mem (f := (·.1)) (lookup_some found)) absent

theorem lookup_other (apart : path ≠ other) : ((other, file) :: added).lookup path = added.lookup path := by
  rw [List.lookup_cons, beq_false_of_ne apart]

theorem names_of_lookup (absent : added.lookup path = none) : path ∉ added.map (·.1) := by
  intro inside
  obtain ⟨⟨name, value⟩, member, rfl⟩ := List.mem_map.mp inside
  have none_ := List.lookup_eq_none_iff.mp absent _ member
  simp at none_

theorem Work.begin (start : Disk Content) : Work start start [] [] where
  next := Nat.le_refl _
  old := fun _ _ => rfl
  entries := fun _ => rfl
  names := List.nodup_nil
  fresh := by simp
  durable := fun _ => .inl rfl
  unwritten := by
    intro file low high
    omega

section
variable (work : Work start disk added noted)

include work

theorem Work.free (free : disk.entries path = none) : added.lookup path = none ∧ start.entries path = none := by
  rw [work.entries path, Option.or_eq_none_iff] at free
  exact free

theorem Work.kept (named : start.entries path = some file) :
    disk.entries path = some file ∧ path ∉ added.map (·.1) := by
  have absent : path ∉ added.map (·.1) := by
    intro inside
    obtain ⟨⟨name, value⟩, member, rfl⟩ := List.mem_map.mp inside
    rw [(work.fresh _ _ member).1] at named
    cases named
  rw [work.entries path, lookup_none absent, named]
  exact ⟨rfl, absent⟩

theorem Work.read_kept (named : start.entries path = some file) : disk.read path = start.read path := by
  rw [Disk.read, Disk.read, (work.kept named).1, named, Option.map_some, Option.map_some,
    work.old file (start.entries_exist path file named)]

theorem Work.create (free : disk.entries path = none) :
    Work start (disk.create path Content.empty) ((path, disk.next) :: added) noted where
  next := Nat.le_succ_of_le work.next
  old := by
    intro file low
    have apart : file ≠ disk.next := Nat.ne_of_lt (Nat.lt_of_lt_of_le low work.next)
    simp only [Disk.create, if_neg apart, work.old file low]
  entries := by
    intro other
    by_cases same : other = path
    · subst same
      simp [Disk.create]
    · rw [lookup_other same, ← work.entries other]
      simp only [Disk.create, if_neg same]
  names := by
    rw [List.map_cons, List.nodup_cons]
    exact ⟨names_of_lookup (work.free free).1, work.names⟩
  fresh := by
    intro other file inside
    rcases List.mem_cons.mp inside with same | old
    · cases same
      exact ⟨(work.free free).2, work.next⟩
    · exact work.fresh other file old
  durable := work.durable
  unwritten := by
    intro file low high
    by_cases new : file = disk.next
    · subst new
      have made : (disk.create path Content.empty).files disk.next = { written := Content.empty, synced := Content.empty } := by
        simp only [Disk.create, if_true]
      rw [made]
      exact ⟨rfl, rfl⟩
    · have old : file < disk.next := Nat.lt_of_le_of_ne (Nat.le_of_lt_succ high) new
      simp only [Disk.create, if_neg new]
      exact work.unwritten file low old

theorem Work.setFile (new : start.next ≤ file)
    {change : DiskFile Content → DiskFile Content} (keeps : ∀ before, unwrittenFile before → unwrittenFile (change before)) :
    Work start (disk.setFile file change) added noted :=
  { work with
    old := by
      intro other low
      have apart : other ≠ file := Nat.ne_of_lt (Nat.lt_of_lt_of_le low new)
      simp only [Disk.setFile, if_neg apart, work.old other low]
    unwritten := by
      intro other low high
      have known := work.unwritten other low high
      simp only [Disk.setFile]
      split
      · exact keeps _ known
      · exact known }

end

theorem Work.remove (work : Work start disk ((path, file) :: others) noted) :
    Work start (disk.remove path) others noted :=
  { work with
    entries := by
      intro other
      by_cases same : other = path
      · subst same
        have absent := (List.nodup_cons.mp work.names).1
        rw [lookup_none absent, (work.fresh other file List.mem_cons_self).1]
        simp only [Disk.remove, if_true, Option.none_or]
      · simp only [Disk.remove, if_neg same]
        rw [work.entries other, lookup_other same]
    names := (List.nodup_cons.mp work.names).2
    fresh := fun other file inside => work.fresh other file (List.mem_cons_of_mem _ inside) }

theorem Work.remove_free (work : Work start disk added noted) (free : disk.entries path = none) :
    Work start (disk.remove path) added noted :=
  { work with
    entries := by
      intro other
      rw [← work.entries other]
      by_cases same : other = path
      · subst same
        simp only [Disk.remove, if_true, free]
      · simp only [Disk.remove, if_neg same] }

theorem Work.rename {source : Path} (work : Work start disk ((source, file) :: others) noted)
    (free : disk.entries path = none) (apart : path ≠ source) :
    Work start (disk.rename source path) ((path, file) :: others) noted :=
  { work with
    entries := by
      intro other
      by_cases same : other = path
      · subst same
        simp [Disk.rename, work.entries source]
      · rw [lookup_other same]
        by_cases moved : other = source
        · subst moved
          have absent := (List.nodup_cons.mp work.names).1
          rw [lookup_none absent, (work.fresh other file List.mem_cons_self).1]
          simp only [Disk.rename, if_neg same, if_true, Option.none_or]
        · simp only [Disk.rename, if_neg same, if_neg moved]
          rw [work.entries other, lookup_other moved]
    names := by
      have absent := names_of_lookup (work.free free).1
      rw [List.map_cons, List.mem_cons, not_or] at absent
      rw [List.map_cons, List.nodup_cons]
      exact ⟨absent.2, (List.nodup_cons.mp work.names).2⟩
    fresh := by
      intro other number inside
      rcases List.mem_cons.mp inside with same | old
      · cases same
        exact ⟨(work.free free).2, (work.fresh source file List.mem_cons_self).2⟩
      · exact work.fresh other number (List.mem_cons_of_mem _ old) }

/-- From a sync on, the new names in the directory come back, and the others there do not. -/
theorem Work.syncDirectory (work : Work start disk added noted) (directory : String) :
    Work start (disk.syncDirectory directory) added
      ((noted.filter fun path => path.directory ≠ directory) ++ added.map (·.1)) :=
  { work with
    durable := by
      intro path
      by_cases within : path.directory = directory
      · simp only [Disk.syncDirectory, if_pos within]
        rw [work.entries path]
        cases found : added.lookup path with
        | none => exact .inr (.inl (by simp))
        | some file =>
          have inside := lookup_some found
          obtain ⟨free, new⟩ := work.fresh path file inside
          refine .inr (.inr ⟨?_, free, file, by simp, new⟩)
          exact List.mem_append_right _ (List.mem_map_of_mem (f := (·.1)) inside)
      · simp only [Disk.syncDirectory, if_neg within]
        rcases work.durable path with same | same | ⟨inside, free, fresh⟩
        · exact .inl same
        · exact .inr (.inl same)
        · refine .inr (.inr ⟨?_, free, fresh⟩)
          exact List.mem_append_left _ (List.mem_filter.mpr ⟨inside, by simpa using within⟩) }

variable {target journal : Path} {afterSnapshot content : String}

theorem Work.settled (work : Work start disk added noted) (settled : start.Settled target file (.text content)) :
    disk.Settled target file (.text content) := by
  refine ⟨(work.kept settled.named).1, ?_, ?_⟩
  · rcases work.durable target with same | same | ⟨-, free, -⟩
    · rw [same, settled.durable]
    · rw [same, settled.named]
    · rw [settled.named] at free
      cases free
  · rw [work.old file (start.entries_exist target file settled.named), settled.content]

theorem Work.journal_unwritten (work : Work start disk added noted) (unwritten : Unwritten start journal) :
    Unwritten disk journal := by
  have known (number : Nat) (named : start.entries journal = some number ∨ start.durable journal = some number) :
      unwrittenFile (disk.files number) := by
    have low : number < start.next := by
      rcases named with named | named
      · exact start.entries_exist journal number named
      · exact start.durable_exist journal number named
    rw [work.old number low]
    exact unwritten number named
  rintro number (named | named)
  · have exists_ := disk.entries_exist journal number named
    rw [work.entries journal] at named
    cases found : added.lookup journal with
    | none =>
      rw [found, Option.none_or] at named
      exact known number (.inl named)
    | some file =>
      rw [found, Option.some_or] at named
      cases named
      exact work.unwritten number (work.fresh journal number (lookup_some found)).2 exists_
  · have exists_ := disk.durable_exist journal number named
    rcases work.durable journal with same | same | ⟨-, -, file, same, new⟩
    · exact known number (.inr (same ▸ named))
    · exact known number (.inl (same ▸ named))
    · rw [same] at named
      cases named
      exact work.unwritten number new exists_

theorem Work.rest (work : Work start disk added noted) (rest : Rest target journal afterSnapshot start) :
    Rest target journal afterSnapshot disk := by
  obtain ⟨file, content, settled, known⟩ := rest
  exact ⟨file, content, work.settled settled, known.imp id work.journal_unwritten⟩

end

end SpaceApp.Memory
