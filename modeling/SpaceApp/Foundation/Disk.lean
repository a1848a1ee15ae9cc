import Mathlib.Logic.Basic
import Mathlib.Tactic.Common

/-! A disk whose directory entries and file contents are volatile until they are synced.

A directory entry names a file, and a rename moves the name, not the file. A loss of power brings
back the entries of the last sync of each directory, and of each file what was synced of it.
-/

set_option autoImplicit false

namespace SpaceApp.Foundation

structure Path where
  directory : String
  name : String
  deriving DecidableEq

/-- What a file holds, and what is left of it after a loss of power. -/
structure DiskFile (Data : Type) where
  written : Data
  synced : Data

/-- Files numbered from 0 to `next`, and the entries that name them. -/
structure Disk (Data : Type) where
  files : Nat → DiskFile Data
  next : Nat
  entries : Path → Option Nat
  durable : Path → Option Nat
  entries_exist : ∀ path file, entries path = some file → file < next
  durable_exist : ∀ path file, durable path = some file → file < next

namespace Disk

variable {Data : Type}

def read (disk : Disk Data) (path : Path) : Option Data :=
  (disk.entries path).map fun file => (disk.files file).written

/-- What `path` holds after a loss of power. -/
def readDurable (disk : Disk Data) (path : Path) : Option Data :=
  (disk.durable path).map fun file => (disk.files file).synced

def create (disk : Disk Data) (path : Path) (empty : Data) : Disk Data where
  files := fun file => if file = disk.next then { written := empty, synced := empty } else disk.files file
  next := disk.next + 1
  entries := fun other => if other = path then some disk.next else disk.entries other
  durable := disk.durable
  entries_exist := by
    intro other file named
    split at named
    · cases named
      exact Nat.lt_succ_self _
    · exact Nat.lt_succ_of_lt (disk.entries_exist other file named)
  durable_exist := fun other file named => Nat.lt_succ_of_lt (disk.durable_exist other file named)

def setFile (disk : Disk Data) (file : Nat) (change : DiskFile Data → DiskFile Data) : Disk Data where
  files := fun other => if other = file then change (disk.files other) else disk.files other
  next := disk.next
  entries := disk.entries
  durable := disk.durable
  entries_exist := disk.entries_exist
  durable_exist := disk.durable_exist

def write (disk : Disk Data) (file : Nat) (data : Data) : Disk Data :=
  disk.setFile file fun before => { before with written := data }

def syncFile (disk : Disk Data) (file : Nat) : Disk Data :=
  disk.setFile file fun before => { before with synced := before.written }

def remove (disk : Disk Data) (path : Path) : Disk Data where
  files := disk.files
  next := disk.next
  entries := fun other => if other = path then none else disk.entries other
  durable := disk.durable
  entries_exist := by
    intro other file named
    split at named
    · cases named
    · exact disk.entries_exist other file named
  durable_exist := disk.durable_exist

/-- The file `source` names is named `target` from now on. -/
def rename (disk : Disk Data) (source target : Path) : Disk Data where
  files := disk.files
  next := disk.next
  entries := fun other =>
    if other = target then disk.entries source else if other = source then none else disk.entries other
  durable := disk.durable
  entries_exist := by
    intro other file named
    split at named
    · exact disk.entries_exist source file named
    · split at named
      · cases named
      · exact disk.entries_exist other file named
  durable_exist := disk.durable_exist

def syncDirectory (disk : Disk Data) (directory : String) : Disk Data where
  files := disk.files
  next := disk.next
  entries := disk.entries
  durable := fun path => if path.directory = directory then disk.entries path else disk.durable path
  entries_exist := disk.entries_exist
  durable_exist := by
    intro path file named
    split at named
    · exact disk.entries_exist path file named
    · exact disk.durable_exist path file named

def powerLoss (disk : Disk Data) : Disk Data where
  files := fun file => { written := (disk.files file).synced, synced := (disk.files file).synced }
  next := disk.next
  entries := disk.durable
  durable := disk.durable
  entries_exist := disk.durable_exist
  durable_exist := disk.durable_exist

/-- `path` holds `data`, also after a loss of power. -/
structure Settled (disk : Disk Data) (path : Path) (file : Nat) (data : Data) : Prop where
  named : disk.entries path = some file
  durable : disk.durable path = some file
  content : disk.files file = { written := data, synced := data }

variable {disk : Disk Data} {path other : Path} {file : Nat} {data : Data}

section
variable (settled : disk.Settled path file data)

include settled

theorem Settled.read : disk.read path = some data := by
  rw [Disk.read, settled.named, Option.map_some, settled.content]

theorem Settled.readDurable : disk.readDurable path = some data := by
  rw [Disk.readDurable, settled.durable, Option.map_some, settled.content]

theorem Settled.create (apart : path ≠ other) (empty : Data) : (disk.create other empty).Settled path file data := by
  refine ⟨?_, settled.durable, ?_⟩
  · simp only [Disk.create, if_neg apart, settled.named]
  · have old : file ≠ disk.next := Nat.ne_of_lt (disk.entries_exist path file settled.named)
    simp only [Disk.create, if_neg old, settled.content]

theorem Settled.setFile {changed : Nat} (apart : file ≠ changed)
    (change : DiskFile Data → DiskFile Data) : (disk.setFile changed change).Settled path file data :=
  { settled with content := by simp only [Disk.setFile, if_neg apart, settled.content] }

theorem Settled.remove (apart : path ≠ other) : (disk.remove other).Settled path file data :=
  { settled with named := by simp only [Disk.remove, if_neg apart, settled.named] }

theorem Settled.rename {source target : Path} (fromOther : path ≠ source)
    (toOther : path ≠ target) : (disk.rename source target).Settled path file data :=
  { settled with named := by simp only [Disk.rename, if_neg fromOther, if_neg toOther, settled.named] }

theorem Settled.syncDirectory (directory : String) : (disk.syncDirectory directory).Settled path file data := by
  refine { settled with durable := ?_ }
  simp only [Disk.syncDirectory, settled.named, settled.durable, ite_self]

theorem Settled.powerLoss : disk.powerLoss.Settled path file data :=
  ⟨settled.durable, settled.durable, by simp only [Disk.powerLoss, settled.content]⟩

end

end Disk

end SpaceApp.Foundation
