import SpaceApp.Gateway.Compression.Diffs
import Mathlib.Algebra.Order.BigOperators.Group.List

/-! What the footer of a compressed diff announces.
-/

set_option autoImplicit false

namespace SpaceApp.Gateway.Compression.Diff

open SpaceApp.Foundation

section
variable (unicode : Unicode) {Score : Type} [LinearOrder Score] (score : DiffHunk → Score) (md5Hex24 : JsString → JsString)

def totalHunks (files : List DiffFile) : ℕ := (files.map fun file => file.hunks.length).sum
def totalAdditions (files : List DiffFile) : ℕ := (files.map fun file => (file.hunks.map DiffHunk.additions).sum).sum
def totalDeletions (files : List DiffFile) : ℕ := (files.map fun file => (file.hunks.map DiffHunk.deletions).sum).sum

def printedHunks (settings : DiffCompressorConfig) (files : List DiffFile) : List DiffHunk :=
  ((keptFiles settings files).map (DiffFile.compressedFile unicode score settings)).flatMap DiffFile.shownHunks

/-- The hunks that count as kept and are not printed. -/
def binaryHunks (settings : DiffCompressorConfig) (files : List DiffFile) : ℕ :=
  (((keptFiles settings files).filter DiffFile.isBinary).map fun file =>
    (DiffFile.compressedFile unicode score settings file).hunks.length).sum

/-- Every hunk is printed or announced as omitted, and the counts are those of all files. -/
structure Announced (settings : DiffCompressorConfig) (files : List DiffFile) (result : DiffCompressionResult) : Prop where
  hunks : totalHunks files = (printedHunks unicode score settings files).length + result.hunksRemoved
  affected : result.filesAffected = files.length
  additions : result.additions = totalAdditions files
  deletions : result.deletions = totalDeletions files

theorem selectHunks_length (hunks : List DiffHunk) (maxPerFile : ℕ) :
    (selectHunks unicode score hunks maxPerFile).selected.length ≤ hunks.length := by
  unfold selectHunks
  split
  · exact le_rfl
  · cases hunks with
    | nil => simp
    | cons first rest =>
      simp only [List.length_insertionSort, List.length_cons, List.length_append, List.length_take, List.length_dropLast]
      cases last : rest.getLast? with
      | none => simp
      | some hunk =>
        have some_rest : 0 < rest.length := List.length_pos_iff.mpr fun empty => by simp [empty] at last
        simp only [Option.toList_some, List.length_singleton]
        omega

theorem selectHunks_ne_nil {hunks : List DiffHunk} (some_hunk : hunks ≠ []) (maxPerFile : ℕ) :
    (selectHunks unicode score hunks maxPerFile).selected ≠ [] := by
  unfold selectHunks
  split
  · exact some_hunk
  · cases hunks with
    | nil => exact absurd rfl some_hunk
    | cons first rest =>
      rw [← List.length_pos_iff]
      simp only [List.length_insertionSort, List.length_cons]
      omega

theorem keptFiles_length (settings : DiffCompressorConfig) (files : List DiffFile) :
    (keptFiles settings files).length = min files.length settings.maxFiles := by
  rw [keptFiles]
  split
  · rw [List.length_take, List.length_insertionSort]
    omega
  · omega

theorem keptFiles_all {settings : DiffCompressorConfig} {files : List DiffFile} (few : files.length ≤ settings.maxFiles) :
    keptFiles settings files = files := by
  rw [keptFiles, if_neg (by omega)]

theorem totalHunks_split (settings : DiffCompressorConfig) (files : List DiffFile) : totalHunks files =
      ((files.map (DiffFile.compressedFile unicode score settings)).flatMap DiffFile.shownHunks).length +
        ((files.filter DiffFile.isBinary).map fun file =>
          (DiffFile.compressedFile unicode score settings file).hunks.length).sum +
        (files.map fun file =>
          file.hunks.length - (DiffFile.compressedFile unicode score settings file).hunks.length).sum := by
  induction files with
  | nil => rfl
  | cons file rest ih =>
    have fewer : (DiffFile.compressedFile unicode score settings file).hunks.length ≤ file.hunks.length := by
      rw [DiffFile.compressedFile, List.length_map]
      exact selectHunks_length unicode score file.hunks settings.maxHunksPerFile
    have same : (DiffFile.compressedFile unicode score settings file).isBinary = file.isBinary := rfl
    simp only [totalHunks, List.map_cons, List.sum_cons, List.flatMap_cons, List.length_append, List.filter_cons] at ih ⊢
    rw [ih, DiffFile.shownHunks, same]
    cases file.isBinary with
    | true =>
      simp only [if_true, List.length_nil, List.map_cons, List.sum_cons]
      omega
    | false =>
      simp only [Bool.false_eq_true, if_false]
      omega

theorem binaryHunks_zero {settings : DiffCompressorConfig} {files : List DiffFile}
    (few : files.length ≤ settings.maxFiles) :
    binaryHunks unicode score settings files = 0 ↔ ∀ file ∈ files, file.isBinary = true → file.hunks = [] := by
  rw [binaryHunks, keptFiles_all few, List.sum_eq_zero_iff]
  simp only [List.mem_map, List.mem_filter, forall_exists_index, and_imp]
  constructor
  · intro zeros file member binary
    by_contra some_hunk
    have none_left := zeros _ file member binary rfl
    rw [DiffFile.compressedFile, List.length_map, List.length_eq_zero_iff] at none_left
    exact selectHunks_ne_nil unicode score some_hunk _ none_left
  · rintro empty value file member binary rfl
    have fewer := selectHunks_length unicode score file.hunks settings.maxHunksPerFile
    rw [DiffFile.compressedFile, List.length_map]
    rw [empty file member binary] at fewer ⊢
    exact Nat.le_zero.mp fewer

theorem compressDiff_parsed {settings : DiffCompressorConfig} {content : JsString}
    (long : settings.minLinesForCcr ≤ (content.splitOn LF).length)
    (sections : (parseDiff unicode (content.splitOn LF)).files ≠ []) :
    compressDiff unicode score md5Hex24 settings content =
      compressParsed unicode score md5Hex24 settings content (content.splitOn LF).length
        (parseDiff unicode (content.splitOn LF)) := by
  rw [compressDiff]
  simp only [if_neg (not_lt.mpr long), if_neg sections]

omit [LinearOrder Score] in
theorem formatOutput_footer (preDiffLines : List JsString) (files : List DiffFile) {filesAffected : ℕ}
    (some_file : 0 < filesAffected) (additions deletions hunksRemoved : ℕ) :
    formatOutput preDiffLines files filesAffected additions deletions hunksRemoved =
      joinLines (preDiffLines ++ files.flatMap DiffFile.output ++
        [footer filesAffected additions deletions hunksRemoved]) := by
  rw [formatOutput, formatLines, if_pos (.inr some_file)]

end

def plainDigits : Unicode := ⟨Regex.isDigit, by decide⟩

def twoFiles : JsString :=
  joinLines (["diff --git a/x b/x", "@@ -1 +1 @@", "-a", "+b", "diff --git a/y b/y", "@@ -1 +1 @@", "+c"].map js)

def atMost (maxFiles : ℕ) : DiffCompressorConfig :=
  { DEFAULT_DIFF_COMPRESSOR_CONFIG with
    maxFiles
    minLinesForCcr := 0 }

end SpaceApp.Gateway.Compression.Diff
