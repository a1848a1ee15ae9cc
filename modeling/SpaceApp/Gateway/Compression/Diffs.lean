import SpaceApp.Gateway.Compression.Lossless
import Mathlib.Data.List.Sort

/-! Unified diffs (`diff-compressor/compressor.ts`): the parser, the caps on files and hunks, the context trim
and the output.
-/

set_option autoImplicit false

namespace SpaceApp.Gateway.Compression.Diff

open SpaceApp.Foundation

structure DiffCompressorConfig where
  maxContextLines : ℕ
  maxHunksPerFile : ℕ
  maxFiles : ℕ
  enableCcr : Bool
  minLinesForCcr : ℕ
  minCompressionRatioForCcr : ℚ

def DEFAULT_DIFF_COMPRESSOR_CONFIG : DiffCompressorConfig :=
  { maxContextLines := 2
    maxHunksPerFile := 10
    maxFiles := 20
    enableCcr := true
    minLinesForCcr := 50
    minCompressionRatioForCcr := 8 / 10 }

structure DiffCompressionResult where
  compressed : JsString
  originalLineCount : ℕ
  compressedLineCount : ℕ
  filesAffected : ℕ
  additions : ℕ
  deletions : ℕ
  hunksKept : ℕ
  hunksRemoved : ℕ
  cacheKey : Option JsString

structure DiffHunk where
  header : JsString
  lines : List JsString
  additions : ℕ
  deletions : ℕ
  contextLines : ℕ
  deriving DecidableEq

structure DiffFile where
  header : JsString
  oldFile : JsString
  newFile : JsString
  hunks : List DiffHunk
  isBinary : Bool
  isNewFile : Bool
  isDeletedFile : Bool
  renameLines : List JsString
  deriving DecidableEq

structure ParsedDiff where
  preDiffLines : List JsString
  files : List DiffFile

def startsWith (line : JsString) (text : String) : Bool := (js text).isPrefixOf line

def filled (text : JsString) : Bool := !text.isEmpty

def DIFF_GIT (line : JsString) : Bool :=
  (readText (js "diff --git a/") line).any fun rest =>
    (List.range rest.length).any fun taken =>
      decide (0 < taken) && (readText (js " b/") (rest.drop taken)).any filled

def DIFF_COMBINED (line : JsString) : Bool := (readText (js "diff --combined ") line).any filled
def DIFF_CC (line : JsString) : Bool := (readText (js "diff --cc ") line).any filled

def OLD_FILE (line : JsString) : Bool :=
  (readText (js "--- ") line).any fun name => (readText (js "a/") name).any filled || name == js "/dev/null"

def NEW_FILE (line : JsString) : Bool :=
  (readText (js "+++ ") line).any fun name => (readText (js "b/") name).any filled || name == js "/dev/null"

def BINARY (line : JsString) : Bool :=
  (readText (js "Binary files ") line).any fun rest =>
    (js " differ").isSuffixOf rest && decide ((js " differ").length < rest.length)

def isDiffHeader (line : JsString) : Bool := DIFF_GIT line || DIFF_COMBINED line || DIFF_CC line

section
variable (unicode : Unicode)

def readPoints (text : String) (points : List ℕ) : Option (List ℕ) :=
  let expected := text.toList.map Char.toNat
  if expected.isPrefixOf points then some (points.drop expected.length) else none

def readDigits (points : List ℕ) : Option (List ℕ) :=
  if points.takeWhile unicode.decimalDigit = [] then none else some (points.dropWhile unicode.decimalDigit)

def readRange (points : List ℕ) : Option (List ℕ) := do
  let rest ← readDigits unicode points
  match rest with
  | 0x2C :: more => some ((readDigits unicode more).getD rest)
  | _ => some rest

/-- The ranges of the parents, each behind ` -`. -/
def readRanges : ℕ → List ℕ → Option (List ℕ)
  | 0, points => some points
  | parents + 1, points => do
    let range ← readPoints " -" points
    let rest ← readRange unicode range
    readRanges parents rest

def readHunkHeader (parents : ℕ) (points : List ℕ) : Option (List ℕ) := do
  let marks := String.ofList (List.replicate (parents + 1) '@')
  let ranges ← readPoints marks points
  let added ← readRanges unicode parents ranges
  let range ← readPoints " +" added
  let rest ← readRange unicode range
  readPoints (" " ++ marks) rest

def HUNK_HEADER (line : JsString) : Bool :=
  [1, 2, 3].any fun parents => (readHunkHeader unicode parents (codePoints line)).isSome

/-- `HUNK_NEW_START`: the digits behind the first plus that has some. -/
def newStart : List ℕ → Option (List ℕ)
  | [] => none
  | point :: rest =>
    if point = 0x2B ∧ rest.takeWhile unicode.decimalDigit ≠ [] then some (rest.takeWhile unicode.decimalDigit)
    else newStart rest

def parseRustUsize (digits : List ℕ) : Option ℕ :=
  let value := digits.foldl (fun total digit => 10 * total + (digit - 0x30)) 0
  if digits.all Regex.isDigit ∧ value < 2 ^ 64 then some value else none

def extractLineNumber (header : JsString) : ℕ := ((newStart unicode (codePoints header)).bind parseRustUsize).getD 0

structure ParseState where
  files : List DiffFile
  preDiffLines : List JsString
  currentFile : Option DiffFile
  currentHunk : Option DiffHunk

def DiffFile.closeHunk (file : DiffFile) (hunk : Option DiffHunk) : DiffFile :=
  { file with hunks := file.hunks ++ hunk.toList }

/-- The files, the current one with its current hunk. -/
def ParseState.closed (state : ParseState) : List DiffFile :=
  state.files ++ (state.currentFile.map fun file => file.closeHunk state.currentHunk).toList

def emptyFile (header : JsString) : DiffFile :=
  { header
    oldFile := []
    newFile := []
    hunks := []
    isBinary := false
    isNewFile := false
    isDeletedFile := false
    renameLines := [] }

def isRename (line : JsString) : Bool :=
  startsWith line "rename " || startsWith line "similarity " || startsWith line "copy " || startsWith line "dissimilarity "

/-- The file-level markers, looked for on every line. -/
def DiffFile.marked (file : DiffFile) (line : JsString) : DiffFile :=
  if startsWith line "new file mode" then { file with isNewFile := true }
  else if startsWith line "deleted file mode" then { file with isDeletedFile := true }
  else if isRename line then { file with renameLines := file.renameLines ++ [line] }
  else if BINARY line then { file with isBinary := true }
  else file

def isAddition (line : JsString) : Bool := startsWith line "+" && !startsWith line "+++"
def isDeletion (line : JsString) : Bool := startsWith line "-" && !startsWith line "---"

def DiffHunk.push (hunk : DiffHunk) (line : JsString) : DiffHunk :=
  { hunk with
    lines := hunk.lines ++ [line]
    additions := hunk.additions + if isAddition line then 1 else 0
    deletions := hunk.deletions + if !isAddition line && isDeletion line then 1 else 0
    contextLines := hunk.contextLines +
      if !isAddition line && !isDeletion line && (startsWith line " " || line == []) then 1 else 0 }

def parseLine (state : ParseState) (line : JsString) : ParseState :=
  if isDiffHeader line then
    { state with
      files := state.closed
      currentFile := some (emptyFile line)
      currentHunk := none }
  else
    match state.currentFile with
    | none => { state with preDiffLines := state.preDiffLines ++ [line] }
    | some file =>
      let file := file.marked line
      if OLD_FILE line then { state with currentFile := some { file with oldFile := line } }
      else if NEW_FILE line then { state with currentFile := some { file with newFile := line } }
      else if HUNK_HEADER unicode line then
        { state with
          currentFile := some (file.closeHunk state.currentHunk)
          currentHunk := some ⟨line, [], 0, 0, 0⟩ }
      else
        { state with
          currentFile := some file
          currentHunk := state.currentHunk.map fun hunk => hunk.push line }

def parseDiff (lines : List JsString) : ParsedDiff :=
  let state := lines.foldl (parseLine unicode) ⟨[], [], none, none⟩
  ⟨state.preDiffLines, state.closed⟩

end

def DiffFile.totalChanges (file : DiffFile) : ℕ := (file.hunks.map fun hunk => hunk.additions + hunk.deletions).sum

def keptFiles (settings : DiffCompressorConfig) (files : List DiffFile) : List DiffFile :=
  if files.length > settings.maxFiles then
    (files.insertionSort fun left right => right.totalChanges ≤ left.totalChanges).take settings.maxFiles
  else files

structure Selection where
  selected : List DiffHunk
  dropped : List DiffHunk

section
variable (unicode : Unicode) {Score : Type} [LinearOrder Score] (score : DiffHunk → Score)

def selectHunks (hunks : List DiffHunk) (maxPerFile : ℕ) : Selection :=
  if hunks.length ≤ maxPerFile then ⟨hunks, []⟩
  else
    match hunks with
    | [] => ⟨[], []⟩
    | first :: rest =>
      let last := rest.getLast?
      let slots := maxPerFile - if last.isSome then 2 else 1
      let ranked := rest.dropLast.insertionSort fun left right => score right ≤ score left
      let kept := first :: (ranked.take slots ++ last.toList)
      { selected := kept.insertionSort fun left right =>
          extractLineNumber unicode left.header ≤ extractLineNumber unicode right.header
        dropped := ranked.drop slots }

end

def isChange (line : JsString) : Bool := startsWith line "+" || startsWith line "-"

/-- The positions of the changes, from an index on. -/
def changesFrom : ℕ → List JsString → List ℕ
  | _, [] => []
  | index, line :: rest => if isChange line then index :: changesFrom (index + 1) rest else changesFrom (index + 1) rest

def coverage (changes : List ℕ) (lineCount maxContext index : ℕ) : ℤ :=
  (changes.map fun position =>
    (if position - maxContext = index then 1 else 0) - (if min lineCount (position + maxContext + 1) = index then 1 else 0)).sum

def trimmedFrom (difference : ℕ → ℤ) : ℕ → ℤ → List JsString → List JsString
  | _, _, [] => []
  | index, active, line :: rest =>
    let active := active + difference index
    if active ≤ 0 ∧ !startsWith line "\\" then trimmedFrom difference (index + 1) active rest
    else line :: trimmedFrom difference (index + 1) active rest

def reduceContext (hunk : DiffHunk) (maxContext : ℕ) : DiffHunk :=
  let changes := changesFrom 0 hunk.lines
  if changes = [] then
    let take := min maxContext hunk.lines.length
    ⟨hunk.header, hunk.lines.take take, 0, 0, take⟩
  else
    let lines := trimmedFrom (coverage changes hunk.lines.length maxContext) 0 0 hunk.lines
    { header := hunk.header
      lines
      additions := lines.countP fun line => startsWith line "+"
      deletions := lines.countP fun line => !startsWith line "+" && startsWith line "-"
      contextLines := lines.countP fun line => !startsWith line "+" && !startsWith line "-" }

def DiffFile.shownHunks (file : DiffFile) : List DiffHunk := if file.isBinary then [] else file.hunks

def DiffFile.output (file : DiffFile) : List JsString :=
  file.header :: file.renameLines ++
    (if file.isNewFile then [js "new file mode 100644"]
    else if file.isDeletedFile then [js "deleted file mode 100644"] else []) ++
    if file.isBinary then [js "Binary files differ"]
    else
      (if file.oldFile = [] then [] else [file.oldFile]) ++ (if file.newFile = [] then [] else [file.newFile]) ++
        file.hunks.flatMap fun hunk => hunk.header :: hunk.lines

def footer (filesAffected additions deletions hunksRemoved : ℕ) : JsString :=
  js "[" ++ decimal filesAffected ++ js " files changed, +" ++ decimal additions ++ js " -" ++ decimal deletions ++
    js " lines" ++ (if hunksRemoved > 0 then js ", " ++ decimal hunksRemoved ++ js " hunks omitted" else []) ++ js "]"

def formatLines (preDiffLines : List JsString) (files : List DiffFile) (filesAffected additions deletions hunksRemoved : ℕ) :
    List JsString :=
  preDiffLines ++ files.flatMap DiffFile.output ++
    if hunksRemoved > 0 ∨ filesAffected > 0 then [footer filesAffected additions deletions hunksRemoved] else []

def formatOutput (preDiffLines : List JsString) (files : List DiffFile) (filesAffected additions deletions hunksRemoved : ℕ) :
    JsString :=
  joinLines (formatLines preDiffLines files filesAffected additions deletions hunksRemoved)

def countSplitLines (text : JsString) : ℕ := text.count LF + 1

def passThrough (content : JsString) (lineCount : ℕ) : DiffCompressionResult :=
  { compressed := content
    originalLineCount := lineCount
    compressedLineCount := lineCount
    filesAffected := 0
    additions := 0
    deletions := 0
    hunksKept := 0
    hunksRemoved := 0
    cacheKey := none }

section
variable (unicode : Unicode) {Score : Type} [LinearOrder Score] (score : DiffHunk → Score) (md5Hex24 : JsString → JsString)

def DiffFile.compressedFile (settings : DiffCompressorConfig) (file : DiffFile) : DiffFile :=
  { file with
    hunks := (selectHunks unicode score file.hunks settings.maxHunksPerFile).selected.map fun hunk =>
      reduceContext hunk settings.maxContextLines }

def ccrMarker (originalLineCount compressedLineCount : ℕ) (cacheKey : JsString) : JsString :=
  [LF] ++ js "[" ++ decimal originalLineCount ++ js " lines compressed to " ++ decimal compressedLineCount ++
    js ". Retrieve full diff: hash=" ++ cacheKey ++ js "]"

/-- The sections of a diff, each through the caps and the trim. -/
def compressParsed (settings : DiffCompressorConfig) (content : JsString) (originalLineCount : ℕ) (parsed : ParsedDiff) :
    DiffCompressionResult :=
  let files := keptFiles settings parsed.files
  let compressedFiles := files.map (DiffFile.compressedFile unicode score settings)
  let totalAdditions := (files.map fun file => (file.hunks.map DiffHunk.additions).sum).sum
  let totalDeletions := (files.map fun file => (file.hunks.map DiffHunk.deletions).sum).sum
  let hunksKept := (compressedFiles.map fun file => file.hunks.length).sum
  let hunksRemoved :=
    (files.map fun file =>
      file.hunks.length - (DiffFile.compressedFile unicode score settings file).hunks.length).sum
  let filesAffected := compressedFiles.length
  let compressed :=
    formatOutput parsed.preDiffLines compressedFiles filesAffected totalAdditions totalDeletions hunksRemoved
  let compressedLineCount := countSplitLines compressed
  let marked : Bool :=
    settings.enableCcr && decide ((compressedLineCount : ℚ) < originalLineCount * settings.minCompressionRatioForCcr)
  { compressed :=
      if marked then compressed ++ ccrMarker originalLineCount compressedLineCount (md5Hex24 content) else compressed
    originalLineCount
    compressedLineCount
    filesAffected
    additions := totalAdditions
    deletions := totalDeletions
    hunksKept
    hunksRemoved
    cacheKey := if marked then some (md5Hex24 content) else none }

def compressDiff (settings : DiffCompressorConfig) (content : JsString) : DiffCompressionResult :=
  let lines := content.splitOn LF
  if lines.length < settings.minLinesForCcr then passThrough content lines.length
  else
    let parsed := parseDiff unicode lines
    if parsed.files = [] then passThrough content lines.length
    else compressParsed unicode score md5Hex24 settings content lines.length parsed

end

end SpaceApp.Gateway.Compression.Diff
