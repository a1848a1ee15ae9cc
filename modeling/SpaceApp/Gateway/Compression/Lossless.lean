import SpaceApp.Foundation.Folds
import SpaceApp.Foundation.Regex
import SpaceApp.Foundation.TextLines

/-! The lossless folds (`compression/lossless/index.ts`): runs, repeated blocks, listings and diffs.

A pattern that is anchored at both ends and whose parts end at fixed units is a reader; the others are matched.
-/

set_option autoImplicit false

namespace SpaceApp.Gateway.Compression

open SpaceApp.Foundation

inductive LosslessKind where
  | log | search | paths | diff | text | config
  deriving DecidableEq

/-- What the platform counts as a decimal digit (`\p{Nd}`). -/
structure Unicode where
  decimalDigit : ℕ → Bool
  colon : decimalDigit 0x3A = false

def COLON : CodeUnit := 0x3A
def SLASH : CodeUnit := 0x2F

def FOLD_MIN_BLOCK : ℕ := 3
def FOLD_MAX_BLOCK : ℕ := 64
def FOLD_MAX_CANDIDATES : ℕ := 8
def FOLD_MAX_LINES : ℕ := 20000

/-- A surrogate pair is one code point, any other unit is one. -/
def codePoints : JsString → List ℕ
  | [] => []
  | [unit] => [unit.toNat]
  | high :: low :: rest =>
      if isHighSurrogate high && isLowSurrogate low then
        (0x10000 + (high.toNat - 0xD800) * 0x400 + (low.toNat - 0xDC00)) :: codePoints rest
      else high.toNat :: codePoints (low :: rest)

def length (text : JsString) : ℕ := (codePoints text).length

def smaller (candidate original : JsString) : Bool := length candidate < length original

def ANSI : Regex :=
  Regex.concat [Regex.symbol fun found => found == 0x1B, Regex.one '[',
    Regex.star (Regex.symbol fun found => Regex.isDigit found || found == 0x3B), Regex.one 'm']

def stripAnsi (text : JsString) : JsString :=
  (Regex.replaceAll ANSI (text.map UInt16.toNat) fun _ => []).map Nat.toUInt16

/-- `... (repeated ${count} times)`. -/
def repeatedTimes (count : ℕ) : JsString := js "... (repeated " ++ (decimal count ++ js " times)")

/-- The number of `/^\.\.\. \(repeated (\d+) times\)$/`. -/
def RUN_MARKER (line : JsString) : Option ℕ := do
  let rest ← readText (js "... (repeated ") line
  let (count, rest) ← readNumber rest
  if rest = js " times)" then some count else none

def collapseRuns (text : JsString) : JsString := overLines (collapse repeatedTimes) text

def expandRuns (text : JsString) : JsString := overLines (expand RUN_MARKER) text

/-- `... (repeats ${size} lines from ${distance} lines back)`. -/
def repeatsLines (size distance : ℕ) : JsString :=
  js "... (repeats " ++ (decimal size ++ (js " lines from " ++ (decimal distance ++ js " lines back)")))

/-- The numbers of `/^\.\.\. \(repeats (\d+) lines from (\d+) lines back\)$/`. -/
def BLOCK_MARKER (line : JsString) : Option (ℕ × ℕ) := do
  let rest ← readText (js "... (repeats ") line
  let (size, rest) ← readNumber rest
  let rest ← readText (js " lines from ") rest
  let (distance, rest) ← readNumber rest
  if rest = js " lines back)" then some (size, distance) else none

/-- Where a line was last seen, the latest place last. -/
abbrev Positions := JsString → List ℕ

def remember (positions : Positions) (line : JsString) (index : ℕ) : Positions :=
  let bucket := positions line ++ [index]
  Function.update positions line (if FOLD_MAX_CANDIDATES < bucket.length then bucket.drop 1 else bucket)

/-- How many lines from `q` on are those from `i` on, up to a limit. -/
def blockSize (lines : List JsString) (i q : ℕ) : ℕ :=
  let maxLength := min (min FOLD_MAX_BLOCK (lines.length - i)) (i - q)
  ((((lines.drop q).zip (lines.drop i)).take maxLength).takeWhile fun pair => pair.1 = pair.2).length

/-- The largest block among the candidates, the latest first, and how far back it is. -/
def bestBlock (lines : List JsString) (i : ℕ) (candidates : List ℕ) : ℕ × ℕ :=
  candidates.reverse.foldl
    (fun best q => if best.1 < blockSize lines i q then (blockSize lines i q, i - q) else best) (0, 0)

def blockPays (lines : List JsString) (i : ℕ) (best : ℕ × ℕ) : Bool :=
  let blockChars := (((lines.drop i).take best.1).map fun line => length line + 1).sum
  length (repeatsLines best.1 best.2) + 1 < blockChars

def rememberBlock (positions : Positions) (lines : List JsString) (i size : ℕ) : Positions :=
  (((lines.drop i).take size).zipIdx i).foldl (fun positions place => remember positions place.1 place.2) positions

def foldFrom (lines : List JsString) (positions : Positions) (i : ℕ) : List (Piece JsString) :=
  if inside : i < lines.length then
    let line := lines[i]
    let best := bestBlock lines i (positions line)
    if folds : FOLD_MIN_BLOCK ≤ best.1 ∧ blockPays lines i best then
      .copy best.1 best.2 :: foldFrom lines (rememberBlock positions lines i best.1) (i + best.1)
    else .item line :: foldFrom lines (remember positions line i) (i + 1)
  else []
termination_by lines.length - i
decreasing_by
  · have some_ : 0 < (bestBlock lines i (positions lines[i])).1 := lt_of_lt_of_le (by decide) folds.1
    omega
  · omega

def foldRepeatedBlocks (text : JsString) : JsString :=
  let n := (splitText text).lines.length
  if n < FOLD_MIN_BLOCK * 2 ∨ FOLD_MAX_LINES < n then text
  else overLines (fun lines => (foldFrom lines (fun _ => []) 0).map (Piece.write repeatsLines)) text

def unfoldRepeatedBlocks (text : JsString) : JsString := overLines (unfoldBlocks BLOCK_MARKER) text

/-- Each heading once, then what its rows add to it; a line that is no row ends them. -/
def headingLines (row : JsString → Option (JsString × JsString)) : Option JsString → List JsString → List JsString
  | _, [] => []
  | current, line :: rest =>
      match row line with
      | some (heading, data) =>
          if current = some heading then data :: headingLines row (some heading) rest
          else heading :: data :: headingLines row (some heading) rest
      | none => line :: headingLines row none rest

/-- A heading is a line that opens and has a row behind it; `data` is what a row adds to its heading. -/
def unheadingLines (opens : JsString → Bool) (data : JsString → Option JsString) :
    Option JsString → List JsString → List JsString
  | _, [] => []
  | current, line :: rest =>
      match current, data line with
      | some heading, some added => (heading ++ added) :: unheadingLines opens data (some heading) rest
      | _, _ =>
          if opens line && rest.head?.any fun next => (data next).isSome then unheadingLines opens data (some line) rest
          else line :: unheadingLines opens data none rest

def cutColon (text : JsString) : Option (JsString × JsString) :=
  if COLON ∈ text then some (text.takeWhile (· ≠ COLON), (text.dropWhile (· ≠ COLON)).drop 1) else none

section

variable (unicode : Unicode)

/-- The groups of `/^(\p{Nd}+):(.*)$/su`. -/
def HEADING_ROW (line : JsString) : Option (JsString × JsString) :=
  (cutColon line).filter fun cut => cut.1 ≠ [] && (codePoints cut.1).all unicode.decimalDigit

/-- The groups of `/^([^\n:]+):(\p{Nd}+):(.*)$/su`; no line holds a line feed. -/
def GREP_ROW (line : JsString) : Option (JsString × JsString × JsString) := do
  let (path, rest) ← (cutColon line).filter fun cut => cut.1 ≠ []
  let (number, content) ← HEADING_ROW unicode rest
  return (path, number, content)

/-- `/^([^/\n:]+):(\p{Nd}+):(.*)$/su`. -/
def DIR_DATA (line : JsString) : Bool := (GREP_ROW unicode line).any fun row => SLASH ∉ row.1

def searchHeading (text : JsString) : JsString :=
  overLines (headingLines (fun line => (GREP_ROW unicode line).map fun row => (row.1, row.2.1 ++ [COLON] ++ row.2.2)) none) text

def searchUnheading (text : JsString) : JsString :=
  overLines (unheadingLines (fun line => (HEADING_ROW unicode line).isNone)
    (fun line => (HEADING_ROW unicode line).map fun data => [COLON] ++ data.1 ++ [COLON] ++ data.2) none) text

def cutSlash (text : JsString) : JsString × JsString :=
  let base := (text.reverse.takeWhile (· ≠ SLASH)).reverse
  (text.take (text.length - base.length), base)

def searchDirHeading (text : JsString) : JsString :=
  overLines (headingLines (fun line => ((GREP_ROW unicode line).filter fun row => SLASH ∈ row.1).map fun row =>
    ((cutSlash row.1).1, (cutSlash row.1).2 ++ [COLON] ++ row.2.1 ++ [COLON] ++ row.2.2)) none) text

def searchDirUnheading (text : JsString) : JsString :=
  overLines (unheadingLines (fun line => line.getLast? = some SLASH)
    (fun line => if DIR_DATA unicode line then some line else none) none) text

end

def pathName (name : JsString) : Bool :=
  name ≠ [] && name.all fun unit => unit != SLASH && unit != COLON && !isSpaceUnit unit

/-- The groups of `/^((?:\.{0,2}\/)?(?:[^/\s:]+\/)+)([^/\s:]+)$/u`: names between slashes, the first one empty only
when another one is left. -/
def PATH_ROW (line : JsString) : Option (JsString × JsString) :=
  let (directory, base) := cutSlash line
  let names := directory.dropLast.splitOn SLASH
  let named := names.all pathName || (names.head? = some [] && 1 < names.length && (names.drop 1).all pathName)
  if directory ≠ [] && named && pathName base then some (directory, base) else none

def pathHeading (text : JsString) : JsString :=
  if ((splitText text).lines.filter fun line => (PATH_ROW line).isSome).length < 2 then text
  else overLines (headingLines PATH_ROW none) text

def pathUnheading (text : JsString) : JsString :=
  overLines (unheadingLines (fun line => line.getLast? = some SLASH)
    (fun line => if line ≠ [] && SLASH ∉ line then some line else none) none) text

def isHex (symbol : ℕ) : Bool := Regex.isDigit symbol || (0x61 ≤ symbol && symbol ≤ 0x66) || (0x41 ≤ symbol && symbol ≤ 0x46)

def DIFF_INDEX : Regex :=
  Regex.concat [.start, Regex.word "index ", Regex.plus (.symbol isHex), Regex.word "..", Regex.plus (.symbol isHex),
    Regex.opt (Regex.concat [Regex.one ' ', Regex.plus (.symbol fun found => 0x30 ≤ found && found ≤ 0x37)]), .finish]

def diffStripIndex (text : JsString) : JsString :=
  overLines (fun lines => lines.filter fun line => !DIFF_INDEX.test (line.map UInt16.toNat)) text

/-- A candidate is taken when its inverse gives the content back and it is smaller. -/
def keepIfLossless (candidate restored expected content : JsString) : JsString :=
  if restored ≠ expected then content else if smaller candidate content then candidate else content

def compactLossless (unicode : Unicode) (content : JsString) (kind : LosslessKind) : JsString :=
  if content = [] then content
  else
    match kind with
    | .log =>
        -- colour is the one part a log fold drops
        let baseline := stripAnsi content
        keepIfLossless (collapseRuns baseline) (expandRuns (collapseRuns baseline)) baseline content
    | .search =>
        let take := fun (best candidate restored : JsString) =>
          if restored = content && smaller candidate best then candidate else best
        let best := take content (searchHeading unicode content) (searchUnheading unicode (searchHeading unicode content))
        take best (searchDirHeading unicode content) (searchDirUnheading unicode (searchDirHeading unicode content))
    | .paths => keepIfLossless (pathHeading content) (pathUnheading (pathHeading content)) content content
    | .diff => if smaller (diffStripIndex content) content then diffStripIndex content else content
    | .text => keepIfLossless (collapseRuns content) (expandRuns (collapseRuns content)) content content
    | .config =>
        let candidate := foldRepeatedBlocks (collapseRuns content)
        keepIfLossless candidate (expandRuns (unfoldRepeatedBlocks candidate)) content content

end SpaceApp.Gateway.Compression
