import SpaceApp.Gateway.Compression.Lossless

/-! Mixed content (`compression/mixed-content.ts`): a text as typed sections with their lines, and
`compressMixed`, which puts each compressed section back in place of its lines.
-/

set_option autoImplicit false

namespace SpaceApp.Gateway.Compression

open SpaceApp.Foundation

inductive SectionType where
  | jsonArray | sourceCode | search | text
  deriving DecidableEq

structure ContentSection where
  content : JsString
  type : SectionType
  /-- The language of a code fence, "unknown" when it names none. -/
  language : Option JsString
  startLine : ℕ
  endLine : ℕ
  isCodeFence : Bool
  atomic : Bool
  deriving DecidableEq

/-- The platform's part of the scanners: `\p{Nd}`, `[\p{L}\p{N}_]` and what `JSON.parse` accepts. -/
structure Scanners extends Unicode where
  word : ℕ → Bool
  isJson : JsString → Bool

def TICKS : JsString := js "```"

section

variable (scanners : Scanners)

/-- `CODE_FENCE`: the language between the ticks and the white space at the end. -/
def codeFence (line : JsString) : Option JsString :=
  if TICKS.isPrefixOf line then
    let rest := codePoints (line.drop TICKS.length)
    let language := rest.takeWhile scanners.word
    if (rest.dropWhile scanners.word).all isSpace then some (language.flatMap unitsOf) else none
  else none

def opensJson (line : JsString) : Bool :=
  (trimUnits line).head?.any fun unit => unit == 0x5B || unit == 0x7B

def digitsAndColon (points : List ℕ) : Bool :=
  (points.takeWhile scanners.decimalDigit) ≠ [] &&
    (points.dropWhile scanners.decimalDigit).head? == some 0x3A

/-- `SEARCH_RESULT`, `\S+:\p{Nd}+:`, once it is known whether a symbol has been passed. -/
def searchResultFrom : Bool → List ℕ → Bool
  | _, [] => false
  | passed, point :: rest =>
      if isSpace point then false
      else (passed && point == 0x3A && digitsAndColon scanners rest) || searchResultFrom true rest

def searchResult (line : JsString) : Bool := searchResultFrom scanners false (codePoints line)

end

structure ScanStep where
  bracket : ℤ
  brace : ℤ
  inString : Bool
  escaped : Bool

def ScanStep.char (step : ScanStep) (point : ℕ) : ScanStep :=
  if step.escaped then { step with escaped := false }
  else if point = 0x5C then if step.inString then { step with escaped := true } else step
  else if point = 0x22 then { step with inString := !step.inString }
  else if step.inString then step
  else if point = 0x5B then { step with bracket := step.bracket + 1 }
  else if point = 0x5D then { step with bracket := step.bracket - 1 }
  else if point = 0x7B then { step with brace := step.brace + 1 }
  else if point = 0x7D then { step with brace := step.brace - 1 }
  else step

def scanLine (step : ScanStep) (line : JsString) : ScanStep := (codePoints line).foldl ScanStep.char step

/-- How many lines the block that begins here takes; the memo of the scanned lines changes nothing
and is left out. -/
def extractJsonBlock : ScanStep → List JsString → Option ℕ
  | _, [] => none
  | step, line :: rest =>
      let step := scanLine step line
      if step.bracket ≤ 0 ∧ step.brace ≤ 0 then some 1
      else (extractJsonBlock step rest).map (· + 1)

theorem extractJsonBlock_pos {step : ScanStep} {lines : List JsString} {count : ℕ}
    (block : extractJsonBlock step lines = some count) : 0 < count ∧ count ≤ lines.length := by
  induction lines generalizing step count with
  | nil => simp [extractJsonBlock] at block
  | cons line rest ih =>
    simp only [extractJsonBlock] at block
    split at block
    · obtain rfl := Option.some.inj block
      simp
    · obtain ⟨inner, found, rfl⟩ := Option.map_eq_some_iff.mp block
      have bound := (ih found).2
      simp only [List.length_cons]
      omega

def blockAt (lines : List JsString) : Option ℕ :=
  if lines.head?.any opensJson then extractJsonBlock ⟨0, 0, false, false⟩ lines else none

theorem blockAt_pos {lines : List JsString} {count : ℕ} (block : blockAt lines = some count) :
    0 < count ∧ count ≤ lines.length := by
  rw [blockAt] at block
  split at block
  · exact extractJsonBlock_pos block
  · simp at block

section

variable (scanners : Scanners)

def startsFence (line : JsString) : Bool := TICKS.isPrefixOf line

def endsProse (line : JsString) : Bool :=
  (codeFence scanners line).isSome || opensJson line || searchResult scanners line

def sectionsFrom (index : ℕ) (lines : List JsString) : List ContentSection :=
  match lines with
  | [] => []
  | line :: rest =>
      match codeFence scanners line with
      | some language =>
          let code := rest.takeWhile fun line => !startsFence line
          ⟨joinLines code, .sourceCode, some (if language = [] then js "unknown" else language), index,
              index + 1 + code.length, true, false⟩ ::
            sectionsFrom (index + 1 + code.length + 1) (rest.dropWhile fun line => !startsFence line).tail
      | none =>
          match _block : blockAt (line :: rest) with
          | some count =>
              let content := joinLines ((line :: rest).take count)
              let valid := scanners.isJson content
              ⟨content, if valid then .jsonArray else .text, none, index, index + count - 1, false, !valid⟩ ::
                sectionsFrom (index + count) ((line :: rest).drop count)
          | none =>
              if searchResult scanners line then
                let rows := line :: rest.takeWhile (searchResult scanners)
                ⟨joinLines rows, .search, none, index, index + rows.length - 1, false, false⟩ ::
                  sectionsFrom (index + rows.length) (rest.dropWhile (searchResult scanners))
              else
                let text := line :: rest.takeWhile fun line => !endsProse scanners line
                let later := sectionsFrom (index + text.length) (rest.dropWhile fun line => !endsProse scanners line)
                if trimUnits (joinLines text) = [] then later
                else ⟨joinLines text, .text, none, index, index + text.length - 1, false, false⟩ :: later
termination_by lines.length
decreasing_by
  · have shorter := (List.dropWhile_sublist (fun line => !startsFence line) (l := rest)).length_le
    simp only [List.length_tail, List.length_cons]
    omega
  · have bounds := (blockAt_pos _block).1
    simp only [List.length_drop, List.length_cons]
    omega
  · have shorter := (List.dropWhile_sublist (searchResult scanners) (l := rest)).length_le
    simp only [List.length_cons]
    omega
  · have shorter := (List.dropWhile_sublist (fun line => !endsProse scanners line) (l := rest)).length_le
    simp only [List.length_cons]
    omega

def joins (previous section_ : ContentSection) : Bool :=
  previous.type == .text && section_.type == .text && !previous.isCodeFence && !section_.isCodeFence &&
    !previous.atomic && !section_.atomic && section_.startLine == previous.endLine + 1

def coalesceOnto (previous : ContentSection) : List ContentSection → List ContentSection
  | [] => [previous]
  | section_ :: rest =>
      if joins previous section_ then
        coalesceOnto
          { previous with
            content := previous.content ++ LF :: section_.content
            endLine := section_.endLine } rest
      else previous :: coalesceOnto section_ rest

def coalesce : List ContentSection → List ContentSection
  | [] => []
  | section_ :: rest => coalesceOnto section_ rest

def splitIntoSections (content : JsString) : List ContentSection :=
  coalesce (sectionsFrom scanners 0 (content.splitOn LF))

def splice (lines : List JsString) (start count : ℕ) (added : List JsString) : List JsString :=
  lines.take start ++ added ++ lines.drop (start + count)

def spliceSection (compress : ContentSection → Option JsString) (lines : List JsString)
    (section_ : ContentSection) : List JsString :=
  match compress section_ with
  | none => lines
  | some replacement =>
      if replacement = section_.content then lines
      else
        let start := if section_.isCodeFence then section_.startLine + 1 else section_.startLine
        let stop := if section_.isCodeFence then min section_.endLine lines.length - 1 else section_.endLine
        splice lines start (stop + 1 - start) (replacement.splitOn LF)

def compressMixed (compress : ContentSection → Option JsString) (text : JsString) : Option JsString :=
  let lines := (splitIntoSections scanners text).reverse.foldl (spliceSection compress) (text.splitOn LF)
  let result := joinLines lines
  if result = text then none else some result

end

end SpaceApp.Gateway.Compression
