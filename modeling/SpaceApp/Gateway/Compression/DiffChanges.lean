import SpaceApp.Gateway.Compression.DiffTotals

/-! The change lines of a hunk, through the parser and the context trim.
-/

set_option autoImplicit false

namespace SpaceApp.Gateway.Compression.Diff

open SpaceApp.Foundation

/-- What a line that the header's counts cover begins with. -/
def BodyLine (line : JsString) : Prop :=
  line = [] ∨ ∃ first ∈ ([0x20, 0x2B, 0x2D, 0x5C] : List CodeUnit), line.head? = some first

instance : DecidablePred BodyLine := fun line =>
  inferInstanceAs (Decidable (line = [] ∨ ∃ first ∈ ([0x20, 0x2B, 0x2D, 0x5C] : List CodeUnit), line.head? = some first))

def isMarker (line : JsString) : Bool := OLD_FILE line || NEW_FILE line

theorem prefix_head {expected line : JsString} {first : CodeUnit} (head : expected.head? = some first)
    (starts : expected.isPrefixOf line = true) : line.head? = some first := by
  obtain ⟨rest, rfl⟩ := List.isPrefixOf_iff_prefix.mp starts
  cases expected with
  | nil => cases head
  | cons unit units => exact head

def foreign (text : String) : Bool := (js text).head?.any fun first => !([0x20, 0x2B, 0x2D, 0x5C] : List CodeUnit).contains first

section
variable {line : JsString} (body : BodyLine line)

include body

theorem BodyLine.startsWith_not (text : String) (other : foreign text = true) : startsWith line text = false := by
  rw [← Bool.not_eq_true]
  intro starts
  cases head : (js text).head? with
  | none => simp [foreign, head] at other
  | some first =>
    have begins := prefix_head head starts
    rcases body with rfl | ⟨unit, member, its⟩
    · cases begins
    · rw [begins, Option.some.injEq] at its
      simp only [foreign, head, Option.any_some, Bool.not_eq_true', List.contains_eq_mem, decide_eq_false_iff_not] at other
      exact other (its ▸ member)

theorem BodyLine.readText_none (text : String) (other : foreign text = true) : readText (js text) line = none := by
  have starts := body.startsWith_not text other
  rw [startsWith] at starts
  rw [readText, starts]
  rfl

theorem BodyLine.not_header : isDiffHeader line = false := by
  rw [isDiffHeader, DIFF_GIT, DIFF_COMBINED, DIFF_CC, body.readText_none "diff --git a/" (by decide),
    body.readText_none "diff --combined " (by decide), body.readText_none "diff --cc " (by decide)]
  rfl

theorem BodyLine.marked (file : DiffFile) : file.marked line = file := by
  have binary : BINARY line = false := by
    rw [BINARY, body.readText_none "Binary files " (by decide)]
    rfl
  rw [DiffFile.marked, isRename, body.startsWith_not "new file mode" (by decide),
    body.startsWith_not "deleted file mode" (by decide), body.startsWith_not "rename " (by decide),
    body.startsWith_not "similarity " (by decide), body.startsWith_not "copy " (by decide),
    body.startsWith_not "dissimilarity " (by decide), binary]
  rfl

end

theorem codePoints_at {line : JsString} (at_sign : (codePoints line).head? = some 0x40) : line.head? = some 0x40 := by
  have unit : ∀ found : CodeUnit, some found.toNat = some 0x40 → some found = some 0x40 := by
    intro found same
    rw [Option.some.injEq] at same ⊢
    exact UInt16.toNat_inj.mp same
  cases line with
  | nil => cases at_sign
  | cons high rest =>
    cases rest with
    | nil => exact unit high at_sign
    | cons low rest =>
      rw [codePoints] at at_sign
      split at at_sign
      · simp only [List.head?_cons, Option.some.injEq] at at_sign
        omega
      · exact unit high at_sign

section

variable {unicode : Unicode} {line : JsString}

theorem HUNK_HEADER_head (header : HUNK_HEADER unicode line = true) : line.head? = some 0x40 := by
  refine codePoints_at ?_
  rw [HUNK_HEADER, List.any_eq_true] at header
  obtain ⟨parents, _, header⟩ := header
  obtain ⟨rest, found⟩ := Option.isSome_iff_exists.mp header
  rw [readHunkHeader] at found
  cases marks : readPoints (String.ofList (List.replicate (parents + 1) '@')) (codePoints line) with
  | none => simp [marks] at found
  | some ranges =>
    rw [readPoints] at marks
    split at marks
    · next starts =>
      obtain ⟨rest, same⟩ := List.isPrefixOf_iff_prefix.mp starts
      rw [← same]
      simp [List.replicate_succ]
    · cases marks

theorem BodyLine.not_hunk (body : BodyLine line) : HUNK_HEADER unicode line = false := by
  rw [← Bool.not_eq_true]
  intro header
  rcases body with rfl | ⟨first, member, head⟩
  · cases HUNK_HEADER_head header
  · rw [HUNK_HEADER_head header, Option.some.injEq] at head
    exact absurd member (head ▸ by decide)

theorem not_header_of_hunk (header : HUNK_HEADER unicode line = true) :
    isDiffHeader line = false ∧ OLD_FILE line = false ∧ NEW_FILE line = false := by
  have head := HUNK_HEADER_head header
  have apart : ∀ text : String, (js text).head? ≠ some 0x40 → (js text).head? ≠ none → readText (js text) line = none := by
    intro text other some_text
    rw [readText, if_neg]
    intro starts
    obtain ⟨first, begins⟩ := Option.ne_none_iff_exists'.mp some_text
    have same := (prefix_head begins starts).symm.trans head
    exact other (begins.trans same)
  refine ⟨?_, ?_, ?_⟩
  · rw [isDiffHeader, DIFF_GIT, DIFF_COMBINED, DIFF_CC, apart "diff --git a/" (by decide) (by decide),
      apart "diff --combined " (by decide) (by decide), apart "diff --cc " (by decide) (by decide)]
    rfl
  · rw [OLD_FILE, apart "--- " (by decide) (by decide)]
    rfl
  · rw [NEW_FILE, apart "+++ " (by decide) (by decide)]
    rfl

end

section
variable (unicode : Unicode)

theorem parse_body {body : List JsString} (legal : ∀ line ∈ body, BodyLine line) (state : ParseState) (file : DiffFile)
    (hunk : DiffHunk) (inside : state.currentFile = some file ∧ state.currentHunk = some hunk) :
    ∃ file' hunk', (body.foldl (parseLine unicode) state).files = state.files ∧
      (body.foldl (parseLine unicode) state).currentFile = some file' ∧
      (body.foldl (parseLine unicode) state).currentHunk = some hunk' ∧ file'.hunks = file.hunks ∧
      hunk'.header = hunk.header ∧ hunk'.lines = hunk.lines ++ body.filter fun line => !isMarker line := by
  induction body generalizing state file hunk with
  | nil => exact ⟨file, hunk, rfl, inside.1, inside.2, rfl, rfl, by simp⟩
  | cons line rest ih =>
    have here := legal line List.mem_cons_self
    have later := fun other member => legal other (List.mem_cons_of_mem line member)
    rw [List.foldl_cons]
    cases old : OLD_FILE line with
    | true =>
      have step : parseLine unicode state line = { state with currentFile := some { file with oldFile := line } } := by
        simp only [parseLine, here.not_header, inside.1, here.marked, old, Bool.false_eq_true, if_false, if_true]
      obtain ⟨file', hunk', files, current, currentHunk, hunks, header, lines⟩ :=
        ih later (parseLine unicode state line) { file with oldFile := line } hunk (by rw [step]; exact ⟨rfl, inside.2⟩)
      refine ⟨file', hunk', ?_, current, currentHunk, hunks, header, ?_⟩
      · rw [files, step]
      · rw [lines, List.filter_cons, isMarker, old]
        simp
    | false =>
      cases new : NEW_FILE line with
      | true =>
        have step : parseLine unicode state line = { state with currentFile := some { file with newFile := line } } := by
          simp only [parseLine, here.not_header, inside.1, here.marked, old, new, Bool.false_eq_true, if_false, if_true]
        obtain ⟨file', hunk', files, current, currentHunk, hunks, header, lines⟩ :=
          ih later (parseLine unicode state line) { file with newFile := line } hunk (by rw [step]; exact ⟨rfl, inside.2⟩)
        refine ⟨file', hunk', ?_, current, currentHunk, hunks, header, ?_⟩
        · rw [files, step]
        · rw [lines, List.filter_cons, isMarker, old, new]
          simp
      | false =>
        have step : parseLine unicode state line =
            { state with
              currentFile := some file
              currentHunk := some (hunk.push line) } := by
          simp only [parseLine, here.not_header, inside.1, inside.2, here.marked, here.not_hunk, old, new,
            Bool.false_eq_true, if_false, Option.map_some]
        obtain ⟨file', hunk', files, current, currentHunk, hunks, header, lines⟩ :=
          ih later (parseLine unicode state line) file (hunk.push line) (by rw [step]; exact ⟨rfl, rfl⟩)
        refine ⟨file', hunk', ?_, current, currentHunk, hunks, header, ?_⟩
        · rw [files, step]
        · rw [lines, List.filter_cons, isMarker, old, new, DiffHunk.push]
          simp

/-- The hunks of some files stay where they are, and may only get further lines. -/
def Grows (files later : List DiffFile) : Prop :=
  ∀ (place : ℕ) (file : DiffFile) (number : ℕ) (hunk : DiffHunk), files[place]? = some file → file.hunks[number]? = some hunk →
    ∃ file' hunk', later[place]? = some file' ∧ file'.hunks[number]? = some hunk' ∧ hunk'.header = hunk.header ∧
      hunk.lines <+: hunk'.lines

theorem Grows.refl (files : List DiffFile) : Grows files files :=
  fun _ file _ hunk found its => ⟨file, hunk, found, its, rfl, List.prefix_rfl⟩

theorem Grows.trans {files later last : List DiffFile} (first : Grows files later) (second : Grows later last) :
    Grows files last := by
  intro place file number hunk found its
  obtain ⟨file', hunk', found', its', header, lines⟩ := first place file number hunk found its
  obtain ⟨file'', hunk'', found'', its'', header', lines'⟩ := second place file' number hunk' found' its'
  exact ⟨file'', hunk'', found'', its'', header'.trans header, lines.trans lines'⟩

theorem Grows.last {files : List DiffFile} {file file' : DiffFile}
    (hunks : ∀ (number : ℕ) (hunk : DiffHunk), file.hunks[number]? = some hunk →
      ∃ hunk', file'.hunks[number]? = some hunk' ∧ hunk'.header = hunk.header ∧ hunk.lines <+: hunk'.lines) :
    Grows (files ++ [file]) (files ++ [file']) := by
  intro place found_file number hunk found its
  by_cases earlier : place < files.length
  · rw [List.getElem?_append_left earlier] at found
    exact ⟨found_file, hunk, by rw [List.getElem?_append_left earlier]; exact found, its, rfl, List.prefix_rfl⟩
  · rw [List.getElem?_append_right (not_lt.mp earlier)] at found ⊢
    obtain ⟨inside, same⟩ := List.getElem?_eq_some_iff.mp found
    have only : place - files.length = 0 := by
      simp only [List.length_singleton] at inside
      omega
    rw [only, List.getElem?_cons_zero, Option.some.injEq] at found
    subst found
    obtain ⟨hunk', its', header, lines⟩ := hunks number hunk its
    exact ⟨file', hunk', by rw [only, List.getElem?_cons_zero], its', header, lines⟩

theorem marked_hunks (file : DiffFile) (line : JsString) : (file.marked line).hunks = file.hunks := by
  rw [DiffFile.marked]
  split
  · rfl
  · split
    · rfl
    · split
      · rfl
      · split <;> rfl

theorem grows_parseLine (state : ParseState) (line : JsString) : Grows state.closed (parseLine unicode state line).closed := by
  rw [parseLine]
  split
  · intro place file number hunk found its
    refine ⟨file, hunk, ?_, its, rfl, List.prefix_rfl⟩
    rw [ParseState.closed, List.getElem?_append_left (List.getElem?_eq_some_iff.mp found).1]
    exact found
  · cases current : state.currentFile with
    | none =>
      simp only [ParseState.closed, current]
      exact Grows.refl _
    | some file =>
      have closed : state.closed = state.files ++ [file.closeHunk state.currentHunk] := by
        simp [ParseState.closed, current]
      rw [closed]
      dsimp only
      split
      · refine Grows.last ?_
        intro number hunk found
        refine ⟨hunk, ?_, rfl, List.prefix_rfl⟩
        simpa [DiffFile.closeHunk, marked_hunks] using found
      · split
        · refine Grows.last ?_
          intro number hunk found
          refine ⟨hunk, ?_, rfl, List.prefix_rfl⟩
          simpa [DiffFile.closeHunk, marked_hunks] using found
        · split
          · refine Grows.last ?_
            intro number hunk found
            refine ⟨hunk, ?_, rfl, List.prefix_rfl⟩
            simp only [DiffFile.closeHunk, marked_hunks] at found ⊢
            rw [List.getElem?_append_left (List.getElem?_eq_some_iff.mp found).1]
            exact found
          · cases inside : state.currentHunk with
            | none =>
              refine Grows.last ?_
              intro number hunk found
              refine ⟨hunk, ?_, rfl, List.prefix_rfl⟩
              simpa [DiffFile.closeHunk, marked_hunks] using found
            | some open_hunk =>
              refine Grows.last ?_
              intro number hunk found
              simp only [DiffFile.closeHunk, marked_hunks, Option.map_some, Option.toList_some] at found ⊢
              by_cases earlier : number < file.hunks.length
              · rw [List.getElem?_append_left earlier] at found ⊢
                exact ⟨hunk, found, rfl, List.prefix_rfl⟩
              · rw [List.getElem?_append_right (not_lt.mp earlier)] at found ⊢
                obtain ⟨only, _⟩ := List.getElem?_eq_some_iff.mp found
                have zero : number - file.hunks.length = 0 := by
                  simp only [List.length_singleton] at only
                  omega
                rw [zero, List.getElem?_cons_zero, Option.some.injEq] at found
                subst found
                exact ⟨open_hunk.push line, by rw [zero, List.getElem?_cons_zero], rfl, List.prefix_append _ _⟩

theorem grows_parse (lines : List JsString) (state : ParseState) :
    Grows state.closed (lines.foldl (parseLine unicode) state).closed := by
  induction lines generalizing state with
  | nil => exact Grows.refl _
  | cons line rest ih => exact (grows_parseLine unicode state line).trans (ih _)

/-- The lines of the hunks are no headers. -/
def PlainHunks (files : List DiffFile) : Prop :=
  ∀ file ∈ files, ∀ hunk ∈ file.hunks, ∀ line ∈ hunk.lines, isDiffHeader line = false ∧ HUNK_HEADER unicode line = false

theorem plain_parseLine {state : ParseState} (plain : PlainHunks unicode state.closed) (line : JsString) :
    PlainHunks unicode (parseLine unicode state line).closed := by
  rw [parseLine]
  split
  · intro file member
    rcases List.mem_append.mp member with before | last
    · exact plain file before
    · have empty : file.hunks = [] := by
        simp only [Option.map_some, Option.toList_some, List.mem_singleton] at last
        rw [last]
        rfl
      simp [empty]
  · next other =>
    cases current : state.currentFile with
    | none =>
      simpa [ParseState.closed, current] using plain
    | some file =>
      have closed : state.closed = state.files ++ [file.closeHunk state.currentHunk] := by
        simp [ParseState.closed, current]
      rw [closed] at plain
      have before : PlainHunks unicode state.files := fun file member => plain file (List.mem_append_left _ member)
      have last := plain _ (List.mem_append_right _ (List.mem_singleton.mpr rfl))
      -- only the last file changes
      have changed : ∀ file' : DiffFile, (∀ hunk ∈ file'.hunks, ∀ line ∈ hunk.lines,
          isDiffHeader line = false ∧ HUNK_HEADER unicode line = false) → PlainHunks unicode (state.files ++ [file']) := by
        intro file' plain' found member
        rcases List.mem_append.mp member with early | late
        · exact before found early
        · rw [List.mem_singleton.mp late]
          exact plain'
      dsimp only
      split
      · refine changed _ ?_
        simpa [DiffFile.closeHunk, marked_hunks] using last
      · split
        · refine changed _ ?_
          simpa [DiffFile.closeHunk, marked_hunks] using last
        · split
          · refine changed _ ?_
            intro hunk member
            simp only [DiffFile.closeHunk, marked_hunks] at member
            rcases List.mem_append.mp member with old | new
            · exact last hunk old
            · simp only [Option.toList_some, List.mem_singleton] at new
              simp [new]
          · next no_hunk =>
            refine changed _ ?_
            intro hunk member
            simp only [DiffFile.closeHunk, marked_hunks] at member
            rcases List.mem_append.mp member with old | new
            · exact last hunk (List.mem_append_left _ old)
            · cases inside : state.currentHunk with
              | none => simp [inside] at new
              | some open_hunk =>
                simp only [inside, Option.map_some, Option.toList_some, List.mem_singleton] at new last
                subst new
                intro found there
                rcases List.mem_append.mp there with kept | pushed
                · exact last open_hunk (List.mem_append_right _ (List.mem_singleton.mpr rfl)) found kept
                · rw [List.mem_singleton.mp pushed]
                  exact ⟨Bool.not_eq_true _ ▸ other, Bool.not_eq_true _ ▸ no_hunk⟩

theorem plain_parse (lines : List JsString) {state : ParseState} (plain : PlainHunks unicode state.closed) :
    PlainHunks unicode (lines.foldl (parseLine unicode) state).closed := by
  induction lines generalizing state with
  | nil => exact plain
  | cons line rest ih => exact ih (plain_parseLine unicode plain line)

def filesBefore (lines : List JsString) : ℕ := lines.countP isDiffHeader - 1

def hunksBefore (lines : List JsString) : ℕ :=
  (lines.reverse.takeWhile fun line => !isDiffHeader line).countP (HUNK_HEADER unicode)

theorem parse_position (lines : List JsString) :
    let state := lines.foldl (parseLine unicode) ⟨[], [], none, none⟩
    state.files.length + state.currentFile.toList.length = lines.countP isDiffHeader ∧
    ∀ file, state.currentFile = some file → file.hunks.length + state.currentHunk.toList.length = hunksBefore unicode lines := by
  induction lines using List.reverseRecOn with
  | nil => simp
  | append_singleton lines line ih =>
    obtain ⟨files, hunks⟩ := ih
    rw [List.foldl_append, List.foldl_cons, List.foldl_nil, List.countP_append, List.countP_singleton, hunksBefore,
      List.reverse_concat, List.takeWhile_cons]
    generalize lines.foldl (parseLine unicode) ⟨[], [], none, none⟩ = state at files hunks ⊢
    rw [parseLine]
    cases header : isDiffHeader line with
    | true =>
      refine ⟨?_, ?_⟩
      · simp only [if_true, ParseState.closed, List.length_append, Option.toList_some, List.length_singleton, ← files]
        cases state.currentFile <;> simp
      · rintro file ⟨⟩
        simp [emptyFile]
    | false =>
      cases current : state.currentFile with
      | none =>
        refine ⟨by simpa [current] using files, ?_⟩
        intro file found
        cases found
      | some file =>
        have counted := hunks file current
        rw [current] at files
        rw [hunksBefore] at counted
        simp only [Bool.false_eq_true, if_false, Bool.not_false, if_true, List.countP_cons, add_zero]
        cases hunk : HUNK_HEADER unicode line with
        | true =>
          obtain ⟨_, old, new⟩ := not_header_of_hunk hunk
          simp only [old, new, Bool.false_eq_true, if_false, if_true]
          refine ⟨files, ?_⟩
          rintro file' ⟨⟩
          simp only [DiffFile.closeHunk, marked_hunks, List.length_append, Option.toList_some, List.length_singleton, counted]
        | false =>
          split
          · refine ⟨files, ?_⟩
            rintro file' ⟨⟩
            simpa [marked_hunks] using counted
          · split
            · refine ⟨files, ?_⟩
              rintro file' ⟨⟩
              simpa [marked_hunks] using counted
            · refine ⟨files, ?_⟩
              rintro file' ⟨⟩
              rw [marked_hunks]
              cases inside : state.currentHunk <;> simpa [inside] using counted

theorem files_opened (lines : List JsString) {state : ParseState} (first : state.currentFile = none → state.files = []) :
    (lines.foldl (parseLine unicode) state).currentFile = none → (lines.foldl (parseLine unicode) state).files = [] := by
  induction lines generalizing state with
  | nil => exact first
  | cons line rest ih =>
    refine ih ?_
    rw [parseLine]
    split
    · rintro ⟨⟩
    · cases current : state.currentFile with
      | none => exact fun _ => first current
      | some file =>
        dsimp only
        split
        · rintro ⟨⟩
        · split
          · rintro ⟨⟩
          · split <;> rintro ⟨⟩

theorem opened {lines : List JsString} (header : ∃ line ∈ lines, isDiffHeader line = true) :
    ∃ file, (lines.foldl (parseLine unicode) ⟨[], [], none, none⟩).currentFile = some file := by
  obtain ⟨files, _⟩ := parse_position unicode lines
  have first := files_opened unicode lines (fun _ => rfl : (⟨[], [], none, none⟩ : ParseState).currentFile = none → _)
  have counted := List.countP_pos_iff.mpr header
  generalize lines.foldl (parseLine unicode) ⟨[], [], none, none⟩ = state at files first ⊢
  cases current : state.currentFile with
  | none =>
    rw [current, first current] at files
    simp only [List.length_nil, Option.toList_none] at files
    omega
  | some file => exact ⟨file, rfl⟩

theorem parsed_hunk {before body : List JsString} {header : JsString} (after : List JsString)
    (inFile : ∃ line ∈ before, isDiffHeader line = true) (begins : HUNK_HEADER unicode header = true)
    (legal : ∀ line ∈ body, BodyLine line) :
    ∃ file hunk, (parseDiff unicode (before ++ header :: (body ++ after))).files[filesBefore before]? = some file ∧
      file.hunks[hunksBefore unicode before]? = some hunk ∧ hunk.header = header ∧
      (body.filter fun line => !isMarker line) <+: hunk.lines := by
  obtain ⟨file, current⟩ := opened unicode inFile
  obtain ⟨files, hunks⟩ := parse_position unicode before
  have number := hunks file current
  obtain ⟨other, old, new⟩ := not_header_of_hunk begins
  rw [parseDiff, List.foldl_append, List.foldl_cons, List.foldl_append]
  generalize before.foldl (parseLine unicode) ⟨[], [], none, none⟩ = state at current files number ⊢
  have step : parseLine unicode state header =
      { state with
        currentFile := some ((file.marked header).closeHunk state.currentHunk)
        currentHunk := some ⟨header, [], 0, 0, 0⟩ } := by
    simp only [parseLine, other, old, new, begins, current, Bool.false_eq_true, if_false, if_true]
  obtain ⟨file', hunk', kept, inside, hunk, same, header', lines⟩ := parse_body unicode legal (parseLine unicode state header)
    ((file.marked header).closeHunk state.currentHunk) ⟨header, [], 0, 0, 0⟩ (by rw [step]; exact ⟨rfl, rfl⟩)
  have place : filesBefore before = state.files.length := by
    rw [filesBefore, ← files, current]
    simp
  have grown := grows_parse unicode after (body.foldl (parseLine unicode) (parseLine unicode state header))
    (filesBefore before) (file'.closeHunk (some hunk')) (hunksBefore unicode before) hunk' ?_ ?_
  · obtain ⟨last, final, found, its, header'', more⟩ := grown
    have body_lines : hunk'.lines = body.filter fun line => !isMarker line := lines
    exact ⟨last, final, found, its, header''.trans header', body_lines ▸ more⟩
  · rw [ParseState.closed, kept, inside, hunk, step, place]
    simp
  · rw [DiffFile.closeHunk, same, ← number]
    simp only [DiffFile.closeHunk, marked_hunks, Option.toList_some]
    simp

end

theorem changesFrom_mem (lines : List JsString) (index position : ℕ) : position ∈ changesFrom index lines ↔
      ∃ later line, position = index + later ∧ lines[later]? = some line ∧ isChange line = true := by
  induction lines generalizing index with
  | nil => simp [changesFrom]
  | cons line rest ih =>
    have shifted : (∃ later found, position = index + later ∧ (line :: rest)[later]? = some found ∧ isChange found = true) ↔
        position = index ∧ isChange line = true ∨
          ∃ later found, position = index + 1 + later ∧ rest[later]? = some found ∧ isChange found = true := by
      constructor
      · rintro ⟨later, found, same, there, change⟩
        cases later with
        | zero =>
          simp only [List.getElem?_cons_zero, Option.some.injEq] at there
          exact .inl ⟨same, there ▸ change⟩
        | succ later => exact .inr ⟨later, found, by omega, there, change⟩
      · rintro (⟨same, change⟩ | ⟨later, found, same, there, change⟩)
        · exact ⟨0, line, same, rfl, change⟩
        · exact ⟨later + 1, found, by omega, there, change⟩
    rw [changesFrom, shifted]
    split
    · next change =>
      rw [List.mem_cons, ih]
      simp [change]
    · next plain =>
      rw [ih]
      simp [plain]

def activeBefore (difference : ℕ → ℤ) (index : ℕ) : ℤ := ((List.range index).map difference).sum

theorem activeBefore_succ (difference : ℕ → ℤ) (index : ℕ) :
    activeBefore difference (index + 1) = activeBefore difference index + difference index := by
  simp [activeBefore, List.range_succ]

theorem activeBefore_cons (position : ℕ) (rest : List ℕ) (lineCount maxContext index : ℕ) :
    activeBefore (coverage (position :: rest) lineCount maxContext) index =
      (if position - maxContext < index then 1 else 0) -
          (if min lineCount (position + maxContext + 1) < index then 1 else 0) +
        activeBefore (coverage rest lineCount maxContext) index := by
  induction index with
  | zero => simp [activeBefore]
  | succ index ih =>
    have here : coverage (position :: rest) lineCount maxContext index =
        (if position - maxContext = index then 1 else 0) -
          (if min lineCount (position + maxContext + 1) = index then 1 else 0) + coverage rest lineCount maxContext index := by
      rw [coverage, List.map_cons, List.sum_cons, ← coverage]
    have start : (if position - maxContext < index + 1 then (1 : ℤ) else 0) =
        (if position - maxContext < index then 1 else 0) + if position - maxContext = index then 1 else 0 := by
      split <;> split <;> split <;> omega
    have finish : (if min lineCount (position + maxContext + 1) < index + 1 then (1 : ℤ) else 0) =
        (if min lineCount (position + maxContext + 1) < index then 1 else 0) +
          if min lineCount (position + maxContext + 1) = index then 1 else 0 := by
      split <;> split <;> split <;> omega
    rw [activeBefore_succ, activeBefore_succ, ih, here, start, finish]
    omega

theorem activeBefore_coverage (changes : List ℕ) (lineCount maxContext index : ℕ) :
    activeBefore (coverage changes lineCount maxContext) index =
      (changes.map fun position =>
        (if position - maxContext < index then 1 else 0) -
          (if min lineCount (position + maxContext + 1) < index then 1 else 0) : List ℤ).sum := by
  induction changes with
  | nil =>
    have zeros : ∀ count, activeBefore (coverage [] lineCount maxContext) count = 0 := by
      intro count
      induction count with
      | zero => rfl
      | succ count ih => rw [activeBefore_succ, ih, coverage, List.map_nil, List.sum_nil, add_zero]
    rw [zeros]
    rfl
  | cons position rest ih => rw [activeBefore_cons, ih, List.map_cons, List.sum_cons]

theorem active_at_change {changes : List ℕ} {position lineCount : ℕ} (maxContext : ℕ) (member : position ∈ changes)
    (inside : position < lineCount) : 0 < activeBefore (coverage changes lineCount maxContext) (position + 1) := by
  rw [activeBefore_coverage]
  have nonneg : ∀ other : ℕ, (0 : ℤ) ≤ (if other - maxContext < position + 1 then 1 else 0) -
      (if min lineCount (other + maxContext + 1) < position + 1 then 1 else 0) := by
    intro other
    split <;> split <;> omega
  induction changes with
  | nil => cases member
  | cons first rest ih =>
    rw [List.map_cons, List.sum_cons]
    rcases List.mem_cons.mp member with rfl | later
    · have rest_nonneg : (0 : ℤ) ≤ (rest.map fun other =>
          (if other - maxContext < position + 1 then 1 else 0) -
            (if min lineCount (other + maxContext + 1) < position + 1 then 1 else 0) : List ℤ).sum := by
        refine List.sum_nonneg ?_
        intro value there
        obtain ⟨other, _, rfl⟩ := List.mem_map.mp there
        exact nonneg other
      omega
    · have later_positive := ih later
      omega

theorem trimmedFrom_changes (difference : ℕ → ℤ) (lines : List JsString) (index : ℕ)
    (active : ∀ later line, lines[later]? = some line → isChange line = true →
      0 < activeBefore difference (index + later + 1)) :
    (lines.filter isChange).Sublist (trimmedFrom difference index (activeBefore difference index) lines) := by
  induction lines generalizing index with
  | nil => exact List.Sublist.refl _
  | cons line rest ih =>
    have rest_active := ih (index + 1) fun later found there change => by
      have moved := active (later + 1) found there change
      rwa [show index + (later + 1) + 1 = index + 1 + later + 1 by omega] at moved
    rw [activeBefore_succ] at rest_active
    rw [trimmedFrom]
    cases change : isChange line with
    | true =>
      have here := active 0 line rfl change
      rw [add_zero, activeBefore_succ] at here
      rw [List.filter_cons_of_pos change, if_neg (fun left => absurd left.1 (not_le.mpr here))]
      exact rest_active.cons_cons line
    | false =>
      rw [List.filter_cons_of_neg (by simp [change])]
      split
      · exact rest_active
      · exact rest_active.cons line

theorem trimmedFrom_sublist (difference : ℕ → ℤ) (lines : List JsString) (index : ℕ) (active : ℤ) :
    (trimmedFrom difference index active lines).Sublist lines := by
  induction lines generalizing index active with
  | nil => exact List.Sublist.refl _
  | cons line rest ih =>
    rw [trimmedFrom]
    split
    · exact (ih _ _).cons line
    · exact (ih _ _).cons_cons line

theorem reduceContext_changes (hunk : DiffHunk) (maxContext : ℕ) :
    (hunk.lines.filter isChange).Sublist (reduceContext hunk maxContext).lines := by
  have changes := changesFrom_mem hunk.lines 0
  rw [reduceContext]
  split
  · next none_there =>
    have no_change : hunk.lines.filter isChange = [] := by
      rw [List.filter_eq_nil_iff]
      intro line member change
      obtain ⟨later, there⟩ := List.getElem?_of_mem member
      have found := (changes (0 + later)).mpr ⟨later, line, rfl, there, change⟩
      rw [none_there] at found
      cases found
    rw [no_change]
    exact List.nil_sublist _
  · refine trimmedFrom_changes _ hunk.lines 0 ?_
    intro later line there change
    have inside := (List.getElem?_eq_some_iff.mp there).1
    have member := (changes (0 + later)).mpr ⟨later, line, rfl, there, change⟩
    exact active_at_change maxContext member (by omega)

theorem reduceContext_sublist (hunk : DiffHunk) (maxContext : ℕ) :
    (reduceContext hunk maxContext).lines.Sublist hunk.lines := by
  rw [reduceContext]
  split
  · exact List.take_sublist _ _
  · exact trimmedFrom_sublist _ _ _ _

end SpaceApp.Gateway.Compression.Diff
