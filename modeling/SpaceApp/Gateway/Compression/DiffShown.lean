import SpaceApp.Gateway.Compression.DiffChanges
import SpaceApp.Foundation.Strip

/-! The change lines of a hunk in the output.
-/

set_option autoImplicit false

namespace SpaceApp.Gateway.Compression.Diff

open SpaceApp.Foundation

def DiffFile.texts (file : DiffFile) : List JsString :=
  file.header :: file.oldFile :: file.newFile ::
    (file.renameLines ++ file.hunks.flatMap fun hunk => hunk.header :: hunk.lines)

def ParseState.texts (state : ParseState) : List JsString := state.preDiffLines ++ state.closed.flatMap DiffFile.texts

theorem mem_closeHunk (file : DiffFile) (hunk : Option DiffHunk) (text : JsString) :
    text ∈ (file.closeHunk hunk).texts ↔
      text ∈ file.texts ∨ text ∈ hunk.toList.flatMap fun hunk => hunk.header :: hunk.lines := by
  simp only [DiffFile.texts, DiffFile.closeHunk, List.flatMap_append, List.mem_cons, List.mem_append]
  tauto

section

variable {file : DiffFile} {line text : JsString}

theorem mem_marked (member : text ∈ (file.marked line).texts) : text ∈ file.texts ∨ text = line := by
  rw [DiffFile.marked] at member
  split at member
  · exact .inl member
  · split at member
    · exact .inl member
    · split at member
      · simp only [DiffFile.texts, List.mem_cons, List.mem_append, List.not_mem_nil, or_false] at member ⊢
        tauto
      · split at member <;> exact .inl member

theorem mem_oldFile (member : text ∈ { file with oldFile := line }.texts) : text ∈ file.texts ∨ text = line := by
  simp only [DiffFile.texts, List.mem_cons] at member ⊢
  rcases member with header | old | rest
  · exact .inl (.inl header)
  · exact .inr old
  · exact .inl (.inr (.inr rest))

theorem mem_newFile (member : text ∈ { file with newFile := line }.texts) : text ∈ file.texts ∨ text = line := by
  simp only [DiffFile.texts, List.mem_cons] at member ⊢
  rcases member with header | old | new | rest
  · exact .inl (.inl header)
  · exact .inl (.inr (.inl old))
  · exact .inr new
  · exact .inl (.inr (.inr (.inr rest)))

end

theorem mem_push {hunk : DiffHunk} {line text : JsString} (member : text ∈ (hunk.push line).header :: (hunk.push line).lines) :
    text ∈ hunk.header :: hunk.lines ∨ text = line := by
  simp only [DiffHunk.push, List.mem_cons, List.mem_append, List.not_mem_nil, or_false] at member ⊢
  rcases member with header | kept | new
  · exact .inl (.inl header)
  · exact .inl (.inr kept)
  · exact .inr new

section
variable (unicode : Unicode)

theorem mem_open {state : ParseState} {file : DiffFile} (current : state.currentFile = some file) (text : JsString) :
    text ∈ state.texts ↔ text ∈ state.preDiffLines ∨ text ∈ state.files.flatMap DiffFile.texts ∨ text ∈ file.texts ∨
      text ∈ state.currentHunk.toList.flatMap fun hunk => hunk.header :: hunk.lines := by
  rw [ParseState.texts, ParseState.closed, current, Option.map_some, Option.toList_some, List.flatMap_append,
    List.flatMap_singleton, List.mem_append, List.mem_append, mem_closeHunk]

theorem texts_open {state : ParseState} {file file' : DiffFile} {hunk' : Option DiffHunk} {line : JsString}
    (current : state.currentFile = some file)
    (files : ∀ text ∈ file'.texts, text ∈ file.texts ∨
      (text ∈ state.currentHunk.toList.flatMap fun hunk => hunk.header :: hunk.lines) ∨ text = line)
    (hunks : ∀ text ∈ hunk'.toList.flatMap fun hunk => hunk.header :: hunk.lines,
      (text ∈ state.currentHunk.toList.flatMap fun hunk => hunk.header :: hunk.lines) ∨ text = line) :
    ∀ text ∈ { state with currentFile := some file', currentHunk := hunk' }.texts, text ∈ state.texts ∨ text = line := by
  intro text member
  rw [mem_open rfl] at member
  rw [mem_open current]
  rcases member with pre | old | here | inside
  · exact .inl (.inl pre)
  · exact .inl (.inr (.inl old))
  · rcases files text here with kept | closed | new
    · exact .inl (.inr (.inr (.inl kept)))
    · exact .inl (.inr (.inr (.inr closed)))
    · exact .inr new
  · rcases hunks text inside with kept | new
    · exact .inl (.inr (.inr (.inr kept)))
    · exact .inr new

theorem texts_parseLine (state : ParseState) (line : JsString) :
    ∀ text ∈ (parseLine unicode state line).texts, text ∈ state.texts ∨ text = line ∨ text = [] := by
  rw [parseLine]
  split
  · intro text member
    simp only [ParseState.texts, ParseState.closed, Option.map_some, Option.toList_some, List.flatMap_append,
      List.flatMap_singleton, List.mem_append] at member ⊢
    rcases member with before | (old | now)
    · exact .inl (.inl before)
    · exact .inl (.inr old)
    · simp only [DiffFile.texts, DiffFile.closeHunk, emptyFile] at now
      simp at now
      exact .inr now
  · cases current : state.currentFile with
    | none =>
      intro text member
      simp only [ParseState.texts, ParseState.closed, current, List.mem_append, List.mem_singleton] at member ⊢
      rcases member with (before | new) | rest
      · exact .inl (.inl before)
      · exact .inr (.inl new)
      · exact .inl (.inr rest)
    | some file =>
      dsimp only
      intro text member
      have weaken : text ∈ state.texts ∨ text = line → text ∈ state.texts ∨ text = line ∨ text = [] := by
        rintro (old | new)
        · exact .inl old
        · exact .inr (.inl new)
      refine weaken ?_
      split at member
      · refine texts_open current ?_ (fun text inside => .inl inside) text member
        intro text inside
        rcases mem_oldFile inside with kept | new
        · exact (mem_marked kept).imp_right .inr
        · exact .inr (.inr new)
      · split at member
        · refine texts_open current ?_ (fun text inside => .inl inside) text member
          intro text inside
          rcases mem_newFile inside with kept | new
          · exact (mem_marked kept).imp_right .inr
          · exact .inr (.inr new)
        · split at member
          · refine texts_open current ?_ ?_ text member
            · intro text inside
              rcases (mem_closeHunk _ _ _).mp inside with kept | closed
              · exact (mem_marked kept).imp_right .inr
              · exact .inr (.inl closed)
            · intro text inside
              simp only [Option.toList_some, List.flatMap_singleton, List.mem_singleton] at inside
              exact .inr inside
          · refine texts_open current (fun text inside => (mem_marked inside).imp_right .inr) ?_ text member
            intro text inside
            cases hunk : state.currentHunk with
            | none => simp [hunk] at inside
            | some open_hunk =>
              rw [hunk] at inside
              simp only [Option.map_some, Option.toList_some, List.flatMap_singleton] at inside ⊢
              exact mem_push inside

theorem texts_parse (lines : List JsString) (state : ParseState) :
    ∀ text ∈ (lines.foldl (parseLine unicode) state).texts, text ∈ state.texts ∨ text ∈ lines ∨ text = [] := by
  induction lines generalizing state with
  | nil => exact fun text member => .inl member
  | cons line rest ih =>
    intro text member
    rcases ih (parseLine unicode state line) text member with before | later | empty
    · rcases texts_parseLine unicode state line text before with old | rfl | empty
      · exact .inl old
      · exact .inr (.inl List.mem_cons_self)
      · exact .inr (.inr empty)
    · exact .inr (.inl (List.mem_cons_of_mem line later))
    · exact .inr (.inr empty)

theorem parsed_plain {lines : List JsString} (plain : ∀ line ∈ lines, LF ∉ line) :
    (∀ line ∈ (parseDiff unicode lines).preDiffLines, LF ∉ line) ∧
      ∀ file ∈ (parseDiff unicode lines).files, ∀ text ∈ file.texts, LF ∉ text := by
  have known : ∀ text ∈ (lines.foldl (parseLine unicode) ⟨[], [], none, none⟩).texts, LF ∉ text := by
    intro text member
    rcases texts_parse unicode lines ⟨[], [], none, none⟩ text member with before | line | rfl
    · simp [ParseState.texts, ParseState.closed] at before
    · exact plain text line
    · exact List.not_mem_nil
  constructor
  · intro line member
    exact known line (List.mem_append_left _ member)
  · intro file member text inside
    exact known text (List.mem_append_right _ (List.mem_flatMap.mpr ⟨file, member, inside⟩))

end

section
variable (unicode : Unicode) {Score : Type} [LinearOrder Score] (score : DiffHunk → Score) (md5Hex24 : JsString → JsString)

theorem selectHunks_subset (hunks : List DiffHunk) (maxPerFile : ℕ) :
    (selectHunks unicode score hunks maxPerFile).selected ⊆ hunks := by
  unfold selectHunks
  split
  · exact List.Subset.refl hunks
  · cases hunks with
    | nil => exact List.nil_subset _
    | cons first rest =>
      intro hunk member
      simp only [List.mem_insertionSort, List.mem_cons, List.mem_append, Option.mem_toList] at member
      rcases member with rfl | ranked | last
      · exact List.mem_cons_self
      · have middle := (List.mem_insertionSort _).mp (List.mem_of_mem_take ranked)
        exact List.mem_cons_of_mem _ (List.mem_of_mem_dropLast middle)
      · exact List.mem_cons_of_mem _ (List.mem_of_getLast? last)

theorem keptFiles_subset (settings : DiffCompressorConfig) (files : List DiffFile) : keptFiles settings files ⊆ files := by
  rw [keptFiles]
  split
  · intro file member
    exact (List.mem_insertionSort _).mp (List.mem_of_mem_take member)
  · exact List.Subset.refl files

theorem reduceContext_header (hunk : DiffHunk) (maxContext : ℕ) : (reduceContext hunk maxContext).header = hunk.header := by
  rw [reduceContext]
  split <;> rfl

theorem decimal_plain (number : ℕ) : LF ∉ decimal number := by
  intro member
  exact absurd (decimal_digits number LF member) (by decide)

theorem footer_plain (filesAffected additions deletions hunksRemoved : ℕ) :
    LF ∉ footer filesAffected additions deletions hunksRemoved := by
  have fixed : LF ∉ js "[" ∧ LF ∉ js " files changed, +" ∧ LF ∉ js " -" ∧ LF ∉ js " lines" ∧ LF ∉ js ", " ∧
      LF ∉ js " hunks omitted" ∧ LF ∉ js "]" := by decide
  have removed : LF ∉ (if hunksRemoved > 0 then js ", " ++ decimal hunksRemoved ++ js " hunks omitted" else []) := by
    split
    · simp only [List.mem_append, not_or]
      exact ⟨⟨fixed.2.2.2.2.1, decimal_plain _⟩, fixed.2.2.2.2.2.1⟩
    · exact List.not_mem_nil
  obtain ⟨open_mark, files, minus, lines, _, _, close⟩ := fixed
  simp only [footer, List.mem_append, not_or]
  exact ⟨⟨⟨⟨⟨⟨⟨⟨open_mark, decimal_plain _⟩, files⟩, decimal_plain _⟩, minus⟩, decimal_plain _⟩, lines⟩, removed⟩, close⟩

theorem mem_output {file : DiffFile} {line : JsString} (member : line ∈ file.output) :
    line ∈ file.texts ∨ line ∈ [js "new file mode 100644", js "deleted file mode 100644", js "Binary files differ"] := by
  rcases List.mem_append.mp member with before | body
  · rcases List.mem_append.mp before with names | mode
    · left
      rcases List.mem_cons.mp names with rfl | rename
      · exact List.mem_cons_self
      · exact List.mem_cons_of_mem _ (List.mem_cons_of_mem _ (List.mem_cons_of_mem _ (List.mem_append_left _ rename)))
    · right
      split at mode
      · simp [List.mem_singleton.mp mode]
      · split at mode
        · simp [List.mem_singleton.mp mode]
        · cases mode
  · split at body
    · right
      simp [List.mem_singleton.mp body]
    · left
      rw [DiffFile.texts]
      rcases List.mem_append.mp body with names | shown
      · rcases List.mem_append.mp names with old | new
        · split at old
          · cases old
          · simp [List.mem_singleton.mp old]
        · split at new
          · cases new
          · simp [List.mem_singleton.mp new]
      · exact List.mem_cons_of_mem _ (List.mem_cons_of_mem _ (List.mem_cons_of_mem _ (List.mem_append_right _ shown)))

theorem compressedFile_texts (settings : DiffCompressorConfig) (file : DiffFile) :
    (DiffFile.compressedFile unicode score settings file).texts ⊆ file.texts := by
  intro text member
  simp only [DiffFile.texts, DiffFile.compressedFile, List.mem_cons, List.mem_append] at member ⊢
  rcases member with header | old | new | rename | shown
  · exact .inl header
  · exact .inr (.inl old)
  · exact .inr (.inr (.inl new))
  · exact .inr (.inr (.inr (.inl rename)))
  · refine .inr (.inr (.inr (.inr ?_)))
    obtain ⟨reduced, there, inside⟩ := List.mem_flatMap.mp shown
    obtain ⟨hunk, selected, rfl⟩ := List.mem_map.mp there
    refine List.mem_flatMap.mpr ⟨hunk, selectHunks_subset unicode score _ _ selected, ?_⟩
    rw [reduceContext_header] at inside
    rcases List.mem_cons.mp inside with rfl | kept
    · exact List.mem_cons_self
    · exact List.mem_cons_of_mem _ ((reduceContext_sublist hunk _).mem kept)

theorem output_plain (settings : DiffCompressorConfig) {file : DiffFile} (plain : ∀ text ∈ file.texts, LF ∉ text) :
    ∀ line ∈ (DiffFile.compressedFile unicode score settings file).output, LF ∉ line := by
  intro line member
  rcases mem_output member with text | fixed
  · exact plain line (compressedFile_texts unicode score settings file text)
  · exact (by decide : ∀ line ∈ [js "new file mode 100644", js "deleted file mode 100644", js "Binary files differ"],
      LF ∉ line) line fixed

/-- The lines stand under a header, before any other header. -/
def Under (output : List JsString) (header : JsString) (lines : List JsString) : Prop :=
  ∃ above shown below, output = above ++ header :: (shown ++ below) ∧ lines.Sublist shown ∧
    ∀ line ∈ shown, isDiffHeader line = false ∧ HUNK_HEADER unicode line = false

variable {unicode} in
theorem Under.inside {output lines : List JsString} {header : JsString} (under : Under unicode output header lines)
    (before after : List JsString) : Under unicode (before ++ output ++ after) header lines := by
  obtain ⟨above, shown, below, rfl, sublist, plain⟩ := under
  exact ⟨before ++ above, shown, below ++ after, by simp, sublist, plain⟩

variable {unicode} in
theorem Under.flatMap {α : Type} {items : List α} {item : α} (output : α → List JsString) {header : JsString}
    {lines : List JsString} (under : Under unicode (output item) header lines) (member : item ∈ items) :
    Under unicode (items.flatMap output) header lines := by
  obtain ⟨before, after, rfl⟩ := List.append_of_mem member
  rw [List.flatMap_append, List.flatMap_cons, ← List.append_assoc]
  exact under.inside _ _

/-- What is kept: the file, and the hunk of it. -/
structure Kept (settings : DiffCompressorConfig) (files : List DiffFile) (file : DiffFile) (hunk : DiffHunk) : Prop where
  inFile : file ∈ keptFiles settings files
  selected : hunk ∈ (selectHunks unicode score file.hunks settings.maxHunksPerFile).selected

theorem output_under (settings : DiffCompressorConfig) {files : List DiffFile} {file : DiffFile} {hunk : DiffHunk}
    (plain : PlainHunks unicode files) (kept : Kept unicode score settings files file hunk) (shown : file.isBinary = false) :
    Under unicode ((keptFiles settings files).flatMap fun file => (DiffFile.compressedFile unicode score settings file).output)
      hunk.header (hunk.lines.filter isChange) := by
  have reduced : Under unicode (hunk.header :: (reduceContext hunk settings.maxContextLines).lines) hunk.header
      (hunk.lines.filter isChange) := by
    refine ⟨[], (reduceContext hunk settings.maxContextLines).lines, [], by simp, reduceContext_changes hunk _, ?_⟩
    intro line member
    exact plain file (keptFiles_subset settings files kept.inFile) hunk (selectHunks_subset unicode score _ settings.maxHunksPerFile kept.selected) line
      ((reduceContext_sublist hunk _).mem member)
  have inFile : Under unicode (DiffFile.compressedFile unicode score settings file).output hunk.header
      (hunk.lines.filter isChange) := by
    have hunks : Under unicode ((selectHunks unicode score file.hunks settings.maxHunksPerFile).selected.flatMap fun hunk =>
        hunk.header :: (reduceContext hunk settings.maxContextLines).lines) hunk.header (hunk.lines.filter isChange) :=
      reduced.flatMap (fun hunk => hunk.header :: (reduceContext hunk settings.maxContextLines).lines) kept.selected
    have whole := hunks.inside (file.header :: file.renameLines ++
      (if file.isNewFile then [js "new file mode 100644"]
      else if file.isDeletedFile then [js "deleted file mode 100644"] else []) ++
      ((if file.oldFile = [] then [] else [file.oldFile]) ++ (if file.newFile = [] then [] else [file.newFile]))) []
    rw [DiffFile.output, DiffFile.compressedFile]
    simp only [shown, Bool.false_eq_true, if_false, List.flatMap_map, reduceContext_header]
    simpa only [List.append_nil, List.append_assoc] using whole
  exact inFile.flatMap (fun file => (DiffFile.compressedFile unicode score settings file).output) kept.inFile

theorem compressParsed_lines (settings : DiffCompressorConfig) (content : JsString) (originalLineCount : ℕ) (parsed : ParsedDiff)
    (before : ∀ line ∈ parsed.preDiffLines, LF ∉ line) (files : ∀ file ∈ parsed.files, ∀ text ∈ file.texts, LF ∉ text)
    (some_file : keptFiles settings parsed.files ≠ []) :
    ∃ more, (compressParsed unicode score md5Hex24 settings content originalLineCount parsed).compressed.splitOn LF =
      parsed.preDiffLines ++
        ((keptFiles settings parsed.files).flatMap fun file => (DiffFile.compressedFile unicode score settings file).output) ++
        more := by
  have affected : 0 < ((keptFiles settings parsed.files).map (DiffFile.compressedFile unicode score settings)).length := by
    rw [List.length_map]
    exact List.length_pos_iff.mpr some_file
  have put_together : ∀ additions deletions removed : ℕ,
      (formatOutput parsed.preDiffLines ((keptFiles settings parsed.files).map (DiffFile.compressedFile unicode score settings))
        ((keptFiles settings parsed.files).map (DiffFile.compressedFile unicode score settings)).length
        additions deletions removed).splitOn LF =
      parsed.preDiffLines ++
        ((keptFiles settings parsed.files).flatMap fun file => (DiffFile.compressedFile unicode score settings file).output) ++
        [footer ((keptFiles settings parsed.files).map (DiffFile.compressedFile unicode score settings)).length
          additions deletions removed] := by
    intro additions deletions removed
    rw [formatOutput_footer _ _ affected, joinLines, List.splitOn_intercalate, List.flatMap_map]
    · intro line member
      rcases List.mem_append.mp member with lines | last
      · rcases List.mem_append.mp lines with pre | shown
        · exact before line pre
        · obtain ⟨printed, there, inside⟩ := List.mem_flatMap.mp shown
          obtain ⟨file, kept, rfl⟩ := List.mem_map.mp there
          exact output_plain unicode score settings (files file (keptFiles_subset settings _ kept)) line inside
      · rw [List.mem_singleton.mp last]
        exact footer_plain _ _ _ _
    · simp
  rw [compressParsed]
  split
  · rw [ccrMarker]
    simp only [List.append_assoc, List.cons_append, List.nil_append]
    rw [List.splitOn_append_cons_self, put_together]
    exact ⟨_, (List.append_assoc _ _ _).trans (List.append_assoc _ _ _)⟩
  · rw [put_together]
    exact ⟨_, rfl⟩

/-- A hunk of the text is parsed at its place. Where it is kept and its file printed, its changes stand under its
header, in order, save those that are taken for the names of files; a text that is too short stays as it is. -/
theorem compressDiff_shows_changes (settings : DiffCompressorConfig) {content header : JsString}
    {before body after : List JsString} (lines : content.splitOn LF = before ++ header :: (body ++ after))
    (inFile : ∃ line ∈ before, isDiffHeader line = true) (begins : HUNK_HEADER unicode header = true)
    (legal : ∀ line ∈ body, BodyLine line) :
    let files := (parseDiff unicode (content.splitOn LF)).files
    let compressed := (compressDiff unicode score md5Hex24 settings content).compressed
    ∃ file hunk, files[filesBefore before]? = some file ∧ file.hunks[hunksBefore unicode before]? = some hunk ∧
      hunk.header = header ∧
      ((content.splitOn LF).length < settings.minLinesForCcr → compressed = content) ∧
      (settings.minLinesForCcr ≤ (content.splitOn LF).length → Kept unicode score settings files file hunk →
        file.isBinary = false →
        Under unicode (compressed.splitOn LF) header (body.filter fun line => isChange line && !isMarker line)) := by
  intro files compressed
  obtain ⟨file, hunk, place, number, same, inside⟩ := parsed_hunk unicode after inFile begins legal
  rw [← lines] at place
  refine ⟨file, hunk, place, number, same, ?_, ?_⟩
  · intro short
    simp only [compressed, compressDiff, if_pos short, passThrough]
  · intro long kept printed
    have some_file : files ≠ [] := List.ne_nil_of_mem (List.mem_of_getElem? place)
    have shape := compressDiff_parsed unicode score md5Hex24 long some_file
    obtain ⟨pre, texts⟩ := parsed_plain unicode (splitOn_free LF content)
    obtain ⟨more, shown⟩ := compressParsed_lines unicode score md5Hex24 settings content (content.splitOn LF).length
      (parseDiff unicode (content.splitOn LF)) pre texts (List.ne_nil_of_mem kept.inFile)
    have plain : PlainHunks unicode files :=
      plain_parse unicode (content.splitOn LF) (fun file member => by simp [ParseState.closed] at member)
    have changes := (output_under unicode score settings plain kept printed).inside
      (parseDiff unicode (content.splitOn LF)).preDiffLines more
    simp only [compressed, shape, shown, ← same]
    obtain ⟨above, lines', below, output, sublist, no_header⟩ := changes
    refine ⟨above, lines', below, output, ?_, no_header⟩
    have filtered : (body.filter fun line => isChange line && !isMarker line) =
        (body.filter fun line => !isMarker line).filter isChange := by rw [List.filter_filter]
    rw [filtered]
    exact (inside.sublist.filter isChange).trans sublist

end

theorem compressDiff_shows_changes_two :
    Under plainDigits ((compressDiff plainDigits (fun _ => 0) id (atMost 2) twoFiles).compressed.splitOn LF)
      (js "@@ -1 +1 @@") [js "-a", js "+b"] := by
  obtain ⟨file, hunk, place, number, _, _, shown⟩ := compressDiff_shows_changes plainDigits (fun _ => 0) id (atMost 2)
    (by decide +kernel : twoFiles.splitOn LF = ["diff --git a/x b/x"].map js ++ js "@@ -1 +1 @@" ::
      (["-a", "+b"].map js ++ ["diff --git a/y b/y", "@@ -1 +1 @@", "+c"].map js))
    (by decide) (by decide +kernel) (by decide)
  have small : ∀ file ∈ (parseDiff plainDigits (twoFiles.splitOn LF)).files, 
      file.hunks.length ≤ (atMost 2).maxHunksPerFile ∧ file.isBinary = false := by
    decide +kernel
  obtain ⟨hunks, text⟩ := small file (List.mem_of_getElem? place)
  have kept : Kept plainDigits (fun _ => 0) (atMost 2) (parseDiff plainDigits (twoFiles.splitOn LF)).files file hunk :=
    { inFile := by
        exact List.mem_of_getElem? place
      selected := by
        unfold selectHunks
        rw [if_pos hunks]
        exact List.mem_of_getElem? number }
  exact shown (by decide +kernel) kept text

theorem Under.behind {unicode : Unicode} {output lines : List JsString} {header line : JsString}
    (under : Under unicode output header lines) (member : line ∈ lines) :
    (output.tails.any fun tail => tail.head? == some header && tail.tail.contains line) = true := by
  obtain ⟨above, shown, below, rfl, sublist, _⟩ := under
  rw [List.any_eq_true]
  refine ⟨header :: (shown ++ below), (List.mem_tails _ _).mpr (List.suffix_append _ _), ?_⟩
  simp [sublist.mem member]

def someKey (_ : JsString) : JsString := js "0123456789abcdef01234567"

/-- A line `--- a/old` of a hunk's body, deleted from a file. -/
def markerInside : JsString := joinLines (["diff --git a/q b/q", "@@ -1,2 +1 @@", "--- a/old", " x"].map js)

def binaryFile : JsString :=
  joinLines (["diff --git a/q b/q", "Binary files a/q and b/q differ", "@@ -1 +1 @@", "-a", "+b"].map js)

/-- Both hunks are kept; the first one's deletion does not stand under its header, and the other one's header is gone. -/
theorem compressDiff_drops_change :
    ((compressDiff plainDigits (fun _ => 0) someKey (atMost 2) markerInside).hunksKept = 1 ∧
      ¬ Under plainDigits ((compressDiff plainDigits (fun _ => 0) someKey (atMost 2) markerInside).compressed.splitOn LF)
        (js "@@ -1,2 +1 @@") (([js "--- a/old", js " x"]).filter isChange)) ∧
    (compressDiff plainDigits (fun _ => 0) someKey (atMost 2) binaryFile).hunksKept = 1 ∧
      ¬ Under plainDigits ((compressDiff plainDigits (fun _ => 0) someKey (atMost 2) binaryFile).compressed.splitOn LF)
        (js "@@ -1 +1 @@") (([js "-a", js "+b"]).filter isChange) := by
  refine ⟨⟨by decide +kernel, ?_⟩, by decide +kernel, ?_⟩
  · intro under
    exact absurd (under.behind (by decide : js "--- a/old" ∈ _)) (by decide +kernel)
  · intro under
    exact absurd (under.behind (by decide : js "-a" ∈ _)) (by decide +kernel)

end SpaceApp.Gateway.Compression.Diff
