import SpaceApp.Gateway.Compression.Lossless

/-! The folds of listings are undone by their own inverses: a heading is told from a row by what it is made of, and
every heading has a row behind it.
-/

set_option autoImplicit false

namespace SpaceApp.Gateway.Compression

open SpaceApp.Foundation

section

variable {row : JsString → Option (JsString × JsString)} {opens : JsString → Bool} {data : JsString → Option JsString}

/-- A row that its heading and its data give back, and a heading that is none. -/
structure Reads (row : JsString → Option (JsString × JsString)) (opens : JsString → Bool)
    (data : JsString → Option JsString) (line : JsString) : Prop where
  ofRow : ∃ heading rest added, row line = some (heading, rest) ∧ data rest = some added ∧ heading ++ added = line ∧
    data heading = none ∧ opens heading = true

theorem unheading_heading {lines : List JsString} (reads : ∀ line ∈ lines, Reads row opens data line) (current : Option JsString) :
    unheadingLines opens data current (headingLines row current lines) = lines := by
  induction lines generalizing current with
  | nil => simp [headingLines, unheadingLines]
  | cons line lines ih =>
    obtain ⟨heading, rest, added, split, adds, same, none_, opened⟩ := (reads line List.mem_cons_self).ofRow
    have later := fun current => ih (fun other inside => reads other (List.mem_cons_of_mem _ inside)) current
    simp only [headingLines, split]
    by_cases under : current = some heading
    · subst under
      simp only [if_true, unheadingLines, adds]
      rw [same, later]
    · simp only [under, if_false]
      -- the heading is skipped: the row behind it is data
      have skipped : ∀ more, unheadingLines opens data current (heading :: rest :: more) =
          unheadingLines opens data (some heading) (rest :: more) := by
        cases current with
        | none => simp [unheadingLines, opened, adds]
        | some other => simp [unheadingLines, none_, opened, adds]
      rw [skipped]
      simp only [unheadingLines, adds]
      rw [same, later]

theorem headingLines_mem {lines : List JsString} {good : JsString → Prop}
    (parts : ∀ line ∈ lines, ∀ heading rest, row line = some (heading, rest) → good heading ∧ good rest)
    (others : ∀ line ∈ lines, good line) (current : Option JsString) :
    ∀ one ∈ headingLines row current lines, good one := by
  induction lines generalizing current with
  | nil => simp [headingLines]
  | cons line lines ih =>
    have later := ih (fun other inside => parts other (List.mem_cons_of_mem _ inside))
      (fun other inside => others other (List.mem_cons_of_mem _ inside))
    rw [headingLines]
    cases split : row line with
    | none =>
      intro one inside
      rcases List.mem_cons.mp inside with rfl | further
      · exact others _ List.mem_cons_self
      · exact later none one further
    | some found =>
      obtain ⟨first, second⟩ := parts line List.mem_cons_self found.1 found.2 split
      dsimp only
      split
      · intro one inside
        rcases List.mem_cons.mp inside with rfl | further
        · exact second
        · exact later _ one further
      · intro one inside
        rcases List.mem_cons.mp inside with rfl | further
        · exact first
        · rcases List.mem_cons.mp further with rfl | further
          · exact second
          · exact later _ one further

theorem headingLines_ne_nil {lines : List JsString} (filled : lines ≠ []) (current : Option JsString) :
    headingLines row current lines ≠ [] := by
  cases lines with
  | nil => exact absurd rfl filled
  | cons line lines =>
    rw [headingLines]
    cases row line with
    | none => simp
    | some found =>
      dsimp only
      split <;> simp

theorem overLines_headings {text : JsString} (reads : ∀ line ∈ (splitText text).lines, Reads row opens data line)
    (parts : ∀ line heading rest, row line = some (heading, rest) → ∀ unit, unit ∈ heading ∨ unit ∈ rest → unit ∈ line ∨ unit = COLON)
    (filled : ∀ line heading rest, row line = some (heading, rest) → heading ≠ [] ∧ rest ≠ []) :
    overLines (unheadingLines opens data none) (overLines (headingLines row none) text) = text := by
  refine overLines_inverse (fun some_ => ?_) (unheading_heading reads none)
  have proper := split_proper some_
  have fit : ∀ line ∈ (splitText text).lines, ∀ heading rest, row line = some (heading, rest) →
      (LF ∉ heading ∧ heading ≠ []) ∧ (LF ∉ rest ∧ rest ≠ []) := by
    intro line inside heading rest split
    have whole : ∀ unit, unit ∈ heading ∨ unit ∈ rest → unit ≠ LF := by
      rintro unit part rfl
      rcases parts line heading rest split LF part with own | colon
      · exact proper.plain line inside own
      · exact absurd colon (by decide)
    have some_ := filled line heading rest split
    exact ⟨⟨fun part => whole LF (.inl part) rfl, some_.1⟩, ⟨fun part => whole LF (.inr part) rfl, some_.2⟩⟩
  have others : ∀ line ∈ (splitText text).lines, LF ∉ line ∧ line ≠ [] := by
    intro line inside
    obtain ⟨heading, rest, added, split, adds, same, -⟩ := (reads line inside).ofRow
    refine ⟨proper.plain line inside, ?_⟩
    rw [← same]
    simp [(filled line heading rest split).1]
  have every : ∀ line ∈ headingLines row none (splitText text).lines, LF ∉ line ∧ line ≠ [] :=
    headingLines_mem fit others none
  exact {
    filled := headingLines_ne_nil proper.filled none
    plain := fun line inside => (every line inside).1
    ended := fun _ last => (every [] (List.mem_of_getLast? last)).2 rfl }

end

theorem cutColon_some {text before behind : JsString} (cut : cutColon text = some (before, behind)) :
    text = before ++ COLON :: behind ∧ COLON ∉ before := by
  unfold cutColon at cut
  split at cut
  · next inside =>
    cases cut
    have whole := List.takeWhile_append_dropWhile (p := fun unit => decide (unit ≠ COLON)) (l := text)
    have free : COLON ∉ text.takeWhile fun unit => decide (unit ≠ COLON) := fun part => by
      simpa using List.mem_takeWhile_imp part
    refine ⟨?_, free⟩
    cases rest : text.dropWhile fun unit => decide (unit ≠ COLON) with
    | nil =>
      rw [rest, List.append_nil] at whole
      exact absurd (whole.symm ▸ inside) free
    | cons unit more =>
      have stops := List.head?_dropWhile_not (fun unit => decide (unit ≠ COLON)) text
      rw [rest] at stops
      have colon : unit = COLON := by simpa using stops
      rw [rest, colon] at whole
      exact whole.symm
  · cases cut

theorem cutColon_append {before : JsString} (free : COLON ∉ before) (behind : JsString) :
    cutColon (before ++ COLON :: behind) = some (before, behind) := by
  have kept : ∀ unit ∈ before, decide (unit ≠ COLON) = true := by
    intro unit inside
    simpa using ne_of_mem_of_not_mem inside free
  unfold cutColon
  rw [if_pos (by simp), List.takeWhile_append_of_pos kept, List.dropWhile_append_of_pos kept]
  simp

theorem cutColon_none {text : JsString} (free : COLON ∉ text) : cutColon text = none := if_neg free

section

variable {unicode : Unicode}

theorem HEADING_ROW_some {line number content : JsString} (found : HEADING_ROW unicode line = some (number, content)) :
    line = number ++ COLON :: content ∧ COLON ∉ number ∧ number ≠ [] := by
  obtain ⟨cut, kept⟩ := Option.filter_eq_some_iff.mp found
  obtain ⟨same, free⟩ := cutColon_some cut
  exact ⟨same, free, by simpa using (Bool.and_eq_true_iff.mp kept).1⟩

theorem GREP_ROW_some {line path number content : JsString} (found : GREP_ROW unicode line = some (path, number, content)) :
    line = path ++ COLON :: (number ++ COLON :: content) ∧ COLON ∉ path ∧ path ≠ [] ∧
      HEADING_ROW unicode (number ++ COLON :: content) = some (number, content) := by
  obtain ⟨⟨first, rest⟩, cut, more⟩ := Option.bind_eq_some_iff.mp found
  obtain ⟨⟨digits, behind⟩, heading, equal⟩ := Option.bind_eq_some_iff.mp more
  cases equal
  obtain ⟨cut, kept⟩ := Option.filter_eq_some_iff.mp cut
  obtain ⟨same, free⟩ := cutColon_some cut
  have row := (HEADING_ROW_some heading).1
  refine ⟨same.trans (by rw [row]), free, by simpa using kept, ?_⟩
  rw [← row]
  exact heading

theorem GREP_ROW_append {path : JsString} (free : COLON ∉ path) (filled : path ≠ []) {number content : JsString}
    (heading : HEADING_ROW unicode (number ++ COLON :: content) = some (number, content)) :
    GREP_ROW unicode (path ++ COLON :: (number ++ COLON :: content)) = some (path, number, content) := by
  simp [GREP_ROW, cutColon_append free, Option.filter_some, filled, heading]

theorem search_reads {line : JsString} (grep : (GREP_ROW unicode line).isSome = true) :
    Reads (fun line => (GREP_ROW unicode line).map fun row => (row.1, row.2.1 ++ [COLON] ++ row.2.2))
      (fun line => (HEADING_ROW unicode line).isNone)
      (fun line => (HEADING_ROW unicode line).map fun data => [COLON] ++ data.1 ++ [COLON] ++ data.2) line := by
  obtain ⟨⟨path, number, content⟩, found⟩ := Option.isSome_iff_exists.mp grep
  obtain ⟨same, free, filled, heading⟩ := GREP_ROW_some found
  have none_ : HEADING_ROW unicode path = none := by simp [HEADING_ROW, cutColon_none free]
  refine ⟨path, number ++ COLON :: content, COLON :: (number ++ COLON :: content), ?_, ?_, same.symm, ?_, ?_⟩
  · simp [found]
  · simp [heading]
  · simp [none_]
  · simp [none_]

theorem searchUnheading_searchHeading {text : JsString}
    (rows : ∀ line ∈ (splitText text).lines, (GREP_ROW unicode line).isSome = true) :
    searchUnheading unicode (searchHeading unicode text) = text := by
  refine overLines_headings (fun line inside => search_reads (rows line inside)) ?_ ?_
  · intro line heading rest split unit part
    obtain ⟨⟨path, number, content⟩, found, equal⟩ := Option.map_eq_some_iff.mp split
    cases equal
    rw [(GREP_ROW_some found).1]
    simp only [List.mem_append, List.mem_cons, List.not_mem_nil, or_false] at part ⊢
    tauto
  · intro line heading rest split
    obtain ⟨⟨path, number, content⟩, found, equal⟩ := Option.map_eq_some_iff.mp split
    cases equal
    exact ⟨(GREP_ROW_some found).2.2.1, by simp⟩

theorem cutSlash_append (text : JsString) : (cutSlash text).1 ++ (cutSlash text).2 = text := by
  have last : (cutSlash text).2 <:+ text := by
    have := List.takeWhile_prefix (fun unit => decide (unit ≠ SLASH)) (l := text.reverse)
    rw [← List.reverse_suffix] at this
    simpa [cutSlash] using this
  obtain ⟨front, same⟩ := last
  have taken : (cutSlash text).1 = front := by
    have lengths := congrArg List.length same
    rw [List.length_append] at lengths
    calc (cutSlash text).1 = text.take (text.length - (cutSlash text).2.length) := rfl
      _ = text.take front.length := by rw [← lengths, Nat.add_sub_cancel]
      _ = (front ++ (cutSlash text).2).take front.length := by rw [same]
      _ = front := List.take_left
  rw [taken, same]

theorem cutSlash_base (text : JsString) : SLASH ∉ (cutSlash text).2 := by
  intro inside
  have := List.mem_takeWhile_imp (List.mem_reverse.mp inside)
  simp at this

theorem cutSlash_directory {text : JsString} (inside : SLASH ∈ text) : (cutSlash text).1.getLast? = some SLASH := by
  have whole := List.takeWhile_append_dropWhile (p := fun unit => decide (unit ≠ SLASH)) (l := text.reverse)
  have back : (text.reverse.dropWhile fun unit => decide (unit ≠ SLASH)).reverse = (cutSlash text).1 := by
    have reversed := congrArg List.reverse whole
    rw [List.reverse_append, List.reverse_reverse] at reversed
    exact List.append_cancel_right (reversed.trans (cutSlash_append text).symm)
  rw [← back, List.getLast?_reverse]
  cases rest : text.reverse.dropWhile fun unit => decide (unit ≠ SLASH) with
  | nil =>
    rw [rest, List.append_nil] at whole
    have part : SLASH ∈ text.reverse.takeWhile fun unit => decide (unit ≠ SLASH) := whole.symm ▸ List.mem_reverse.mpr inside
    simpa using List.mem_takeWhile_imp part
  | cons unit more =>
    have stops := List.head?_dropWhile_not (fun unit => decide (unit ≠ SLASH)) text.reverse
    rw [rest] at stops
    simpa using stops

/-- A grep row whose path has a directory and a base name. -/
def HasDirectory (unicode : Unicode) (line : JsString) : Prop :=
  ∃ row, GREP_ROW unicode line = some row ∧ SLASH ∈ row.1 ∧ (cutSlash row.1).2 ≠ []

instance (unicode : Unicode) (line : JsString) : Decidable (HasDirectory unicode line) :=
  decidable_of_iff ((GREP_ROW unicode line).any fun row => SLASH ∈ row.1 && (cutSlash row.1).2 ≠ [])
    (by simp [HasDirectory, Option.any_eq_true])

theorem searchDir_reads {line : JsString} (named : HasDirectory unicode line) :
    Reads (fun line => ((GREP_ROW unicode line).filter fun row => SLASH ∈ row.1).map fun row =>
        ((cutSlash row.1).1, (cutSlash row.1).2 ++ [COLON] ++ row.2.1 ++ [COLON] ++ row.2.2))
      (fun line => line.getLast? = some SLASH) (fun line => if DIR_DATA unicode line then some line else none) line := by
  obtain ⟨⟨path, number, content⟩, found, slash, based⟩ := named
  obtain ⟨same, free, -, heading⟩ := GREP_ROW_some found
  have split := cutSlash_append path
  have frees : COLON ∉ (cutSlash path).1 ∧ COLON ∉ (cutSlash path).2 := by
    rw [← split, List.mem_append, not_or] at free
    exact free
  have data : DIR_DATA unicode ((cutSlash path).2 ++ COLON :: (number ++ COLON :: content)) = true := by
    simp [DIR_DATA, GREP_ROW_append frees.2 based heading, cutSlash_base]
  have none_ : DIR_DATA unicode (cutSlash path).1 = false := by
    simp [DIR_DATA, GREP_ROW, cutColon_none frees.1]
  refine ⟨(cutSlash path).1, (cutSlash path).2 ++ COLON :: (number ++ COLON :: content),
    (cutSlash path).2 ++ COLON :: (number ++ COLON :: content), ?_, ?_, ?_, ?_, ?_⟩
  · simp [found, slash]
  · simp [data]
  · rw [← List.append_assoc, split, same]
  · simp [none_]
  · simp [cutSlash_directory slash]

theorem searchDirUnheading_searchDirHeading {text : JsString}
    (rows : ∀ line ∈ (splitText text).lines, HasDirectory unicode line) :
    searchDirUnheading unicode (searchDirHeading unicode text) = text := by
  have parts : ∀ line heading rest, ((GREP_ROW unicode line).filter fun row => SLASH ∈ row.1).map (fun row =>
      ((cutSlash row.1).1, (cutSlash row.1).2 ++ [COLON] ++ row.2.1 ++ [COLON] ++ row.2.2)) = some (heading, rest) →
      ∃ path number content, line = (heading ++ (cutSlash path).2) ++ COLON :: (number ++ COLON :: content) ∧
        rest = (cutSlash path).2 ++ COLON :: (number ++ COLON :: content) ∧ heading.getLast? = some SLASH := by
    intro line heading rest split
    obtain ⟨⟨path, number, content⟩, kept, equal⟩ := Option.map_eq_some_iff.mp split
    obtain ⟨found, slash⟩ := Option.filter_eq_some_iff.mp kept
    cases equal
    refine ⟨path, number, content, ?_, by simp, cutSlash_directory (by simpa using slash)⟩
    rw [cutSlash_append]
    exact (GREP_ROW_some found).1
  refine overLines_headings (fun line inside => searchDir_reads (rows line inside)) ?_ ?_
  · intro line heading rest split unit part
    obtain ⟨path, number, content, whole, tail, -⟩ := parts line heading rest split
    rw [whole]
    rw [tail] at part
    simp only [List.mem_append, List.mem_cons] at part ⊢
    tauto
  · intro line heading rest split
    obtain ⟨path, number, content, -, tail, ended⟩ := parts line heading rest split
    refine ⟨?_, by simp [tail]⟩
    rintro rfl
    cases ended

end

theorem PATH_ROW_some {line directory base : JsString} (found : PATH_ROW line = some (directory, base)) :
    directory ++ base = line ∧ directory.getLast? = some SLASH ∧ base ≠ [] ∧ SLASH ∉ base := by
  unfold PATH_ROW at found
  have split := cutSlash_append line
  have free := cutSlash_base line
  dsimp only at found
  split at found
  · next valid =>
    cases found
    simp only [Bool.and_eq_true, decide_eq_true_eq, pathName] at valid
    have some_ : (cutSlash line).1 ≠ [] := by simpa using valid.1.1
    have slash : SLASH ∈ line := by
      by_contra absent
      have kept : ∀ unit ∈ line.reverse, decide (unit ≠ SLASH) = true := by
        intro unit inside
        simpa using ne_of_mem_of_not_mem (List.mem_reverse.mp inside) absent
      refine some_ ?_
      simp only [cutSlash, List.takeWhile_eq_self_iff.mpr kept]
      simp
    exact ⟨split, cutSlash_directory slash, by simpa using valid.2.1, free⟩
  · cases found

theorem path_reads {line : JsString} (path : (PATH_ROW line).isSome = true) :
    Reads PATH_ROW (fun line => line.getLast? = some SLASH) (fun line => if line ≠ [] && SLASH ∉ line then some line else none) line := by
  obtain ⟨⟨directory, base⟩, found⟩ := Option.isSome_iff_exists.mp path
  obtain ⟨same, ended, filled, free⟩ := PATH_ROW_some found
  have slash : SLASH ∈ directory := List.mem_of_getLast? ended
  refine ⟨directory, base, base, found, ?_, same, ?_, ?_⟩
  · simp [filled, free]
  · simp [slash]
  · simp [ended]

theorem pathUnheading_pathHeading {text : JsString} (rows : ∀ line ∈ (splitText text).lines, (PATH_ROW line).isSome = true) :
    pathUnheading (pathHeading text) = text := by
  unfold pathHeading
  split
  · next few =>
    -- all lines are rows, so there is one at most
    rw [List.filter_eq_self.mpr rows] at few
    by_cases some_ : text = []
    · simp [pathUnheading, some_]
    · have proper := split_proper some_
      obtain ⟨line, only⟩ : ∃ line, (splitText text).lines = [line] := by
        obtain ⟨line, rest, same⟩ := List.exists_cons_of_ne_nil proper.filled
        rw [same, List.length_cons] at few
        have none_ : rest = [] := List.length_eq_zero_iff.mp (by omega)
        exact ⟨line, none_ ▸ same⟩
      have kept : unheadingLines (fun line => line.getLast? = some SLASH)
          (fun line => if line ≠ [] && SLASH ∉ line then some line else none) none [line] = [line] := by
        simp [unheadingLines]
      rw [pathUnheading, overLines_eq some_, only, kept, ← only]
      exact join_split some_
  · refine overLines_headings (fun line inside => path_reads (rows line inside)) ?_ ?_
    · intro line heading rest split unit part
      rw [← (PATH_ROW_some split).1]
      exact .inl (List.mem_append.mpr part)
    · intro line heading rest split
      obtain ⟨-, ended, filled, -⟩ := PATH_ROW_some split
      refine ⟨?_, filled⟩
      rintro rfl
      cases ended

/-- Each fold of a listing is undone on texts of its own rows. -/
theorem listings_lossless (unicode : Unicode) (text : JsString) :
    ((∀ line ∈ (splitText text).lines, (GREP_ROW unicode line).isSome = true) →
      searchUnheading unicode (searchHeading unicode text) = text) ∧
    ((∀ line ∈ (splitText text).lines, HasDirectory unicode line) →
      searchDirUnheading unicode (searchDirHeading unicode text) = text) ∧
    ((∀ line ∈ (splitText text).lines, (PATH_ROW line).isSome = true) → pathUnheading (pathHeading text) = text) :=
  ⟨searchUnheading_searchHeading, searchDirUnheading_searchDirHeading, pathUnheading_pathHeading⟩

theorem colon_symbol : Regex.isDigit 0x3A = false := by decide

def asciiDigits : Unicode where
  decimalDigit := Regex.isDigit
  colon := colon_symbol

/-- A file whose name and content look like rows. -/
theorem listings_lossless_rows :
    searchUnheading asciiDigits (searchHeading asciiDigits (js "a/7:1:2:x\na/7:3:\nb/c:4:y\n")) = js "a/7:1:2:x\na/7:3:\nb/c:4:y\n" ∧
    searchDirUnheading asciiDigits (searchDirHeading asciiDigits (js "a/7:1:2:x\na/7:3:\nb/c:4:y\n")) =
      js "a/7:1:2:x\na/7:3:\nb/c:4:y\n" ∧
    pathUnheading (pathHeading (js "./a/b\n./a/c\n/d/e")) = js "./a/b\n./a/c\n/d/e" :=
  ⟨(listings_lossless asciiDigits (js "a/7:1:2:x\na/7:3:\nb/c:4:y\n")).1 (by decide +kernel),
    (listings_lossless asciiDigits (js "a/7:1:2:x\na/7:3:\nb/c:4:y\n")).2.1 (by decide +kernel),
    (listings_lossless asciiDigits (js "./a/b\n./a/c\n/d/e")).2.2 (by decide +kernel)⟩

end SpaceApp.Gateway.Compression
