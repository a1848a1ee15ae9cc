import SpaceApp.Gateway.Compression.MixedContent

/-! Sections lie behind one another on the lines they hold, and putting them back touches no other
line.
-/

set_option autoImplicit false

namespace SpaceApp.Gateway.Compression

open SpaceApp.Foundation

def between (lines : List JsString) (first stop : ℕ) : List JsString := (lines.take stop).drop first

/-- Where the lines of the content begin, behind the marker of a fence. -/
def ContentSection.first (section_ : ContentSection) : ℕ :=
  if section_.isCodeFence then section_.startLine + 1 else section_.startLine

/-- Where they end: before the closing marker of a fence, or at the end of the text. -/
def ContentSection.stop (section_ : ContentSection) : ℕ :=
  if section_.isCodeFence then section_.endLine else section_.endLine + 1

/-- A section lies on its lines. -/
structure OnLines (lines : List JsString) (section_ : ContentSection) : Prop where
  ordered : section_.startLine ≤ section_.endLine
  filled : section_.first ≤ section_.stop
  inside : section_.stop ≤ lines.length
  content : section_.content = joinLines (between lines section_.first section_.stop)

/-- Sections on their lines, one behind another, from an index on. -/
def Laid (lines : List JsString) : ℕ → List ContentSection → Prop
  | _, [] => True
  | from_, section_ :: rest =>
      from_ ≤ section_.startLine ∧ OnLines lines section_ ∧ Laid lines (section_.endLine + 1) rest

section

variable {lines : List JsString}

theorem between_empty (first : ℕ) : between lines first first = [] := by
  simp [between]

theorem between_append (lines : List JsString) {first middle stop : ℕ} (left : first ≤ middle) (right : middle ≤ stop) :
    between lines first middle ++ between lines middle stop = between lines first stop := by
  simp only [between]
  have cut : lines.take stop = lines.take middle ++ (lines.take stop).drop middle := by
    have whole := (List.take_append_drop middle (lines.take stop)).symm
    rwa [List.take_take, min_eq_left right] at whole
  by_cases bound : first ≤ (lines.take middle).length
  · conv_rhs => rw [cut, List.drop_append_of_le_length bound]
  · have short : lines.length ≤ middle := by
      rw [List.length_take] at bound
      omega
    have last : ∀ index, first ≤ index → (lines.take index).drop first = [] := by
      intro index _
      rw [List.drop_eq_nil_iff, List.length_take]
      rw [List.length_take] at bound
      omega
    rw [last middle left, last stop (by omega), List.drop_eq_nil_iff.mpr, List.nil_append]
    rw [List.length_take]
    omega

theorem between_length {first stop : ℕ} (inside : stop ≤ lines.length) :
    (between lines first stop).length = stop - first := by
  simp only [between, List.length_drop, List.length_take]
  omega

theorem between_read {before read behind : List JsString} :
    between (before ++ (read ++ behind)) before.length (before.length + read.length) = read := by
  rw [between, List.take_append, List.take_of_length_le (by omega), Nat.add_sub_cancel_left, List.take_left,
    List.drop_left]

theorem Laid.weaken {from_ earlier : ℕ} {sections : List ContentSection} (laid : Laid lines from_ sections)
    (before : earlier ≤ from_) : Laid lines earlier sections := by
  cases sections with
  | nil => trivial
  | cons section_ rest => exact ⟨before.trans laid.1, laid.2⟩

section

variable {from_ : ℕ} {sections : List ContentSection} (laid : Laid lines from_ sections)

include laid

theorem Laid.mem : ∀ section_ ∈ sections, from_ ≤ section_.startLine ∧ OnLines lines section_ := by
  induction sections generalizing from_ with
  | nil => simp
  | cons section_ rest ih =>
    obtain ⟨begins, here, later⟩ := laid
    intro other member
    rcases List.mem_cons.mp member with rfl | among
    · exact ⟨begins, here⟩
    · obtain ⟨behind, on⟩ := ih later other among
      have ordered := here.ordered
      exact ⟨by omega, on⟩

theorem Laid.pairwise : sections.Pairwise fun one other => one.endLine < other.startLine := by
  induction sections generalizing from_ with
  | nil => exact .nil
  | cons section_ rest ih =>
    obtain ⟨_, _, later⟩ := laid
    refine .cons (fun other member => ?_) (ih later)
    exact (later.mem other member).1

end

theorem joinLines_append {first second : List JsString} (some_first : first ≠ []) (some_second : second ≠ []) :
    joinLines (first ++ second) = joinLines first ++ LF :: joinLines second := by
  induction first with
  | nil => exact absurd rfl some_first
  | cons line rest ih =>
    obtain ⟨next, others, rfl⟩ := List.exists_cons_of_ne_nil some_second
    cases rest with
    | nil => simp [joinLines]
    | cons second_line rest =>
      have shorter := ih (by simp)
      simp only [joinLines, List.cons_append, List.intercalate_cons_cons] at shorter ⊢
      rw [shorter]
      simp

theorem onLines_plain (before behind : List JsString) {read : List JsString} (some_line : read ≠ [])
    (type : SectionType) (language : Option JsString) (atomic : Bool) : OnLines (before ++ (read ++ behind))
      ⟨joinLines read, type, language, before.length, before.length + read.length - 1, false, atomic⟩ := by
  have positive : 0 < read.length := List.length_pos_iff.mpr some_line
  have last : before.length + read.length - 1 + 1 = before.length + read.length := by omega
  refine ⟨by dsimp only; omega, ?_, ?_, ?_⟩
  · simp only [ContentSection.first, ContentSection.stop, Bool.false_eq_true, if_false]
    omega
  · simp only [ContentSection.stop, Bool.false_eq_true, if_false, List.length_append]
    omega
  · simp only [ContentSection.first, ContentSection.stop, Bool.false_eq_true, if_false, last, between_read]

theorem onLines_fence (before code behind : List JsString) (marker : JsString) (language : Option JsString) :
    OnLines (before ++ (marker :: (code ++ behind)))
      ⟨joinLines code, .sourceCode, language, before.length, before.length + 1 + code.length, true, false⟩ := by
  have moved : before ++ (marker :: (code ++ behind)) = (before ++ [marker]) ++ (code ++ behind) := by simp
  have length : before.length + 1 = (before ++ [marker]).length := by simp
  refine ⟨by dsimp only; omega, ?_, ?_, ?_⟩
  · simp only [ContentSection.first, ContentSection.stop, if_true]
    omega
  · simp only [ContentSection.stop, if_true, List.length_append, List.length_cons]
    omega
  · simp only [ContentSection.first, ContentSection.stop, if_true]
    rw [moved, length, between_read]

end

section

variable (scanners : Scanners)

section

variable {index : ℕ} {line : JsString} {rest : List JsString}

theorem sectionsFrom_block {count : ℕ} (fence : codeFence scanners line = none)
    (block : blockAt (line :: rest) = some count) : sectionsFrom scanners index (line :: rest) =
      ⟨joinLines ((line :: rest).take count),
          if scanners.isJson (joinLines ((line :: rest).take count)) then .jsonArray else .text, none, index,
          index + count - 1, false, !scanners.isJson (joinLines ((line :: rest).take count))⟩ ::
        sectionsFrom scanners (index + count) ((line :: rest).drop count) := by
  rw [sectionsFrom, fence]
  dsimp only
  split
  · next found same =>
    rw [block, Option.some.injEq] at same
    rw [same]
  · next none_ => simp [block] at none_

theorem sectionsFrom_lines (fence : codeFence scanners line = none) (block : blockAt (line :: rest) = none) :
    sectionsFrom scanners index (line :: rest) =
      if searchResult scanners line then
        ⟨joinLines (line :: rest.takeWhile (searchResult scanners)), .search, none, index,
            index + (line :: rest.takeWhile (searchResult scanners)).length - 1, false, false⟩ ::
          sectionsFrom scanners (index + (line :: rest.takeWhile (searchResult scanners)).length)
            (rest.dropWhile (searchResult scanners))
      else
        let text := line :: rest.takeWhile fun line => !endsProse scanners line
        let later := sectionsFrom scanners (index + text.length) (rest.dropWhile fun line => !endsProse scanners line)
        if trimUnits (joinLines text) = [] then later
        else ⟨joinLines text, .text, none, index, index + text.length - 1, false, false⟩ :: later := by
  rw [sectionsFrom, fence]
  dsimp only
  split
  · next found same => simp [block] at same
  · rfl

end

theorem sectionsFrom_laid (index : ℕ) (lines : List JsString) : ∀ before : List JsString, before.length = index →
      Laid (before ++ lines) index (sectionsFrom scanners index lines) := by
  induction index, lines using sectionsFrom.induct scanners with
  | case1 index =>
    rw [sectionsFrom]
    exact fun _ _ => trivial
  | case2 index line rest language fence code ih =>
    rintro before rfl
    rw [sectionsFrom, fence]
    have split : code ++ rest.dropWhile (fun line => !startsFence line) = rest := List.takeWhile_append_dropWhile
    have here := onLines_fence before code (rest.dropWhile fun line => !startsFence line) line
      (some (if language = [] then js "unknown" else language))
    rw [split] at here
    refine ⟨le_rfl, here, ?_⟩
    cases behind : rest.dropWhile fun line => !startsFence line with
    | nil =>
      -- the fence is never closed
      rw [List.tail_nil, sectionsFrom]
      trivial
    | cons marker others =>
      rw [behind] at ih split
      have later := ih (before ++ (line :: (code ++ [marker]))) (by simp; omega)
      rw [List.tail_cons] at later ⊢
      have whole : before ++ (line :: (code ++ [marker])) ++ others = before ++ (line :: rest) := by
        rw [← split]
        simp
      rwa [whole] at later
  | case3 index line rest fence count block ih =>
    rintro before rfl
    rw [sectionsFrom_block scanners fence block]
    obtain ⟨positive, bound⟩ := blockAt_pos block
    have split : (line :: rest).take count ++ (line :: rest).drop count = line :: rest := List.take_append_drop _ _
    have length : ((line :: rest).take count).length = count := List.length_take_of_le bound
    have some_line : (line :: rest).take count ≠ [] := by
      intro empty
      rw [empty] at length
      simp at length
      omega
    have here := onLines_plain before ((line :: rest).drop count) some_line
      (if scanners.isJson (joinLines ((line :: rest).take count)) then .jsonArray else .text) none
      (!scanners.isJson (joinLines ((line :: rest).take count)))
    rw [split, length] at here
    have later := ih (before ++ (line :: rest).take count) (by rw [List.length_append, length])
    rw [List.append_assoc, split] at later
    exact ⟨le_rfl, here, later.weaken (by dsimp only; omega)⟩
  | case4 index line rest fence block row rows ih =>
    rintro before rfl
    rw [sectionsFrom_lines scanners fence block, if_pos row]
    have split : rows ++ rest.dropWhile (searchResult scanners) = line :: rest := by
      rw [List.cons_append, List.takeWhile_append_dropWhile]
    have here := onLines_plain before (rest.dropWhile (searchResult scanners))
      (List.cons_ne_nil line (rest.takeWhile (searchResult scanners))) .search none false
    have later := ih (before ++ rows) (by rw [List.length_append])
    rw [List.append_assoc, split] at later
    rw [split] at here
    exact ⟨le_rfl, here, later.weaken (by simp only [rows, List.length_cons]; omega)⟩
  | case5 index line rest fence block row text blank ih =>
    rintro before rfl
    rw [sectionsFrom_lines scanners fence block, if_neg row, if_pos blank]
    have split : text ++ rest.dropWhile (fun line => !endsProse scanners line) = line :: rest := by
      rw [List.cons_append, List.takeWhile_append_dropWhile]
    have later := ih (before ++ text) (by rw [List.length_append])
    rw [List.append_assoc, split] at later
    exact later.weaken (by omega)
  | case6 index line rest fence block row text filled ih =>
    rintro before rfl
    rw [sectionsFrom_lines scanners fence block, if_neg row, if_neg filled]
    have split : text ++ rest.dropWhile (fun line => !endsProse scanners line) = line :: rest := by
      rw [List.cons_append, List.takeWhile_append_dropWhile]
    have here := onLines_plain before (rest.dropWhile fun line => !endsProse scanners line)
      (List.cons_ne_nil line (rest.takeWhile fun line => !endsProse scanners line)) .text none false
    have later := ih (before ++ text) (by rw [List.length_append])
    rw [List.append_assoc, split] at later
    rw [split] at here
    exact ⟨le_rfl, here, later.weaken (by simp only [text, List.length_cons]; omega)⟩

theorem joined_onLines {lines : List JsString} {previous next : ContentSection} (first : OnLines lines previous)
    (second : OnLines lines next) (join : joins previous next = true) : OnLines lines { previous with
      content := previous.content ++ LF :: next.content
      endLine := next.endLine } := by
  simp only [joins, Bool.and_eq_true, beq_iff_eq, Bool.not_eq_eq_eq_not, Bool.not_true] at join
  obtain ⟨⟨⟨⟨⟨_, plain⟩, plain_next⟩, _⟩, _⟩, contiguous⟩ := join
  obtain ⟨ordered, _, inside, content⟩ := first
  obtain ⟨ordered_next, _, inside_next, content_next⟩ := second
  simp only [ContentSection.first, ContentSection.stop, plain, Bool.false_eq_true, if_false] at inside content
  simp only [ContentSection.first, ContentSection.stop, plain_next, Bool.false_eq_true, if_false] at inside_next content_next
  refine ⟨by dsimp only; omega, ?_, ?_, ?_⟩
  · simp only [ContentSection.first, ContentSection.stop, plain, Bool.false_eq_true, if_false]
    omega
  · simpa only [ContentSection.stop, plain, Bool.false_eq_true, if_false] using inside_next
  · simp only [ContentSection.first, ContentSection.stop, plain, Bool.false_eq_true, if_false]
    have cut := between_append lines (show previous.startLine ≤ previous.endLine + 1 by omega)
      (show previous.endLine + 1 ≤ next.endLine + 1 by omega)
    have some_first : between lines previous.startLine (previous.endLine + 1) ≠ [] := by
      rw [Ne, ← List.length_eq_zero_iff, between_length inside]
      omega
    have some_second : between lines (previous.endLine + 1) (next.endLine + 1) ≠ [] := by
      rw [Ne, ← List.length_eq_zero_iff, between_length inside_next]
      omega
    rw [← cut, joinLines_append some_first some_second, content, content_next, contiguous]

theorem coalesceOnto_laid {lines : List JsString} {from_ : ℕ} {previous : ContentSection}
    {sections : List ContentSection} (laid : Laid lines from_ (previous :: sections)) :
    Laid lines from_ (coalesceOnto previous sections) := by
  induction sections generalizing from_ previous with
  | nil => exact laid
  | cons next rest ih =>
    obtain ⟨begins, first, behind, second, later⟩ := laid
    rw [coalesceOnto]
    split
    · next join => exact ih ⟨begins, joined_onLines first second join, later⟩
    · exact ⟨begins, first, ih ⟨behind, second, later⟩⟩

theorem splitIntoSections_laid (text : JsString) : Laid (text.splitOn LF) 0 (splitIntoSections scanners text) := by
  have laid := sectionsFrom_laid scanners 0 (text.splitOn LF) [] rfl
  rw [splitIntoSections]
  cases sections : sectionsFrom scanners 0 (text.splitOn LF) with
  | nil => trivial
  | cons section_ rest =>
    rw [sections] at laid
    exact coalesceOnto_laid laid

end

def replaced (compress : ContentSection → Option JsString) (lines : List JsString) : ℕ → List ContentSection →
    List JsString
  | from_, [] => lines.drop from_
  | from_, section_ :: rest =>
      let own := between lines section_.first section_.stop
      let new :=
        match compress section_ with
        | none => own
        | some replacement => if replacement = section_.content then own else replacement.splitOn LF
      between lines from_ section_.first ++ new ++ replaced compress lines section_.stop rest

section

variable {lines : List JsString} {compress : ContentSection → Option JsString}

theorem ContentSection.start_le (section_ : ContentSection) :
    section_.startLine ≤ section_.first ∧ section_.stop ≤ section_.endLine + 1 := by
  simp only [ContentSection.first, ContentSection.stop]
  split <;> omega

theorem replaced_between (compress : ContentSection → Option JsString) {from_ middle : ℕ} {sections : List ContentSection} (laid : Laid lines middle sections)
    (before : from_ ≤ middle) :
    replaced compress lines from_ sections = between lines from_ middle ++ replaced compress lines middle sections := by
  cases sections with
  | nil =>
    simp only [replaced, between]
    by_cases bound : middle ≤ lines.length
    · have cut := List.take_append_drop middle lines
      have front : from_ ≤ (lines.take middle).length := by
        rw [List.length_take]
        omega
      rw [← List.drop_append_of_le_length front, cut]
    · rw [List.take_of_length_le (by omega), List.drop_eq_nil_iff.mpr (show lines.length ≤ middle by omega),
        List.append_nil]
  | cons section_ rest =>
    obtain ⟨begins, _, _⟩ := laid
    have start := section_.start_le.1
    have cut := between_append lines before (show middle ≤ section_.first by omega)
    simp only [replaced, ← cut, List.append_assoc]

/-- The lines `compressMixed` takes out are the lines of the section, however the text behind them has
changed. -/
theorem splice_at {section_ : ContentSection} (on : OnLines lines section_) {text added : List JsString}
    (long : section_.stop ≤ text.length) :
    (splice text (if section_.isCodeFence then section_.startLine + 1 else section_.startLine)
      ((if section_.isCodeFence then min section_.endLine text.length - 1 else section_.endLine) + 1 -
        if section_.isCodeFence then section_.startLine + 1 else section_.startLine) added) =
      splice text section_.first (section_.stop - section_.first) added := by
  have filled := on.filled
  simp only [ContentSection.first, ContentSection.stop] at filled long ⊢
  cases fence : section_.isCodeFence with
  | false => rfl
  | true =>
    simp only [fence, if_true] at filled long ⊢
    rw [min_eq_left long, Nat.sub_add_cancel (by omega)]

/-- One section put back, where the sections behind it have been already. -/
theorem spliceSection_replaced {section_ : ContentSection} {rest : List ContentSection} (on : OnLines lines section_)
    (later : Laid lines (section_.endLine + 1) rest) :
    spliceSection compress (lines.take (section_.endLine + 1) ++ replaced compress lines (section_.endLine + 1) rest)
        section_ =
      lines.take section_.first ++
        (replaced compress lines section_.first (section_ :: rest)) := by
  have start := section_.start_le
  have filled := on.filled
  have inside := on.inside
  have behind := replaced_between compress later start.2
  have own : lines.take section_.first ++ between lines section_.first section_.stop ++
      between lines section_.stop (section_.endLine + 1) = lines.take (section_.endLine + 1) := by
    have zero : ∀ stop, lines.take stop = between lines 0 stop := fun stop => by simp [between]
    rw [zero, zero, between_append lines (by omega) filled, between_append lines (by omega) start.2]
  simp only [replaced, between_empty, List.nil_append, behind]
  rw [spliceSection]
  cases compress section_ with
  | none => simp only [← own, List.append_assoc]
  | some replacement =>
    dsimp only
    split
    · simp only [← own, List.append_assoc]
    · have front : section_.stop ≤ (lines.take (section_.endLine + 1)).length := by
        rw [List.length_take]
        omega
      have length : section_.stop ≤ (lines.take (section_.endLine + 1) ++
          replaced compress lines (section_.endLine + 1) rest).length := by
        rw [List.length_append]
        omega
      have taken : (lines.take (section_.endLine + 1) ++ replaced compress lines (section_.endLine + 1) rest).take
          section_.first = lines.take section_.first := by
        rw [List.take_append_of_le_length (by omega), List.take_take, min_eq_left (by omega)]
      have dropped : (lines.take (section_.endLine + 1) ++ replaced compress lines (section_.endLine + 1) rest).drop
          section_.stop = between lines section_.stop (section_.endLine + 1) ++
            replaced compress lines (section_.endLine + 1) rest := by
        rw [List.drop_append_of_le_length front]
        rfl
      rw [splice_at on length, splice, taken, Nat.add_sub_cancel' filled, dropped]
      simp only [List.append_assoc]

/-- Back to front, the splices make the text that front to back has each section replaced. -/
theorem foldr_replaced (compress : ContentSection → Option JsString) {from_ : ℕ} {sections : List ContentSection} (laid : Laid lines from_ sections) :
    sections.foldr (fun section_ lines => spliceSection compress lines section_) lines =
      lines.take from_ ++ replaced compress lines from_ sections := by
  induction sections generalizing from_ with
  | nil => rw [List.foldr_nil, replaced, List.take_append_drop]
  | cons section_ rest ih =>
    obtain ⟨begins, on, later⟩ := laid
    have start := section_.start_le.1
    rw [List.foldr_cons, ih later, spliceSection_replaced on later]
    have whole : lines.take from_ ++ between lines from_ section_.first = lines.take section_.first := by
      have zero : ∀ stop, lines.take stop = between lines 0 stop := fun stop => by simp [between]
      rw [zero, zero, between_append lines (by omega) (by omega)]
    rw [← whole]
    simp only [replaced, between_empty, List.nil_append, List.append_assoc]

end

/-- Mixed content is spliced in place: the sections lie behind one another, each holds its lines, and
whatever the sections are compressed to stands in the place of these lines alone. -/
theorem mixed_content_in_place (scanners : Scanners) (text : JsString) :
    ((splitIntoSections scanners text).Pairwise fun one other => one.endLine < other.startLine) ∧
      (∀ section_ ∈ splitIntoSections scanners text, OnLines (text.splitOn LF) section_) ∧
      ∀ compress, compressMixed scanners compress text =
        let result := joinLines (replaced compress (text.splitOn LF) 0 (splitIntoSections scanners text))
        if result = text then none else some result := by
  have laid := splitIntoSections_laid scanners text
  refine ⟨laid.pairwise, fun section_ member => (laid.mem section_ member).2, fun compress => ?_⟩
  have put_back := foldr_replaced compress laid
  rw [List.take_zero, List.nil_append] at put_back
  rw [compressMixed, List.foldl_reverse, put_back]

end SpaceApp.Gateway.Compression
