import SpaceApp.Foundation.JsText

/-! Server-sent events: a text cut into blocks at its blank lines, `\r?\n\r?\n`, and
the lines of a block. A text can be cut while it is still growing.
-/

set_option autoImplicit false

namespace SpaceApp.Foundation

def LF : CodeUnit := 0x0A
def CR : CodeUnit := 0x0D

/-- What follows `\r?\n` at the start of the text. -/
@[grind] def newline : JsString → Option JsString
  | [] => none
  | unit :: rest =>
      if unit = LF then some rest
      else if unit = CR then
        match rest with
        | [] => none
        | next :: rest => if next = LF then some rest else none
      else none

/-- What follows `\r?\n\r?\n` at the start of the text. -/
def blankLine (text : JsString) : Option JsString := (newline text).bind newline

structure EventBlock where
  content : JsString
  blank : JsString
  deriving DecidableEq, Repr

def EventBlock.span (block : EventBlock) : Nat := block.content.length + block.blank.length

/-- The text before the first blank line, that line, and the text after it. -/
@[grind] def searchBlock : JsString → Option (EventBlock × JsString)
  | [] => none
  | unit :: rest =>
      match blankLine (unit :: rest) with
      | some left =>
          some ({ content := [], blank := (unit :: rest).take ((unit :: rest).length - left.length) }, left)
      | none => (searchBlock rest).map fun found =>
          ({ found.1 with content := unit :: found.1.content }, found.2)

@[grind] def blocksFrom : Nat → JsString → List EventBlock × JsString
  | 0, text => ([], text)
  | passes + 1, text =>
      match searchBlock text with
      | none => ([], text)
      | some (block, rest) => (block :: (blocksFrom passes rest).1, (blocksFrom passes rest).2)

/-- The blocks of the text that a blank line ends, and the rest behind the last of them. -/
def eventBlocks (text : JsString) : List EventBlock × JsString := blocksFrom text.length text

/-- `split(/\r?\n/)`. -/
@[grind] def splitLines : JsString → List JsString
  | [] => [[]]
  | unit :: rest =>
      if unit = LF then [] :: splitLines rest
      else if unit = CR ∧ rest.head? = some LF then splitLines rest
      else
        match splitLines rest with
        | [] => [[unit]]
        | line :: lines => (unit :: line) :: lines

def joinLines (lines : List JsString) : JsString := List.intercalate [LF] lines

def fieldLine (name line : JsString) : Option JsString :=
  if name.isPrefixOf line then some (line.drop name.length) else none

/-- The value of a `data:` line, less one leading space. -/
def dataLine (line : JsString) : Option JsString :=
  (fieldLine (js "data:") line).map fun value => if value.head? = some 0x20 then value.drop 1 else value

def blockData (block : JsString) : JsString := joinLines ((splitLines block).filterMap dataLine)

theorem newline_some {text rest : JsString} : newline text = some rest ↔ text = LF :: rest ∨ text = CR :: LF :: rest := by
  have apart : CR ≠ LF := by decide
  constructor
  · intro found
    fun_cases newline text <;> simp_all [newline]
  · rintro (rfl | rfl) <;> simp [newline, apart]

theorem newline_append {text rest : JsString} (more : JsString) (found : newline text = some rest) :
    newline (text ++ more) = some (rest ++ more) := by
  rw [newline_some] at found ⊢
  rcases found with rfl | rfl
  · exact .inl rfl
  · exact .inr rfl

theorem newline_count {text rest : JsString} (found : newline text = some rest) : rest.count LF + 1 = text.count LF := by
  rcases newline_some.mp found with rfl | rfl
  · simp
  · simp [CR, LF]

theorem newline_length {text rest : JsString} (found : newline text = some rest) : rest.length < text.length := by
  rcases newline_some.mp found with rfl | rfl
  · simp
  · simp only [List.length_cons]
    omega

theorem newline_suffix {text rest : JsString} (found : newline text = some rest) : rest <:+ text := by
  rcases newline_some.mp found with rfl | rfl
  · exact ⟨[LF], rfl⟩
  · exact ⟨[CR, LF], rfl⟩

/-- A line end is not seen only when the text ends inside it. -/
theorem newline_append_none {text : JsString} (more : JsString) (absent : newline text = none)
    (apart : text ≠ []) (notCR : text ≠ [CR]) : newline (text ++ more) = none := by
  by_contra some_
  obtain ⟨rest, found⟩ := Option.ne_none_iff_exists'.mp some_
  match text, apart with
  | [unit], _ =>
    rcases newline_some.mp found with same | same
    · cases same
      cases absent
    · cases same
      exact notCR rfl
  | unit :: next :: left, _ =>
    rcases newline_some.mp found with same | same
    · cases same
      cases absent
    · cases same
      cases absent

section

variable {text rest : JsString}

theorem blankLine_append (more : JsString) (found : blankLine text = some rest) :
    blankLine (text ++ more) = some (rest ++ more) := by
  obtain ⟨middle, first, second⟩ := Option.bind_eq_some_iff.mp found
  simp [blankLine, newline_append more first, newline_append more second]

theorem blankLine_length (found : blankLine text = some rest) : rest.length < text.length := by
  obtain ⟨middle, first, second⟩ := Option.bind_eq_some_iff.mp found
  exact (newline_length second).trans (newline_length first)

theorem blankLine_count (found : blankLine text = some rest) : 2 ≤ text.count LF := by
  obtain ⟨middle, first, second⟩ := Option.bind_eq_some_iff.mp found
  have := newline_count first
  have := newline_count second
  omega

theorem blankLine_suffix (found : blankLine text = some rest) : rest <:+ text := by
  obtain ⟨middle, first, second⟩ := Option.bind_eq_some_iff.mp found
  exact (newline_suffix second).trans (newline_suffix first)

section
variable {block : EventBlock} (found : searchBlock text = some (block, rest))

include found

theorem searchBlock_blank : ∃ tail, text = block.content ++ tail ∧ blankLine tail = some rest ∧
    block.blank = tail.take (tail.length - rest.length) := by
  induction text generalizing block with
  | nil => cases found
  | cons unit left ih =>
    unfold searchBlock at found
    split at found
    · next here =>
      cases found
      exact ⟨unit :: left, rfl, here, rfl⟩
    · obtain ⟨inner, later, same⟩ := Option.map_eq_some_iff.mp found
      cases same
      obtain ⟨tail, rfl, here, cut⟩ := ih later
      exact ⟨tail, rfl, here, cut⟩

theorem searchBlock_count : 2 ≤ text.count LF := by
  obtain ⟨tail, rfl, here, -⟩ := searchBlock_blank found
  have counted := blankLine_count here
  rw [List.count_append]
  omega

theorem searchBlock_length : rest.length < text.length := by
  obtain ⟨tail, rfl, here, -⟩ := searchBlock_blank found
  have shorter := blankLine_length here
  rw [List.length_append]
  omega

theorem searchBlock_parts : text = block.content ++ block.blank ++ rest := by
  obtain ⟨tail, rfl, here, cut⟩ := searchBlock_blank found
  obtain ⟨front, rfl⟩ := blankLine_suffix here
  rw [cut]
  simp

end

end

/-- A text with two line feeds does not end inside its first blank line. -/
theorem blankLine_append_none {text : JsString} (more : JsString) (absent : blankLine text = none)
    (enough : 2 ≤ text.count LF) : blankLine (text ++ more) = none := by
  have decided : ∀ text : JsString, 1 ≤ text.count LF → text ≠ [] ∧ text ≠ [CR] := by
    intro text some_
    constructor <;> rintro rfl <;> simp [CR, LF] at some_
  cases first : newline text with
  | none =>
    obtain ⟨apart, notCR⟩ := decided text (by omega)
    simp [blankLine, newline_append_none more first apart notCR]
  | some middle =>
    have counted := newline_count first
    obtain ⟨apart, notCR⟩ := decided middle (by omega)
    rw [blankLine, first, Option.bind_some] at absent
    simp [blankLine, newline_append more first, newline_append_none more absent apart notCR]

theorem searchBlock_append {text rest : JsString} {block : EventBlock} (more : JsString)
    (found : searchBlock text = some (block, rest)) : searchBlock (text ++ more) = some (block, rest ++ more) := by
  induction text generalizing block with
  | nil => cases found
  | cons unit left ih =>
    simp only [searchBlock, List.cons_append] at found ⊢
    cases here : blankLine (unit :: left) with
    | some behind =>
      rw [here] at found
      cases found
      have longer := blankLine_append more here
      have shorter := blankLine_length here
      rw [List.cons_append] at longer
      rw [longer]
      simp only [List.length_append, List.length_cons, Option.some.injEq, Prod.mk.injEq, and_true,
        EventBlock.mk.injEq, true_and]
      rw [← List.cons_append, List.take_append_of_le_length (by simp; omega)]
      congr 1
      omega
    | none =>
      rw [here] at found
      obtain ⟨⟨inner, behind⟩, later, same⟩ := Option.map_eq_some_iff.mp found
      cases same
      have still := blankLine_append_none more here
        ((searchBlock_count later).trans List.count_le_count_cons)
      rw [List.cons_append] at still
      rw [still, ih later]
      rfl

/-- A blank line of the end of a text is one of the text. -/
theorem searchBlock_suffix {front text : JsString} (absent : searchBlock (front ++ text) = none) :
    searchBlock text = none := by
  induction front with
  | nil => exact absent
  | cons unit front ih =>
    apply ih
    simp only [List.cons_append, searchBlock] at absent
    split at absent
    · cases absent
    · exact Option.map_eq_none_iff.mp absent

theorem blocksFrom_enough {passes : Nat} {text : JsString} (enough : text.length ≤ passes) :
    blocksFrom passes text = eventBlocks text := by
  have more : ∀ (few many : Nat) (text : JsString), text.length ≤ few → few ≤ many →
      blocksFrom many text = blocksFrom few text := by
    intro few
    induction few with
    | zero =>
      intro many text short _
      have empty : text = [] := List.length_eq_zero_iff.mp (by omega)
      subst empty
      cases many <;> rfl
    | succ few ih =>
      intro many text short order
      obtain ⟨many, rfl⟩ : ∃ rest, many = rest + 1 := ⟨many - 1, by omega⟩
      simp only [blocksFrom]
      cases found : searchBlock text with
      | none => rfl
      | some cut =>
        have shorter := searchBlock_length (show _ = some (cut.1, cut.2) from found)
        simp only [ih many cut.2 (by omega) (by omega)]
  exact more text.length passes text (le_refl _) enough

theorem eventBlocks_none {text : JsString} (absent : searchBlock text = none) : eventBlocks text = ([], text) := by
  cases text with
  | nil => rfl
  | cons unit rest => simp [eventBlocks, blocksFrom, absent]

theorem eventBlocks_some {text rest : JsString} {block : EventBlock} (found : searchBlock text = some (block, rest)) :
    eventBlocks text = (block :: (eventBlocks rest).1, (eventBlocks rest).2) := by
  cases text with
  | nil => cases found
  | cons unit left =>
    have shorter := searchBlock_length found
    simp only [eventBlocks, List.length_cons, blocksFrom, found]
    rw [blocksFrom_enough (by simpa using Nat.lt_succ_iff.mp shorter)]
    rfl

/-- The rest behind the last blank line has no blank line. -/
theorem eventBlocks_rest (text : JsString) : searchBlock (eventBlocks text).2 = none := by
  induction length : text.length using Nat.strong_induction_on generalizing text with
  | _ length ih =>
    cases found : searchBlock text with
    | none => rwa [eventBlocks_none found]
    | some cut =>
      have shorter := searchBlock_length (show _ = some (cut.1, cut.2) from found)
      rw [eventBlocks_some (show _ = some (cut.1, cut.2) from found)]
      exact ih cut.2.length (by omega) cut.2 rfl

/-- Cutting a text as it grows gives the blocks of the whole. -/
theorem eventBlocks_append (text more : JsString) : eventBlocks (text ++ more) =
      ((eventBlocks text).1 ++ (eventBlocks ((eventBlocks text).2 ++ more)).1,
        (eventBlocks ((eventBlocks text).2 ++ more)).2) := by
  induction length : text.length using Nat.strong_induction_on generalizing text with
  | _ length ih =>
    cases found : searchBlock text with
    | none => simp [eventBlocks_none found]
    | some cut =>
      have shorter := searchBlock_length (show _ = some (cut.1, cut.2) from found)
      have later := ih cut.2.length (by omega) cut.2 rfl
      rw [eventBlocks_some (searchBlock_append more found), eventBlocks_some found, later]
      rfl

theorem eventBlocks_parts (text : JsString) :
    text = ((eventBlocks text).1.flatMap fun block => block.content ++ block.blank) ++ (eventBlocks text).2 := by
  induction length : text.length using Nat.strong_induction_on generalizing text with
  | _ length ih =>
    cases found : searchBlock text with
    | none => simp [eventBlocks_none found]
    | some cut =>
      have shorter := searchBlock_length (show _ = some (cut.1, cut.2) from found)
      have later := ih cut.2.length (by omega) cut.2 rfl
      rw [eventBlocks_some (show _ = some (cut.1, cut.2) from found), List.flatMap_cons, List.append_assoc, ← later]
      exact searchBlock_parts found

theorem newline_pending {text more rest : JsString} (absent : newline text = none)
    (found : newline (text ++ more) = some rest) : rest.length < more.length := by
  by_cases empty : text = []
  · subst empty
    exact newline_length found
  by_cases begun : text = [CR]
  · subst begun
    rcases newline_some.mp found with same | same
    · cases same
    · cases same
      simp
  · rw [newline_append_none more absent empty begun] at found
    cases found

theorem blankLine_pending {text more rest : JsString} (absent : blankLine text = none)
    (found : blankLine (text ++ more) = some rest) : rest.length < more.length := by
  obtain ⟨middle, first, second⟩ := Option.bind_eq_some_iff.mp found
  cases here : newline text with
  | none => exact (newline_length second).trans (newline_pending here first)
  | some behind =>
    rw [blankLine, here, Option.bind_some] at absent
    rw [newline_append more here] at first
    cases first
    exact newline_pending absent second

theorem searchBlock_total {text rest : JsString} {block : EventBlock}
    (found : searchBlock text = some (block, rest)) : block.span + rest.length = text.length := by
  conv_rhs => rw [searchBlock_parts found]
  simp [EventBlock.span, Nat.add_assoc]

section
variable {text more rest : JsString} {block : EventBlock} (absent : searchBlock text = none)
  (found : searchBlock (text ++ more) = some (block, rest))

include absent found

theorem searchBlock_pending : rest.length < more.length := by
  induction text generalizing block with
  | nil => exact searchBlock_length found
  | cons unit left ih =>
    simp only [searchBlock, List.cons_append] at absent found
    cases before : blankLine (unit :: left) with
    | some behind => rw [before] at absent; cases absent
    | none =>
      rw [before] at absent
      cases here : blankLine (unit :: (left ++ more)) with
      | some behind =>
        rw [here] at found
        cases found
        exact blankLine_pending before here
      | none =>
        rw [here] at found
        obtain ⟨⟨inner, behind⟩, later, same⟩ := Option.map_eq_some_iff.mp found
        cases same
        exact ih (Option.map_eq_none_iff.mp absent) later

/-- A text that ends before its first block does is shorter than the block with its blank line. -/
theorem searchBlock_span : text.length < block.span := by
  have total := searchBlock_total found
  have pending := searchBlock_pending absent found
  rw [List.length_append] at total
  omega

end

end SpaceApp.Foundation
