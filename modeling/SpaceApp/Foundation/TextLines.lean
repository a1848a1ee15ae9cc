import SpaceApp.Foundation.EventStream
import SpaceApp.Foundation.Number
import SpaceApp.Foundation.Strip

/-! Texts as lines, the last of them perhaps not ended, and readers of what a line is made of.

A change of the lines has an inverse as a change of texts where it keeps lines lines.
-/

set_option autoImplicit false

namespace SpaceApp.Foundation

structure TextLines where
  lines : List JsString
  trailing : Bool

/-- The lines of a text; a line feed at the end ends the last one. -/
def splitText (text : JsString) : TextLines :=
  if text = [] then ⟨[], false⟩
  else
    let trailing := text.getLast? = some LF
    ⟨(if trailing then text.dropLast else text).splitOn LF, trailing⟩

def TextLines.join (text : TextLines) : JsString := joinLines text.lines ++ if text.trailing then [LF] else []

/-- The lines of a text that is not empty. -/
structure TextLines.Proper (text : TextLines) : Prop where
  filled : text.lines ≠ []
  plain : ∀ line ∈ text.lines, LF ∉ line
  ended : text.trailing = false → text.lines.getLast? ≠ some []

def overLines (change : List JsString → List JsString) (text : JsString) : JsString :=
  if (splitText text).lines = [] then text
  else TextLines.join { splitText text with lines := change (splitText text).lines }

section

variable {text : TextLines}

theorem joinLines_getLast? (lines : List JsString) (filled : lines.getLast? ≠ some []) :
    (joinLines lines).getLast? = lines.getLast?.bind List.getLast? := by
  induction lines with
  | nil => rfl
  | cons line rest ih =>
    cases rest with
    | nil => simp [joinLines]
    | cons next rest =>
      rw [List.getLast?_cons_cons] at filled ⊢
      have inner := ih filled
      obtain ⟨last, same⟩ : ∃ last, (next :: rest).getLast? = some last := ⟨_, List.getLast?_eq_some_getLast (by simp)⟩
      rw [same, Option.bind_some] at inner ⊢
      have some_ : last.getLast? ≠ none := by
        rw [Ne, List.getLast?_eq_none_iff]
        rintro rfl
        exact filled same
      obtain ⟨unit, ended⟩ := Option.ne_none_iff_exists'.mp some_
      rw [joinLines, List.intercalate_cons_cons, List.getLast?_append, ← joinLines, inner, ended, Option.some_or]

theorem TextLines.Proper.join_getLast? (proper : text.Proper) : text.join.getLast? = some LF ↔ text.trailing = true := by
  unfold TextLines.join
  cases ended : text.trailing with
  | true => simp
  | false =>
    simp only [Bool.false_eq_true, if_false, List.append_nil, iff_false]
    intro last
    rw [joinLines_getLast? _ (proper.ended ended)] at last
    obtain ⟨line, found, inside⟩ := Option.bind_eq_some_iff.mp last
    exact proper.plain line (List.mem_of_getLast? found) (List.mem_of_getLast? inside)

theorem TextLines.Proper.join_ne_nil (proper : text.Proper) : text.join ≠ [] := by
  intro empty
  cases ended : text.trailing with
  | true =>
    have last := proper.join_getLast?.mpr ended
    rw [empty] at last
    cases last
  | false =>
    obtain ⟨line, found⟩ : ∃ line, text.lines.getLast? = some line := ⟨_, List.getLast?_eq_some_getLast proper.filled⟩
    have joined := joinLines_getLast? _ (proper.ended ended)
    simp only [TextLines.join, ended, Bool.false_eq_true, if_false, List.append_nil] at empty
    rw [empty, found, Option.bind_some, List.getLast?_nil, Eq.comm, List.getLast?_eq_none_iff] at joined
    exact proper.ended ended (joined ▸ found)

/-- Lines that were joined are found again. -/
theorem TextLines.Proper.split_join (proper : text.Proper) : splitText text.join = text := by
  have last := proper.join_getLast?
  have lines : (joinLines text.lines).splitOn LF = text.lines := List.splitOn_intercalate LF proper.plain proper.filled
  rw [splitText, if_neg proper.join_ne_nil]
  obtain ⟨content, trailing⟩ := text
  cases trailing with
  | true =>
    simp only [last, decide_true, if_true]
    simp only [TextLines.join, if_true, List.dropLast_concat]
    rw [lines]
  | false =>
    simp only [last, Bool.false_eq_true, decide_false, if_false]
    simp only [TextLines.join, Bool.false_eq_true, if_false, List.append_nil]
    rw [lines]

theorem join_split {text : JsString} (filled : text ≠ []) : (splitText text).join = text := by
  unfold splitText TextLines.join joinLines
  rw [if_neg filled]
  by_cases ended : text.getLast? = some LF
  · simp only [ended, decide_true, if_true, List.intercalate_splitOn]
    exact List.dropLast_append_getLast? _ ended
  · simp [ended]

theorem split_proper {text : JsString} (filled : text ≠ []) : (splitText text).Proper where
  filled := by simp [splitText, filled]
  plain := by
    unfold splitText
    rw [if_neg filled]
    exact splitOn_free LF _
  ended := by
    intro open_ last
    have joined := join_split filled
    simp only [TextLines.join, open_, Bool.false_eq_true, if_false, List.append_nil] at joined
    have ended : text.getLast? ≠ some LF := by
      simpa [splitText, filled] using open_
    obtain ⟨front, same⟩ := List.getLast?_eq_some_iff.mp last
    rw [same] at joined
    cases front with
    | nil =>
      rw [List.nil_append, joinLines, List.intercalate_singleton] at joined
      exact filled joined.symm
    | cons line front =>
      refine ended ?_
      rw [← joined, joinLines, List.cons_append, List.intercalate_cons_of_ne_nil (by simp)]
      clear same joined
      induction front generalizing line with
      | nil => simp
      | cons next front ih =>
        rw [List.cons_append, List.intercalate_cons_of_ne_nil (by simp), List.getLast?_append, ih, Option.some_or]

@[simp] theorem split_lines_nil {text : JsString} : (splitText text).lines = [] ↔ text = [] := by
  constructor
  · intro none_
    by_contra filled
    exact (split_proper filled).filled none_
  · rintro rfl
    rfl

theorem overLines_eq {change : List JsString → List JsString} {text : JsString} (filled : text ≠ []) :
    overLines change text = TextLines.join { splitText text with lines := change (splitText text).lines } := by
  simp [overLines, filled]

@[simp] theorem overLines_nil (change : List JsString → List JsString) : overLines change [] = [] := by
  simp [overLines]

theorem splitText_overLines {change : List JsString → List JsString} {text : JsString} (filled : text ≠ [])
    (proper : TextLines.Proper { splitText text with lines := change (splitText text).lines }) :
    splitText (overLines change text) = { splitText text with lines := change (splitText text).lines } := by
  rw [overLines_eq filled, proper.split_join]

/-- A change of lines that another one undoes, as changes of texts. -/
theorem overLines_inverse {forth back : List JsString → List JsString} {text : JsString}
    (proper : text ≠ [] → TextLines.Proper { splitText text with lines := forth (splitText text).lines })
    (inverse : back (forth (splitText text).lines) = (splitText text).lines) : overLines back (overLines forth text) = text := by
  by_cases filled : text = []
  · simp [filled]
  · have split := splitText_overLines filled (proper filled)
    have some_ : overLines forth text ≠ [] := by
      rw [overLines_eq filled]
      exact (proper filled).join_ne_nil
    rw [overLines_eq some_, split]
    dsimp only
    rw [inverse]
    exact join_split filled

end

def readText (expected text : JsString) : Option JsString :=
  if expected.isPrefixOf text then some (text.drop expected.length) else none

def readNumber (text : JsString) : Option (ℕ × JsString) :=
  if (text.takeWhile isDigitUnit).isEmpty then none
  else some (digitsValue (text.takeWhile isDigitUnit), text.dropWhile isDigitUnit)

def decimal (number : ℕ) : JsString := (Nat.toDigits 10 number).map fun digit => digit.toNat.toUInt16

@[simp] theorem readText_append (expected rest : JsString) : readText expected (expected ++ rest) = some rest := by
  simp [readText]

theorem readText_some {expected text rest : JsString} (found : readText expected text = some rest) : text = expected ++ rest := by
  unfold readText at found
  split at found
  · next starts =>
    obtain ⟨more, same⟩ := List.isPrefixOf_iff_prefix.mp starts
    cases found
    simp [← same]
  · cases found

theorem digit_unit {digit : Char} (decimal : digit.isDigit = true) :
    isDigitUnit digit.toNat.toUInt16 = true ∧ digit.toNat.toUInt16.toNat = digit.toNat := by
  have bounds : 48 ≤ digit.toNat ∧ digit.toNat ≤ 57 := by
    simpa [Char.isDigit, UInt32.le_iff_toNat_le] using decimal
  have same := @toUInt16_toNat digit.toNat (by omega)
  refine ⟨?_, same⟩
  simp only [isDigitUnit, UInt16.le_iff_toNat_le, same, Bool.and_eq_true, decide_eq_true_eq]
  exact bounds

theorem decimal_digits (number : ℕ) : ∀ unit ∈ decimal number, isDigitUnit unit = true := by
  intro unit inside
  obtain ⟨digit, digits, rfl⟩ := List.mem_map.mp inside
  exact (digit_unit (Nat.isDigit_of_mem_toDigits (by omega) (by omega) digits)).1

theorem decimal_ne_nil (number : ℕ) : decimal number ≠ [] := by
  simp [decimal]

theorem digitsValue_decimal (number : ℕ) : digitsValue (decimal number) = number := by
  have same : ∀ (digits : List Char) (start : ℕ), (∀ digit ∈ digits, digit.isDigit = true) →
      (digits.map fun digit => digit.toNat.toUInt16).foldl (fun total digit => 10 * total + (digit.toNat - 0x30)) start =
        Nat.ofDigitChars 10 digits start := by
    intro digits
    induction digits with
    | nil => simp
    | cons digit rest ih =>
      intro start decimal
      rw [List.map_cons, List.foldl_cons, ih _ fun other inside => decimal other (List.mem_cons_of_mem _ inside),
        Nat.ofDigitChars_cons, (digit_unit (decimal digit List.mem_cons_self)).2]
      rfl
  unfold digitsValue decimal
  rw [same _ _ fun digit inside => Nat.isDigit_of_mem_toDigits (by omega) (by omega) inside]
  exact Nat.ofDigitChars_toDigits (by omega) (by omega)

theorem readNumber_decimal (number : ℕ) {rest : JsString} (ended : rest.head?.all fun unit => !isDigitUnit unit) :
    readNumber (decimal number ++ rest) = some (number, rest) := by
  have digits := decimal_digits number
  have stops : rest.takeWhile isDigitUnit = [] ∧ rest.dropWhile isDigitUnit = rest := by
    cases rest with
    | nil => simp
    | cons unit rest =>
      have other : isDigitUnit unit = false := by simpa using ended
      simp [other]
  unfold readNumber
  rw [List.takeWhile_append_of_pos digits, List.dropWhile_append_of_pos digits, stops.1, stops.2, List.append_nil,
    digitsValue_decimal]
  simp [decimal_ne_nil]

end SpaceApp.Foundation
