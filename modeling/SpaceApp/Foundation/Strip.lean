import Mathlib.Data.List.DropRight
import Mathlib.Data.List.Count

/-! Texts without their outer symbols, the symbols of a text that is cut at a separator, and lines
cut at line breaks.
-/

set_option autoImplicit false

namespace SpaceApp.Foundation

section

variable {α : Type} (outer : α → Bool)

def strip (text : List α) : List α :=
  (text.dropWhile outer).rdropWhile outer

variable {outer} {text : List α}

theorem strip_sublist (outer : α → Bool) (text : List α) : (strip outer text).Sublist text :=
  (List.rdropWhile_prefix outer (l := text.dropWhile outer)).sublist.trans (List.dropWhile_sublist outer)

theorem strip_subset {symbol : α} (member : symbol ∈ strip outer text) : symbol ∈ text :=
  (strip_sublist outer text).subset member

theorem strip_head (symbol : α) (first : (strip outer text).head? = some symbol) : outer symbol = false := by
  obtain ⟨rest, same⟩ := List.head?_eq_some_iff.mp first
  obtain ⟨behind, whole⟩ := List.rdropWhile_prefix outer (l := text.dropWhile outer)
  have begins : text.dropWhile outer = symbol :: (rest ++ behind) := by
    rw [← whole, ← strip, same]
    rfl
  have stops := List.head?_dropWhile_not outer text
  rw [begins] at stops
  simpa using stops

theorem strip_last (symbol : α) (last : (strip outer text).getLast? = some symbol) : outer symbol = false := by
  have filled : strip outer text ≠ [] := by
    intro empty
    rw [empty] at last
    simp at last
  have stops := List.rdropWhile_last_not outer (text.dropWhile outer) filled
  rw [List.getLast?_eq_some_getLast filled, Option.some.injEq] at last
  change (strip outer text).getLast filled = symbol at last
  have found : ¬outer ((strip outer text).getLast filled) = true := stops
  rw [last] at found
  simpa using found

/-- A text between symbols that are not outer is stripped to itself. -/
theorem strip_eq_self (first : ∀ symbol, text.head? = some symbol → outer symbol = false)
    (last : ∀ symbol, text.getLast? = some symbol → outer symbol = false) : strip outer text = text := by
  have front : text.dropWhile outer = text := by
    cases text with
    | nil => rfl
    | cons symbol text => exact List.dropWhile_cons_of_neg (by simp [first symbol rfl])
  rw [strip, front, List.rdropWhile_eq_self_iff]
  intro filled
  simp [last _ (List.getLast?_eq_some_getLast filled)]

theorem strip_strip (text : List α) : strip outer (strip outer text) = strip outer text :=
  strip_eq_self strip_head strip_last

theorem strip_wrapped {mark : α} (wraps : outer mark = true) (text : List α) :
    strip outer (mark :: text ++ [mark]) = strip outer text := by
  have front : (mark :: text ++ [mark]).dropWhile outer = (text ++ [mark]).dropWhile outer := by
    rw [List.cons_append, List.dropWhile_cons_of_pos wraps]
  rw [strip, front, List.dropWhile_append]
  split
  · next empty =>
    have all_outer : text.dropWhile outer = [] := by simpa using empty
    rw [strip, all_outer, List.dropWhile_cons_of_pos wraps]
    rfl
  · rw [List.rdropWhile_concat_pos _ _ _ wraps]
    rfl

/-- Symbols that are not outer are all kept. -/
theorem count_strip [DecidableEq α] {symbol : α} (inner : outer symbol = false) (text : List α) :
    (strip outer text).count symbol = text.count symbol := by
  have dropped : ∀ text : List α, (text.dropWhile outer).count symbol = text.count symbol := by
    intro text
    induction text with
    | nil => rfl
    | cons other text ih =>
      by_cases drops : outer other = true
      · have apart : other ≠ symbol := by
          rintro rfl
          simp [inner] at drops
        rw [List.dropWhile_cons_of_pos drops, ih, List.count_cons_of_ne apart]
      · rw [List.dropWhile_cons_of_neg drops]
  rw [strip, List.rdropWhile, List.count_reverse, dropped, List.count_reverse, dropped]

end

section

variable {α : Type}

/-- The pieces of a text that is cut hold what it holds, the separators apart. -/
theorem splitOnP_pieces (separates : α → Bool) (text : List α) :
    ∀ piece ∈ text.splitOnP separates, ∀ symbol ∈ piece, separates symbol = false ∧ symbol ∈ text := by
  induction text with
  | nil => simp
  | cons unit rest ih =>
    rw [List.splitOnP_cons_eq_if_modifyHead]
    intro piece member symbol there
    have later (other) (inside : other ∈ rest.splitOnP separates) (holds : symbol ∈ other) :
        separates symbol = false ∧ symbol ∈ unit :: rest :=
      (ih other inside symbol holds).imp_right (List.mem_cons_of_mem _)
    by_cases cut : separates unit = true
    · rw [if_pos cut] at member
      rcases List.mem_cons.mp member with rfl | inside
      · cases there
      · exact later piece inside there
    · rw [if_neg cut] at member
      cases pieces : rest.splitOnP separates with
      | nil => exact absurd pieces (List.splitOnP_ne_nil _ _)
      | cons first others =>
        rw [pieces] at member later
        rcases List.mem_cons.mp member with rfl | inside
        · rcases List.mem_cons.mp there with rfl | deeper
          · exact ⟨Bool.not_eq_true _ ▸ cut, List.mem_cons_self⟩
          · exact later first List.mem_cons_self deeper
        · exact later piece (List.mem_cons_of_mem _ inside) there

variable [DecidableEq α]

theorem splitOn_free (separator : α) (text : List α) : ∀ piece ∈ text.splitOn separator, separator ∉ piece := by
  intro piece inside there
  rw [List.splitOn_eq_splitOnP] at inside
  simpa using (splitOnP_pieces _ text piece inside separator there).1

theorem splitOn_subset (separator : α) (text : List α) :
    ∀ piece ∈ text.splitOn separator, ∀ symbol ∈ piece, symbol ∈ text := by
  intro piece inside symbol there
  rw [List.splitOn_eq_splitOnP] at inside
  exact (splitOnP_pieces _ text piece inside symbol there).2

theorem splitOn_append (separator : α) (first second : List α) :
    (first ++ second).splitOn separator = (first.splitOn separator).dropLast ++
      (second.splitOn separator).modifyHead ((first.splitOn separator).getLastD [] ++ ·) := by
  induction first with
  | nil =>
    cases pieces : second.splitOn separator <;> simp [pieces]
  | cons symbol rest ih =>
    rw [List.cons_append, List.splitOn_cons_eq_if_modifyHead, List.splitOn_cons_eq_if_modifyHead, ih]
    cases pieces : rest.splitOn separator with
    | nil => exact absurd pieces (List.splitOn_ne_nil _ _)
    | cons piece others =>
      split
      · simp
      · cases others with
        | nil => cases second.splitOn separator <;> simp
        | cons other others => simp

end

end SpaceApp.Foundation
