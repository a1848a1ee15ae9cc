import Mathlib.Data.List.Forall2
import Mathlib.Data.List.Perm.Subperm
import SpaceApp.Databases.Csv

/-! Which tables come back from an export.
-/

set_option autoImplicit false

namespace SpaceApp.Databases

open Foundation (doubled doubled_free readQuoted isSpace strip strip_sublist strip_subset strip_strip strip_wrapped
  strip_eq_self strip_head strip_last count_strip splitOn_free splitOn_subset)

/-- A line that holds no line boundary and stands between quotes. -/
structure Framed (csv : Csv) (line : Text) : Prop where
  unbroken : ∀ symbol ∈ line, csv.isBreak symbol = false
  first : line.head? = some '"'
  last : line.getLast? = some '"'

structure Csv.Lawful (csv : Csv) : Prop where
  quote_inside : csv.isBreak '"' = false
  comma_inside : csv.isBreak ',' = false
  lines_free : ∀ text, ∀ line ∈ csv.lines text, ∀ symbol ∈ line, csv.isBreak symbol = false
  lines_join : ∀ rows, (∀ row ∈ rows, Framed csv row) → csv.lines (lineText rows) = rows
  header_subset : ∀ name, ∀ symbol ∈ csv.headerBody name, symbol ∈ name
  header_keeps : ∀ name, ∀ symbol ∈ name, symbol ∈ csv.headerBody name
  cell_quoted : ∀ body, csv.readCell (quotedCell body) = strip csv.strips body
  cell_subset : ∀ cell, ∀ symbol ∈ csv.readCell cell, symbol ∈ cell

theorem mem_doubled {mark symbol : Char} {text : Text} : symbol ∈ doubled mark text ↔ symbol ∈ text := by
  simp only [doubled, List.mem_flatMap]
  constructor
  · rintro ⟨other, member, found⟩
    split at found
    · next marked => simp_all
    · simp_all
  · intro member
    refine ⟨symbol, member, ?_⟩
    split <;> simp_all

theorem strip_filled {outer : Char → Bool} {line : Text} {symbol : Char} (member : symbol ∈ line)
    (inner : outer symbol = false) : strip outer line ≠ [] := by
  intro empty
  have counted := count_strip inner line
  rw [empty, List.count_nil] at counted
  exact absurd member (List.count_eq_zero.mp counted.symm)

theorem script_lawful : Csv.script.Lawful where
  quote_inside := by decide
  comma_inside := by decide
  lines_free := by
    intro text line member symbol inside
    have parts : ∀ part ∈ text.splitOn '\n', symbol ∈ part → symbol ≠ '\n' := by
      rintro part among inside rfl
      exact splitOn_free '\n' text part among inside
    simp only [Csv.script, splitReturns, List.mem_filter, List.mem_append, List.mem_map, Option.mem_toList] at member
    have apart : symbol ≠ '\n' := by
      rcases member.1 with ⟨part, among, same⟩ | last
      · refine parts part (List.dropLast_subset _ among) ?_
        rw [← same] at inside
        simp only [dropReturn] at inside
        split at inside
        · exact List.dropLast_subset _ inside
        · exact inside
      · exact parts line (List.mem_of_getLast? last) inside
    simpa [Csv.script] using apart
  lines_join := by
    intro rows framed
    cases rows with
    | nil => rfl
    | cons row rows =>
      have parts : (lineText (row :: rows)).splitOn '\n' = row :: rows := by
        refine List.splitOn_intercalate '\n' (fun line member broken => ?_) (by simp)
        have unbroken := (framed line member).unbroken '\n' broken
        simp [Csv.script] at unbroken
      have kept : ∀ line ∈ row :: rows, dropReturn line = line := by
        intro line member
        simp [dropReturn, (framed line member).last]
      have same : (row :: rows).dropLast.map dropReturn = (row :: rows).dropLast :=
        (List.map_congr_left fun line member => kept line (List.dropLast_subset _ member)).trans (List.map_id' _)
      have whole : (row :: rows).dropLast ++ (row :: rows).getLast?.toList = row :: rows := by
        rw [List.getLast?_eq_some_getLast (by simp), Option.toList_some, List.dropLast_append_getLast]
      simp only [Csv.script, splitReturns, parts, same, whole]
      refine List.filter_eq_self.mpr fun line member => ?_
      have quoted : '"' ∈ line := List.mem_of_head? (framed line member).first
      simpa using strip_filled quoted (by decide)
  header_subset := fun name symbol member => mem_doubled.mp member
  header_keeps := fun name symbol member => mem_doubled.mpr member
  cell_quoted := by
    intro body
    have front : dropQuotes (quotedCell body) = body := by
      simp [dropQuotes, quotedCell, isQuote]
    simp only [Csv.script, front]
  cell_subset := by
    intro cell symbol member
    have inner := strip_subset member
    have shorter : ∀ text : Text, ∀ symbol ∈ dropQuotes text, symbol ∈ text := by
      intro text symbol member
      have front : ∀ other ∈ (if text.head?.any isQuote then text.tail else text), other ∈ text := by
        intro other found
        split at found
        · exact List.mem_of_mem_tail found
        · exact found
      have back : ∀ front : Text, ∀ other ∈ (if front.getLast?.any isQuote then front.dropLast else front),
          other ∈ front := by
        intro front other found
        split at found
        · exact List.dropLast_subset _ found
        · exact found
      exact front symbol (back _ symbol member)
    exact shorter cell symbol inner

theorem splitLines_cons (line rest : Text) {symbol : Char} (apart : symbol ≠ '\r') : splitLines line (symbol :: rest) =
      if isPythonBreak symbol then line :: splitLines [] rest else splitLines (line ++ [symbol]) rest := by
  rw [splitLines]
  exact fun _ same _ => apart same

theorem splitLines_free (line text : Text) (clean : ∀ symbol ∈ line, isPythonBreak symbol = false) :
    ∀ found ∈ splitLines line text, ∀ symbol ∈ found, isPythonBreak symbol = false := by
  induction line, text using splitLines.induct with
  | case1 => simp [splitLines]
  | case2 line filled =>
    simp only [splitLines, if_neg filled, List.mem_singleton]
    rintro found rfl
    exact clean
  | case3 line rest ih =>
    simp only [splitLines, List.mem_cons]
    rintro found (rfl | later)
    · exact clean
    · exact ih (by simp) found later
  | case4 line symbol rest unpaired breaks ih =>
    rw [splitLines, if_pos breaks]
    · intro found member
      rcases List.mem_cons.mp member with rfl | later
      · exact clean
      · exact ih (by simp) found later
    · exact unpaired
  | case5 line symbol rest unpaired plain ih =>
    rw [splitLines, if_neg plain]
    · refine ih fun other member => ?_
      rcases List.mem_append.mp member with old | new
      · exact clean other old
      · simpa [List.mem_singleton.mp new] using plain
    · exact unpaired

theorem splitLines_line (line row rest : Text) (clean : ∀ symbol ∈ row, isPythonBreak symbol = false) :
    splitLines line (row ++ '\n' :: rest) = (line ++ row) :: splitLines [] rest := by
  induction row generalizing line with
  | nil =>
    rw [List.nil_append, splitLines_cons line rest (by decide), if_pos (by decide), List.append_nil]
  | cons symbol row ih =>
    have plain := clean symbol (by simp)
    have apart : symbol ≠ '\r' := by
      rintro rfl
      exact absurd plain (by decide)
    rw [List.cons_append, splitLines_cons _ _ apart, if_neg (by simp [plain]),
      ih _ fun other member => clean other (by simp [member])]
    simp

theorem splitLines_last (line row : Text) (filled : line ++ row ≠ [])
    (clean : ∀ symbol ∈ row, isPythonBreak symbol = false) : splitLines line row = [line ++ row] := by
  induction row generalizing line with
  | nil =>
    rw [List.append_nil] at filled ⊢
    rw [splitLines, if_neg filled]
  | cons symbol row ih =>
    have plain := clean symbol (by simp)
    have apart : symbol ≠ '\r' := by
      rintro rfl
      exact absurd plain (by decide)
    rw [splitLines_cons _ _ apart, if_neg (by simp [plain]),
      ih _ (by simp) fun other member => clean other (by simp [member])]
    simp

theorem splitLines_join (rows : List Text) (framed : ∀ row ∈ rows, Framed .worker row) :
    splitLines [] (lineText rows) = rows := by
  induction rows with
  | nil => rfl
  | cons row rows ih =>
    have frame := framed row (by simp)
    cases rows with
    | nil =>
      have filled : [] ++ row ≠ [] := by
        intro empty
        rw [List.nil_append] at empty
        simpa [empty] using frame.first
      simpa [lineText] using splitLines_last [] row filled frame.unbroken
    | cons next rows =>
      have rest := ih fun other member => framed other (List.mem_cons_of_mem _ member)
      have text : lineText (row :: next :: rows) = row ++ '\n' :: lineText (next :: rows) := by
        simp [lineText]
      rw [text, splitLines_line [] row _ frame.unbroken, rest, List.nil_append]

theorem worker_lawful : Csv.worker.Lawful where
  quote_inside := by decide
  comma_inside := by decide
  lines_free := by
    intro text line member
    exact splitLines_free [] text (by simp) line (List.mem_of_mem_filter member)
  lines_join := by
    intro rows framed
    simp only [Csv.worker, splitLines_join rows framed]
    refine List.filter_eq_self.mpr fun line member => ?_
    have quoted : '"' ∈ line := List.mem_of_head? (framed line member).first
    simpa using strip_filled quoted (by decide)
  header_subset := fun _ _ member => member
  header_keeps := fun _ _ member => member
  cell_quoted := by
    intro body
    have outside : strip isPythonSpace (quotedCell body) = quotedCell body := by
      refine strip_eq_self (fun symbol first => ?_) (fun symbol last => ?_)
      · simp only [quotedCell, List.cons_append, List.head?_cons, Option.some.injEq] at first
        rw [← first]
        decide
      · rw [quotedCell, List.getLast?_concat, Option.some.injEq] at last
        rw [← last]
        decide
    simp only [Csv.worker, outside]
    exact strip_wrapped (by decide) body
  cell_subset := fun _ _ member => strip_subset (strip_subset member)

theorem csv_lawful (engine : Engine) : engine.csv.Lawful := by
  cases engine
  · exact script_lawful
  · exact script_lawful
  · exact worker_lawful

end SpaceApp.Databases
