import SpaceApp.Gateway.Compression.Lossless

/-! The fold of runs and repeated blocks gives every text back that has no markers of its own.

A block marker counts lines of the text that was folded, and the decoder the lines it has written: what it has
written is always the beginning of the folded text.
-/

set_option autoImplicit false

namespace SpaceApp.Gateway.Compression

open SpaceApp.Foundation

theorem RUN_MARKER_repeatedTimes (count : ℕ) : RUN_MARKER (repeatedTimes count) = some count := by
  have number := @readNumber_decimal count (js " times)") (by decide)
  simp [RUN_MARKER, repeatedTimes, number]

theorem BLOCK_MARKER_repeatsLines (size distance : ℕ) : BLOCK_MARKER (repeatsLines size distance) = some (size, distance) := by
  have first := @readNumber_decimal size (js " lines from " ++ (decimal distance ++ js " lines back)")) (by rfl)
  have second := @readNumber_decimal distance (js " lines back)") (by decide)
  simp [BLOCK_MARKER, repeatsLines, first, second]

theorem BLOCK_MARKER_repeatedTimes (count : ℕ) : BLOCK_MARKER (repeatedTimes count) = none := by
  cases read : readText (js "... (repeats ") (repeatedTimes count) with
  | none => simp [BLOCK_MARKER, read]
  | some rest =>
    have same := congrArg (List.take 13) (readText_some read)
    rw [repeatedTimes, List.take_append_of_le_length (by decide), List.take_append_of_le_length (by decide)] at same
    exact absurd same (by decide)

theorem decimal_plain (number : ℕ) : LF ∉ decimal number := by
  intro inside
  have := decimal_digits number LF inside
  revert this
  decide

theorem repeatedTimes_line (count : ℕ) : LF ∉ repeatedTimes count ∧ repeatedTimes count ≠ [] := by
  have opening : LF ∉ js "... (repeated " ∧ js "... (repeated " ≠ [] ∧ LF ∉ js " times)" := by decide
  simp [repeatedTimes, opening, decimal_plain]

theorem repeatsLines_line (size distance : ℕ) : LF ∉ repeatsLines size distance ∧ repeatsLines size distance ≠ [] := by
  have opening : LF ∉ js "... (repeats " ∧ js "... (repeats " ≠ [] ∧ LF ∉ js " lines from " ∧ LF ∉ js " lines back)" := by
    decide
  simp [repeatsLines, opening, decimal_plain]

section

variable {text : JsString}

theorem collapse_proper (filled : text ≠ []) :
    TextLines.Proper { splitText text with lines := collapse repeatedTimes (splitText text).lines } where
  filled := collapse_ne_nil (split_proper filled).filled
  plain := by
    intro line inside
    rcases collapse_mem inside with own | ⟨count, rfl⟩
    · exact (split_proper filled).plain line own
    · exact (repeatedTimes_line count).1
  ended := by
    intro open_ last
    have kept : ∀ line ∈ (collapse repeatedTimes (splitText text).lines).getLast?, line ≠ [] :=
      collapse_last (fun count => (repeatedTimes_line count).2)
        fun line found empty => (split_proper filled).ended open_ (empty ▸ found)
    exact kept [] last rfl

theorem expandRuns_collapseRuns (plain : ∀ line ∈ (splitText text).lines, RUN_MARKER line = none) :
    expandRuns (collapseRuns text) = text :=
  overLines_inverse collapse_proper (expand_collapse RUN_MARKER_repeatedTimes plain)

theorem collapseRuns_blocks (plain : ∀ line ∈ (splitText text).lines, BLOCK_MARKER line = none) :
    ∀ line ∈ (splitText (collapseRuns text)).lines, BLOCK_MARKER line = none := by
  by_cases filled : text = []
  · subst filled
    exact plain
  · rw [collapseRuns, splitText_overLines filled (collapse_proper filled)]
    intro line inside
    rcases collapse_mem inside with own | ⟨count, rfl⟩
    · exact plain line own
    · exact BLOCK_MARKER_repeatedTimes count

end

section

variable {lines : List JsString}

structure Repeats (lines : List JsString) (i size distance : ℕ) : Prop where
  short : size ≤ distance
  back : distance ≤ i
  same : ((lines.take i).drop (i - distance)).take size = (lines.drop i).take size

theorem Repeats.none (i : ℕ) : Repeats lines i 0 0 := ⟨le_refl _, Nat.zero_le _, by simp⟩

theorem take_agree {α : Type} [DecidableEq α] (left right : List α) (most : ℕ) :
    let size := (((left.zip right).take most).takeWhile fun pair => pair.1 = pair.2).length
    size ≤ most ∧ left.take size = right.take size := by
  induction most generalizing left right with
  | zero => simp
  | succ most ih =>
    cases left with
    | nil => simp
    | cons first left =>
      cases right with
      | nil => simp
      | cons second right =>
        obtain ⟨short, same⟩ := ih left right
        by_cases equal : first = second
        · simp only [equal, List.zip_cons_cons, List.take_succ_cons, decide_true, List.takeWhile_cons_of_pos, List.length_cons,
            Nat.add_le_add_iff_right, List.cons.injEq, true_and]
          exact ⟨short, same⟩
        · simp [equal]

theorem blockSize_repeats (i q : ℕ) (some_ : 0 < blockSize lines i q) : Repeats lines i (blockSize lines i q) (i - q) := by
  obtain ⟨short, same⟩ := take_agree (lines.drop q) (lines.drop i) (min (min FOLD_MAX_BLOCK (lines.length - i)) (i - q))
  have small : blockSize lines i q ≤ i - q := short.trans (Nat.min_le_right _ _)
  refine ⟨small, Nat.sub_le _ _, ?_⟩
  have place : i - (i - q) = q := by omega
  rw [place, List.drop_take, List.take_take, Nat.min_eq_left small]
  exact same

theorem bestBlock_repeats (i : ℕ) (candidates : List ℕ) :
    Repeats lines i (bestBlock lines i candidates).1 (bestBlock lines i candidates).2 := by
  unfold bestBlock
  generalize candidates.reverse = places
  suffices every : ∀ best : ℕ × ℕ, Repeats lines i best.1 best.2 →
      Repeats lines i (places.foldl (fun best q => if best.1 < blockSize lines i q then (blockSize lines i q, i - q) else best) best).1
        (places.foldl (fun best q => if best.1 < blockSize lines i q then (blockSize lines i q, i - q) else best) best).2 from
    every (0, 0) (Repeats.none i)
  induction places with
  | nil => exact fun best repeats => repeats
  | cons q places ih =>
    intro best repeats
    rw [List.foldl_cons]
    by_cases larger : best.1 < blockSize lines i q
    · rw [if_pos larger]
      exact ih _ (blockSize_repeats i q (by omega))
    · rw [if_neg larger]
      exact ih _ repeats

/-- From every place on, the pieces are folded from the lines there. -/
theorem foldFrom_folds (positions : Positions) (i : ℕ) : Folds (lines.take i) (lines.drop i) (foldFrom lines positions i) := by
  fun_induction foldFrom lines positions i with
  | case1 positions i inside line best folds ih =>
    have repeats : Repeats lines i best.1 best.2 := bestBlock_repeats i (positions line)
    have placed : (lines.take i).length = i := by simp [inside.le]
    rw [List.take_add] at ih
    rw [← List.take_append_drop best.1 (lines.drop i), List.drop_drop]
    refine Folds.copy repeats.short (placed.symm ▸ repeats.back) ?_ ih
    rw [placed]
    exact repeats.same
  | case2 positions i inside line best folds ih =>
    have ahead : lines.drop i = line :: lines.drop (i + 1) := List.drop_eq_getElem_cons inside
    rw [List.take_succ_eq_append_getElem inside] at ih
    rw [ahead]
    exact Folds.item ih
  | case3 positions i outside =>
    rw [List.drop_eq_nil_of_le (not_lt.mp outside)]
    exact Folds.done _

theorem foldLines_folds : Folds [] lines (foldFrom lines (fun _ => []) 0) := foldFrom_folds (fun _ => []) 0

end

section

variable {text : JsString}

theorem foldLines_proper (filled : text ≠ []) : TextLines.Proper { splitText text with
    lines := (foldFrom (splitText text).lines (fun _ => []) 0).map (Piece.write repeatsLines) } where
  filled := by
    have folds := @foldLines_folds (splitText text).lines
    generalize foldFrom (splitText text).lines (fun _ => []) 0 = pieces at folds
    intro none_
    rw [List.map_eq_nil_iff] at none_
    subst none_
    generalize ahead : (splitText text).lines = lines at folds
    cases folds
    exact (split_proper filled).filled ahead
  plain := by
    intro line inside
    rcases foldLines_folds.mem_write inside with own | ⟨size, distance, rfl⟩
    · exact (split_proper filled).plain line own
    · exact (repeatsLines_line size distance).1
  ended := by
    intro open_ last
    have kept : ∀ line ∈ ((foldFrom (splitText text).lines (fun _ => []) 0).map (Piece.write repeatsLines)).getLast?, line ≠ [] :=
      foldLines_folds.last (fun size distance => (repeatsLines_line size distance).2)
        fun line found empty => (split_proper filled).ended open_ (empty ▸ found)
    exact kept [] last rfl

theorem unfoldRepeatedBlocks_plain (plain : ∀ line ∈ (splitText text).lines, BLOCK_MARKER line = none) :
    unfoldRepeatedBlocks text = text := by
  by_cases filled : text = []
  · simp [unfoldRepeatedBlocks, filled]
  · have same : ∀ (lines seen : List JsString), (∀ line ∈ lines, BLOCK_MARKER line = none) →
        lines.foldl (unfoldItem BLOCK_MARKER) seen = seen ++ lines := by
      intro lines
      induction lines with
      | nil => simp
      | cons line lines ih =>
        intro seen plain
        rw [List.foldl_cons, unfoldItem, plain line List.mem_cons_self]
        rw [ih _ fun other inside => plain other (List.mem_cons_of_mem _ inside)]
        simp
    rw [unfoldRepeatedBlocks, overLines_eq filled, unfoldBlocks, same _ _ plain, List.nil_append]
    exact join_split filled

theorem unfoldRepeatedBlocks_foldRepeatedBlocks (plain : ∀ line ∈ (splitText text).lines, BLOCK_MARKER line = none) :
    unfoldRepeatedBlocks (foldRepeatedBlocks text) = text := by
  unfold foldRepeatedBlocks
  dsimp only
  split
  · exact unfoldRepeatedBlocks_plain plain
  · exact overLines_inverse foldLines_proper (foldLines_folds.unfold BLOCK_MARKER_repeatsLines plain)

end

/-- Runs and blocks of a text without markers fold and unfold to the text, so a fold is refused only for its size. -/
theorem runs_and_blocks_lossless (text : JsString)
    (plain : ∀ line ∈ (splitText text).lines, RUN_MARKER line = none ∧ BLOCK_MARKER line = none) :
    expandRuns (collapseRuns text) = text ∧
    expandRuns (unfoldRepeatedBlocks (foldRepeatedBlocks (collapseRuns text))) = text ∧
    ∀ unicode : Unicode,
      compactLossless unicode text .text = (if smaller (collapseRuns text) text then collapseRuns text else text) ∧
      compactLossless unicode text .config =
        (if smaller (foldRepeatedBlocks (collapseRuns text)) text then foldRepeatedBlocks (collapseRuns text) else text) := by
  have runs := expandRuns_collapseRuns fun line inside => (plain line inside).1
  have blocks := unfoldRepeatedBlocks_foldRepeatedBlocks (collapseRuns_blocks fun line inside => (plain line inside).2)
  refine ⟨runs, by rw [blocks, runs], fun unicode => ?_⟩
  by_cases filled : text = []
  · subst filled
    exact ⟨rfl, rfl⟩
  · simp [compactLossless, keepIfLossless, filled, runs, blocks]

theorem runs_and_blocks_lossless_pair : expandRuns (collapseRuns (js "a\na\nb\n")) = js "a\na\nb\n" ∧
    expandRuns (unfoldRepeatedBlocks (foldRepeatedBlocks (collapseRuns (js "a\na\nb\n")))) = js "a\na\nb\n" ∧
    ∀ unicode : Unicode,
      compactLossless unicode (js "a\na\nb\n") .text = (if smaller (collapseRuns (js "a\na\nb\n")) (js "a\na\nb\n") then
        collapseRuns (js "a\na\nb\n") else js "a\na\nb\n") ∧
      compactLossless unicode (js "a\na\nb\n") .config = (if smaller (foldRepeatedBlocks (collapseRuns (js "a\na\nb\n")))
        (js "a\na\nb\n") then foldRepeatedBlocks (collapseRuns (js "a\na\nb\n")) else js "a\na\nb\n") :=
  runs_and_blocks_lossless (js "a\na\nb\n") (by decide +kernel)

end SpaceApp.Gateway.Compression
