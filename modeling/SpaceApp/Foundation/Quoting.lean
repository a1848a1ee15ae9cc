import Mathlib.Data.List.Basic
import Mathlib.Data.List.Infix

/-! Quoted text: the writers that double a mark or escape it, the reader of the text between two
marks, and which texts come back through them.
-/

set_option autoImplicit false

namespace SpaceApp.Foundation

section

variable {α : Type} [DecidableEq α]

def doubled (mark : α) (text : List α) : List α :=
  text.flatMap fun symbol => if symbol = mark then [mark, mark] else [symbol]

/-- The text with an escape before each mark, and nothing done about the escapes in it. -/
def markEscaped (mark escape : α) (text : List α) : List α :=
  text.flatMap fun symbol => if symbol = mark then [escape, mark] else [symbol]

/-- Reads to the closing mark: a doubled mark stands for one, and an escape gives the next symbol
its meaning. The rest behind the mark is returned. -/
@[grind] def readQuoted (mark : α) (escape : Option α) (meaning : α → List α) : List α → Option (List α × List α)
  | [] => none
  | [symbol] => if escape = some symbol then none else if symbol = mark then some ([], []) else none
  | symbol :: next :: rest =>
      if escape = some symbol then
        (readQuoted mark escape meaning rest).map fun (text, more) => (meaning next ++ text, more)
      else if symbol = mark then
        if next = mark then
          (readQuoted mark escape meaning rest).map fun (text, more) => (mark :: text, more)
        else some ([], next :: rest)
      else (readQuoted mark escape meaning (next :: rest)).map fun (text, more) => (symbol :: text, more)

variable {mark : α} {escape : Option α} {meaning : α → List α}

/-- How a text is read to its closing mark, symbol for symbol. -/
inductive Reading (mark : α) (escape : Option α) (meaning : α → List α) : List α → List α → List α → Prop
  | closed {rest : List α} (plain : escape ≠ some mark) (ended : rest.head? ≠ some mark) :
      Reading mark escape meaning (mark :: rest) [] rest
  | doubled {text found rest : List α} (plain : escape ≠ some mark) (behind : Reading mark escape meaning text found rest) :
      Reading mark escape meaning (mark :: mark :: text) (mark :: found) rest
  | escaped {symbol next : α} {text found rest : List α} (escapes : escape = some symbol)
      (behind : Reading mark escape meaning text found rest) :
      Reading mark escape meaning (symbol :: next :: text) (meaning next ++ found) rest
  | plain {symbol : α} {text found rest : List α} (unescaped : escape ≠ some symbol) (apart : symbol ≠ mark)
      (behind : Reading mark escape meaning text found rest) :
      Reading mark escape meaning (symbol :: text) (symbol :: found) rest

theorem Reading.of_read {text found rest : List α} (read : readQuoted mark escape meaning text = some (found, rest)) :
    Reading mark escape meaning text found rest := by
  induction text using readQuoted.induct mark escape generalizing found rest with
  | case1 => simp [readQuoted] at read
  | case2 symbol escapes => simp [readQuoted, escapes] at read
  | case3 plain =>
    simp only [readQuoted, if_neg plain, if_true, Option.some.injEq, Prod.mk.injEq] at read
    rw [← read.1, ← read.2]
    exact .closed plain (by simp)
  | case4 symbol escapes closes => simp [readQuoted, escapes, closes] at read
  | case5 symbol next rest' escapes ih =>
    simp only [readQuoted, if_pos escapes, Option.map_eq_some_iff, Prod.mk.injEq] at read
    obtain ⟨⟨text, more⟩, inner, rfl, rfl⟩ := read
    exact .escaped escapes (ih inner)
  | case6 rest' plain ih =>
    simp only [readQuoted, if_neg plain, if_true, Option.map_eq_some_iff, Prod.mk.injEq] at read
    obtain ⟨⟨text, more⟩, inner, rfl, rfl⟩ := read
    exact .doubled plain (ih inner)
  | case7 next rest' apart plain =>
    simp only [readQuoted, if_neg plain, if_true, if_neg apart, Option.some.injEq, Prod.mk.injEq] at read
    rw [← read.1, ← read.2]
    exact .closed plain (by simpa using apart)
  | case8 symbol next rest' escapes closes ih =>
    simp only [readQuoted, if_neg escapes, if_neg closes, Option.map_eq_some_iff, Prod.mk.injEq] at read
    obtain ⟨⟨text, more⟩, inner, rfl, rfl⟩ := read
    exact .plain escapes closes (ih inner)

theorem Reading.read {text found rest : List α} (reading : Reading mark escape meaning text found rest) :
    readQuoted mark escape meaning text = some (found, rest) := by
  induction reading with
  | @closed rest plain ended =>
    cases rest with
    | nil => simp [readQuoted, plain]
    | cons next rest =>
      have apart : next ≠ mark := fun same => ended (by simp [same])
      simp [readQuoted, plain, apart]
  | doubled plain _ ih => simp [readQuoted, plain, ih]
  | escaped escapes _ ih => simp only [readQuoted, if_pos escapes, ih, Option.map_some]
  | @plain symbol text found rest unescaped apart _ ih =>
    cases text with
    | nil => simp [readQuoted] at ih
    | cons next text => simp [readQuoted, unescaped, apart, ih]

omit [DecidableEq α] in
theorem Reading.suffix {text found rest : List α} (reading : Reading mark escape meaning text found rest) :
    ∃ symbol before, text = symbol :: before ++ rest := by
  induction reading with
  | @closed rest => exact ⟨mark, [], rfl⟩
  | doubled _ _ ih =>
    obtain ⟨symbol, before, rfl⟩ := ih
    exact ⟨mark, mark :: symbol :: before, rfl⟩
  | @escaped first next _ _ _ _ _ ih =>
    obtain ⟨symbol, before, rfl⟩ := ih
    exact ⟨first, next :: symbol :: before, rfl⟩
  | @plain first _ _ _ _ _ _ ih =>
    obtain ⟨symbol, before, rfl⟩ := ih
    exact ⟨first, symbol :: before, rfl⟩

theorem readQuoted_length {text found rest : List α}
    (read : readQuoted mark escape meaning text = some (found, rest)) : rest.length < text.length := by
  obtain ⟨symbol, before, rfl⟩ := (Reading.of_read read).suffix
  simp only [List.length_append, List.length_cons]
  omega

section

variable {text found rest : List α} (read : readQuoted mark none meaning text = some (found, rest))

include read

/-- Without escapes, every mark of the text is half of a pair, closes it, or stands behind. -/
theorem readQuoted_count : text.count mark = 2 * found.count mark + 1 + rest.count mark := by
  induction Reading.of_read read with
  | closed => simp [Nat.add_comm]
  | doubled _ behind ih =>
    have counted := ih behind.read
    simp only [List.count_cons_self]
    omega
  | escaped escapes => cases escapes
  | plain _ apart behind ih => simp [apart, ih behind.read]

/-- Without escapes, a symbol of the text is a mark that was read, the closing one, or stands on. -/
theorem readQuoted_spent : text.length = found.length + found.count mark + 1 + rest.length := by
  induction Reading.of_read read with
  | closed => simp [Nat.add_comm]
  | doubled _ behind ih =>
    have spent := ih behind.read
    simp only [List.length_cons, List.count_cons_self]
    omega
  | escaped escapes => cases escapes
  | plain _ apart behind ih =>
    have spent := ih behind.read
    simp only [List.length_cons, List.count_cons_of_ne apart]
    omega

/-- Without escapes, what is read holds no symbol the text does not hold. -/
theorem readQuoted_subset : ∀ symbol ∈ found, symbol ∈ text := by
  induction Reading.of_read read with
  | closed => exact List.forall_mem_nil _
  | doubled _ behind ih =>
    intro symbol member
    rcases List.mem_cons.mp member with rfl | later
    · simp
    · simp [ih behind.read symbol later]
  | escaped escapes => cases escapes
  | plain _ _ behind ih =>
    intro symbol member
    rcases List.mem_cons.mp member with rfl | later
    · simp
    · exact List.mem_cons_of_mem _ (ih behind.read symbol later)

end

theorem doubled_count (mark : α) (text : List α) : (doubled mark text).count mark = 2 * text.count mark := by
  induction text with
  | nil => rfl
  | cons symbol text ih =>
    simp only [doubled, List.flatMap_cons, List.count_append] at ih ⊢
    rw [ih]
    by_cases same : symbol = mark
    · simp only [same, if_true, List.count_cons_self, List.count_nil]
      omega
    · simp [same]

/-- What is read without escapes is the doubled text before the closing mark. -/
theorem readQuoted_doubled (text : List α) {rest : List α} (ended : rest.head? ≠ some mark) :
    readQuoted mark none meaning (doubled mark text ++ mark :: rest) = some (text, rest) := by
  apply Reading.read
  induction text with
  | nil => exact .closed (by simp) ended
  | cons symbol text ih =>
    by_cases closes : symbol = mark
    · subst closes
      have pair : doubled symbol (symbol :: text) = symbol :: symbol :: doubled symbol text := by simp [doubled]
      rw [pair]
      exact .doubled (by simp) ih
    · have single : doubled mark (symbol :: text) = symbol :: doubled mark text := by simp [doubled, closes]
      rw [single]
      exact .plain (by simp) closes ih

/-- A text set between marks as it is, and read as itself, holds no mark: every mark of it would have
cost one of the symbols behind the closing mark, and they begin with none. -/
theorem unmarked_of_read {text rest more : List α} (ended : rest.head? ≠ some mark)
    (read : readQuoted mark none meaning (text ++ mark :: rest) = some (text, more)) : mark ∉ text := by
  have counted := readQuoted_count read
  have spent := readQuoted_spent read
  simp only [List.count_append, List.count_cons_self, List.length_append, List.length_cons] at counted spent
  obtain ⟨symbol, before, same⟩ := (Reading.of_read read).suffix
  have behind : more <:+ rest := by
    apply List.suffix_of_suffix_length_le ⟨symbol :: before, same.symm⟩
    · exact ⟨text ++ [mark], by simp⟩
    · omega
  obtain ⟨dropped, rfl⟩ := behind
  simp only [List.count_append, List.length_append] at counted spent
  have marks : dropped.count mark = dropped.length := by omega
  cases dropped with
  | nil =>
    rw [← List.count_eq_zero]
    simp only [List.length_nil] at spent
    omega
  | cons first dropped =>
    have first_mark := List.count_eq_length.mp marks first (by simp)
    exact absurd (by simp [first_mark]) ended

end

section

variable {α : Type} [DecidableEq α]

/-- Every escape in the text stands before a symbol that keeps it. -/
@[grind] def escapesKept (escape : α) (keeps : α → Bool) : List α → Bool
  | [] => true
  | [symbol] => symbol ≠ escape
  | symbol :: next :: rest =>
      if symbol = escape then keeps next && escapesKept escape keeps rest
      else escapesKept escape keeps (next :: rest)

/-- The meanings of escaped symbols: some keep the escape, the others stand for one symbol. -/
structure Meanings (mark escape : α) (keeps : α → Bool) (meaning : α → List α) : Prop where
  apart : mark ≠ escape
  kept : ∀ symbol, keeps symbol = true → meaning symbol = [escape, symbol]
  other : ∀ symbol, keeps symbol = false → symbol ≠ escape → ∃ found, found ≠ escape ∧ meaning symbol = [found]
  of_escape : meaning escape = [escape]
  of_mark : meaning mark = [mark]

variable {mark escape : α} {keeps : α → Bool} {meaning : α → List α}

theorem markEscaped_cons (symbol : α) (text : List α) : markEscaped mark escape (symbol :: text) =
      (if symbol = mark then [escape, mark] else [symbol]) ++ markEscaped mark escape text := rfl

omit [DecidableEq α] in
theorem Meanings.not_keeps_mark (meanings : Meanings mark escape keeps meaning) : keeps mark = false := by
  cases keeping : keeps mark with
  | false => rfl
  | true =>
    have same := (meanings.kept mark keeping).symm.trans meanings.of_mark
    simp at same

omit [DecidableEq α] in
theorem Reading.of_escape {next : α} {text found rest : List α}
    (reading : Reading mark (some escape) meaning (escape :: next :: text) found rest) :
    ∃ inner, found = meaning next ++ inner ∧ Reading mark (some escape) meaning text inner rest := by
  cases reading with
  | closed plain => exact absurd rfl plain
  | doubled plain => exact absurd rfl plain
  | escaped _ behind => exact ⟨_, rfl, behind⟩
  | plain unescaped => exact absurd rfl unescaped

omit [DecidableEq α] in
theorem Reading.of_plain {symbol : α} {text found rest : List α} (unescaped : symbol ≠ escape) (apart : symbol ≠ mark)
    (reading : Reading mark (some escape) meaning (symbol :: text) found rest) :
    ∃ inner, found = symbol :: inner ∧ Reading mark (some escape) meaning text inner rest := by
  cases reading with
  | closed => exact absurd rfl apart
  | doubled => exact absurd rfl apart
  | escaped escapes => exact absurd (Option.some.inj escapes).symm unescaped
  | plain _ _ behind => exact ⟨_, rfl, behind⟩

/-- A symbol that is no escape is read as itself. -/
theorem Meanings.reading_cons (meanings : Meanings mark escape keeps meaning) {symbol : α} (apart : symbol ≠ escape)
    {text behind found rest : List α} :
    Reading mark (some escape) meaning (markEscaped mark escape (symbol :: text) ++ behind) found rest ↔
      ∃ inner, found = symbol :: inner ∧
        Reading mark (some escape) meaning (markEscaped mark escape text ++ behind) inner rest := by
  rw [markEscaped_cons]
  by_cases closes : symbol = mark
  · subst closes
    rw [if_pos rfl]
    constructor
    · intro reading
      have read := reading.of_escape
      rwa [meanings.of_mark] at read
    · rintro ⟨inner, rfl, reading⟩
      have escaped : Reading symbol (some escape) meaning (escape :: symbol :: _) (meaning symbol ++ inner) rest :=
        .escaped rfl reading
      rwa [meanings.of_mark] at escaped
  · rw [if_neg closes]
    constructor
    · exact Reading.of_plain apart closes
    · rintro ⟨inner, rfl, reading⟩
      exact .plain (fun same => apart (Option.some.inj same).symm) closes reading

theorem readQuoted_escaped (meanings : Meanings mark escape keeps meaning) {rest : List α}
    (ended : rest.head? ≠ some mark) (text : List α) (kept : escapesKept escape keeps text = true) :
    readQuoted mark (some escape) meaning (markEscaped mark escape text ++ mark :: rest) = some (text, rest) := by
  have plain : some escape ≠ some mark := fun same => meanings.apart (Option.some.inj same).symm
  apply Reading.read
  induction text using List.twoStepInduction with
  | nil => exact .closed plain ended
  | singleton symbol =>
    simp only [escapesKept, ne_eq, decide_not, Bool.not_eq_true', decide_eq_false_iff_not] at kept
    exact (meanings.reading_cons kept).mpr ⟨[], rfl, .closed plain ended⟩
  | cons_cons symbol next text short long =>
    by_cases escapes : symbol = escape
    · subst escapes
      simp only [escapesKept, if_true, Bool.and_eq_true] at kept
      have no_mark : next ≠ mark := by
        rintro rfl
        simp [meanings.not_keeps_mark] at kept
      have escaped : Reading mark (some symbol) meaning (symbol :: next :: _) (meaning next ++ text) rest :=
        .escaped rfl (short kept.2)
      rw [meanings.kept next kept.1] at escaped
      rwa [markEscaped_cons, markEscaped_cons, if_neg (Ne.symm meanings.apart), if_neg no_mark]
    · simp only [escapesKept, if_neg escapes] at kept
      exact (meanings.reading_cons escapes).mpr ⟨next :: text, rfl, long next kept⟩

omit [DecidableEq α] in
theorem Meanings.filled (meanings : Meanings mark escape keeps meaning) (symbol : α) : meaning symbol ≠ [] := by
  cases keeping : keeps symbol with
  | true => simp [meanings.kept symbol keeping]
  | false =>
    by_cases escapes : symbol = escape
    · simp [escapes, meanings.of_escape]
    · obtain ⟨found, _, same⟩ := meanings.other symbol keeping escapes
      simp [same]

omit [DecidableEq α] in
/-- Nothing is read only where the mark stands at once. -/
theorem Meanings.reads_nothing (meanings : Meanings mark escape keeps meaning) {text found rest : List α}
    (reading : Reading mark (some escape) meaning text found rest) (none_ : found = []) : text.head? = some mark := by
  cases reading with
  | closed => rfl
  | escaped => exact absurd (List.append_eq_nil_iff.mp none_).1 (meanings.filled _)
  | doubled => cases none_
  | plain => cases none_

theorem markEscaped_head (apart : mark ≠ escape) {text rest behind : List α}
    (begins : markEscaped mark escape text ++ mark :: rest = mark :: behind) : text = [] ∧ behind = rest := by
  cases text with
  | nil => exact ⟨rfl, (List.cons.inj begins).2.symm⟩
  | cons symbol text =>
    rw [markEscaped_cons] at begins
    split at begins
    · exact absurd (List.cons.inj begins).1.symm apart
    · next plain => exact absurd (List.cons.inj begins).1 plain

omit [DecidableEq α] in
/-- No escape stands in front of what begins with another symbol. -/
theorem no_lag {lag : Nat} {first symbol : α} {inner text : List α} (apart : first ≠ escape)
    (same : List.replicate lag escape ++ symbol :: text = first :: inner) : lag = 0 ∧ symbol = first ∧ text = inner := by
  cases lag with
  | zero => exact ⟨rfl, List.cons.inj same⟩
  | succ lag =>
    exact absurd (List.cons.inj same).1.symm apart

/-- An escaped text that is read as itself keeps its escapes. The induction carries how many escapes
the doubled ones have cost so far. -/
theorem escapesKept_of_read (meanings : Meanings mark escape keeps meaning) {rest : List α}
    (ended : rest.head? ≠ some mark) (text : List α) {lag : Nat} {found more : List α}
    (same : List.replicate lag escape ++ text = found)
    (reading : Reading mark (some escape) meaning (markEscaped mark escape text ++ mark :: rest) found more) :
    lag = 0 ∧ escapesKept escape keeps text = true := by
  induction text using List.twoStepInduction generalizing lag found more with
  | nil =>
    cases reading with
    | closed => exact ⟨by simpa using same, rfl⟩
    | doubled => exact absurd rfl ended
    | escaped escapes => exact absurd (Option.some.inj escapes).symm meanings.apart
    | plain _ apart => exact absurd rfl apart
  | singleton symbol =>
    by_cases opens : symbol = escape
    · -- the closing mark is read as text
      subst opens
      rw [markEscaped_cons, if_neg (Ne.symm meanings.apart)] at reading
      obtain ⟨inner, rfl, -⟩ := Reading.of_escape reading
      rw [meanings.of_mark] at same
      exact absurd (no_lag meanings.apart same).2.1.symm meanings.apart
    · obtain ⟨inner, rfl, -⟩ := (meanings.reading_cons opens).mp reading
      exact ⟨(no_lag opens same).1, by simpa [escapesKept] using opens⟩
  | cons_cons symbol next text short long =>
    by_cases opens : symbol = escape
    case neg =>
      obtain ⟨inner, rfl, behind⟩ := (meanings.reading_cons opens).mp reading
      obtain ⟨none_lag, -, inside⟩ := no_lag opens same
      have kept := (@long next 0 _ _ inside behind).2
      exact ⟨none_lag, by simpa [escapesKept, opens] using kept⟩
    subst opens
    have shifted : List.replicate lag symbol ++ symbol :: next :: text =
        symbol :: (List.replicate lag symbol ++ next :: text) := by
      rw [← List.cons_append, ← List.replicate_succ, List.replicate_succ', List.append_assoc]
      rfl
    rw [shifted] at same
    rw [markEscaped_cons, if_neg (Ne.symm meanings.apart), markEscaped_cons] at reading
    by_cases closes : next = mark
    · subst closes
      rw [if_pos rfl] at reading
      simp only [List.cons_append, List.nil_append] at reading
      obtain ⟨inner, rfl, behind⟩ := Reading.of_escape reading
      rw [meanings.of_escape] at same
      have inside : List.replicate lag symbol ++ next :: text = inner := (List.cons.inj same).2
      -- the mark closes too early, or the text goes on too long
      generalize whole : markEscaped next symbol text ++ next :: rest = tail at behind
      cases behind with
      | closed => simp at inside
      | doubled _ after =>
        obtain ⟨rfl, rfl⟩ := markEscaped_head meanings.apart whole
        exact absurd (meanings.reads_nothing after (no_lag meanings.apart inside).2.2.symm) ended
      | escaped escapes => exact absurd (Option.some.inj escapes).symm meanings.apart
      | plain _ apart => exact absurd rfl apart
    · rw [if_neg closes] at reading
      obtain ⟨inner, rfl, behind⟩ := Reading.of_escape reading
      by_cases doubles : next = symbol
      · subst doubles
        rw [meanings.of_escape] at same
        have inside : List.replicate (lag + 1) next ++ text = inner := by
          rw [List.replicate_succ', List.append_assoc]
          exact (List.cons.inj same).2
        exact absurd (short inside behind).1 (Nat.succ_ne_zero lag)
      · cases keeping : keeps next with
        | true =>
          rw [meanings.kept next keeping] at same
          obtain ⟨none_lag, -, inside⟩ := no_lag doubles (List.cons.inj same).2
          have kept := (@short 0 _ _ inside behind).2
          exact ⟨none_lag, by simp [escapesKept, keeping, kept]⟩
        | false =>
          obtain ⟨found, apart, means⟩ := meanings.other next keeping doubles
          rw [means] at same
          exact absurd (List.cons.inj same).1.symm apart

end

/-! A writer and the texts that come back from between the marks. -/

section

variable {α : Type} [DecidableEq α]

/-- Between two marks a written text is read as itself exactly when it is a good one. -/
structure Reads (mark : α) (escape : Option α) (meaning : α → List α) (written : List α → List α)
    (good : List α → Prop) : Prop where
  forth : ∀ {text rest : List α}, rest.head? ≠ some mark → good text →
    readQuoted mark escape meaning (written text ++ mark :: rest) = some (text, rest)
  back : ∀ {text rest more : List α}, rest.head? ≠ some mark →
    readQuoted mark escape meaning (written text ++ mark :: rest) = some (text, more) → good text

theorem reads_doubled (mark : α) (meaning : α → List α) : Reads mark none meaning (doubled mark) fun _ => True where
  forth := fun ended _ => readQuoted_doubled _ ended
  back := fun _ _ => trivial

theorem doubled_free {mark : α} {text : List α} (free : mark ∉ text) : doubled mark text = text := by
  induction text with
  | nil => rfl
  | cons symbol text ih =>
    rw [List.mem_cons, not_or] at free
    have same := ih free.2
    simp only [doubled, List.flatMap_cons, if_neg (Ne.symm free.1)] at same ⊢
    rw [same]
    rfl

theorem reads_raw (mark : α) (meaning : α → List α) : Reads mark none meaning id fun text => mark ∉ text where
  forth := by
    intro text rest ended free
    have read : readQuoted mark none meaning _ = _ := readQuoted_doubled text ended
    rwa [doubled_free free] at read
  back := fun ended read => unmarked_of_read ended read

theorem reads_markEscaped {mark escape : α} {keeps : α → Bool} {meaning : α → List α}
    (meanings : Meanings mark escape keeps meaning) :
    Reads mark (some escape) meaning (markEscaped mark escape) fun text => escapesKept escape keeps text = true where
  forth := fun ended kept => readQuoted_escaped meanings ended _ kept
  back := fun ended read => (@escapesKept_of_read α _ _ _ _ _ meanings _ ended _ 0 _ _ rfl (Reading.of_read read)).2

end

end SpaceApp.Foundation
