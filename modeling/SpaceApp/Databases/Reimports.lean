import SpaceApp.Databases.RoundTrips

/-! Exactly which exports can be imported again.
-/

set_option autoImplicit false

namespace SpaceApp.Databases

open Foundation (doubled doubled_free doubled_count strip strip_subset strip_strip strip_eq_self strip_head strip_last
  count_strip splitOn_free splitOn_subset)

section

variable {engine : Engine} {table : Table}

theorem selects_iff : engine.selects table = true ↔ engine.NameReadable table.name := by
  have name : ReadsAs engine _ _ _ [] := readsAs_table table.schema table.name [] (by simp)
  have target := (readsAs_word "FROM".toList _ (by decide) (by decide)).append name
  have every := (readsAs_symbol '*' _ (by decide) (by decide) (by decide)).append ((readsAs_space _).append target)
  have statement := (readsAs_word "SELECT".toList _ (by decide) (by decide)).append every
  have whole := statement []
  have first : selectAll = "SELECT".toList ++ [' '] ++ (['*'] ++ ([' '] ++ ("FROM".toList ++ [' ']))) := by decide
  have empty : tokens engine [] = [] := by rw [tokens]
  simp only [List.append_assoc, List.append_nil, empty, true_and, and_true, List.cons_append,
    List.nil_append] at whole
  simp only [Engine.selects, decide_eq_true_eq, first, List.append_assoc, List.cons_append, List.nil_append]
  exact whole

theorem ended_nil (mark : Char) : ([] : Text).head? ≠ some mark := by simp

theorem readName_self {name : Text} : engine.readName name = some name ↔ engine.NameReadable name := by
  constructor
  · intro read
    simp only [Engine.readName] at read
    split at read
    · next found same =>
      rw [Option.some.injEq] at read
      rw [read] at same
      exact engine.nameBody_reads.back (ended_nil engine.nameMark) same
    · simp at read
  · intro readable
    have read := engine.nameBody_reads.forth (ended_nil engine.nameMark) readable
    simp only [Engine.readName, read]

/-! What an import that gives the rows back says about the cells. -/

theorem mem_of_mapM {α β : Type} {f : α → Option β} {elements : List α} {results : List β} {result : β}
    (mapped : elements.mapM f = some results) (member : result ∈ results) :
    ∃ element ∈ elements, f element = some result := by
  have pairs := mapM_some.mp mapped
  clear mapped
  induction pairs with
  | nil => simp at member
  | cons same _ ih =>
    rcases List.mem_cons.mp member with rfl | later
    · exact ⟨_, by simp, same⟩
    · obtain ⟨element, among, found⟩ := ih later
      exact ⟨element, by simp [among], found⟩

theorem readCell_uncut {text line cell : Text} (among : line ∈ engine.csv.lines text)
    (found : cell ∈ (line.splitOn ',').map engine.csv.readCell) :
    ',' ∉ cell ∧ ∀ symbol ∈ cell, engine.csv.isBreak symbol = false := by
  have lawful := csv_lawful engine
  obtain ⟨piece, inside, rfl⟩ := List.mem_map.mp found
  have narrows := lawful.cell_subset piece
  refine ⟨fun comma => splitOn_free ',' line piece inside (narrows ',' comma), fun symbol member => ?_⟩
  exact lawful.lines_free text line among symbol (splitOn_subset ',' line piece inside symbol (narrows symbol member))

theorem uncut_of_import {text : Text} (some_row : table.rows ≠ [])
    (imported : engine.importCsv table text = some (table.rows.map fun row => row.map some)) :
    Uncut engine table ∧ engine.readName table.name = some table.name := by
  have lawful := csv_lawful engine
  simp only [Engine.importCsv] at imported
  split at imported
  · next header first rest lines =>
    split at imported
    · next named_right =>
      split at imported
      · next named names =>
        have each_row : ∀ row ∈ table.rows, ∃ line ∈ engine.csv.lines text,
            insertRow table.columns named ((line.splitOn ',').map engine.csv.readCell) = some (row.map some) := by
          intro row member
          obtain ⟨line, among, inserted⟩ := mem_of_mapM imported (List.mem_map_of_mem member)
          exact ⟨line, by rw [lines]; exact List.mem_cons_of_mem _ among, inserted⟩
        refine ⟨⟨fun name member => ?_, fun row member value inside => ?_⟩, named_right⟩
        · obtain ⟨row, some_member⟩ := List.exists_mem_of_ne_nil _ some_row
          obtain ⟨line, _, inserted⟩ := each_row row some_member
          obtain ⟨cell, found, read⟩ := mem_of_mapM names ((insertRow_whole inserted).2.1 name member)
          have whole := readCell_uncut (show header ∈ engine.csv.lines text by rw [lines]; exact List.mem_cons_self) found
          have narrows := readName_subset read
          refine ⟨fun comma => ?_, fun symbol inside => ?_⟩
          · rcases narrows ',' comma with inner | wrong
            · exact whole.1 inner
            · exact absurd wrong (by decide)
          · rcases narrows symbol inside with inner | rfl
            · exact whole.2 symbol inner
            · exact lawful.quote_inside
        · obtain ⟨line, among, inserted⟩ := each_row row member
          exact readCell_uncut among ((insertRow_whole inserted).2.2 value inside)
      · simp at imported
    · simp at imported
  · simp only [Option.some.injEq, List.nil_eq, List.map_eq_nil_iff] at imported
    exact absurd imported some_row

theorem doubled_head (mark : Char) (text : Text) : (doubled mark text).head? = text.head? := by
  cases text with
  | nil => rfl
  | cons symbol text =>
    by_cases marked : symbol = mark
    · simp [doubled, marked]
    · simp [doubled, marked]

theorem doubled_last (mark : Char) (text : Text) : (doubled mark text).getLast? = text.getLast? := by
  induction text using List.reverseRecOn with
  | nil => rfl
  | append_singleton text symbol =>
    by_cases marked : symbol = mark
    · simp [doubled, marked]
    · simp [doubled, marked]

theorem strip_doubled {outer : Char → Bool} {value : Text} :
    strip outer (doubled '"' value) = value ↔ '"' ∉ value ∧ strip outer value = value := by
  constructor
  · intro same
    have stripped : strip outer value = value := by
      rw [← same]
      exact strip_strip _
    have counted : value.count '"' = 2 * value.count '"' := by
      rw [← doubled_count]
      cases inner : outer '"' with
      | false => rw [← count_strip inner (doubled '"' value), same]
      | true =>
        -- the text ends in no quote, so what is doubled inside it is not stripped
        have kept : strip outer (doubled '"' value) = doubled '"' value := by
          refine strip_eq_self (fun symbol first => ?_) (fun symbol last => ?_)
          · rw [doubled_head, ← stripped] at first
            exact strip_head symbol first
          · rw [doubled_last, ← stripped] at last
            exact strip_last symbol last
        rw [← kept, same]
    exact ⟨List.count_eq_zero.mp (by omega), stripped⟩
  · rintro ⟨free, stripped⟩
    rw [doubled_free free, stripped]

theorem headerBody_free {name : Text} (free : '"' ∉ name) : engine.csv.headerBody name = name := by
  cases engine
  · exact doubled_free free
  · exact doubled_free free
  · rfl

theorem headerName_free {name : Text} (free : '"' ∉ name) :
    engine.headerName name = some (strip engine.csv.strips name) := by
  rw [Engine.headerName, headerBody_free free]
  exact readName_plain engine fun inside => free (strip_subset inside)

theorem headerNames_free {columns : List Text} (free : ∀ name ∈ columns, '"' ∉ name) :
    columns.mapM engine.headerName = some (columns.map (strip engine.csv.strips)) := by
  refine mapM_some.mpr ?_
  rw [List.forall₂_map_right_iff, List.forall₂_same]
  exact fun name member => headerName_free (free name member)

theorem insertRow_full {columns named : List Text} (distinct : columns.Nodup)
    (covers : ∀ name ∈ columns, name ∈ named) (full : named.length = columns.length) : named.Perm columns := by
  have inside : columns.Subperm named := distinct.subperm covers
  exact (inside.perm_of_length_le (le_of_eq full)).symm

/-- The rows are given back exactly when the reader leaves every cell alone. -/
theorem import_rows (uncut : Uncut engine table) (some_row : table.rows ≠ [])
    (named_right : engine.readName table.name = some table.name) :
    engine.importCsv table (engine.exportText table) = some (table.rows.map fun row => row.map some) ↔
      (∀ name ∈ table.columns, '"' ∉ name ∧ strip engine.csv.strips name = name) ∧
        ∀ row ∈ table.rows, ∀ value ∈ row, '"' ∉ value ∧ strip engine.csv.strips value = value := by
  rw [import_uncut uncut some_row named_right]
  constructor
  · intro imported
    cases names : table.columns.mapM engine.headerName with
    | none => simp [names] at imported
    | some named =>
      simp only [names, mapM_some, List.forall₂_map_right_iff, List.forall₂_same] at imported
      obtain ⟨row, member⟩ := List.exists_mem_of_ne_nil _ some_row
      obtain ⟨fits, covers, _⟩ := insertRow_whole (imported row member)
      have length : named.length = table.columns.length := by
        rw [fits, List.length_map, table.full row member]
      have same := insertRow_full table.distinct covers length
      have free := headerNames_quotes names same
      rw [headerNames_free free, Option.some.injEq] at names
      have stripped : ∀ name ∈ table.columns, strip engine.csv.strips name = name := by
        intro name among
        have found : name ∈ table.columns.map (strip engine.csv.strips) := names ▸ covers name among
        obtain ⟨other, _, rfl⟩ := List.mem_map.mp found
        exact strip_strip other
      have all_named : named = table.columns := by
        rw [← names]
        exact (List.map_congr_left stripped).trans (List.map_id' _)
      refine ⟨fun name among => ⟨free name among, stripped name among⟩, fun other among => ?_⟩
      have inserted := imported other among
      rw [all_named, insertRow_columns table.distinct (by rw [List.length_map, table.full other among]),
        Option.some.injEq] at inserted
      have values := List.map_injective_iff.mpr (Option.some_injective _) inserted
      intro value inside
      refine strip_doubled.mp ?_
      have each := List.map_eq_map_iff.mp (values.trans (List.map_id' other).symm)
      exact each value inside
  · rintro ⟨columns, rows⟩
    have all_named : table.columns.map (strip engine.csv.strips) = table.columns :=
      (List.map_congr_left fun name member => (columns name member).2).trans (List.map_id' _)
    rw [headerNames_free fun name member => (columns name member).1, all_named]
    refine mapM_some.mpr ?_
    rw [List.forall₂_map_right_iff, List.forall₂_same]
    intro row member
    have values : row.map (fun value => strip engine.csv.strips (doubled '"' value)) = row :=
      (List.map_congr_left fun value inside => strip_doubled.mpr (rows row member value inside)).trans
        (List.map_id' _)
    rw [values, insertRow_columns table.distinct (table.full row member)]

theorem splitLines_keeps (line text : Text) {symbol : Char} (plain : isPythonBreak symbol = false)
    (member : symbol ∈ line ++ text) : ∃ found ∈ splitLines line text, symbol ∈ found := by
  induction line, text using splitLines.induct with
  | case1 => simp at member
  | case2 line filled =>
    rw [List.append_nil] at member
    exact ⟨line, by simp [splitLines, filled], member⟩
  | case3 line rest ih =>
    rw [splitLines]
    by_cases here : symbol ∈ line
    · exact ⟨line, by simp, here⟩
    · have later : symbol ∈ [] ++ rest := by
        simp only [List.mem_append, here, List.mem_cons, false_or] at member
        rcases member with rfl | rfl | later
        · exact absurd plain (by decide)
        · exact absurd plain (by decide)
        · simpa using later
      obtain ⟨found, among, inside⟩ := ih later
      exact ⟨found, List.mem_cons_of_mem _ among, inside⟩
  | case4 line next rest unpaired breaks ih =>
    rw [splitLines, if_pos breaks]
    · by_cases here : symbol ∈ line
      · exact ⟨line, by simp, here⟩
      · have later : symbol ∈ [] ++ rest := by
          simp only [List.mem_append, here, List.mem_cons, false_or] at member
          rcases member with rfl | later
          · rw [plain] at breaks
            exact absurd breaks (by decide)
          · simpa using later
        obtain ⟨found, among, inside⟩ := ih later
        exact ⟨found, List.mem_cons_of_mem _ among, inside⟩
    · exact unpaired
  | case5 line next rest unpaired stays ih =>
    rw [splitLines, if_neg stays]
    · exact ih (by simpa using member)
    · exact unpaired

/-- A line boundary inside a text that ends in a quote leaves two lines with quotes. -/
theorem splitLines_breaks (line text : Text) (begun : '"' ∈ line) (last : text.getLast? = some '"')
    (broken : ∃ symbol ∈ text, isPythonBreak symbol = true) :
    ∃ first rest, splitLines line text = first :: rest ∧ '"' ∈ first ∧ ∃ found ∈ rest, '"' ∈ found := by
  have behind : ∀ rest : Text, ∀ symbol, isPythonBreak symbol = true → (symbol :: rest).getLast? = some '"' →
      rest.getLast? = some '"' := by
    intro rest symbol breaks last
    cases rest with
    | nil =>
      simp only [List.getLast?_singleton, Option.some.injEq] at last
      rw [last] at breaks
      exact absurd breaks (by decide)
    | cons next rest => simpa using last
  induction line, text using splitLines.induct with
  | case1 => simp at last
  | case2 => simp at last
  | case3 line rest =>
    have quoted := behind rest '\n' (by decide) (behind _ '\r' (by decide) last)
    exact ⟨line, _, rfl, begun, splitLines_keeps [] rest (by decide) (List.mem_of_getLast? quoted)⟩
  | case4 line next rest unpaired breaks =>
    rw [splitLines, if_pos breaks]
    · exact ⟨line, _, rfl, begun, splitLines_keeps [] rest (by decide)
        (List.mem_of_getLast? (behind rest next breaks last))⟩
    · exact unpaired
  | case5 line next rest unpaired stays ih =>
    obtain ⟨symbol, member, breaks⟩ := broken
    have later : symbol ∈ rest := by
      rcases List.mem_cons.mp member with rfl | later
      · exact absurd breaks stays
      · exact later
    have quoted : rest.getLast? = some '"' := by
      cases rest with
      | nil => simp at later
      | cons other rest => simpa using last
    rw [splitLines, if_neg stays]
    · exact ih (by simp [begun]) quoted ⟨symbol, later, breaks⟩
    · exact unpaired

theorem commaLine_keeps {symbol : Char} {cell : Text} {cells : List Text} (among : cell ∈ cells)
    (inside : symbol ∈ cell) : symbol ∈ commaLine cells := by
  induction cells with
  | nil => simp at among
  | cons first cells ih =>
    cases cells with
    | nil => simpa [commaLine, List.mem_singleton.mp among] using inside
    | cons next cells =>
      have split : commaLine (first :: next :: cells) = first ++ ',' :: commaLine (next :: cells) := by
        simp [commaLine]
      rw [split, List.mem_append, List.mem_cons]
      rcases List.mem_cons.mp among with rfl | later
      · exact .inl inside
      · exact .inr (.inr (ih later))

/-- A text of two lines or more is never imported as no row. -/
theorem import_lines {text header first : Text} {rest : List Text}
    (lines : engine.csv.lines text = header :: first :: rest) : engine.importCsv table text ≠ some [] := by
  intro imported
  simp only [Engine.importCsv, lines] at imported
  split at imported
  · split at imported
    · have pairs := mapM_some.mp imported
      cases pairs
    · simp at imported
  · simp at imported

/-- A header that the worker writes alone is imported as no row, unless one of its names holds a
line boundary. -/
theorem import_header (none_there : table.rows = []) :
    Engine.sqlite.importCsv table (Engine.sqlite.exportText table) = some [] ↔
      ∀ name ∈ table.columns, ∀ symbol ∈ name, isPythonBreak symbol = false := by
  have text : Engine.sqlite.exportText table = headerLine .worker table.columns := by
    simp [Engine.exportText, none_there, lineText, Engine.csv]
  have bodies : headerLine .worker table.columns = commaLine (table.columns.map quotedCell) := rfl
  constructor
  · intro imported name member symbol inside
    by_contra breaks
    have apart : symbol ≠ '"' := by
      rintro rfl
      exact breaks (by decide)
    have held : symbol ∈ headerLine .worker table.columns := by
      rw [bodies]
      exact commaLine_keeps (List.mem_map_of_mem member) (by simp [quotedCell, inside])
    obtain ⟨column, columns, named⟩ := List.exists_cons_of_ne_nil table.some_column
    have head : (headerLine .worker table.columns).head? = some '"' := by
      rw [bodies, named]
      exact commaLine_head column columns
    have last : (headerLine .worker table.columns).getLast? = some '"' := by
      rw [bodies, named]
      exact commaLine_last column columns
    obtain ⟨rest, begins⟩ := List.head?_eq_some_iff.mp head
    rw [begins] at held last
    have later : symbol ∈ rest := (List.mem_cons.mp held).resolve_left apart
    have quoted : rest.getLast? = some '"' := by
      cases rest with
      | nil => simp at later
      | cons next rest => simpa using last
    obtain ⟨first, others, split, first_quote, found, among, found_quote⟩ :=
      splitLines_breaks ['"'] rest (by simp) quoted ⟨symbol, later, by simpa using breaks⟩
    have lines : Engine.sqlite.csv.lines (headerLine .worker table.columns) =
        first :: others.filter fun line => strip isPythonSpace line ≠ [] := by
      have whole : splitLines [] (headerLine .worker table.columns) = first :: others := by
        rw [begins, splitLines_cons _ _ (by decide), if_neg (by decide), List.nil_append, split]
      change (splitLines [] (headerLine .worker table.columns)).filter (fun line => strip isPythonSpace line ≠ []) = _
      rw [whole, List.filter_cons_of_pos]
      simpa using strip_filled first_quote (by decide)
    have second : found ∈ others.filter fun line => strip isPythonSpace line ≠ [] := by
      rw [List.mem_filter]
      exact ⟨among, by simpa using strip_filled found_quote (by decide)⟩
    obtain ⟨next, more, filled⟩ := List.exists_cons_of_ne_nil (List.ne_nil_of_mem second)
    rw [filled] at lines
    rw [text] at imported
    exact import_lines lines imported
  · intro clean
    have framed : Framed .worker (headerLine .worker table.columns) :=
      commaLine_framed worker_lawful table.columns table.some_column clean
    have lines : Csv.worker.lines (lineText [headerLine .worker table.columns]) = [headerLine .worker table.columns] :=
      worker_lawful.lines_join _ (by simpa using framed)
    have single : lineText [headerLine .worker table.columns] = headerLine .worker table.columns := by
      simp [lineText]
    rw [single] at lines
    simp only [Engine.importCsv, Engine.csv, text, lines]

end

/-- What an export promises: its CSV is imported as the same rows in the same order, and each INSERT
of its SQL is the one statement that inserts its row. -/
structure Reimports (engine : Engine) (table : Table) : Prop where
  rows : (engine.exportCsv table).bind (engine.importCsv table) = some (table.rows.map fun row => row.map some)
  inserts : ∀ row ∈ table.rows, tokens engine (insertText engine table.schema table.name table.columns row) =
    insertTokens engine table.schema table.name table.columns row

/-- The tables that keep this promise. -/
structure Portable (engine : Engine) (table : Table) : Prop where
  name : engine.NameReadable table.name
  header : engine = .sqlite → ∀ name ∈ table.columns, ∀ symbol ∈ name, isPythonBreak symbol = false
  columns : table.rows ≠ [] → ∀ name ∈ table.columns, engine.CellReadable name
  values : ∀ row ∈ table.rows, ∀ value ∈ row, engine.CellReadable value ∧ engine.LiteralReadable value

section

variable {engine : Engine} {table : Table}

theorem exportCsv_selected (selected : engine.selects table = true) (written : engine = .sqlite ∨ table.rows ≠ []) :
    engine.exportCsv table = some (engine.exportText table) := by
  have header : ¬(engine ≠ .sqlite ∧ table.rows = []) := by
    rintro ⟨script, none_there⟩
    rcases written with worker | some_row
    · exact script worker
    · exact some_row none_there
  rw [Engine.exportCsv, if_pos selected, if_neg header]
  rfl

theorem reimports_name (reimports : Reimports engine table) : engine.NameReadable table.name := by
  refine selects_iff.mp ?_
  by_contra lost
  have rows := reimports.rows
  rw [Engine.exportCsv, if_neg lost] at rows
  simp at rows

theorem row_filled {row : List Text} (member : row ∈ table.rows) : row ≠ [] := by
  rintro rfl
  have length := table.full [] member
  exact table.some_column (List.length_eq_zero_iff.mp length.symm)

theorem portable_of_reimports (reimports : Reimports engine table) : Portable engine table := by
  have named := reimports_name reimports
  have selected := selects_iff.mpr named
  have cells : table.rows ≠ [] → (∀ name ∈ table.columns, engine.CellReadable name) ∧
      ∀ row ∈ table.rows, ∀ value ∈ row, engine.CellReadable value := by
    intro some_row
    have imported := reimports.rows
    rw [exportCsv_selected selected (.inr some_row), Option.bind_some] at imported
    obtain ⟨uncut, named_right⟩ := uncut_of_import some_row imported
    obtain ⟨columns, rows⟩ := (import_rows uncut some_row named_right).mp imported
    refine ⟨fun name member => ?_, fun row member value inside => ?_⟩
    · obtain ⟨no_comma, no_break⟩ := uncut.columns name member
      exact ⟨no_comma, no_break, (columns name member).1, (columns name member).2⟩
    · obtain ⟨no_comma, no_break⟩ := uncut.rows row member value inside
      exact ⟨no_comma, no_break, (rows row member value inside).1, (rows row member value inside).2⟩
  refine ⟨named, fun worker => ?_, fun some_row => (cells some_row).1, fun row member value inside => ?_⟩
  · subst worker
    by_cases none_there : table.rows = []
    · have imported := reimports.rows
      rw [exportCsv_selected selected (.inl rfl), Option.bind_some, none_there] at imported
      exact (import_header none_there).mp imported
    · exact fun name member => ((cells none_there).1 name member).no_break
  · have literals := (tokens_insert engine table.schema table.name table.columns row table.some_column
      (row_filled member)).mp (reimports.inserts row member)
    exact ⟨(cells (List.ne_nil_of_mem member)).2 row member value inside, literals.2.2 value inside⟩

theorem reimports_of_portable (portable : Portable engine table) : Reimports engine table := by
  have selected := selects_iff.mpr portable.name
  constructor
  · by_cases none_there : table.rows = []
    · by_cases worker : engine = .sqlite
      · subst worker
        rw [exportCsv_selected selected (.inl rfl), Option.bind_some, none_there]
        exact (import_header none_there).mpr (portable.header rfl)
      · have empty : engine.importCsv table [] = some [] := by
          cases engine with
          | postgres => rfl
          | mysql => rfl
          | sqlite => exact absurd rfl worker
        rw [Engine.exportCsv, if_pos selected, if_pos ⟨worker, none_there⟩, Option.bind_some, empty, none_there]
        rfl
    · have columns := portable.columns none_there
      have uncut : Uncut engine table :=
        ⟨fun name member => ⟨(columns name member).no_comma, (columns name member).no_break⟩,
          fun row member value inside => ⟨(portable.values row member value inside).1.no_comma,
            (portable.values row member value inside).1.no_break⟩⟩
      rw [exportCsv_selected selected (.inr none_there), Option.bind_some]
      refine (import_rows uncut none_there (readName_self.mpr portable.name)).mpr
        ⟨fun name member => ⟨(columns name member).no_quote, (columns name member).no_margin⟩,
          fun row member value inside => ?_⟩
      have readable := (portable.values row member value inside).1
      exact ⟨readable.no_quote, readable.no_margin⟩
  · intro row member
    refine (tokens_insert engine table.schema table.name table.columns row table.some_column
      (row_filled member)).mpr ⟨portable.name, fun name among worker => ?_, fun value inside => ?_⟩
    · exact (portable.columns (List.ne_nil_of_mem member) name among).no_quote
    · exact (portable.values row member value inside).2

end

/-- An export can be imported again, and its INSERTs insert what was exported, exactly for the
portable tables. -/
theorem export_comes_back_iff (engine : Engine) (table : Table) : Reimports engine table ↔ Portable engine table :=
  ⟨portable_of_reimports, reimports_of_portable⟩

/-- A table with one value that no export brings back: a comma cuts it, and a backslash before its
end keeps the literal of MySQL open. -/
def backslashTable : Table where
  schema := "public".toList
  name := "notes".toList
  columns := ["text".toList]
  rows := [["a,b\\".toList]]
  some_column := by decide
  distinct := by decide
  full := by decide

/-- An export of a value with a comma and a backslash comes back from no engine as it was, and its
INSERT for MySQL does not even end where it should. -/
theorem backslash_table_lost : (∀ engine, ¬Reimports engine backslashTable) ∧
    tokens .mysql (insertText .mysql backslashTable.schema backslashTable.name backslashTable.columns
      ["a,b\\".toList]) ≠ insertTokens .mysql backslashTable.schema backslashTable.name backslashTable.columns
      ["a,b\\".toList] := by
  constructor
  · intro engine reimports
    have readable := ((portable_of_reimports reimports).values ["a,b\\".toList] (by decide) "a,b\\".toList
      (by decide)).1
    exact readable.no_comma (by decide)
  · intro same
    have literals := ((tokens_insert .mysql _ _ _ _ (by decide) (by decide)).mp same).2.2 "a,b\\".toList (by decide)
    exact absurd (literals rfl) (by decide)

end SpaceApp.Databases
