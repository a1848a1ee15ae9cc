import SpaceApp.Databases.Transfers

/-! What comes back of an exported table: exactly the tables whose cells the reader leaves alone.
-/

set_option autoImplicit false

namespace SpaceApp.Databases

open Foundation (doubled doubled_free doubled_count readQuoted readQuoted_count readQuoted_subset readQuoted_doubled
  strip strip_sublist strip_subset strip_strip strip_eq_self strip_head strip_last count_strip splitOn_free
  splitOn_subset)

theorem mem_commaLine {symbol : Char} {cells : List Text} (member : symbol ∈ commaLine cells) :
    symbol = ',' ∨ ∃ cell ∈ cells, symbol ∈ cell := by
  induction cells with
  | nil => simp [commaLine] at member
  | cons cell cells ih =>
    cases cells with
    | nil => exact .inr ⟨cell, by simp, by simpa [commaLine] using member⟩
    | cons next cells =>
      have split : commaLine (cell :: next :: cells) = cell ++ ',' :: commaLine (next :: cells) := by
        simp [commaLine]
      rw [split, List.mem_append, List.mem_cons] at member
      rcases member with here | rfl | later
      · exact .inr ⟨cell, by simp, here⟩
      · exact .inl rfl
      · rcases ih later with comma | ⟨other, among, inside⟩
        · exact .inl comma
        · exact .inr ⟨other, List.mem_cons_of_mem _ among, inside⟩

theorem commaLine_head (body : Text) (bodies : List Text) :
    (commaLine ((body :: bodies).map quotedCell)).head? = some '"' := by
  cases bodies <;> simp [commaLine, quotedCell]

theorem commaLine_last (body : Text) (bodies : List Text) :
    (commaLine ((body :: bodies).map quotedCell)).getLast? = some '"' := by
  induction bodies generalizing body with
  | nil =>
    have single : commaLine ([body].map quotedCell) = ('"' :: body) ++ ['"'] := by
      simp [commaLine, quotedCell]
    rw [single, List.getLast?_concat]
  | cons next bodies ih =>
    have split : commaLine ((body :: next :: bodies).map quotedCell) =
        (quotedCell body ++ [',']) ++ commaLine ((next :: bodies).map quotedCell) := by
      simp [commaLine]
    rw [split, List.getLast?_append, ih next, Option.some_or]

theorem commaLine_framed {csv : Csv} (lawful : csv.Lawful) (bodies : List Text) (filled : bodies ≠ [])
    (unbroken : ∀ body ∈ bodies, ∀ symbol ∈ body, csv.isBreak symbol = false) :
    Framed csv (commaLine (bodies.map quotedCell)) := by
  obtain ⟨body, bodies, rfl⟩ := List.exists_cons_of_ne_nil filled
  refine ⟨fun symbol member => ?_, commaLine_head body bodies, commaLine_last body bodies⟩
  rcases mem_commaLine member with rfl | ⟨cell, among, inside⟩
  · exact lawful.comma_inside
  · obtain ⟨text, given, rfl⟩ := List.mem_map.mp among
    simp only [quotedCell, List.cons_append, List.mem_cons, List.mem_append, List.not_mem_nil, or_false] at inside
    rcases inside with rfl | here | rfl
    · exact lawful.quote_inside
    · exact unbroken text given symbol here
    · exact lawful.quote_inside

theorem readCells {csv : Csv} (lawful : csv.Lawful) (bodies : List Text) (filled : bodies ≠ [])
    (no_comma : ∀ body ∈ bodies, ',' ∉ body) :
    ((commaLine (bodies.map quotedCell)).splitOn ',').map csv.readCell = bodies.map (strip csv.strips) := by
  have parts : (commaLine (bodies.map quotedCell)).splitOn ',' = bodies.map quotedCell := by
    refine List.splitOn_intercalate ',' (fun cell member comma => ?_) (by simpa using filled)
    obtain ⟨body, given, rfl⟩ := List.mem_map.mp member
    simp only [quotedCell, List.cons_append, List.mem_cons, List.mem_append, List.not_mem_nil, or_false] at comma
    rcases comma with wrong | here | wrong
    · exact absurd wrong (by decide)
    · exact no_comma body given here
    · exact absurd wrong (by decide)
  rw [parts, List.map_map]
  exact List.map_congr_left fun body _ => lawful.cell_quoted body

theorem lookup_zip_mem {names values : List Text} {name value : Text}
    (found : (names.zip values).lookup name = some value) : name ∈ names ∧ value ∈ values := by
  induction names generalizing values with
  | nil => simp at found
  | cons first names ih =>
    cases values with
    | nil => simp at found
    | cons held values =>
      rw [List.zip_cons_cons, List.lookup_cons] at found
      split at found
      · next same =>
        simp only [beq_iff_eq] at same
        simp only [Option.some.injEq] at found
        simp [same, found]
      · obtain ⟨named, valued⟩ := ih found
        simp [named, valued]

theorem map_lookup_zip {columns values : List Text} (distinct : columns.Nodup) (full : values.length = columns.length) :
    columns.map (fun name => (columns.zip values).lookup name) = values.map some := by
  induction columns generalizing values with
  | nil => simp_all
  | cons name columns ih =>
    obtain ⟨value, values, rfl⟩ := List.exists_cons_of_length_eq_add_one full
    obtain ⟨fresh, distinct⟩ := List.nodup_cons.mp distinct
    have rest := ih distinct (by simpa using full)
    have same : columns.map (fun other => ((name :: columns).zip (value :: values)).lookup other) =
        columns.map fun other => (columns.zip values).lookup other := by
      refine List.map_congr_left fun other member => ?_
      have apart : (other == name) = false := by
        simpa using fun same : other = name => fresh (same ▸ member)
      rw [List.zip_cons_cons, List.lookup_cons, apart]
    rw [List.map_cons, same, rest, List.map_cons]
    simp

theorem insertRow_whole {columns named values row : List Text}
    (inserted : insertRow columns named values = some (row.map some)) :
    named.length = values.length ∧ (∀ name ∈ columns, name ∈ named) ∧ ∀ value ∈ row, value ∈ values := by
  simp only [insertRow] at inserted
  split at inserted
  · next fits =>
    have same := Option.some.inj inserted
    refine ⟨fits.2.2, fun name member => ?_, fun value member => ?_⟩
    · have given : (named.zip values).lookup name ∈ row.map some := by
        rw [← same]
        exact List.mem_map_of_mem member
      obtain ⟨value, _, found⟩ := List.mem_map.mp given
      exact (lookup_zip_mem found.symm).1
    · have given : some value ∈ columns.map fun name => (named.zip values).lookup name := by
        rw [same]
        exact List.mem_map_of_mem member
      obtain ⟨name, _, found⟩ := List.mem_map.mp given
      exact (lookup_zip_mem found).2
  · simp at inserted

theorem insertRow_columns {columns values : List Text} (distinct : columns.Nodup)
    (full : values.length = columns.length) : insertRow columns columns values = some (values.map some) := by
  rw [insertRow, if_pos ⟨distinct, fun _ member => member, full.symm⟩, map_lookup_zip distinct full]

theorem mapM_some {α β : Type} {f : α → Option β} {elements : List α} {results : List β} :
    elements.mapM f = some results ↔ List.Forall₂ (fun element result => f element = some result) elements results := by
  induction elements generalizing results with
  | nil => simp [List.mapM_nil, eq_comm]
  | cons element elements ih =>
    rw [List.mapM_cons, List.forall₂_cons_left_iff]
    simp only [Option.bind_eq_bind, Option.bind_eq_some_iff, ih, Option.pure_def, Option.some.injEq]
    constructor
    · rintro ⟨result, first, rest, others, rfl⟩
      exact ⟨result, rest, first, others, rfl⟩
    · rintro ⟨result, rest, first, others, rfl⟩
      exact ⟨result, first, rest, others, rfl⟩

theorem mapM_congr {α β : Type} {f g : α → Option β} {elements : List α}
    (same : ∀ element ∈ elements, f element = g element) : elements.mapM f = elements.mapM g := by
  induction elements with
  | nil => rfl
  | cons element elements ih =>
    rw [List.mapM_cons, List.mapM_cons, same element (by simp), ih fun other member => same other (by simp [member])]

theorem readName_script {engine : Engine} (script : engine ≠ .sqlite) (name : Text) :
    engine.readName name = some name := by
  cases engine with
  | postgres =>
    have read : readQuoted '"' none Engine.meaning (doubled '"' name ++ '"' :: []) = some (name, []) :=
      readQuoted_doubled name (by simp)
    simp only [Engine.readName, Engine.nameMark, Engine.nameBody, read]
  | mysql =>
    have read : readQuoted '`' none Engine.meaning (doubled '`' name ++ '`' :: []) = some (name, []) :=
      readQuoted_doubled name (by simp)
    simp only [Engine.readName, Engine.nameMark, Engine.nameBody, read]
  | sqlite => exact absurd rfl script

theorem readName_worker {name found : Text} (read : Engine.sqlite.readName name = some found) :
    2 * found.count '"' = name.count '"' ∧ ∀ symbol ∈ found, symbol ∈ name ∨ symbol = '"' := by
  simp only [Engine.readName, Engine.nameMark, Engine.nameBody] at read
  split at read
  · next inner same =>
    rw [Option.some.injEq] at read
    subst read
    have counted := readQuoted_count same
    have inside := readQuoted_subset same
    simp only [List.count_append, List.count_cons_self, List.count_nil] at counted
    refine ⟨by omega, fun symbol member => ?_⟩
    simpa using inside symbol member
  · simp at read

theorem readName_plain (engine : Engine) {name : Text} (free : '"' ∉ name) : engine.readName name = some name := by
  by_cases script : engine = .sqlite
  · subst script
    have read : readQuoted '"' none Engine.meaning (doubled '"' name ++ '"' :: []) = some (name, []) :=
      readQuoted_doubled name (by simp)
    rw [doubled_free free] at read
    simp only [Engine.readName, Engine.nameMark, Engine.nameBody, read]
  · exact readName_script script name

theorem readName_subset {engine : Engine} {name found : Text} (read : engine.readName name = some found) :
    ∀ symbol ∈ found, symbol ∈ name ∨ symbol = '"' := by
  by_cases script : engine = .sqlite
  · subst script
    exact (readName_worker read).2
  · rw [readName_script script, Option.some.injEq] at read
    rw [read]
    exact fun symbol member => .inl member

def Engine.headerName (engine : Engine) (name : Text) : Option Text :=
  engine.readName (strip engine.csv.strips (engine.csv.headerBody name))

/-- Either every name comes back with its quotes doubled, or with at most half of them. -/
theorem headerName_count (engine : Engine) :
    (∀ name found, engine.headerName name = some found → found.count '"' = 2 * name.count '"') ∨
      ∀ name found, engine.headerName name = some found → 2 * found.count '"' ≤ name.count '"' := by
  have script : engine ≠ .sqlite → ∀ name found, engine.headerName name = some found →
      strip isTrimmed (doubled '"' name) = found := by
    intro script name found read
    rw [Engine.headerName, readName_script script, Option.some.injEq] at read
    cases engine with
    | sqlite => exact absurd rfl script
    | postgres => exact read
    | mysql => exact read
  by_cases which : engine = .sqlite
  · refine .inr fun name found read => ?_
    subst which
    have counted := (readName_worker read).1
    have fewer := (strip_sublist isQuote name).count_le '"'
    change 2 * found.count '"' = (strip isQuote name).count '"' at counted
    omega
  · refine .inl fun name found read => ?_
    rw [← script which name found read, count_strip (by decide), doubled_count]

theorem headerNames_quotes {engine : Engine} {columns named : List Text}
    (found : columns.mapM engine.headerName = some named) (same : named.Perm columns) :
    ∀ name ∈ columns, '"' ∉ name := by
  have pairs := mapM_some.mp found
  have total := (same.map (·.count '"')).sum_nat
  have zero : (columns.map (·.count '"')).sum = 0 := by
    rcases headerName_count engine with doubles | halves
    · have sums : (named.map (·.count '"')).sum = 2 * (columns.map (·.count '"')).sum := by
        clear found same total
        induction pairs with
        | nil => rfl
        | cons read _ ih =>
          simp only [List.map_cons, List.sum_cons, doubles _ _ read, ih]
          omega
      omega
    · have sums : 2 * (named.map (·.count '"')).sum ≤ (columns.map (·.count '"')).sum := by
        clear found same total
        induction pairs with
        | nil => simp
        | cons read _ ih =>
          have less := halves _ _ read
          simp only [List.map_cons, List.sum_cons]
          omega
      omega
  intro name member quoted
  have none_there := List.sum_eq_zero_iff_forall_eq_nat.mp zero _ (List.mem_map_of_mem member)
  exact List.count_eq_zero.mp none_there quoted

/-- The cells a reader leaves alone. -/
structure Engine.CellReadable (engine : Engine) (cell : Text) : Prop where
  no_comma : ',' ∉ cell
  no_break : ∀ symbol ∈ cell, engine.csv.isBreak symbol = false
  no_quote : '"' ∉ cell
  no_margin : strip engine.csv.strips cell = cell

def Engine.exportText (engine : Engine) (table : Table) : Text :=
  lineText (headerLine engine.csv table.columns :: table.rows.map rowLine)

section

variable {engine : Engine} {table : Table}

structure Uncut (engine : Engine) (table : Table) : Prop where
  columns : ∀ name ∈ table.columns, ',' ∉ name ∧ ∀ symbol ∈ name, engine.csv.isBreak symbol = false
  rows : ∀ row ∈ table.rows, ∀ value ∈ row, ',' ∉ value ∧ ∀ symbol ∈ value, engine.csv.isBreak symbol = false

/-- Without commas and line boundaries in its cells, an export is read line by line and cell by cell. -/
theorem import_uncut (uncut : Uncut engine table) (some_row : table.rows ≠ [])
    (named_right : engine.readName table.name = some table.name) : engine.importCsv table (engine.exportText table) =
      match table.columns.mapM engine.headerName with
      | some named => table.rows.mapM fun row =>
          insertRow table.columns named (row.map fun value => strip engine.csv.strips (doubled '"' value))
      | none => none := by
  have lawful := csv_lawful engine
  have bodies_break : ∀ name ∈ table.columns, ∀ symbol ∈ engine.csv.headerBody name,
      engine.csv.isBreak symbol = false :=
    fun name member symbol inside => (uncut.columns name member).2 symbol (lawful.header_subset name symbol inside)
  have header_framed : Framed engine.csv (headerLine engine.csv table.columns) := by
    have framed := commaLine_framed lawful (table.columns.map engine.csv.headerBody)
      (by simpa using table.some_column) (by simpa using bodies_break)
    rwa [List.map_map] at framed
  have filled : ∀ row ∈ table.rows, row ≠ [] := by
    rintro row member rfl
    have length := table.full [] member
    exact table.some_column (List.length_eq_zero_iff.mp length.symm)
  have row_framed : ∀ row ∈ table.rows, Framed engine.csv (rowLine row) := by
    intro row member
    have framed := commaLine_framed lawful (row.map (doubled '"')) (by simpa using filled row member)
      (by simpa [mem_doubled] using fun value inside => (uncut.rows row member value inside).2)
    rwa [List.map_map] at framed
  have lines : engine.csv.lines (engine.exportText table) =
      headerLine engine.csv table.columns :: table.rows.map rowLine := by
    refine lawful.lines_join _ fun line member => ?_
    rcases List.mem_cons.mp member with rfl | row_line
    · exact header_framed
    · obtain ⟨row, given, rfl⟩ := List.mem_map.mp row_line
      exact row_framed row given
  have header_cells : ((headerLine engine.csv table.columns).splitOn ',').map engine.csv.readCell =
      table.columns.map fun name => strip engine.csv.strips (engine.csv.headerBody name) := by
    have cells := readCells lawful (table.columns.map engine.csv.headerBody)
      (by simpa using table.some_column)
      (by simpa using fun name member comma => (uncut.columns name member).1 (lawful.header_subset name _ comma))
    rwa [List.map_map, List.map_map] at cells
  have row_cells : ∀ row ∈ table.rows, ((rowLine row).splitOn ',').map engine.csv.readCell =
      row.map fun value => strip engine.csv.strips (doubled '"' value) := by
    intro row member
    have cells := readCells lawful (row.map (doubled '"')) (by simpa using filled row member)
      (by simpa [mem_doubled] using fun value inside => (uncut.rows row member value inside).1)
    rwa [List.map_map, List.map_map] at cells
  obtain ⟨row, rows, same⟩ := List.exists_cons_of_ne_nil some_row
  have found : (table.columns.map fun name => strip engine.csv.strips (engine.csv.headerBody name)).mapM
      engine.readName = table.columns.mapM engine.headerName := List.mapM_map
  rw [Engine.importCsv, lines, same, List.map_cons]
  simp only [named_right, if_true, header_cells, found]
  cases table.columns.mapM engine.headerName with
  | none => rfl
  | some named =>
    dsimp only
    rw [← List.map_cons, ← same, List.mapM_map]
    exact mapM_congr fun row member => by
      simp only [Function.comp_apply, row_cells row member]

end

end SpaceApp.Databases
