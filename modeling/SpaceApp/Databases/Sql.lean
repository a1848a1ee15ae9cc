import SpaceApp.Foundation.Quoting

/-! The SQL the database adapters write, and the lexical rules the engines read it by.
-/

set_option autoImplicit false

namespace SpaceApp.Databases

open Foundation (doubled markEscaped readQuoted readQuoted_length escapesKept Meanings Reads reads_doubled
  reads_raw reads_markEscaped)

abbrev Text := List Char

inductive Engine where
  | postgres
  | mysql
  | sqlite
  deriving DecidableEq

namespace Engine

def nameMark : Engine → Char
  | .postgres => '"'
  | .mysql => '`'
  | .sqlite => '"'

/-- The escape in the strings of an engine: MySQL reads backslashes, PostgreSQL with standard
strings and SQLite do not. -/
def escape : Engine → Option Char
  | .postgres => none
  | .mysql => some '\\'
  | .sqlite => none

/-- What a symbol behind a backslash means to MySQL. -/
def meaning (symbol : Char) : Text :=
  if symbol = '0' then ['\x00']
  else if symbol = 'b' then ['\x08']
  else if symbol = 'n' then ['\n']
  else if symbol = 'r' then ['\r']
  else if symbol = 't' then ['\t']
  else if symbol = 'Z' then ['\x1a']
  else if symbol = '%' ∨ symbol = '_' then ['\\', symbol]
  else [symbol]

end Engine

inductive Token where
  | word (text : Text)
  | name (text : Text)
  | string (text : Text)
  | symbol (symbol : Char)
  | broken
  deriving DecidableEq

def isSqlSpace (symbol : Char) : Bool :=
  symbol = ' ' || symbol = '\t' || symbol = '\n' || symbol = '\r' || symbol = '\x0c'

def isWordSymbol (symbol : Char) : Bool := symbol.isAlphanum || symbol = '_'

/-- The tokens of a text. Comments are left out: none stands before the first name or string that
ends early. -/
def tokens (engine : Engine) (text : Text) : List Token :=
  match text with
  | [] => []
  | symbol :: rest =>
      if isSqlSpace symbol then tokens engine rest
      else if symbol = engine.nameMark then
        match _read : readQuoted engine.nameMark none Engine.meaning rest with
        | some (name, more) => .name name :: tokens engine more
        | none => [.broken]
      else if symbol = '\'' then
        match _read : readQuoted '\'' engine.escape Engine.meaning rest with
        | some (string, more) => .string string :: tokens engine more
        | none => [.broken]
      else if isWordSymbol symbol then
        .word (symbol :: rest.takeWhile isWordSymbol) :: tokens engine (rest.dropWhile isWordSymbol)
      else .symbol symbol :: tokens engine rest
termination_by text.length
decreasing_by
  · simp
  · have shorter := readQuoted_length _read
    simp only [List.length_cons]
    omega
  · have shorter := readQuoted_length _read
    simp only [List.length_cons]
    omega
  · have shorter := (List.dropWhile_sublist isWordSymbol (l := rest)).length_le
    simp only [List.length_cons]
    omega
  · simp

namespace Engine

/-- The body of a quoted name: the SQLite worker writes names as they are. -/
def nameBody : Engine → Text → Text
  | .postgres, name => doubled '"' name
  | .mysql, name => doubled '`' name
  | .sqlite, name => name

def escapeIdentifier (engine : Engine) (name : Text) : Text :=
  engine.nameMark :: engine.nameBody name ++ [engine.nameMark]

/-- The body of a literal: the MySQL adapter escapes the quotes and not the backslashes. -/
def literalBody : Engine → Text → Text
  | .postgres, literal => doubled '\'' literal
  | .mysql, literal => markEscaped '\'' '\\' literal
  | .sqlite, literal => doubled '\'' literal

def escapeLiteral (engine : Engine) (literal : Text) : Text :=
  '\'' :: engine.literalBody literal ++ ['\'']

/-- The table as the adapter names it: PostgreSQL with its schema. -/
def fullTableName (engine : Engine) (schema table : Text) : Text :=
  match engine with
  | .postgres => escapeIdentifier .postgres schema ++ '.' :: escapeIdentifier .postgres table
  | engine => engine.escapeIdentifier table

end Engine

def joined (parts : List Text) : Text :=
  [',', ' '].intercalate parts

def insertInto : Text := "INSERT INTO ".toList
def openNames : Text := " (".toList
def openValues : Text := ") VALUES (".toList
def closeValues : Text := ");".toList

def insertText (engine : Engine) (schema table : Text) (columns row : List Text) : Text :=
  insertInto ++ engine.fullTableName schema table ++ openNames ++ joined (columns.map engine.escapeIdentifier) ++
    openValues ++ joined (row.map engine.escapeLiteral) ++ closeValues

def separated : List Token → List Token
  | [] => []
  | [token] => [token]
  | token :: next :: rest => token :: .symbol ',' :: separated (next :: rest)

def tableTokens (engine : Engine) (schema table : Text) : List Token :=
  match engine with
  | .postgres => [.name schema, .symbol '.', .name table]
  | _ => [.name table]

/-- The one statement that inserts exactly this row. -/
def insertTokens (engine : Engine) (schema table : Text) (columns row : List Text) : List Token :=
  .word "INSERT".toList :: .word "INTO".toList :: tableTokens engine schema table ++
    .symbol '(' :: separated (columns.map .name) ++ .symbol ')' :: .word "VALUES".toList :: .symbol '(' ::
      separated (row.map .string) ++ [.symbol ')', .symbol ';']

namespace Engine

/-- The names an engine reads back as written. -/
def NameReadable (engine : Engine) (name : Text) : Prop :=
  engine = .sqlite → '"' ∉ name

/-- The literals an engine reads back as written: MySQL keeps a backslash before % and _ alone. -/
def LiteralReadable (engine : Engine) (literal : Text) : Prop :=
  engine = .mysql → escapesKept '\\' (fun symbol => symbol = '%' || symbol = '_') literal = true

theorem meanings_mysql : Meanings '\'' '\\' (fun symbol => symbol = '%' || symbol = '_') meaning where
  apart := by decide
  kept := by
    intro symbol keeps
    have which : symbol = '%' ∨ symbol = '_' := by simpa using keeps
    rcases which with rfl | rfl <;> decide
  other := by
    intro symbol keeps apart
    simp only [Bool.or_eq_false_iff, decide_eq_false_iff_not] at keeps
    unfold meaning
    split
    · exact ⟨_, by decide, rfl⟩
    split
    · exact ⟨_, by decide, rfl⟩
    split
    · exact ⟨_, by decide, rfl⟩
    split
    · exact ⟨_, by decide, rfl⟩
    split
    · exact ⟨_, by decide, rfl⟩
    split
    · exact ⟨_, by decide, rfl⟩
    rw [if_neg (by simp [keeps])]
    exact ⟨symbol, apart, rfl⟩
  of_escape := by decide
  of_mark := by decide

theorem nameBody_reads (engine : Engine) : Reads engine.nameMark none meaning engine.nameBody engine.NameReadable := by
  cases engine with
  | postgres =>
    have reads := reads_doubled '"' meaning
    exact ⟨fun ended _ => reads.forth ended trivial, fun _ _ => nofun⟩
  | mysql =>
    have reads := reads_doubled '`' meaning
    exact ⟨fun ended _ => reads.forth ended trivial, fun _ _ => nofun⟩
  | sqlite =>
    have reads := reads_raw '"' meaning
    exact ⟨fun ended free => reads.forth ended (free rfl), fun ended read _ => reads.back ended read⟩

theorem literalBody_reads (engine : Engine) :
    Reads '\'' engine.escape meaning engine.literalBody engine.LiteralReadable := by
  cases engine with
  | postgres =>
    have reads := reads_doubled '\'' meaning
    exact ⟨fun ended _ => reads.forth ended trivial, fun _ _ => nofun⟩
  | mysql =>
    have reads := reads_markEscaped meanings_mysql
    exact ⟨fun ended kept => reads.forth ended (kept rfl), fun ended read _ => reads.back ended read⟩
  | sqlite =>
    have reads := reads_doubled '\'' meaning
    exact ⟨fun ended _ => reads.forth ended trivial, fun _ _ => nofun⟩

end Engine

section

variable (engine : Engine)

theorem tokens_space {symbol : Char} (rest : Text) (space : isSqlSpace symbol = true) :
    tokens engine (symbol :: rest) = tokens engine rest := by
  rw [tokens, if_pos space]

theorem tokens_symbol {symbol : Char} (rest : Text) (no_space : isSqlSpace symbol = false)
    (no_mark : symbol ≠ engine.nameMark) (no_quote : symbol ≠ '\'') (no_word : isWordSymbol symbol = false) :
    tokens engine (symbol :: rest) = .symbol symbol :: tokens engine rest := by
  rw [tokens, if_neg (by simp [no_space]), if_neg no_mark, if_neg no_quote, if_neg (by simp [no_word])]

/-- A piece between marks, as a token: exactly a good text is read as itself. -/
structure Piece (written : Text → Text) (token : Text → Token) (mark : Char) (good : Text → Prop) : Prop where
  forth : ∀ {text rest : Text}, rest.head? ≠ some mark → good text →
    tokens engine (written text ++ rest) = token text :: tokens engine rest
  back : ∀ {text rest : Text} {more : List Token}, rest.head? ≠ some mark →
    tokens engine (written text ++ rest) = token text :: more → good text

theorem tokens_name (rest : Text) : tokens engine (engine.nameMark :: rest) =
      match readQuoted engine.nameMark none Engine.meaning rest with
      | some (name, more) => .name name :: tokens engine more
      | none => [.broken] := by
  rw [tokens, if_neg (by cases engine <;> decide), if_pos rfl]
  split <;> simp_all

theorem tokens_string (rest : Text) : tokens engine ('\'' :: rest) =
      match readQuoted '\'' engine.escape Engine.meaning rest with
      | some (string, more) => .string string :: tokens engine more
      | none => [.broken] := by
  rw [tokens, if_neg (by decide), if_neg (by cases engine <;> decide), if_pos rfl]
  split <;> simp_all

theorem name_piece : Piece engine engine.escapeIdentifier .name engine.nameMark engine.NameReadable where
  forth := by
    intro name rest ended readable
    have read := engine.nameBody_reads.forth ended readable
    simp only [Engine.escapeIdentifier, List.cons_append, List.append_assoc, List.nil_append]
    rw [tokens_name, read]
  back := by
    intro name rest more ended same
    simp only [Engine.escapeIdentifier, List.cons_append, List.append_assoc, List.nil_append] at same
    rw [tokens_name] at same
    split at same
    · next found behind read =>
      simp only [List.cons.injEq, Token.name.injEq] at same
      rw [same.1] at read
      exact engine.nameBody_reads.back ended read
    · simp at same

theorem string_piece : Piece engine engine.escapeLiteral .string '\'' engine.LiteralReadable where
  forth := by
    intro literal rest ended readable
    have read := engine.literalBody_reads.forth ended readable
    simp only [Engine.escapeLiteral, List.cons_append, List.append_assoc, List.nil_append]
    rw [tokens_string, read]
  back := by
    intro literal rest more ended same
    simp only [Engine.escapeLiteral, List.cons_append, List.append_assoc, List.nil_append] at same
    rw [tokens_string] at same
    split at same
    · next found behind read =>
      simp only [List.cons.injEq, Token.string.injEq] at same
      rw [same.1] at read
      exact engine.literalBody_reads.back ended read
    · simp at same

theorem tokens_word (word rest : Text) (filled : word ≠ []) (all_word : word.all isWordSymbol = true)
    (ended : rest.head?.all (fun symbol => !isWordSymbol symbol) = true) :
    tokens engine (word ++ rest) = .word word :: tokens engine rest := by
  obtain ⟨symbol, word, rfl⟩ := List.exists_cons_of_ne_nil filled
  simp only [List.all_cons, Bool.and_eq_true] at all_word
  obtain ⟨first, others⟩ := all_word
  have no_space : isSqlSpace symbol = false := by
    cases space : isSqlSpace symbol with
    | false => rfl
    | true =>
      simp only [isSqlSpace, Bool.or_eq_true, decide_eq_true_eq] at space
      rcases space with (((rfl | rfl) | rfl) | rfl) | rfl <;> simp [isWordSymbol] at first
  have no_mark : symbol ≠ engine.nameMark := by
    rintro rfl
    cases engine <;> simp [Engine.nameMark, isWordSymbol] at first
  have no_quote : symbol ≠ '\'' := by
    rintro rfl
    simp [isWordSymbol] at first
  have each : ∀ other ∈ word, isWordSymbol other = true := List.all_eq_true.mp others
  have taken : rest.takeWhile isWordSymbol = [] ∧ rest.dropWhile isWordSymbol = rest := by
    cases rest with
    | nil => exact ⟨rfl, rfl⟩
    | cons next rest =>
      have stops : isWordSymbol next = false := by simpa using ended
      exact ⟨List.takeWhile_cons_of_neg (by simp [stops]), List.dropWhile_cons_of_neg (by simp [stops])⟩
  rw [List.cons_append, tokens, if_neg (by simp [no_space]), if_neg no_mark, if_neg no_quote, if_pos first,
    List.takeWhile_append_of_pos each, List.dropWhile_append_of_pos each, taken.1, taken.2, List.append_nil]

/-- Before this rest, a written text is read as these tokens exactly when it is good. -/
def ReadsAs (written : Text) (found : List Token) (good : Prop) (rest : Text) : Prop :=
  ∀ more, tokens engine (written ++ rest) = found ++ more ↔ good ∧ tokens engine rest = more

variable {engine}

theorem ReadsAs.append {first second : Text} {found further : List Token} {good well : Prop} {rest : Text}
    (left : ReadsAs engine first found good (second ++ rest)) (right : ReadsAs engine second further well rest) :
    ReadsAs engine (first ++ second) (found ++ further) (good ∧ well) rest := by
  intro more
  rw [List.append_assoc, List.append_assoc, left, right, and_assoc]

theorem ReadsAs.of_eq {written rest : Text} {found : List Token}
    (same : tokens engine (written ++ rest) = found ++ tokens engine rest) :
    ReadsAs engine written found True rest := by
  intro more
  rw [same, List.append_right_inj, true_and]

theorem Piece.readsAs {written : Text → Text} {token : Text → Token} {mark : Char} {good : Text → Prop}
    (piece : Piece engine written token mark good) (text : Text) {rest : Text} (ended : rest.head? ≠ some mark) :
    ReadsAs engine (written text) [token text] (good text) rest := by
  intro more
  constructor
  · intro same
    have well := piece.back ended same
    rw [piece.forth ended well] at same
    simpa [well] using same
  · rintro ⟨well, same⟩
    rw [piece.forth ended well, same]
    rfl

theorem readsAs_comma (rest : Text) : ReadsAs engine [',', ' '] [.symbol ','] True rest := by
  refine .of_eq ?_
  rw [List.cons_append, tokens_symbol engine _ (by decide) (by cases engine <;> decide) (by decide) (by decide),
    List.cons_append, tokens_space engine _ (by decide)]
  rfl

theorem Piece.list_readsAs {written : Text → Text} {token : Text → Token} {mark : Char} {good : Text → Prop}
    (piece : Piece engine written token mark good) (comma : mark ≠ ',') (items : List Text) (filled : items ≠ [])
    {rest : Text} (ended : rest.head? ≠ some mark) :
    ReadsAs engine (joined (items.map written)) (separated (items.map token)) (∀ item ∈ items, good item) rest := by
  induction items with
  | nil => exact absurd rfl filled
  | cons item items ih =>
    cases items with
    | nil => simpa [joined, separated] using piece.readsAs item ended
    | cons next items =>
      have others := ih (by simp)
      have first : ReadsAs engine (written item) [token item] (good item)
          (([',', ' '] ++ joined ((next :: items).map written)) ++ rest) :=
        piece.readsAs item (by simpa using Ne.symm comma)
      have both := first.append ((readsAs_comma _).append others)
      intro more
      have whole := both more
      simpa [joined, separated] using whole

theorem readsAs_word (word rest : Text) (filled : word ≠ []) (all_word : word.all isWordSymbol = true) :
    ReadsAs engine (word ++ [' ']) [.word word] True rest := by
  refine .of_eq ?_
  rw [List.append_assoc, tokens_word engine word _ filled all_word (by rfl), List.cons_append, List.nil_append,
    tokens_space engine _ (by decide)]
  rfl

theorem readsAs_symbol (symbol : Char) (rest : Text) (no_space : isSqlSpace symbol = false)
    (no_mark : symbol ≠ '"' ∧ symbol ≠ '`' ∧ symbol ≠ '\'') (no_word : isWordSymbol symbol = false) :
    ReadsAs engine [symbol] [.symbol symbol] True rest := by
  refine .of_eq ?_
  have no_name : symbol ≠ engine.nameMark := by
    cases engine
    · exact no_mark.1
    · exact no_mark.2.1
    · exact no_mark.1
  rw [List.cons_append, tokens_symbol engine _ no_space no_name no_mark.2.2 no_word]
  rfl

theorem readsAs_space (rest : Text) : ReadsAs engine [' '] [] True rest := by
  refine .of_eq ?_
  rw [List.cons_append, tokens_space engine _ (by decide)]
  rfl

theorem readsAs_table (schema table rest : Text) (ended : rest.head? ≠ some engine.nameMark) :
    ReadsAs engine (engine.fullTableName schema table) (tableTokens engine schema table)
      (engine.NameReadable table) rest := by
  have name := (name_piece engine).readsAs table ended
  cases engine with
  | postgres =>
    have schemaName : ReadsAs .postgres (Engine.escapeIdentifier .postgres schema) [.name schema] True
        ((['.'] ++ Engine.escapeIdentifier .postgres table) ++ rest) := by
      have reads : ReadsAs .postgres _ _ _ ((['.'] ++ Engine.escapeIdentifier .postgres table) ++ rest) :=
        (name_piece .postgres).readsAs schema (by simp [Engine.nameMark])
      intro more
      rw [reads more]
      simp [Engine.NameReadable]
    have both := schemaName.append ((readsAs_symbol '.' _ (by decide) (by decide) (by decide)).append name)
    intro more
    have whole := both more
    simpa [Engine.fullTableName, tableTokens] using whole
  | mysql => exact name
  | sqlite => exact name

/-- The INSERT of a row is the one statement that inserts exactly this row, exactly when its names
and literals are read back as written. -/
theorem tokens_insert (engine : Engine) (schema table : Text) (columns row : List Text) (some_column : columns ≠ [])
    (some_value : row ≠ []) :
    tokens engine (insertText engine schema table columns row) = insertTokens engine schema table columns row ↔
      engine.NameReadable table ∧ (∀ name ∈ columns, engine.NameReadable name) ∧
        ∀ literal ∈ row, engine.LiteralReadable literal := by
  have closing : ReadsAs engine [')'] [.symbol ')'] True ([';'] ++ []) :=
    readsAs_symbol ')' _ (by decide) (by decide) (by decide)
  have ending := closing.append (readsAs_symbol ';' [] (by decide) (by decide) (by decide))
  have literals := ((string_piece engine).list_readsAs (by decide) row some_value (by simp)).append ending
  have opened := (readsAs_symbol '(' _ (by decide) (by decide) (by decide)).append literals
  have values := (readsAs_word "VALUES".toList _ (by decide) (by decide)).append opened
  have between := (readsAs_symbol ')' _ (by decide) (by decide) (by decide)).append
    ((readsAs_space _).append values)
  have names := ((name_piece engine).list_readsAs (by cases engine <;> decide) columns some_column
    (by cases engine <;> simp [Engine.nameMark])).append between
  have listed := (readsAs_symbol '(' _ (by decide) (by decide) (by decide)).append names
  have target := (readsAs_table schema table _ (by cases engine <;> simp [Engine.nameMark])).append ((readsAs_space _).append listed)
  have into := (readsAs_word "INTO".toList _ (by decide) (by decide)).append target
  have statement := (readsAs_word "INSERT".toList _ (by decide) (by decide)).append into
  have whole := statement []
  have first : insertInto = "INSERT".toList ++ [' '] ++ ("INTO".toList ++ [' ']) := by decide
  have second : openValues = [')'] ++ ([' '] ++ ("VALUES".toList ++ [' '] ++ ['('])) := by decide
  have third : openNames = [' '] ++ ['('] := by decide
  have last : closeValues = [')'] ++ [';'] := by decide
  have empty : tokens engine [] = [] := by rw [tokens]
  simp only [List.append_assoc, List.append_nil, empty, true_and, and_true, List.cons_append,
    List.nil_append] at whole
  simp only [insertText, insertTokens, first, second, third, last, List.append_assoc, List.cons_append,
    List.nil_append]
  exact whole

end

end SpaceApp.Databases
