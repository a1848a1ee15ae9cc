import SpaceApp.Foundation.JsText
import SpaceApp.Foundation.Strip
import SpaceApp.Databases.Sql

/-! The CSV the database adapters export, and what they import of it.
-/

set_option autoImplicit false

namespace SpaceApp.Databases

open Foundation (doubled readQuoted isSpace strip strip_sublist strip_subset splitOn_free splitOn_subset)

/-- A table whose columns hold text, none of it NULL. -/
structure Table where
  schema : Text
  name : Text
  columns : List Text
  rows : List (List Text)
  some_column : columns ≠ []
  distinct : columns.Nodup
  full : ∀ row ∈ rows, row.length = columns.length

def dropReturn (line : Text) : Text :=
  if line.getLast? = some '\r' then line.dropLast else line

/-- `split(/\r?\n/)`: the return before a line feed goes with it. -/
def splitReturns (text : Text) : List Text :=
  let parts := text.splitOn '\n'
  parts.dropLast.map dropReturn ++ parts.getLast?.toList

/-- The line boundaries of Python's `splitlines`. -/
def isPythonBreak (symbol : Char) : Bool :=
  let code := symbol.toNat
  (0x0A ≤ code && code ≤ 0x0D) || (0x1C ≤ code && code ≤ 0x1E) || code = 0x85 || code = 0x2028 || code = 0x2029

/-- Python's `splitlines`, behind the part of the line already read. -/
@[grind] def splitLines : Text → Text → List Text
  | line, [] => if line = [] then [] else [line]
  | line, '\r' :: '\n' :: rest => line :: splitLines [] rest
  | line, symbol :: rest =>
      if isPythonBreak symbol then line :: splitLines [] rest else splitLines (line ++ [symbol]) rest

def isPythonSpace (symbol : Char) : Bool :=
  let code := symbol.toNat
  (0x09 ≤ code && code ≤ 0x0D) || (0x1C ≤ code && code ≤ 0x20) || code = 0x85 || code = 0xA0 || code = 0x1680 ||
    (0x2000 ≤ code && code ≤ 0x200A) || code = 0x2028 || code = 0x2029 || code = 0x202F || code = 0x205F ||
    code = 0x3000

def isQuote (symbol : Char) : Bool := symbol = '"' || symbol = '\''

def isTrimmed (symbol : Char) : Bool := isSpace symbol.toNat

/-- `replace(/^["']|["']$/g, "")`: one quote at each end. -/
def dropQuotes (text : Text) : Text :=
  let front := if text.head?.any isQuote then text.tail else text
  if front.getLast?.any isQuote then front.dropLast else front

/-! The two writers and readers: the adapters in TypeScript for PostgreSQL and MySQL, and the
worker in Python for SQLite. -/

structure Csv where
  isBreak : Char → Bool
  strips : Char → Bool
  lines : Text → List Text
  headerBody : Text → Text
  readCell : Text → Text

def Csv.script : Csv where
  isBreak := fun symbol => symbol = '\n'
  strips := isTrimmed
  lines := fun text => (splitReturns text).filter fun line => strip isTrimmed line ≠ []
  headerBody := doubled '"'
  readCell := fun cell => strip isTrimmed (dropQuotes cell)

def Csv.worker : Csv where
  isBreak := isPythonBreak
  strips := isQuote
  lines := fun text => (splitLines [] text).filter fun line => strip isPythonSpace line ≠ []
  headerBody := id
  readCell := fun cell => strip isQuote (strip isPythonSpace cell)

def Engine.csv : Engine → Csv
  | .postgres => .script
  | .mysql => .script
  | .sqlite => .worker

def selectAll : Text := "SELECT * FROM ".toList

/-- The table the SELECT of an export reads, when its name is read back as written. -/
def Engine.selects (engine : Engine) (table : Table) : Bool :=
  tokens engine (selectAll ++ engine.fullTableName table.schema table.name) =
    [.word "SELECT".toList, .symbol '*', .word "FROM".toList] ++ tableTokens engine table.schema table.name

@[grind] def quotedCell (body : Text) : Text := '"' :: body ++ ['"']

def commaLine (cells : List Text) : Text := [','].intercalate cells

def lineText (lines : List Text) : Text := ['\n'].intercalate lines

def headerLine (csv : Csv) (columns : List Text) : Text :=
  commaLine (columns.map fun name => quotedCell (csv.headerBody name))

def rowLine (row : List Text) : Text :=
  commaLine (row.map fun value => quotedCell (doubled '"' value))

/-- The CSV of a table; the worker alone writes the header of an empty one. -/
def Engine.exportCsv (engine : Engine) (table : Table) : Option Text :=
  if engine.selects table = true then
    some (if engine ≠ .sqlite ∧ table.rows = [] then []
      else lineText (headerLine engine.csv table.columns :: table.rows.map rowLine))
  else none

/-- The name the engine reads where an import names a column or a table. -/
def Engine.readName (engine : Engine) (name : Text) : Option Text :=
  match readQuoted engine.nameMark none Engine.meaning (engine.nameBody name ++ [engine.nameMark]) with
  | some (found, []) => some found
  | _ => none

/-- One row inserted by name: a name the table lacks, a name given twice, and a count of values
that is not the count of names are refused. -/
def insertRow (columns named values : List Text) : Option (List (Option Text)) :=
  if named.Nodup ∧ (∀ name ∈ named, name ∈ columns) ∧ named.length = values.length then
    some (columns.map fun name => (named.zip values).lookup name)
  else none

/-- The rows an import inserts into an empty table of these columns. -/
def Engine.importCsv (engine : Engine) (table : Table) (content : Text) : Option (List (List (Option Text))) :=
  match engine.csv.lines content with
  | header :: first :: rest =>
      if engine.readName table.name = some table.name then
        match ((header.splitOn ',').map engine.csv.readCell).mapM engine.readName with
        | some named =>
            (first :: rest).mapM fun line =>
              insertRow table.columns named ((line.splitOn ',').map engine.csv.readCell)
        | none => none
      else none
  | _ => some []

end SpaceApp.Databases
