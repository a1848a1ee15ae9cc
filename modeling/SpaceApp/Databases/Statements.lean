import SpaceApp.Databases.Csv

/-! The statements the PostgreSQL adapter sends for an operation.
-/

set_option autoImplicit false

namespace SpaceApp.Databases

inductive Parameter (Value : Type) where
  | given (value : Value)
  | cell (text : Text)
  deriving DecidableEq

/-- A text and the parameters of its `$1`, `$2`, …. -/
structure Statement (Value : Type) where
  text : Text
  parameters : List (Parameter Value)
  deriving DecidableEq

section

variable {Value : Type}

def plain (text : Text) : Statement Value := ⟨text, []⟩

def placeholder (number : Nat) : Text := '$' :: (Nat.repr number).toList

def schemaOf (schema : Option Text) : Text :=
  match schema with
  | none => "public".toList
  | some name => if name = [] then "public".toList else name

def fullName (schema : Option Text) (table : Text) : Text :=
  Engine.fullTableName .postgres (schemaOf schema) table

abbrev quoted : Text → Text := Engine.escapeIdentifier .postgres

inductive RowAction where
  | insert
  | update
  | delete
  | other
  deriving DecidableEq

structure RowMutation (Value : Type) where
  action : RowAction
  schema : Option Text
  keys : List (Text × Value)
  values : List (Text × Value)

/-- `"column" = $n` for each column, from a number on. -/
def assigned (number : Nat) : List (Text × Value) → List Text
  | [] => []
  | (column, _) :: rest => (quoted column ++ " = ".toList ++ placeholder number) :: assigned (number + 1) rest

def conjoined (conditions : List Text) : Text := " AND ".toList.intercalate conditions

def given (columns : List (Text × Value)) : List (Parameter Value) := columns.map fun column => .given column.2

def mutateRow (table : Text) (options : RowMutation Value) : Except String (List (Statement Value)) :=
  let full := fullName options.schema table
  match options.action with
  | .insert =>
      if options.values = [] then
        .ok [plain ("INSERT INTO ".toList ++ full ++ " DEFAULT VALUES RETURNING *".toList)]
      else
        let columns := joined (options.values.map fun column => quoted column.1)
        let places := joined ((List.range options.values.length).map fun index => placeholder (index + 1))
        .ok [⟨"INSERT INTO ".toList ++ full ++ " (".toList ++ columns ++ ") VALUES (".toList ++ places ++
          ") RETURNING *".toList, given options.values⟩]
  | .update =>
      if options.keys = [] then .error "Cannot update row without key criteria."
      else if options.values = [] then .ok []
      else
        let changes := joined (assigned 1 options.values)
        let conditions := conjoined (assigned (options.values.length + 1) options.keys)
        .ok [⟨"UPDATE ".toList ++ full ++ " SET ".toList ++ changes ++ " WHERE ".toList ++ conditions ++
          " RETURNING *".toList, given options.values ++ given options.keys⟩]
  | .delete =>
      if options.keys = [] then .error "Cannot delete row without key criteria."
      else
        .ok [⟨"DELETE FROM ".toList ++ full ++ " WHERE ".toList ++ conjoined (assigned 1 options.keys),
          given options.keys⟩]
  | .other => .error "Unsupported mutation action"

structure NewColumn where
  name : Text
  type : Text
  nullable : Option Bool
  defaultValue : Option Text
  isPrimaryKey : Bool

structure NewIndex where
  name : Text
  columns : List Text
  unique : Bool

inductive TableChange where
  | createTable (columns : List NewColumn)
  | dropTable
  | addColumn (column : Option NewColumn)
  | dropColumn (column : Option Text)
  | addIndex (index : Option NewIndex)
  | dropIndex (index : Option Text)
  | other

structure TableAlteration where
  change : TableChange
  schema : Option Text
  tableName : Option Text

def filled (text : Option Text) : Option Text := text.filter fun text => text ≠ []

def NewColumn.definition (column : NewColumn) (mayBePrimary : Bool) : Text :=
  quoted column.name ++ ' ' :: column.type ++
    (if mayBePrimary ∧ column.isPrimaryKey then " PRIMARY KEY".toList else []) ++
    (if column.nullable = some false then " NOT NULL".toList else []) ++
    (match filled column.defaultValue with
      | some text => " DEFAULT ".toList ++ text
      | none => [])

def alterTable (table : Text) (options : TableAlteration) : Except String (List (Statement Value)) :=
  let named := if table ≠ [] then table else options.tableName.getD []
  let full := fullName options.schema named
  match options.change with
  | .createTable columns =>
      if columns = [] then .error "Columns definition is required to create a table."
      else
        .ok [plain ("CREATE TABLE ".toList ++ full ++ " (".toList ++
          joined (columns.map fun column => column.definition true) ++ ")".toList)]
  | .dropTable => .ok [plain ("DROP TABLE IF EXISTS ".toList ++ full ++ " CASCADE".toList)]
  | .addColumn column =>
      match column with
      | some column =>
          if column.name = [] ∨ column.type = [] then .error "Column name and type are required."
          else .ok [plain ("ALTER TABLE ".toList ++ full ++ " ADD COLUMN ".toList ++ column.definition false)]
      | none => .error "Column name and type are required."
  | .dropColumn column =>
      match filled column with
      | some name =>
          .ok [plain ("ALTER TABLE ".toList ++ full ++ " DROP COLUMN IF EXISTS ".toList ++ quoted name ++
            " CASCADE".toList)]
      | none => .error "Column name is required to drop column."
  | .addIndex index =>
      match index with
      | some index =>
          if index.name = [] ∨ index.columns = [] then .error "Index name and columns are required."
          else
            .ok [plain ("CREATE ".toList ++ (if index.unique then "UNIQUE".toList else []) ++ " INDEX ".toList ++
              quoted index.name ++ " ON ".toList ++ full ++ " (".toList ++ joined (index.columns.map quoted) ++
              ")".toList)]
      | none => .error "Index name and columns are required."
  | .dropIndex index =>
      match filled index with
      | some name =>
          .ok [plain ("DROP INDEX IF EXISTS ".toList ++ quoted (schemaOf options.schema) ++ '.' :: quoted name)]
      | none => .error "Index name is required to drop index."
  | .other => .error "Unsupported alteration action"

inductive ImportFormat where
  | sql
  | csv
  | other
  deriving DecidableEq

structure ImportOptions where
  format : ImportFormat
  table : Option Text
  schema : Option Text
  content : Text

def importData (options : ImportOptions) : Except String (List (Statement Value)) :=
  match options.format with
  | .sql => .ok [plain options.content]
  | .csv =>
      match filled options.table with
      | none => .error "Target table is required for CSV import."
      | some table =>
          match Csv.script.lines options.content with
          | header :: first :: rest =>
              let columns := joined (((header.splitOn ',').map Csv.script.readCell).map quoted)
              .ok ((first :: rest).map fun line =>
                let cells := (line.splitOn ',').map Csv.script.readCell
                let places := joined ((List.range cells.length).map fun index => placeholder (index + 1))
                ⟨"INSERT INTO ".toList ++ fullName options.schema table ++ " (".toList ++ columns ++
                  ") VALUES (".toList ++ places ++ ")".toList, cells.map .cell⟩)
          | _ => .ok []
  | .other => .error "Unsupported import format"

structure SqlOptions where
  sql : Text
  schema : Option Text

inductive Operation (Value : Type) where
  | executeSql (options : SqlOptions)
  | mutateRow (table : Text) (options : RowMutation Value)
  | alterTable (table : Text) (options : TableAlteration)
  | importData (options : ImportOptions)

def pidText : Text := "SELECT pg_backend_pid() as pid".toList
def readOnlyText : Text := "SET TRANSACTION READ ONLY".toList
def timeoutText : Text := "SET statement_timeout = 30000".toList

def searchPathText (schema : Text) : Text := "SET search_path TO ".toList ++ quoted schema ++ ", public".toList

/-- What `executeSql` sends on its client before the text it was given. -/
def preliminaries (isReadOnly : Bool) (options : SqlOptions) : List (Statement Value) :=
  plain pidText :: (if isReadOnly then [plain readOnlyText] else []) ++ plain timeoutText ::
    match filled options.schema with
    | some schema => [plain (searchPathText schema)]
    | none => []

/-- The statements an operation sends, or the error it throws before it sends any. -/
def Operation.statements (isReadOnly : Bool) : Operation Value → Except String (List (Statement Value))
  | .executeSql options => .ok (preliminaries isReadOnly options ++ [plain options.sql])
  | .mutateRow table options =>
      if isReadOnly then .error "Cannot modify rows in a read-only database connection."
      else Databases.mutateRow table options
  | .alterTable table options =>
      if isReadOnly then .error "Cannot alter schema in a read-only database connection."
      else Databases.alterTable table options
  | .importData options =>
      if isReadOnly then .error "Cannot import data into a read-only database connection."
      else Databases.importData options

end

end SpaceApp.Databases
