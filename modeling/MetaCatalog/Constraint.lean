import MetaCatalog.Identifier
import MetaCatalog.Row.Runs
import MetaCatalog.Text.Blank

/-!
# Constraints of a table

Primary and foreign keys, unique and check constraints, and how each is read
from the rows of its query. A key over several columns takes one row for each
of them.
-/

namespace MetaCatalog

/-- What happens to a row when the row that it refers to changes or goes. -/
inductive ForeignKeyAction where
  | restrict
  | noAction
  | cascade
  | setNull
  | setDefault
  deriving DecidableEq, Inhabited

namespace ForeignKeyAction

/-- The action in SQL. -/
def sql : ForeignKeyAction → String
  | restrict => "RESTRICT"
  | noAction => "NO ACTION"
  | cascade => "CASCADE"
  | setNull => "SET NULL"
  | setDefault => "SET DEFAULT"

/-- The action in a document. -/
def label : ForeignKeyAction → String
  | restrict => "Restrict"
  | noAction => "NoAction"
  | cascade => "Cascade"
  | setNull => "SetNull"
  | setDefault => "SetDefault"

/-- The action of a rule in the catalog; an unknown rule restricts. -/
def ofRule (rule : String) : ForeignKeyAction :=
  match Text.upperAscii (Text.trim rule) with
  | "NO ACTION" => noAction
  | "CASCADE" => cascade
  | "SET NULL" => setNull
  | "SET DEFAULT" => setDefault
  | _ => restrict

end ForeignKeyAction

/-- The primary key of a table, with its columns in the order of the index
that enforces it. -/
structure PrimaryKey where
  name : String
  columns : List String
  indexName : String
  deriving DecidableEq, Inhabited

namespace PrimaryKey

/-- Adds a row to the primary key. All rows are taken to belong to it; the
last one gives the names. -/
def step (key : Option PrimaryKey) (row : Row) : Except Error (Option PrimaryKey) := do
  let name ← row.trimmed 1
  let column ← row.trimmed 2
  let indexName ← row.trimmed 3
  let before := key.elim [] (·.columns)
  pure (some { name, columns := before ++ [column], indexName })

end PrimaryKey

/-- A unique constraint. -/
structure UniqueConstraint where
  name : String
  columns : List String
  indexName : String
  deriving DecidableEq, Inhabited

namespace UniqueConstraint

/-- The constraint and the column that a row names. -/
def readKey (row : Row) : Except Error (String × String) := do
  pure (← row.trimmed 1, ← row.trimmed 2)

/-- Unique constraints take one row for each column. -/
def reader : RunReader (String × String) UniqueConstraint where
  key := readKey
  continues constraint key := constraint.name == key.1
  extend constraint key := { constraint with columns := constraint.columns ++ [key.2] }
  start key row := do
    pure { name := key.1, columns := [key.2], indexName := ← row.trimmed 3 }

end UniqueConstraint

/-- A check constraint with its source. -/
structure CheckConstraint where
  name : String
  source : String
  deriving DecidableEq, Inhabited

namespace CheckConstraint

/-- Reads a check constraint. -/
def read (row : Row) : Except Error CheckConstraint := do
  pure { name := ← row.trimmed 1, source := Text.trimPadding (← row.blob 2) }

end CheckConstraint

/-- A foreign key. -/
structure ForeignKey where
  name : String
  /-- The table that the key belongs to. -/
  table : String
  columns : List String
  referencedTable : String
  referencedColumns : List String
  updateAction : ForeignKeyAction
  deleteAction : ForeignKeyAction
  indexName : String
  deriving DecidableEq, Inhabited

namespace ForeignKey

/-- One equation of a join. -/
def equation (table referenced column other : String) : String :=
  table ++ "." ++ quoteName column ++ " = " ++ referenced ++ "." ++ quoteName other

/-- The condition that joins the table with the one it refers to. -/
def joinCondition (key : ForeignKey) : String :=
  Text.joinWith " AND "
    (List.zipWith (equation (quoteName key.table) (quoteName key.referencedTable))
      key.columns key.referencedColumns)

end ForeignKey

/-- A row of the foreign key query: one column of a key. -/
structure ForeignKeyRow where
  name : String
  column : String
  updateRule : String
  deleteRule : String
  /-- The constraint of the other table that the key refers to. -/
  uniqueConstraint : String
  indexName : String
  deriving DecidableEq, Inhabited

namespace ForeignKeyRow

/-- Reads a row of the foreign key query. -/
def read (row : Row) : Except Error ForeignKeyRow := do
  pure {
    name := ← row.trimmed 1
    column := ← row.trimmed 2
    updateRule := ← row.trimmed 3
    deleteRule := ← row.trimmed 4
    uniqueConstraint := ← row.trimmed 5
    indexName := ← row.trimmed 6 }

/-- The foreign key that starts with a row. -/
def toKey (row : ForeignKeyRow) (table : String) (referenced : String × List String) :
    ForeignKey where
  name := row.name
  table
  columns := [row.column]
  referencedTable := referenced.1
  referencedColumns := referenced.2
  updateAction := .ofRule row.updateRule
  deleteAction := .ofRule row.deleteRule
  indexName := row.indexName

end ForeignKeyRow

/-- The table and the columns of a constraint that a foreign key refers
to. -/
def referencedStep (referenced : String × List String) (row : Row) :
    Except Error (String × List String) := do
  pure (← row.trimmed 1, referenced.2 ++ [← row.trimmed 2])

end MetaCatalog
