import MetaCatalog.Table

/-!
# Statements written from a table

The text of an `INSERT` over the stored columns of a table, and of a procedure
that selects all its columns.
-/

namespace MetaCatalog.Table

/-- The value that stands for a column in an `INSERT`: its default, or else its
name, with a star if the column must be given a value. -/
def insertValue (column : ColumnDefinition) : String :=
  (if !column.nullable && !column.hasDefault then "*" else "") ++
    column.default.getD column.name.raw

/-- An `INSERT` over the columns that are not computed. -/
def insertSql (table : String) (columns : List ColumnDefinition) : String :=
  let stored := columns.filter (!·.isComputed)
  "INSERT INTO " ++ table ++ " (" ++ Text.joinWith ", " (stored.map (·.quotedName)) ++
    ")\n VALUES (\n" ++ Text.joinWith ", \n" (stored.map insertValue) ++ "\n)"

/-- The type of a column, with its character set if it is not the usual one. -/
def typeSql (usualCharset : String) (column : ColumnDefinition) : String :=
  column.type.sql ++
    match column.charset with
    | some charset => if charset = usualCharset then "" else " CHARACTER SET " ++ charset
    | none => ""

/-- A procedure that returns every column of a table. -/
def procedureSql (table : Identifier) (usualCharset : String) (columns : List ColumnDefinition) :
    String :=
  let parameters := columns.map fun c => "\n\t" ++ c.quotedName ++ " " ++ typeSql usualCharset c
  let selected := columns.map fun c => "a." ++ c.quotedName
  let targets := columns.map fun c => ":" ++ c.quotedName
  "SET TERM !! ;\nCREATE PROCEDURE " ++ (Identifier.ofCatalog ("SP_" ++ table.raw)).quoted ++
    "\nRETURNS (" ++ Text.joinWith "," parameters ++
    ")\nAS\nBEGIN\n\tFOR SELECT " ++ Text.joinWith ", " selected ++
    "\n\t    FROM " ++ table.quoted ++ " a\n\t    INTO " ++ Text.joinWith ", " targets ++
    "\n\tDO\n\tBEGIN\n\t\tSUSPEND;\n\tEND\nEND!!\nSET TERM ; !!\n"

/-- An `INSERT` into the table, whose columns are loaded first. -/
def insertStatement (table : Table) : Engine (String × Table) := do
  let (columns, table) ← table.readColumns
  pure (insertSql table.quotedName (columns.map (·.definition)), table)

/-- A procedure that returns every column of the table, whose columns are
loaded first. -/
def procedureTemplate (table : Table) (usualCharset : String) : Engine (String × Table) := do
  let (columns, table) ← table.readColumns
  pure (procedureSql table.name usualCharset (columns.map (·.definition)), table)

/-- The outline of a statement that creates a table. -/
def createTemplate : String :=
  "CREATE TABLE table_name\n" ++
  "(\n" ++
  "    column_name \x7b< datatype> | COMPUTED BY (< expr>) | domain\x7d\n" ++
  "        [DEFAULT \x7b literal | NULL | USER\x7d] [NOT NULL]\n" ++
  "    ...\n" ++
  "    CONSTRAINT constraint_name\n" ++
  "        PRIMARY KEY (column_list),\n" ++
  "        UNIQUE      (column_list),\n" ++
  "        FOREIGN KEY (column_list) REFERENCES other_table (column_list),\n" ++
  "        CHECK       (condition),\n" ++
  "    ...\n" ++
  ");\n"

end MetaCatalog.Table
