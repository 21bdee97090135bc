import MetaCatalog.Json

/-!
# Kinds of items

The kinds of objects a catalog knows, the words SQL uses for them, and the
codes by which the catalog's dependency table refers to some of them.
-/

namespace MetaCatalog

/-- The kind of an item. -/
inductive ItemKind where
  | server
  | database
  | table
  | view
  | procedure
  | column
  | parameter
  | index
  | primaryKey
  | foreignKey
  | unique
  | check
  | trigger
  | domain
  | generator
  | function
  | user
  deriving DecidableEq, Inhabited

namespace ItemKind

/-- The kind in SQL. -/
def typeName : ItemKind → String
  | server => "SERVER"
  | database => "DATABASE"
  | table => "TABLE"
  | view => "VIEW"
  | procedure => "PROCEDURE"
  | column => "COLUMN"
  | parameter => "PARAMETER"
  | index => "INDEX"
  | primaryKey => "PRIMARY KEY"
  | foreignKey => "FOREIGN KEY"
  | unique => "UNIQUE"
  | check => "CHECK"
  | trigger => "TRIGGER"
  | domain => "DOMAIN"
  | generator => "GENERATOR"
  | function => "FUNCTION"
  | user => "USER"

/-- The kind in a document or a diagnostic. -/
def label : ItemKind → String
  | server => "Server"
  | database => "Database"
  | table => "Table"
  | view => "View"
  | procedure => "Procedure"
  | column => "Column"
  | parameter => "Parameter"
  | index => "Index"
  | primaryKey => "PrimaryKey"
  | foreignKey => "ForeignKey"
  | unique => "Unique"
  | check => "Check"
  | trigger => "Trigger"
  | domain => "Domain"
  | generator => "Generator"
  | function => "Function"
  | user => "User"

/-- Every kind. -/
def all : List ItemKind :=
  [server, database, table, view, procedure, column, parameter, index, primaryKey, foreignKey,
    unique, check, trigger, domain, generator, function, user]

/-- The kind with a label. -/
def ofLabel? (label : String) : Option ItemKind := all.find? (·.label == label)

/-- The code of a kind in the dependency table. -/
def code? : ItemKind → Option Int64
  | table => some 0
  | view => some 1
  | trigger => some 2
  | procedure => some 5
  | domain => some 9
  | generator => some 14
  | function => some 15
  | _ => none

/-- The kind with a code. -/
def ofCode? (code : Int64) : Option ItemKind := all.find? (·.code? == some code)

/-- The kind that a JSON value stands for. -/
def ofJson? (value : Json) : Option ItemKind := value.label?.bind ofLabel?

end ItemKind

end MetaCatalog
