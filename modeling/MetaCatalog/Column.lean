import MetaCatalog.FieldType
import MetaCatalog.Item

/-!
# Columns

A `Column` is an item together with its definition, which is what the catalog
says about it.
-/

namespace MetaCatalog

/-- What the catalog says about a column. -/
structure ColumnDefinition where
  name : Identifier
  position : Int64 := 0
  /-- The domain of the column, made up by the server for a plain type. -/
  domain : String := ""
  type : FieldType := {}
  nullable : Bool := true
  /-- The default value without the keyword in front of it. -/
  default : Option String := none
  computedSource : Option String := none
  collation : Option String := none
  charset : Option String := none
  description : Option String := none
  deriving DecidableEq, Inhabited

namespace ColumnDefinition

/-- The SQL of a default value without the keyword `DEFAULT`. -/
def stripDefault (source : String) : String :=
  let source := Text.trim source
  let cs := source.toList
  if Text.upperAscii (String.ofList (cs.take 7)) = "DEFAULT" then
    Text.trim (String.ofList (cs.drop 7))
  else source

/-- Reads a row of the column query. -/
def read (row : Row) : Except Error ColumnDefinition := do
  let name ← row.trimmed 1
  let notNull := (← row.integer 2 0) != 0
  let domainNotNull := (← row.integer 15 0) != 0
  let ownDefault ← row.blobText 6
  let domainDefault ← row.blobText 16
  let position ← row.integer 17 0
  let domain ← row.trimmed 3
  let type ← FieldType.read row 9
  let computedSource ← row.blobText 5
  let collation ← row.optional 4
  let charset ← row.optional 8
  let description ← row.blobText 7
  pure {
    name := .ofCatalog name
    position
    domain
    type
    nullable := !(notNull || domainNotNull)
    default := (ownDefault.or domainDefault).map stripDefault
    computedSource
    collation
    charset
    description }

/-- The name of the column as it appears in SQL. -/
def quotedName (column : ColumnDefinition) : String := column.name.quoted

/-- Whether the column is of a domain that a user has named. -/
def hasUserDomain (column : ColumnDefinition) : Bool :=
  !column.domain.isEmpty && !Text.startsWith column.domain "RDB$"

/-- Whether the column has a default value. -/
def hasDefault (column : ColumnDefinition) : Bool := column.default.isSome

/-- Whether the column is computed from others. -/
def isComputed (column : ColumnDefinition) : Bool := column.computedSource.isSome

end ColumnDefinition

/-- A column of a table or a view. -/
structure Column where
  item : Item
  definition : ColumnDefinition
  deriving Inhabited

namespace Column

/-- A new column of a relation. -/
def within (relation : Uuid) (loader : LoaderId) (definition : ColumnDefinition) :
    Engine Column := do
  pure { item := ← Item.within .column definition.name relation (some loader), definition }

/-- The query for the columns of a relation, in the order of their
positions. -/
def sql : String :=
  "select r.rdb$field_name, r.rdb$null_flag, r.rdb$field_source, l.rdb$collation_name, " ++
  "f.rdb$computed_source, r.rdb$default_source, r.rdb$description, " ++
  "c.rdb$character_set_name, " ++
  FieldType.columns ++
  ", f.rdb$null_flag, f.rdb$default_source, r.rdb$field_position from rdb$fields f join " ++
  "rdb$relation_fields r on f.rdb$field_name = r.rdb$field_source left outer join " ++
  "rdb$collations l on l.rdb$collation_id = r.rdb$collation_id and l.rdb$character_set_id " ++
  "= f.rdb$character_set_id left outer join rdb$character_sets c on c.rdb$character_set_id " ++
  "= f.rdb$character_set_id where r.rdb$relation_name = ? order by r.rdb$field_position"

end Column

end MetaCatalog
