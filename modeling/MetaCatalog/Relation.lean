import MetaCatalog.Column

/-!
# Relations

What tables and views have in common: an item, its columns and its
description.
-/

namespace MetaCatalog

/-- How an attempt to load something went, and the object afterwards. -/
abbrev Attempted (σ : Type) := Except Error Unit × σ

/-- What tables and views have in common. -/
structure Relation where
  item : Item
  columns : Facet (List Column) := .unloaded
  description : Facet (Option String) := .unloaded
  deriving Inhabited

namespace Relation

/-- The query for the description of a relation. -/
def descriptionSql : String :=
  "select rdb$description from rdb$relations where rdb$relation_name = ?"

/-- Fetches the columns of a relation in the order of their positions. -/
def fetchColumns (item : Item) (loader : LoaderId) : Query (List Column) := do
  let definitions ← loader.list Column.sql [.text item.name.raw] ColumnDefinition.read
  ExceptT.lift (definitions.mapM (Column.within item.id loader))

/-- Fetches a description with the given query. -/
def fetchDescription (sql : String) (item : Item) (loader : LoaderId) : Query (Option String) := do
  pure (← loader.first? sql [.text item.name.raw] (Row.blobText · 1)).join

/-- Loads the columns. -/
def loadColumns (relation : Relation) : Engine (Attempted Relation) := do
  let loaded ← relation.item.load relation.columns (fetchColumns relation.item)
  pure (loaded.outcome, { relation with item := loaded.item, columns := loaded.facet })

/-- Loads the description. -/
def loadDescription (relation : Relation) : Engine (Attempted Relation) := do
  let loaded ← relation.item.load relation.description
    (fetchDescription descriptionSql relation.item)
  pure (loaded.outcome, { relation with item := loaded.item, description := loaded.facet })

/-- The columns, which are loaded first; none if they cannot be loaded. -/
def readColumns (relation : Relation) : Engine (List Column × Relation) := do
  let (_, relation) ← relation.loadColumns
  pure (relation.columns.items, relation)

/-- The description, which is loaded first. -/
def readDescription (relation : Relation) : Engine (Option String × Relation) := do
  let (_, relation) ← relation.loadDescription
  pure (relation.description.value?.join, relation)

/-- Whether a facet is among those that are asked for; without a name all of
them are. -/
def covers (asked : Option FacetKind) (facet : FacetKind) : Bool :=
  asked.all (· == facet)

/-- Drops the columns and the description as far as they are asked for. -/
def drop (relation : Relation) (asked : Option FacetKind) : Bool × Relation :=
  let (droppedColumns, columns) :=
    if covers asked .columns then relation.columns.drop else (false, relation.columns)
  let (droppedDescription, description) :=
    if covers asked .description then relation.description.drop else (false, relation.description)
  (droppedColumns || droppedDescription, { relation with columns, description })

/-- The relation with another loader. -/
def withLoader (relation : Relation) (loader : Option LoaderId) : Relation :=
  { relation with item := { relation.item with loader } }

end Relation

end MetaCatalog
