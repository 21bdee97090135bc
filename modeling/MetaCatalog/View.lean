import MetaCatalog.Relation

/-!
# Views

A view adds the query that defines it to what relations have.
-/

namespace MetaCatalog

/-- A view with the facets that have been loaded. -/
structure View where
  relation : Relation
  source : Facet String := .unloaded
  deriving Inhabited

namespace View

/-- The query for the source of a view. -/
def sourceSql : String :=
  "select rdb$view_source from rdb$relations where rdb$relation_name = ?"

/-- The item of the view. -/
def item (view : View) : Item := view.relation.item

/-- The name of the view. -/
def name (view : View) : Identifier := view.item.name

/-- The view with another item. -/
def withItem (view : View) (item : Item) : View :=
  { view with relation := { view.relation with item } }

/-- A view that belongs to no database. -/
def free (name : Identifier) : Engine View := do
  pure { relation := { item := ← Item.fresh .view name } }

/-- A view of a database. -/
def within (database : Uuid) (loader : Option LoaderId) (name : Identifier) : Engine View := do
  pure { relation := { item := ← Item.within .view name database loader } }

/-- The view with another loader. -/
def withLoader (view : View) (loader : Option LoaderId) : View :=
  { view with relation := view.relation.withLoader loader }

/-- Loads the columns. -/
def loadColumns (view : View) : Engine (Attempted View) := do
  let (outcome, relation) ← view.relation.loadColumns
  pure (outcome, { view with relation })

/-- Loads the description. -/
def loadDescription (view : View) : Engine (Attempted View) := do
  let (outcome, relation) ← view.relation.loadDescription
  pure (outcome, { view with relation })

/-- Fetches the source of a view. -/
def fetchSource (item : Item) (loader : LoaderId) : Query String := do
  let source ← loader.first? sourceSql [.text item.name.raw] fun row =>
    (row.blob 1).map Text.trim
  pure (source.getD "")

/-- Loads the source. -/
def loadSource (view : View) : Engine (Attempted View) := do
  let loaded ← view.item.load view.source (fetchSource view.item)
  pure (loaded.outcome, { view.withItem loaded.item with source := loaded.facet })

/-- The columns. -/
def readColumns (view : View) : Engine (List Column × View) := do
  let (columns, relation) ← view.relation.readColumns
  pure (columns, { view with relation })

/-- The description. -/
def readDescription (view : View) : Engine (Option String × View) := do
  let (description, relation) ← view.relation.readDescription
  pure (description, { view with relation })

/-- The query that defines the view; empty if it cannot be loaded. -/
def readSource (view : View) : Engine (String × View) := do
  let (_, view) ← view.loadSource
  pure (view.source.text, view)

/-- A statement that creates a view. -/
def createSql (view : String) (columns : List ColumnDefinition) (source : String) : String :=
  "CREATE VIEW " ++ view ++ " (" ++ Text.joinWith ", " (columns.map (·.quotedName)) ++
    ")\nAS " ++ source ++ ";\n"

/-- The statement that creates this view. It takes the columns and the
source. -/
def createStatement (view : View) : Engine (Except Error String × View) := do
  match ← view.loadColumns with
  | (.error e, view) => pure (.error e, view)
  | (.ok (), view) =>
    match ← view.loadSource with
    | (.error e, view) => pure (.error e, view)
    | (.ok (), view) =>
      let columns := view.relation.columns.items.map (·.definition)
      pure (.ok (createSql view.item.quotedName columns view.source.text), view)

/-- The outline of a statement that creates a view. -/
def createTemplate : String :=
  "CREATE VIEW name ( view_column, ...)\nAS\n" ++
  "/* write select statement here */\nWITH CHECK OPTION;\n"

/-- The view without the facets that are asked for, and whether a value was
lost. -/
def drop (view : View) (asked : Option FacetKind) : Bool × View :=
  let (lost, relation) := view.relation.drop asked
  let (lostSource, source) :=
    if Relation.covers asked .source then view.source.drop else (false, view.source)
  (lost || lostSource, { relation, source })

/-- Drops one facet, or all of them, and announces it if a value was lost. -/
def invalidate (view : View) (asked : Option FacetKind) : Engine View := do
  match view.drop asked with
  | (true, view) => pure (view.withItem (← view.item.announce))
  | (false, view) => pure view

end View

end MetaCatalog
