import MetaCatalog.Constraint
import MetaCatalog.Index
import MetaCatalog.Relation

/-!
# Tables

A table adds keys, constraints, indices and the file of an external table to
what relations have. Before the columns are read again, the keys, constraints
and indices go, because they may name columns that are no longer there.
-/

namespace MetaCatalog

/-- A table with the facets that have been loaded. -/
structure Table where
  relation : Relation
  primaryKey : Facet (Option PrimaryKey) := .unloaded
  foreignKeys : Facet (List ForeignKey) := .unloaded
  checkConstraints : Facet (List CheckConstraint) := .unloaded
  uniqueConstraints : Facet (List UniqueConstraint) := .unloaded
  indices : Facet (List Index) := .unloaded
  /-- The file behind an external table; empty for any other. -/
  externalPath : Facet String := .unloaded
  deriving Inhabited

namespace Table

/-- The query for the primary key. -/
def primaryKeySql : String :=
  "select r.rdb$constraint_name, i.rdb$field_name, r.rdb$index_name from " ++
  "rdb$relation_constraints r, rdb$index_segments i where r.rdb$relation_name = ? and " ++
  "r.rdb$index_name = i.rdb$index_name and (r.rdb$constraint_type = 'PRIMARY KEY') order " ++
  "by r.rdb$constraint_name, i.rdb$field_position"

/-- The query for the unique constraints. -/
def uniqueSql : String :=
  "select r.rdb$constraint_name, i.rdb$field_name, r.rdb$index_name from " ++
  "rdb$relation_constraints r, rdb$index_segments i where r.rdb$relation_name = ? and " ++
  "r.rdb$index_name = i.rdb$index_name and (r.rdb$constraint_type = 'UNIQUE') order by " ++
  "r.rdb$constraint_name, i.rdb$field_position"

/-- The query for the foreign keys. -/
def foreignKeySql : String :=
  "select r.rdb$constraint_name, i.rdb$field_name, c.rdb$update_rule, c.rdb$delete_rule, " ++
  "c.rdb$const_name_uq, r.rdb$index_name from rdb$relation_constraints r, " ++
  "rdb$index_segments i, rdb$ref_constraints c where r.rdb$relation_name = ? and " ++
  "r.rdb$index_name = i.rdb$index_name and r.rdb$constraint_name = c.rdb$constraint_name " ++
  "and (r.rdb$constraint_type = 'FOREIGN KEY') order by 1, i.rdb$field_position"

/-- The query for the table and the columns of a constraint. -/
def referencedKeySql : String :=
  "select r.rdb$relation_name, i.rdb$field_name from rdb$relation_constraints r join " ++
  "rdb$index_segments i on i.rdb$index_name = r.rdb$index_name where r.rdb$constraint_name " ++
  "= ? order by i.rdb$field_position"

/-- The query for the check constraints. -/
def checkSql : String :=
  "select r.rdb$constraint_name, t.rdb$trigger_source from rdb$relation_constraints r join " ++
  "rdb$check_constraints c on r.rdb$constraint_name = c.rdb$constraint_name and " ++
  "r.rdb$constraint_type = 'CHECK' join rdb$triggers t on c.rdb$trigger_name = " ++
  "t.rdb$trigger_name and t.rdb$trigger_type = 1 where r.rdb$relation_name = ?"

/-- The query for the indices. -/
def indexSql : String :=
  "select i.rdb$index_name, i.rdb$unique_flag, i.rdb$index_inactive, i.rdb$index_type, " ++
  "i.rdb$statistics, s.rdb$field_name, rc.rdb$constraint_name, i.rdb$expression_source " ++
  "from rdb$indices i left join rdb$index_segments s on i.rdb$index_name = " ++
  "s.rdb$index_name left join rdb$relation_constraints rc on rc.rdb$index_name = " ++
  "i.rdb$index_name where i.rdb$relation_name = ? order by i.rdb$index_name, " ++
  "s.rdb$field_position"

/-- The query for the file of an external table. -/
def externalFileSql : String :=
  "select rdb$external_file from rdb$relations where rdb$relation_name = ?"

/-- The item of the table. -/
def item (table : Table) : Item := table.relation.item

/-- The name of the table. -/
def name (table : Table) : Identifier := table.item.name

/-- The name of the table as it appears in SQL. -/
def quotedName (table : Table) : String := table.item.quotedName

/-- The table with another item. -/
def withItem (table : Table) (item : Item) : Table :=
  { table with relation := { table.relation with item } }

/-- A table that belongs to no database. -/
def free (name : Identifier) : Engine Table := do
  pure { relation := { item := ← Item.fresh .table name } }

/-- A table of a database. -/
def within (database : Uuid) (loader : Option LoaderId) (name : Identifier) : Engine Table := do
  pure { relation := { item := ← Item.within .table name database loader } }

/-- The table with another loader. -/
def withLoader (table : Table) (loader : Option LoaderId) : Table :=
  { table with relation := table.relation.withLoader loader }

/-! ## Loading -/

/-- The table without the facets that depend on its columns. -/
def dropDependents (table : Table) : Table :=
  { table with
    primaryKey := .unloaded
    foreignKeys := .unloaded
    checkConstraints := .unloaded
    uniqueConstraints := .unloaded
    indices := .unloaded }

/-- Loads the columns. If they have to be read, the facets that depend on them
are dropped first. -/
def loadColumns (table : Table) : Engine (Attempted Table) := do
  let table := if table.relation.columns.isLoaded then table else table.dropDependents
  let (outcome, relation) ← table.relation.loadColumns
  pure (outcome, { table with relation })

/-- Loads the description. -/
def loadDescription (table : Table) : Engine (Attempted Table) := do
  let (outcome, relation) ← table.relation.loadDescription
  pure (outcome, { table with relation })

/-- Fetches the primary key. -/
def fetchPrimaryKey (item : Item) (loader : LoaderId) : Query (Option PrimaryKey) :=
  loader.fold primaryKeySql [.text item.name.raw] PrimaryKey.step none

/-- Loads the primary key. -/
def loadPrimaryKey (table : Table) : Engine (Attempted Table) := do
  let loaded ← table.item.load table.primaryKey (fetchPrimaryKey table.item)
  pure (loaded.outcome, { table.withItem loaded.item with primaryKey := loaded.facet })

/-- Fetches the table and the columns of a constraint. -/
def fetchReferenced (loader : LoaderId) (uniqueConstraint : String) :
    Query (String × List String) :=
  loader.fold referencedKeySql [.text uniqueConstraint] referencedStep ("", [])

/-- Makes foreign keys of their rows. A row with the name of the key before it
adds a column to that key; any other starts a key, and what the key refers to
is looked up. The newest key comes first. -/
def gatherForeignKeys (table : String) (loader : LoaderId) :
    List ForeignKey → List ForeignKeyRow → Query (List ForeignKey)
  | keys, [] => pure keys
  | [], row :: rest => do
    let referenced ← fetchReferenced loader row.uniqueConstraint
    gatherForeignKeys table loader [row.toKey table referenced] rest
  | key :: older, row :: rest =>
    if key.name = row.name then
      gatherForeignKeys table loader
        ({ key with columns := key.columns ++ [row.column] } :: older) rest
    else do
      let referenced ← fetchReferenced loader row.uniqueConstraint
      gatherForeignKeys table loader (row.toKey table referenced :: key :: older) rest

/-- Fetches the foreign keys. -/
def fetchForeignKeys (item : Item) (loader : LoaderId) : Query (List ForeignKey) := do
  let rows ← loader.list foreignKeySql [.text item.name.raw] ForeignKeyRow.read
  let keys ← gatherForeignKeys item.name.raw loader [] rows
  pure keys.reverse

/-- Loads the foreign keys. -/
def loadForeignKeys (table : Table) : Engine (Attempted Table) := do
  let loaded ← table.item.load table.foreignKeys (fetchForeignKeys table.item)
  pure (loaded.outcome, { table.withItem loaded.item with foreignKeys := loaded.facet })

/-- Fetches the unique constraints. -/
def fetchUniqueConstraints (item : Item) (loader : LoaderId) : Query (List UniqueConstraint) := do
  pure (← loader.fold uniqueSql [.text item.name.raw] UniqueConstraint.reader.step []).reverse

/-- Loads the unique constraints. -/
def loadUniqueConstraints (table : Table) : Engine (Attempted Table) := do
  let loaded ← table.item.load table.uniqueConstraints (fetchUniqueConstraints table.item)
  pure (loaded.outcome, { table.withItem loaded.item with uniqueConstraints := loaded.facet })

/-- Fetches the check constraints. -/
def fetchCheckConstraints (item : Item) (loader : LoaderId) : Query (List CheckConstraint) :=
  loader.list checkSql [.text item.name.raw] CheckConstraint.read

/-- Loads the check constraints. -/
def loadCheckConstraints (table : Table) : Engine (Attempted Table) := do
  let loaded ← table.item.load table.checkConstraints (fetchCheckConstraints table.item)
  pure (loaded.outcome, { table.withItem loaded.item with checkConstraints := loaded.facet })

/-- Fetches the indices. -/
def fetchIndices (item : Item) (loader : LoaderId) : Query (List Index) := do
  pure (← loader.fold indexSql [.text item.name.raw] Index.reader.step []).reverse

/-- Loads the indices. -/
def loadIndices (table : Table) : Engine (Attempted Table) := do
  let loaded ← table.item.load table.indices (fetchIndices table.item)
  pure (loaded.outcome, { table.withItem loaded.item with indices := loaded.facet })

/-- Reads the file of an external table; no file is an empty path. -/
def readExternalPathRow (row : Row) : Except Error String := do
  if ← row.isNull 1 then pure "" else row.trimmed 1

/-- Fetches the file of an external table. -/
def fetchExternalPath (item : Item) (loader : LoaderId) : Query String := do
  pure ((← loader.first? externalFileSql [.text item.name.raw] readExternalPathRow).getD "")

/-- Loads the file of an external table. -/
def loadExternalPath (table : Table) : Engine (Attempted Table) := do
  let loaded ← table.item.load table.externalPath (fetchExternalPath table.item)
  pure (loaded.outcome, { table.withItem loaded.item with externalPath := loaded.facet })

/-! ## Reading -/

/-- The columns, which are loaded first; none if they cannot be loaded. -/
def readColumns (table : Table) : Engine (List Column × Table) := do
  let (_, table) ← table.loadColumns
  pure (table.relation.columns.items, table)

/-- The first column with the given raw name. -/
def findColumn (table : Table) (name : String) : Engine (Option Column × Table) := do
  let (columns, table) ← table.readColumns
  pure (columns.find? (·.item.name.raw == name), table)

/-- The description. -/
def readDescription (table : Table) : Engine (Option String × Table) := do
  let (description, relation) ← table.relation.readDescription
  pure (description, { table with relation })

/-- The primary key, if the table has one. -/
def readPrimaryKey (table : Table) : Engine (Option PrimaryKey × Table) := do
  let (_, table) ← table.loadPrimaryKey
  pure (table.primaryKey.value?.join, table)

/-- The foreign keys. -/
def readForeignKeys (table : Table) : Engine (List ForeignKey × Table) := do
  let (_, table) ← table.loadForeignKeys
  pure (table.foreignKeys.items, table)

/-- The unique constraints. -/
def readUniqueConstraints (table : Table) : Engine (List UniqueConstraint × Table) := do
  let (_, table) ← table.loadUniqueConstraints
  pure (table.uniqueConstraints.items, table)

/-- The check constraints. -/
def readCheckConstraints (table : Table) : Engine (List CheckConstraint × Table) := do
  let (_, table) ← table.loadCheckConstraints
  pure (table.checkConstraints.items, table)

/-- The indices. -/
def readIndices (table : Table) : Engine (List Index × Table) := do
  let (_, table) ← table.loadIndices
  pure (table.indices.items, table)

/-- The file of an external table, empty for any other. -/
def readExternalPath (table : Table) : Engine (String × Table) := do
  let (_, table) ← table.loadExternalPath
  pure (table.externalPath.text, table)

/-! ## Dropping -/

/-- Announces a change of the table. -/
def announce (table : Table) : Engine Table := do
  pure (table.withItem (← table.item.announce))

/-- Drops one facet if it is asked for, and says whether a value was lost. -/
def dropAsked (asked : Option FacetKind) (kind : FacetKind) (facet : Facet α) : Bool × Facet α :=
  if Relation.covers asked kind then facet.drop else (false, facet)

/-- The table without the facets that are asked for, and whether a value was
lost. -/
def drop (table : Table) (asked : Option FacetKind) : Bool × Table :=
  let (lost, relation) := table.relation.drop asked
  let (lostKey, primaryKey) := dropAsked asked .primaryKey table.primaryKey
  let (lostForeign, foreignKeys) := dropAsked asked .foreignKeys table.foreignKeys
  let (lostChecks, checkConstraints) := dropAsked asked .checkConstraints table.checkConstraints
  let (lostUnique, uniqueConstraints) := dropAsked asked .uniqueConstraints table.uniqueConstraints
  let (lostIndices, indices) := dropAsked asked .indices table.indices
  let (lostPath, externalPath) := dropAsked asked .externalPath table.externalPath
  (lost || lostKey || lostForeign || lostChecks || lostUnique || lostIndices || lostPath,
    { relation, primaryKey, foreignKeys, checkConstraints, uniqueConstraints, indices,
      externalPath })

/-- Drops one facet, or all of them, and announces it if a value was lost. -/
def invalidate (table : Table) (asked : Option FacetKind) : Engine Table :=
  match table.drop asked with
  | (true, table) => table.announce
  | (false, table) => pure table

/-- Drops the indices if one of them has the given name, or in any case if
there is no name, and announces it. Nothing happens before they are loaded. -/
def invalidateIndices (table : Table) (name : Option String) : Engine Table :=
  match table.indices with
  | .loaded indices =>
    if name.all fun n => indices.any (·.name == n) then
      announce { table with indices := .unloaded }
    else pure table
  | _ => pure table

end Table

end MetaCatalog
