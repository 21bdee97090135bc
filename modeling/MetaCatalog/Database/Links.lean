import MetaCatalog.Database

/-!
# Links between tables

`Database.links` finds the foreign keys between one table and some others: the
keys of the table that refer to one of the others, and for each of the others
that depends on the table its first key that refers to it. Keys that have not
been read are read on the way, all in one transaction, and stay in their
tables.
-/

namespace MetaCatalog

/-- A computation that may change the tables of a database and may fail; the
changes stay if it fails. -/
abbrev TableQuery := ExceptT Error (StateT (List Table) Engine)

namespace TableQuery

/-- A query that changes no table. -/
def ofQuery (query : Query α) : TableQuery α :=
  ExceptT.mk fun tables => do pure (← query.run, tables)

/-- The foreign keys of the first table with a raw name, if there is such a
table. They are loaded first. -/
def foreignKeys? (name : String) : TableQuery (Option (List ForeignKey)) :=
  ExceptT.mk fun tables => do
    let (loaded, tables) ← Database.onFirst (·.name.raw == name)
      (fun table => do
        let (outcome, table) ← table.loadForeignKeys
        pure (outcome.map fun _ => table.foreignKeys.items, table))
      tables
    pure (loaded.elim (.ok none) (·.map some), tables)

/-- For each of the dependents that is a table and among the given names, its
first key that refers to the table. -/
def dependentKeys (names : List String) (name : String) :
    List Dependency → TableQuery (List ForeignKey)
  | [] => pure []
  | dependent :: rest => do
    if dependent.kind = .table ∧ names.contains dependent.name then
      let keys ← foreignKeys? dependent.name
      let later ← dependentKeys names name rest
      pure (((keys.getD []).find? (·.referencedTable == name)).toList ++ later)
    else dependentKeys names name rest

/-- The keys of a table that refer to one of the given names, followed by
those of its dependents. -/
def links (loader : LoaderId) (names : List String) (name : String) :
    TableQuery (List ForeignKey) := do
  match ← foreignKeys? name with
  | none => throw (.notFound ("TABLE " ++ name))
  | some keys =>
    let dependents ← ofQuery (Dependency.load loader name .table false)
    let others ← dependentKeys names name dependents
    pure (keys.filter (fun key => names.contains key.referencedTable) ++ others)

end TableQuery

namespace Database

/-- The foreign keys between a table and others, in both directions. -/
def links (database : Database) (names : List String) (name : String) :
    Engine (Except Error (List ForeignKey) × Database) := do
  match database.requireLoader with
  | .error e => pure (.error e, database)
  | .ok loader =>
    match ← loader.enter.run with
    | .error e => pure (.error e, database)
    | .ok () =>
      let (outcome, tables) ← (TableQuery.links loader names name).run.run database.tables
      loader.leave
      pure (outcome, { database with tables })

end Database

end MetaCatalog
