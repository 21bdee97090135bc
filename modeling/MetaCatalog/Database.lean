import MetaCatalog.Dependency
import MetaCatalog.Procedure
import MetaCatalog.Table
import MetaCatalog.View

/-!
# Databases

A database is registered with a path and a stored login, and may be connected
to a catalog. Connecting gives it a new loader, which all its objects share;
disconnecting takes the loader and the objects away, so that nothing that was
read over a connection outlives it.

`loadObjects` replaces the tables, views and procedures by those in the
catalog, or changes nothing if one of its queries fails.
-/

namespace MetaCatalog

/-- A registered database with the objects found in it. -/
structure Database where
  item : Item
  path : String
  /-- The stored login, for use while the database is not connected. -/
  username : String := ""
  password : String := ""
  role : String := ""
  charset : String := ""
  connection : Option ConnectionId := none
  tables : List Table := []
  views : List View := []
  procedures : List Procedure := []
  deriving Inhabited

namespace Database

/-- The query for the names of all relations; a second column that is absent
tells tables from views. -/
def relationsSql : String :=
  "select rdb$relation_name, rdb$view_blr from rdb$relations where rdb$system_flag = 0 or " ++
  "rdb$system_flag is null order by rdb$relation_name"

/-- The query for the names of all procedures. -/
def proceduresSql : String :=
  "select rdb$procedure_name from rdb$procedures where rdb$system_flag = 0 or " ++
  "rdb$system_flag is null order by rdb$procedure_name"

/-- A newly registered database. -/
def register (name : Identifier) (path : String) : Engine Database := do
  pure { item := ← Item.fresh .database name, path }

/-- The identifier of the database. -/
def id (database : Database) : Uuid := database.item.id

/-- The name of the database. -/
def name (database : Database) : Identifier := database.item.name

/-- The loader, while the database is connected. -/
def loader (database : Database) : Option LoaderId := database.item.loader

/-- The database with another server, or with none. -/
def withServer (database : Database) (server : Option Uuid) : Database :=
  { database with item := { database.item with parent := server } }

/-- Announces a change of the database. -/
def announce (database : Database) : Engine Database := do
  pure { database with item := ← database.item.announce }

/-- Changes the stored login. -/
def setLogin (database : Database) (username password : String) : Engine Database :=
  announce { database with username, password }

/-! ## Connecting -/

/-- The database and all its objects with another loader. -/
def withLoader (database : Database) (loader : Option LoaderId) : Database :=
  { database with
    item := { database.item with loader }
    tables := database.tables.map (·.withLoader loader)
    views := database.views.map (·.withLoader loader)
    procedures := database.procedures.map (·.withLoader loader) }

/-- Gives up the connection, the loader with its statements, and all
objects. -/
def disconnect (database : Database) : Engine Database := do
  match database.loader with
  | some loader => loader.clearStatements
  | none => pure ()
  announce { database with
    item := { database.item with loader := none }
    connection := none
    tables := []
    views := []
    procedures := [] }

/-- Connects to a catalog, instead of the one before. Objects that were added
without a connection stay and use the new one. -/
def connect (database : Database) (connection : ConnectionId) : Engine Database := do
  let database ← if database.connection.isSome then database.disconnect else pure database
  let loader ← World.newLoader connection
  announce { database.withLoader (some loader) with connection := some connection }

/-- The catalog that the database is connected to. -/
def catalog? (database : Database) (world : World) : Option Catalog :=
  database.connection.map world.catalog

/-- Whether there is a connection and it is alive. -/
def isConnected (database : Database) (world : World) : Bool :=
  (database.catalog? world).any (·.connected)

/-- The user of the connection. -/
def connectedUser? (database : Database) (world : World) : Option String :=
  (database.catalog? world).map (·.user)

/-- The password of the connection's user. -/
def connectedPassword? (database : Database) (world : World) : Option String :=
  (database.catalog? world).map (·.password)

/-- The loader, without which no query can be run. -/
def requireLoader (database : Database) : Except Error LoaderId :=
  match database.loader with
  | some loader => .ok loader
  | none => .error (.notConnected database.name.raw)

/-! ## Objects -/

/-- The name of a relation, and whether it is a table. -/
def readRelation (row : Row) : Except Error (String × Bool) := do
  pure (← row.trimmed 1, ← row.isNull 2)

/-- The names of all relations and of all procedures. -/
def fetchNames (loader : LoaderId) : Query (List (String × Bool) × List String) := do
  let relations ← loader.list relationsSql [] readRelation
  let procedures ← loader.list proceduresSql [] (Row.trimmed · 1)
  pure (relations, procedures)

/-- The database with fresh objects of the given names and no others. -/
def withObjects (database : Database) (loader : LoaderId)
    (names : List (String × Bool) × List String) : Engine Database := do
  let tables := (names.1.filter (·.2)).map fun r => Identifier.ofCatalog r.1
  let views := (names.1.filter (!·.2)).map fun r => Identifier.ofCatalog r.1
  let procedures := names.2.map Identifier.ofCatalog
  pure { database with
    tables := ← tables.mapM (Table.within database.id (some loader))
    views := ← views.mapM (View.within database.id (some loader))
    procedures := ← procedures.mapM (Procedure.within database.id (some loader)) }

/-- Reads which tables, views and procedures there are, and replaces the ones
of the database. -/
def loadObjects (database : Database) : Engine (Attempted Database) := do
  match database.requireLoader with
  | .error e => pure (.error e, database)
  | .ok loader =>
    match ← database.item.fetch loader fetchNames with
    | (.error e, item) => pure (.error e, { database with item })
    | (.ok names, item) => do
      let database ← withObjects { database with item } loader names
      pure (.ok (), database)

/-- Tries to load something for each of several objects, and tells for which
it succeeded. -/
def loadEach (load : σ → Engine (Attempted σ)) (objects : List σ) :
    Engine (List Bool × List σ) := do
  let attempted ← objects.mapM load
  pure (attempted.map (·.1.isOk), attempted.map (·.2))

/-- Loads the columns of all tables and views and the parameters of all
procedures, and tells for which of them it succeeded. -/
def loadMembers (database : Database) :
    Engine ((List Bool × List Bool × List Bool) × Database) := do
  let (tablesLoaded, tables) ← loadEach Table.loadColumns database.tables
  let (viewsLoaded, views) ← loadEach View.loadColumns database.views
  let (proceduresLoaded, procedures) ← loadEach Procedure.loadParameters database.procedures
  pure ((tablesLoaded, viewsLoaded, proceduresLoaded),
    { database with tables, views, procedures })

/-- Adds a table. -/
def addTable (database : Database) (name : Identifier) : Engine Database := do
  let table ← Table.within database.id database.loader name
  announce { database with tables := database.tables ++ [table] }

/-- Adds a view. -/
def addView (database : Database) (name : Identifier) : Engine Database := do
  let view ← View.within database.id database.loader name
  announce { database with views := database.views ++ [view] }

/-- Adds a procedure. -/
def addProcedure (database : Database) (name : Identifier) : Engine Database := do
  let procedure ← Procedure.within database.id database.loader name
  announce { database with procedures := database.procedures ++ [procedure] }

/-- The first table with a raw name. -/
def table? (database : Database) (name : String) : Option Table :=
  database.tables.find? (·.name.raw == name)

/-- The first view with a raw name. -/
def view? (database : Database) (name : String) : Option View :=
  database.views.find? (·.name.raw == name)

/-- The first procedure with a raw name. -/
def procedure? (database : Database) (name : String) : Option Procedure :=
  database.procedures.find? (·.name.raw == name)

/-- Runs an operation on the first element with a property, if there is
one. -/
def onFirst (p : α → Bool) (operation : α → Engine (β × α)) : List α → Engine (Option β × List α)
  | [] => pure (none, [])
  | a :: rest => do
    if p a then
      let (result, a) ← operation a
      pure (some result, a :: rest)
    else
      let (result, rest) ← onFirst p operation rest
      pure (result, a :: rest)

/-- Runs an operation on the first table with a raw name. -/
def onTable (database : Database) (name : String) (operation : Table → Engine (β × Table)) :
    Engine (Option β × Database) := do
  let (result, tables) ← onFirst (·.name.raw == name) operation database.tables
  pure (result, { database with tables })

/-- Runs an operation on the first view with a raw name. -/
def onView (database : Database) (name : String) (operation : View → Engine (β × View)) :
    Engine (Option β × Database) := do
  let (result, views) ← onFirst (·.name.raw == name) operation database.views
  pure (result, { database with views })

/-- Runs an operation on the first procedure with a raw name. -/
def onProcedure (database : Database) (name : String)
    (operation : Procedure → Engine (β × Procedure)) : Engine (Option β × Database) := do
  let (result, procedures) ← onFirst (·.name.raw == name) operation database.procedures
  pure (result, { database with procedures })

/-- Drops one facet of every object, or all facets. The objects announce what
they lose; the database itself does not change. -/
def invalidate (database : Database) (asked : Option FacetKind) : Engine Database := do
  let item := database.item.lock
  let tables ← database.tables.mapM (·.invalidate asked)
  let views ← database.views.mapM (·.invalidate asked)
  let procedures ← database.procedures.mapM (·.invalidate asked)
  pure { database with item := ← item.unlock, tables, views, procedures }

/-- The objects that an object depends on, or else those that depend on
it. -/
def dependencies (database : Database) (name : String) (kind : ItemKind) (dependsOn : Bool) :
    Query (List Dependency) := do
  let loader ← Query.ofExcept database.requireLoader
  Dependency.load loader name kind dependsOn

/-- The database in a diagnostic. -/
def diagnostic (database : Database) (world : World) : String :=
  "Database \x7b item: " ++ database.item.diagnostic ++
    ", path: " ++ Text.quoted database.path ++
    ", username: " ++ Text.quoted database.username ++
    ", connected: " ++ (if database.isConnected world then "true" else "false") ++
    ", tables: " ++ Decimal.ofNat database.tables.length ++
    ", views: " ++ Decimal.ofNat database.views.length ++
    ", procedures: " ++ Decimal.ofNat database.procedures.length ++ " \x7d"

end Database

end MetaCatalog
