import MetaCatalog.Database.Links
import MetaCatalog.History.Archive
import MetaCatalog.Node

/-!
# Workspaces

A workspace keeps objects under names that its user has chosen. A database is
either free or owned by a server; it is found by its name in both cases. An
`Address` says where an object is found, and operations on objects run in
place.
-/

namespace MetaCatalog

/-- Things under names. -/
abbrev Named (α : Type) := List (String × α)

namespace Named

/-- Puts something under a name, instead of what was there. -/
def put (name : String) (value : α) (named : Named α) : Named α :=
  (name, value) :: named.filter (·.1 != name)

/-- Removes a name. -/
def drop (name : String) (named : Named α) : Named α := named.filter (·.1 != name)

end Named

/-- Objects under names. -/
structure Workspace where
  world : World := {}
  catalogs : Named ConnectionId := []
  loaders : Named LoaderId := []
  handles : Named Handle := []
  /-- The databases that no server owns. -/
  databases : Named Database := []
  /-- The server and the identifier of each database that a server owns. -/
  owned : Named (String × Uuid) := []
  tables : Named Table := []
  views : Named View := []
  procedures : Named Procedure := []
  items : Named Item := []
  servers : Named Server := []
  connectors : Named Connector := []
  /-- The observers that are held. -/
  observers : Named ObserverId := []
  /-- The names of all observers there ever were. -/
  observerNames : List String := []
  /-- How each subject was addressed last. -/
  labels : List (Uuid × String) := []
  /-- The number of deliveries that have been looked at. -/
  noticed : Nat := 0
  archive : Archive := {}
  stores : Named StoreId := []
  histories : Named (StoreId × History) := []
  registries : Named OpenRegistry := []

/-- A computation in a workspace. -/
abbrev Working := StateM Workspace

/-- Where an object is found. -/
structure Address where
  server : Option String := none
  database : Option String := none
  table : Option String := none
  view : Option String := none
  procedure : Option String := none
  item : Option String := none

/-- The address as text. -/
def Address.label (address : Address) : String :=
  let step (key : String) (name : Option String) : Option String := name.map (key ++ ":" ++ ·)
  Text.joinWith "/" ([step "server" address.server, step "db" address.database,
    step "table" address.table, step "view" address.view, step "procedure" address.procedure,
    step "item" address.item].filterMap id)

namespace Workspace

/-- Runs a computation in the world of the workspace. -/
def engine (computation : Engine α) : Working α := fun workspace =>
  let (result, world) := computation.run workspace.world
  (result, { workspace with world })

/-- Changes the catalog of a connection. -/
def changeCatalog (id : ConnectionId) (change : Catalog → Catalog) : Working Unit :=
  modify fun workspace =>
    let world := workspace.world
    { workspace with world := world.setCatalog id (change (world.catalog id)) }

/-- Changes the archive. -/
def changeArchive (change : Archive → Archive) : Working Unit :=
  modify fun workspace => { workspace with archive := change workspace.archive }

/-- Runs an operation on the thing under a name, if there is one. -/
def onNamed (get : Workspace → Named σ) (set : Named σ → Workspace → Workspace) (name : String)
    (operation : σ → Engine (α × σ)) : Working (Option α) := do
  match (get (← MonadState.get)).lookup name with
  | none => pure none
  | some object =>
    let (result, object) ← engine (operation object)
    modify fun workspace => set (Named.put name object (get workspace)) workspace
    pure (some result)

/-- Runs an operation on a server. -/
def onServer (name : String) (operation : Server → Engine (α × Server)) : Working (Option α) :=
  onNamed (·.servers) (fun servers workspace => { workspace with servers }) name operation

/-- Runs an operation on a free item. -/
def onFreeItem (name : String) (operation : Item → Engine (α × Item)) : Working (Option α) :=
  onNamed (·.items) (fun items workspace => { workspace with items }) name operation

/-- Runs an operation on a database, free or owned. -/
def onDatabase (name : String) (operation : Database → Engine (α × Database)) :
    Working (Option α) := do
  let workspace ← get
  if (workspace.databases.lookup name).isSome then
    onNamed (·.databases) (fun databases workspace => { workspace with databases }) name operation
  else
    match workspace.owned.lookup name with
    | none => pure none
    | some (server, id) => do pure (← onServer server (·.onDatabase id operation)).join

/-- Runs an operation on a table of a database, or on a free one. -/
def onTable (address : Address) (operation : Table → Engine (α × Table)) : Working (Option α) :=
  match address.database, address.table with
  | _, none => pure none
  | some database, some name => do
    pure (← onDatabase database (·.onTable name operation)).join
  | none, some name =>
    onNamed (·.tables) (fun tables workspace => { workspace with tables }) name operation

/-- Runs an operation on a view of a database, or on a free one. -/
def onView (address : Address) (operation : View → Engine (α × View)) : Working (Option α) :=
  match address.database, address.view with
  | _, none => pure none
  | some database, some name => do
    pure (← onDatabase database (·.onView name operation)).join
  | none, some name =>
    onNamed (·.views) (fun views workspace => { workspace with views }) name operation

/-- Runs an operation on a procedure of a database, or on a free one. -/
def onProcedure (address : Address) (operation : Procedure → Engine (α × Procedure)) :
    Working (Option α) :=
  match address.database, address.procedure with
  | _, none => pure none
  | some database, some name => do
    pure (← onDatabase database (·.onProcedure name operation)).join
  | none, some name =>
    onNamed (·.procedures) (fun procedures workspace => { workspace with procedures }) name
      operation

/-- An operation on nodes as one on objects of one kind. -/
def throughNode (wrap : σ → Node) (unwrap? : Node → Option σ)
    (operation : Node → Engine (α × Node)) (object : σ) : Engine (α × σ) := do
  let (result, node) ← operation (wrap object)
  pure (result, (unwrap? node).getD object)

/-- Runs an operation on a node. -/
def onNode (address : Address) (operation : Node → Engine (α × Node)) : Working (Option α) :=
  match address with
  | { server := some name, .. } => onServer name (throughNode .server Node.server? operation)
  | { table := some _, .. } => onTable address (throughNode .table Node.table? operation)
  | { view := some _, .. } => onView address (throughNode .view Node.view? operation)
  | { procedure := some _, .. } =>
    onProcedure address (throughNode .procedure Node.procedure? operation)
  | { database := some name, .. } =>
    onDatabase name (throughNode .database Node.database? operation)
  | _ => pure none

/-- Runs an operation on the item of a node, or on a free item. -/
def onItem (address : Address) (operation : Item → Engine (α × Item)) : Working (Option α) :=
  match address.item with
  | some name => onFreeItem name operation
  | none =>
    onNode address fun node => do
      let (result, item) ← operation node.item
      pure (result, node.withItem item)

/-! ## Databases and servers -/

/-- Puts a free database under a name. -/
def addDatabase (name : String) (database : Database) : Working Unit :=
  modify fun workspace => { workspace with
    databases := Named.put name database workspace.databases
    owned := Named.drop name workspace.owned }

/-- Gives a database to a server. -/
def giveTo (server : String) (name : String) (database : Database) : Working Unit := do
  let _ ← onServer server fun s => do pure ((), ← s.addDatabase database)
  modify fun workspace => { workspace with
    databases := Named.drop name workspace.databases
    owned := Named.put name (server, database.id) workspace.owned }

/-- The identifier of the database under a name. It is known also if the database is gone together
with its server. -/
def databaseId? (workspace : Workspace) (name : String) : Option Uuid :=
  match workspace.databases.lookup name with
  | some database => some database.id
  | none => (workspace.owned.lookup name).map (·.2)

/-- Takes the database with an identifier from a server, if there is such a server. Says whether
the database was there, and puts it under a name if so. -/
def takeFrom (server : String) (id : Uuid) (name : String) : Working (Option Bool) := do
  match ← onServer server (·.removeDatabase id) with
  | none => pure none
  | some none => pure (some false)
  | some (some database) =>
    addDatabase name database
    pure (some true)

/-! ## Observers -/

/-- Holds a new observer under a name and lets go of the one before. -/
def addObserver (name : String) : Working Unit :=
  modify fun workspace =>
    let id := workspace.observerNames.length
    let before := workspace.observers.lookup name
    let alive := workspace.world.observers.filter (some · != before)
    { workspace with
      observers := Named.put name id workspace.observers
      observerNames := workspace.observerNames ++ [name]
      world := { workspace.world with observers := alive ++ [id] } }

/-- Lets go of an observer and says whether it was held. -/
def dropObserver (name : String) : Working Bool := do
  match (← get).observers.lookup name with
  | none => pure false
  | some id =>
    modify fun workspace => { workspace with
      observers := Named.drop name workspace.observers
      world := { workspace.world with
        observers := workspace.world.observers.filter (· != id) } }
    pure true

/-- Changes what an observer is attached to. The result is the number of
observers that the item has then. -/
def attach (address : Address) (change : Subject → Subject) : Working (Option Nat) := do
  let attached ← onItem address fun item => do
    let item := { item with subject := change item.subject }
    pure ((item.id, item.subject.observerCount (← get).isAlive), item)
  match attached with
  | none => pure none
  | some (id, count) =>
    modify fun workspace => { workspace with
      labels := (id, address.label) :: workspace.labels.filter (·.1 != id) }
    pure (some count)

/-- The updates of observers since they were looked at last: the name of the
observer, and how the subject was addressed. -/
def notices : Working (List (String × String)) := fun workspace =>
  let label (subject : Uuid) : String := (workspace.labels.lookup subject).getD ""
  let notice (delivery : Delivery) (observer : ObserverId) : String × String :=
    (workspace.observerNames.getD observer "", label delivery.subject)
  ((workspace.world.deliveries.drop workspace.noticed).flatMap fun delivery =>
      delivery.receivers.map (notice delivery),
    { workspace with noticed := workspace.world.deliveries.length })

/-! ## Histories -/

/-- Opens a registry under a name, and closes the one before. -/
def openRegistry (name : String) (store : StoreId) : Working Unit := do
  let before := (← get).registries.lookup name
  changeArchive fun archive => before.elim archive archive.close
  modify fun workspace => { workspace with
    registries := Named.put name { store } workspace.registries }

/-- Closes a registry and says whether there was one. -/
def closeRegistry (name : String) : Working Bool := do
  match (← get).registries.lookup name with
  | none => pure false
  | some opened =>
    changeArchive (·.close opened)
    modify fun workspace => { workspace with
      registries := Named.drop name workspace.registries }
    pure true

/-- Uses the history that a registry has for a scope. -/
def useScope (opened : OpenRegistry) (scope : HistoryScope) (use : HistoryUse α) :
    Working (α × OpenRegistry) := fun workspace =>
  let (result, opened, archive) := workspace.archive.useScope opened scope use
  ((result, opened), { workspace with archive })

end Workspace

end MetaCatalog
