import MetaCatalog.Proofs.Framework.Calls
import MetaCatalog.Workspace

/-!
# Clients

A client works in a workspace and holds transactions of loaders open by guards.
`Step` lists all that a client can do: write the script of a catalog, use a
connection, a loader or a prepared statement by hand, make objects, and call
them. `Client.Reachable` are the clients that steps of some kind lead to.
-/

namespace MetaCatalog

/-- A client with its workspace and the loaders of the guards it holds, the
newest first. -/
structure Client where
  workspace : Workspace := {}
  guards : List LoaderId := []

/-- A change of a catalog's script, or of whether it is connected. -/
inductive ScriptChange where
  | reply (reply : Reply)
  | refusePreparing (refusal : Refusal)
  | refuseExecuting (refusal : Refusal)
  | connected (on : Bool)

/-- The catalog with its script changed. -/
def ScriptChange.apply (catalog : Catalog) : ScriptChange → Catalog
  | reply r => catalog.addReply r
  | refusePreparing refusal => catalog.refusePreparing refusal
  | refuseExecuting refusal => catalog.refuseExecuting refusal
  | connected on => { catalog with connected := on }

/-- What can be done with the transaction of a connection. -/
inductive TransactionCall where
  | start
  | commit
  | rollback

/-- The catalog after a call on its transaction, unless it is refused. -/
def TransactionCall.apply (catalog : Catalog) : TransactionCall → Except Error Catalog
  | start => catalog.startTransaction
  | commit => catalog.commit
  | rollback => .ok catalog.rollback

/-- What can be done with a prepared statement. -/
inductive HandleCall where
  | bind (position : Nat) (value : Value)
  | execute
  | fetch
  | row

/-- Runs a call on a prepared statement. -/
def HandleCall.run (handle : Handle) : HandleCall → Query Unit
  | bind position value => handle.bind position value
  | execute => handle.execute
  | fetch => do
    let _ ← handle.fetch
    pure ()
  | row => do
    let _ ← handle.row
    pure ()

/-- What a client can do. Things are named as in the workspace; a step that
names nothing does nothing. -/
inductive Step where
  | openCatalog (name database user password : String)
  | script (catalog : String) (change : ScriptChange)
  /-- Calls the transaction of a connection without a loader. -/
  | direct (catalog : String) (call : TransactionCall)
  | newLoader (name catalog : String)
  /-- Keeps the loader of a database. -/
  | keepLoader (name owner : String)
  | clearStatements (loader : String)
  | prepare (name loader sql : String)
  | useHandle (handle : String) (call : HandleCall)
  /-- Takes part in the transaction of a loader, by a guard. -/
  | enter (loader : String)
  /-- Lets go of a guard. -/
  | leave (guard : Nat)
  | newDatabase (name : String) (id : Option Uuid) (raw : Identifier) (path : String)
  | connect (database catalog : String)
  | database (name : String) (call : DatabaseCall)
  | newTable (name : String) (raw : Identifier)
  | table (address : Address) (call : TableCall)
  | newView (name : String) (raw : Identifier)
  | view (address : Address) (call : ViewCall)
  | newProcedure (name : String) (raw : Identifier)
  | procedure (address : Address) (call : ProcedureCall)
  | newItem (name : String) (id : Option Uuid) (kind : ItemKind) (raw : Identifier)
      (parent : Option Uuid) (loader : String)
  | renameItem (name : String) (raw : Identifier)
  | item (name : String) (call : ItemCall)
  | newServer (name host port : String)
  | giveTo (server database : String)
  | takeFrom (server database : String)
  | server (name : String) (call : ServerCall)
  | newObserver (name : String)
  | dropObserver (name : String)

namespace Step

/-- Whether the step calls a connection's transaction without a loader. -/
def isDirect : Step → Bool
  | direct .. => true
  | _ => false

/-- Whether the step takes or drops a guard. -/
def isGuard : Step → Bool
  | enter _ => true
  | leave _ => true
  | _ => false

/-- Whether the errors of the step are not the library's own: those of a
connection, of a statement used by hand or of a connector. -/
def isForeign : Step → Bool
  | direct .. => true
  | useHandle .. => true
  | server _ call => call.isSession
  | _ => false

/-- The error of a query, if it fails. -/
def attempt (query : Query Unit) : Working (Option Error) := do
  pure (failure? (← Workspace.engine query.run))

/-- Does something with the thing under a name, if there is one. -/
def withNamed (named : Workspace → Named α) (name : String) (use : α → Working (Option Error)) :
    Working (Option Error) := do
  match (named (← get)).lookup name with
  | none => pure none
  | some a => use a

/-- The item with another identifier, if one is given. -/
def identified (id : Option Uuid) (item : Item) : Item := id.elim item item.withId

/-- What a step does in the workspace, and the error that it reports. -/
def work : Step → Working (Option Error)
  | openCatalog name raw user password => do
    let id ← Workspace.engine (World.connect { database := raw, user, password })
    modify fun s => { s with catalogs := Named.put name id s.catalogs }
    pure none
  | script catalog change =>
    withNamed (·.catalogs) catalog fun id => do
      Workspace.changeCatalog id fun c => change.apply c
      pure none
  | direct catalog call =>
    withNamed (·.catalogs) catalog fun id => attempt (Query.changeCatalog id (call.apply ·))
  | newLoader name catalog =>
    withNamed (·.catalogs) catalog fun id => do
      let loader ← Workspace.engine (World.newLoader id)
      modify fun s => { s with loaders := Named.put name loader s.loaders }
      pure none
  | keepLoader name owner => do
    let loader ← Workspace.onDatabase owner fun d => pure (d.loader, d)
    match loader.join with
    | none => pure none
    | some loader =>
      modify fun s => { s with loaders := Named.put name loader s.loaders }
      pure none
  | clearStatements loader =>
    withNamed (·.loaders) loader fun id => do
      Workspace.engine id.clearStatements
      pure none
  | prepare name loader sql =>
    withNamed (·.loaders) loader fun id => do
      match ← Workspace.engine (id.prepare sql).run with
      | .error e => pure (some e)
      | .ok handle =>
        modify fun s => { s with handles := Named.put name handle s.handles }
        pure none
  | useHandle handle call => withNamed (·.handles) handle fun h => attempt (call.run h)
  | enter _ | leave _ => pure none
  | newDatabase name id raw path => do
    let made ← Workspace.engine (Database.register raw path)
    Workspace.addDatabase name { made with item := identified id made.item }
    pure none
  | connect name catalog =>
    withNamed (·.catalogs) catalog fun id => do
      pure (← Workspace.onDatabase name fun d => changing (d.connect id)).join
  | database name call => do pure (← Workspace.onDatabase name call.run).join
  | newTable name raw => do
    let made ← Workspace.engine (Table.free raw)
    modify fun s => { s with tables := Named.put name made s.tables }
    pure none
  | table address call => do pure (← Workspace.onTable address call.run).join
  | newView name raw => do
    let made ← Workspace.engine (View.free raw)
    modify fun s => { s with views := Named.put name made s.views }
    pure none
  | view address call => do pure (← Workspace.onView address call.run).join
  | newProcedure name raw => do
    let made ← Workspace.engine (Procedure.free raw)
    modify fun s => { s with procedures := Named.put name made s.procedures }
    pure none
  | procedure address call => do pure (← Workspace.onProcedure address call.run).join
  | newItem name id kind raw parent loader => do
    let made ← Workspace.engine (Item.fresh kind raw)
    modify fun s =>
      let loader := parent.bind fun _ => s.loaders.lookup loader
      { s with items := Named.put name { identified id made with parent, loader } s.items }
    pure none
  | renameItem name raw => do
    let _ ← Workspace.onFreeItem name fun item => changing (item.rename raw)
    pure none
  | item name call => do pure (← Workspace.onFreeItem name fun i => changing (call.run i)).join
  | newServer name host port => do
    let made ← Workspace.engine (Server.register host port)
    modify fun s => { s with servers := Named.put name made s.servers }
    pure none
  | giveTo owner name =>
    withNamed (·.servers) owner fun _ =>
      withNamed (·.databases) name fun d => do
        Workspace.giveTo owner name d
        pure none
  | takeFrom owner name => do
    match (← get).databaseId? name with
    | none => pure none
    | some id =>
      let _ ← Workspace.takeFrom owner id name
      pure none
  | server name call => do pure (← Workspace.onServer name call.run).join
  | newObserver name => do
    Workspace.addObserver name
    pure none
  | dropObserver name => do
    let _ ← Workspace.dropObserver name
    pure none

/-- Performs a step. The result is the error that it reports, if any. -/
def perform (client : Client) (step : Step) : Option Error × Client :=
  match step with
  | enter name =>
    match client.workspace.loaders.lookup name with
    | none => (none, client)
    | some loader =>
      match Workspace.engine loader.enter.run client.workspace with
      | (.error e, workspace) => (some e, { client with workspace })
      | (.ok (), workspace) => (none, { workspace, guards := loader :: client.guards })
  | leave guard =>
    match client.guards[guard]? with
    | none => (none, client)
    | some loader =>
      let (_, workspace) := Workspace.engine loader.leave client.workspace
      (none, { workspace, guards := client.guards.eraseIdx guard })
  | step =>
    let (error, workspace) := step.work client.workspace
    (error, { client with workspace })

end Step

namespace Client

/-- The world that a client works in. -/
def world (client : Client) : World := client.workspace.world

/-- A client with nothing. Its identifiers are drawn with the given seed. -/
def start (seed : BitVec 64) : Client := { workspace := { world := { seed } } }

/-- The clients that steps of a kind lead to. Which steps are of the kind may
depend on the client. -/
inductive Reachable (permits : Client → Step → Prop) : Client → Prop where
  | start (seed : BitVec 64) : Reachable permits (start seed)
  | step {client : Client} (step : Step) : Reachable permits client → permits client step →
      Reachable permits (step.perform client).2

/-- The client after a few steps. -/
def after (client : Client) (steps : List Step) : Client :=
  steps.foldl (fun client step => (step.perform client).2) client

theorem Reachable.after {permits : Client → Step → Prop} {client : Client} {steps : List Step}
    (h : Reachable permits client) (hp : ∀ step ∈ steps, ∀ client, permits client step) :
    Reachable permits (client.after steps) := by
  induction steps generalizing client with
  | nil => exact h
  | cons step rest ih =>
    refine ih (.step step h (hp step List.mem_cons_self client)) fun s hs => ?_
    exact hp s (List.mem_cons_of_mem step hs)

end Client

end MetaCatalog
