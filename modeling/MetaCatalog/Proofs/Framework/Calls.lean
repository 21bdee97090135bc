import MetaCatalog.Database.Links
import MetaCatalog.Procedure.Script
import MetaCatalog.Server
import MetaCatalog.Table.Script

/-!
# Calls

What a client may ask of an item, a table, a view, a procedure, a database or
a server, as data. A call runs in the world on one object; it returns the
error it reports, if any, and the object afterwards. What else a call returns
does not matter for what later calls do.
-/

namespace MetaCatalog

/-- The error of an outcome. -/
def failure? (outcome : Except Error α) : Option Error :=
  match outcome with
  | .ok _ => none
  | .error e => some e

/-- An operation that reports its error. -/
def reporting (operation : Engine (Except Error α × σ)) : Engine (Option Error × σ) := do
  let (outcome, object) ← operation
  pure (failure? outcome, object)

/-- An operation that reports no error. -/
def quietly (operation : Engine (α × σ)) : Engine (Option Error × σ) := do
  let (_, object) ← operation
  pure (none, object)

/-- A change that reports no error. -/
def changing (operation : Engine σ) : Engine (Option Error × σ) := do
  pure (none, ← operation)

/-! ## Items -/

/-- What may be asked of any item. -/
inductive ItemCall where
  | announce
  | lock
  | unlock
  | attach (observer : ObserverId)
  | detach (observer : ObserverId)

/-- Runs a call on an item. -/
def ItemCall.run (item : Item) : ItemCall → Engine Item
  | announce => item.announce
  | lock => pure item.lock
  | unlock => item.unlock
  | attach observer => pure { item with subject := item.subject.attach observer }
  | detach observer => pure { item with subject := item.subject.detach observer }

/-! ## Tables -/

namespace Table

/-- Loads one facet. A table has nothing to load for facets that tables lack. -/
def load (table : Table) : FacetKind → Engine (Attempted Table)
  | .columns => table.loadColumns
  | .primaryKey => table.loadPrimaryKey
  | .foreignKeys => table.loadForeignKeys
  | .checkConstraints => table.loadCheckConstraints
  | .uniqueConstraints => table.loadUniqueConstraints
  | .indices => table.loadIndices
  | .externalPath => table.loadExternalPath
  | .description => table.loadDescription
  | .source | .parameters | .privileges => pure (.ok (), table)

/-- Reads one facet. -/
def read (table : Table) : FacetKind → Engine (Option Error × Table)
  | .columns => quietly table.readColumns
  | .primaryKey => quietly table.readPrimaryKey
  | .foreignKeys => quietly table.readForeignKeys
  | .checkConstraints => quietly table.readCheckConstraints
  | .uniqueConstraints => quietly table.readUniqueConstraints
  | .indices => quietly table.readIndices
  | .externalPath => quietly table.readExternalPath
  | .description => quietly table.readDescription
  | .source | .parameters | .privileges => pure (none, table)

end Table

/-- What may be asked of a table. -/
inductive TableCall where
  | load (facet : FacetKind)
  | read (facet : FacetKind)
  | findColumn (name : String)
  | insertStatement
  | procedureTemplate (usualCharset : String)
  | invalidate (asked : Option FacetKind)
  | invalidateIndices (name : Option String)
  | item (call : ItemCall)

/-- Runs a call on a table. -/
def TableCall.run (table : Table) : TableCall → Engine (Option Error × Table)
  | load facet => reporting (table.load facet)
  | read facet => table.read facet
  | findColumn name => quietly (table.findColumn name)
  | insertStatement => quietly table.insertStatement
  | procedureTemplate usualCharset => quietly (table.procedureTemplate usualCharset)
  | invalidate asked => changing (table.invalidate asked)
  | invalidateIndices name => changing (table.invalidateIndices name)
  | item call => changing (do pure (table.withItem (← call.run table.item)))

/-! ## Views -/

namespace View

/-- Loads one facet. A view has nothing to load for facets that views lack. -/
def load (view : View) : FacetKind → Engine (Attempted View)
  | .columns => view.loadColumns
  | .source => view.loadSource
  | .description => view.loadDescription
  | .primaryKey | .foreignKeys | .checkConstraints | .uniqueConstraints | .indices
  | .externalPath | .parameters | .privileges => pure (.ok (), view)

/-- Reads one facet. -/
def read (view : View) : FacetKind → Engine (Option Error × View)
  | .columns => quietly view.readColumns
  | .source => quietly view.readSource
  | .description => quietly view.readDescription
  | .primaryKey | .foreignKeys | .checkConstraints | .uniqueConstraints | .indices
  | .externalPath | .parameters | .privileges => pure (none, view)

end View

/-- What may be asked of a view. -/
inductive ViewCall where
  | load (facet : FacetKind)
  | read (facet : FacetKind)
  | createStatement
  | invalidate (asked : Option FacetKind)
  | item (call : ItemCall)

/-- Runs a call on a view. -/
def ViewCall.run (view : View) : ViewCall → Engine (Option Error × View)
  | load facet => reporting (view.load facet)
  | read facet => view.read facet
  | createStatement => reporting view.createStatement
  | invalidate asked => changing (view.invalidate asked)
  | item call => changing (do pure (view.withItem (← call.run view.item)))

/-! ## Procedures -/

namespace Procedure

/-- Loads one facet. A procedure has nothing to load for facets that procedures
lack. -/
def load (procedure : Procedure) : FacetKind → Engine (Attempted Procedure)
  | .parameters => procedure.loadParameters
  | .source => procedure.loadSource
  | .privileges => procedure.loadPrivileges
  | .description => procedure.loadDescription
  | .columns | .primaryKey | .foreignKeys | .checkConstraints | .uniqueConstraints | .indices
  | .externalPath => pure (.ok (), procedure)

/-- Reads one facet. -/
def read (procedure : Procedure) : FacetKind → Engine (Option Error × Procedure)
  | .parameters => quietly procedure.readParameters
  | .source => quietly procedure.readSource
  | .privileges => quietly procedure.readPrivileges
  | .description => quietly procedure.readDescription
  | .columns | .primaryKey | .foreignKeys | .checkConstraints | .uniqueConstraints | .indices
  | .externalPath => pure (none, procedure)

end Procedure

/-- What may be asked of a procedure. -/
inductive ProcedureCall where
  | load (facet : FacetKind)
  | read (facet : FacetKind)
  | checkParameters (force : Bool)
  | isSelectable
  | selectStatement (withColumns : Bool)
  | executeStatement
  | definition
  | alterStatement
  | invalidate (asked : Option FacetKind)
  | item (call : ItemCall)

/-- Runs a call on a procedure. -/
def ProcedureCall.run (procedure : Procedure) : ProcedureCall → Engine (Option Error × Procedure)
  | load facet => reporting (procedure.load facet)
  | read facet => procedure.read facet
  | checkParameters force => quietly (procedure.checkParameters force)
  | isSelectable => quietly procedure.isSelectable
  | selectStatement withColumns => quietly (procedure.selectStatement withColumns)
  | executeStatement => quietly procedure.executeStatement
  | definition => quietly procedure.definition
  | alterStatement => reporting procedure.alterStatement
  | invalidate asked => changing (procedure.invalidate asked)
  | item call => changing (do pure (procedure.withItem (← call.run procedure.item)))

/-! ## Databases -/

/-- What may be asked of a database, apart from connecting it. -/
inductive DatabaseCall where
  | disconnect
  | setLogin (username password : String)
  | loadObjects
  | loadMembers
  | addTable (name : Identifier)
  | addView (name : Identifier)
  | addProcedure (name : Identifier)
  | dependencies (name : String) (kind : ItemKind) (dependsOn : Bool)
  | links (names : List String) (name : String)
  | invalidate (asked : Option FacetKind)
  | item (call : ItemCall)

/-- Runs a call on a database. -/
def DatabaseCall.run (database : Database) : DatabaseCall → Engine (Option Error × Database)
  | disconnect => changing database.disconnect
  | setLogin username password => changing (database.setLogin username password)
  | loadObjects => reporting database.loadObjects
  | loadMembers => quietly database.loadMembers
  | addTable name => changing (database.addTable name)
  | addView name => changing (database.addView name)
  | addProcedure name => changing (database.addProcedure name)
  | dependencies name kind dependsOn =>
    reporting do pure (← (database.dependencies name kind dependsOn).run, database)
  | links names name => reporting (database.links names name)
  | invalidate asked => changing (database.invalidate asked)
  | item call => changing (do pure { database with item := ← call.run database.item })

/-! ## Servers -/

/-- What may be asked of a server. -/
inductive ServerCall where
  | rename (name : Identifier)
  | setHost (host : String)
  | setPort (port : String)
  | rememberLogin (username password : String)
  | rememberAdministrator (password : String)
  | lockChildren
  | unlockChildren
  | disconnectAll
  | invalidate (asked : Option FacetKind)
  | openSession (connector : Connector) (indicator : Option Indicator) (asAdministrator : Bool)
  | readAccounts (connector : Connector) (indicator : Option Indicator)
  | item (call : ItemCall)

/-- Whether the call opens an administrative session, whose errors are those of
a connector. -/
def ServerCall.isSession : ServerCall → Bool
  | openSession .. => true
  | readAccounts .. => true
  | _ => false

/-- Runs a call on a server. -/
def ServerCall.run (server : Server) : ServerCall → Engine (Option Error × Server)
  | rename name => changing (server.rename name)
  | setHost host => changing (server.setHost host)
  | setPort port => changing (server.setPort port)
  | rememberLogin username password => changing (pure (server.rememberLogin username password))
  | rememberAdministrator password => changing (pure (server.rememberAdministrator password))
  | lockChildren => changing (pure server.lockChildren)
  | unlockChildren => changing server.unlockChildren
  | disconnectAll => changing server.disconnectAll
  | invalidate asked => changing (server.invalidate asked)
  | openSession connector indicator asAdministrator => reporting do
    let run := server.openSession (← get) connector indicator asAdministrator
    pure (run.outcome, run.server)
  | readAccounts connector indicator => reporting do
    let run := server.readAccounts (← get) connector indicator
    pure (run.outcome, run.server)
  | item call => changing (do pure { server with item := ← call.run server.item })

end MetaCatalog
