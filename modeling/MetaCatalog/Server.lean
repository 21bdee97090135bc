import MetaCatalog.Database
import MetaCatalog.Service.Resolution

/-!
# Servers

A server owns databases and remembers logins of its administrative service.
-/

namespace MetaCatalog

/-- A server with the databases registered on it. -/
structure Server where
  item : Item
  host : String
  port : String
  databases : List Database := []
  known : KnownLogins := {}
  /-- The accounts that were read last. -/
  accounts : List Account := []
  deriving Inhabited

namespace Server

/-- A server that is named after its host. -/
def register (host port : String) : Engine Server := do
  pure { item := ← Item.fresh .server (.ofCatalog host), host, port }

/-- The identifier of the server. -/
def id (server : Server) : Uuid := server.item.id

/-- The name of the server. -/
def name (server : Server) : Identifier := server.item.name

/-- Announces a change of the server. -/
def announce (server : Server) : Engine Server := do
  pure { server with item := ← server.item.announce }

/-- Gives the server another name. -/
def rename (server : Server) (name : Identifier) : Engine Server := do
  pure { server with item := ← server.item.rename name }

/-- Changes the host. -/
def setHost (server : Server) (host : String) : Engine Server := announce { server with host }

/-- Changes the port. -/
def setPort (server : Server) (port : String) : Engine Server := announce { server with port }

/-- A host with its port, if both are given; else the host alone. -/
def endpointOf (host port : String) : String :=
  if host.isEmpty || port.isEmpty then host else host ++ "/" ++ port

/-- Where the server is reached. -/
def endpoint (server : Server) : String := endpointOf server.host server.port

/-! ## Databases -/

/-- Adds a database. -/
def addDatabase (server : Server) (database : Database) : Engine Server :=
  announce { server with
    databases := server.databases ++ [database.withServer (some server.id)] }

/-- Removes the first database with an identifier and hands it out, if there is
one. -/
def removeDatabase (server : Server) (id : Uuid) : Engine (Option Database × Server) :=
  match server.databases.find? (·.id == id) with
  | none => pure (none, server)
  | some database => do
    let server ← announce { server with databases := server.databases.eraseP (·.id == id) }
    pure (some (database.withServer none), server)

/-- Runs an operation on the first database with an identifier. -/
def onDatabase (server : Server) (id : Uuid) (operation : Database → Engine (β × Database)) :
    Engine (Option β × Server) := do
  let (result, databases) ← Database.onFirst (·.id == id) operation server.databases
  pure (result, { server with databases })

/-- Whether a database of the server is connected. -/
def hasConnectedDatabase (server : Server) (world : World) : Bool :=
  server.databases.any (·.isConnected world)

/-- Disconnects every database. -/
def disconnectAll (server : Server) : Engine Server := do
  pure { server with databases := ← server.databases.mapM (·.disconnect) }

/-- Holds back the announcements of every database. -/
def lockChildren (server : Server) : Server :=
  { server with databases := server.databases.map fun d => { d with item := d.item.lock } }

/-- Releases a lock of every database. -/
def unlockChildren (server : Server) : Engine Server := do
  pure { server with
    databases := ← server.databases.mapM fun d => do pure { d with item := ← d.item.unlock } }

/-- Drops one facet of every object of every database, or all facets. -/
def invalidate (server : Server) (asked : Option FacetKind) : Engine Server := do
  pure { server with databases := ← server.databases.mapM (·.invalidate asked) }

/-! ## Administrative sessions -/

/-- Remembers a login that works. -/
def rememberLogin (server : Server) (username password : String) : Server :=
  { server with known := { server.known with username, password } }

/-- Remembers the password of the administrator. -/
def rememberAdministrator (server : Server) (password : String) : Server :=
  { server with known := { server.known with administratorPassword := password } }

/-- Whether a login may be tried. -/
def eligible (asAdministrator : Bool) (username : String) : Bool :=
  !asAdministrator || isAdministrator username

/-- The login of a database's connection, unless it is passed over. -/
def connectedCandidate (world : World) (asAdministrator : Bool) (database : Database) :
    Option Candidate :=
  let username := (database.connectedUser? world).getD ""
  if database.isConnected world && eligible asAdministrator username then
    some {
      username
      password := (database.connectedPassword? world).getD ""
      source := database.name.raw }
  else none

/-- The stored login of a database without a connection, unless it is passed
over. -/
def storedCandidate (world : World) (asAdministrator : Bool) (database : Database) :
    Option Candidate :=
  if !database.isConnected world && !database.password.isEmpty &&
      eligible asAdministrator database.username then
    some {
      username := database.username
      password := database.password
      source := database.name.raw }
  else none

/-- What came of opening a session, what happened meanwhile, and the server
afterwards. -/
structure ServiceRun (α : Type) where
  outcome : Except Error α
  events : List ServiceEvent
  server : Server

/-- Opens an administrative session. -/
def openSession (server : Server) (world : World) (connector : Connector)
    (indicator : Option Indicator) (asAdministrator : Bool) : ServiceRun Session :=
  let resolver : Resolver := { endpoint := server.endpoint, connector, indicator, asAdministrator }
  let connected := server.databases.map (connectedCandidate world asAdministrator)
  let stored := server.databases.map (storedCandidate world asAdministrator)
  let (outcome, resolution) := (resolver.resolve connected stored).run.run { known := server.known }
  { outcome, events := resolution.events, server := { server with known := resolution.known } }

/-- Reads the accounts of the server, sorted by user name, as its
administrator. None are remembered if that fails. -/
def readAccounts (server : Server) (world : World) (connector : Connector)
    (indicator : Option Indicator) : ServiceRun (List Account) :=
  let run := openSession { server with accounts := [] } world connector indicator true
  match run.outcome.bind (·.accounts) with
  | .error e => { run with outcome := .error e }
  | .ok accounts =>
    let accounts := Account.sort accounts
    { run with outcome := .ok accounts, server := { run.server with accounts } }

end Server

end MetaCatalog
