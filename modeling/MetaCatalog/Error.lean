/-!
# Errors

What can go wrong with a catalog, an item or the settings, as a cause and the
words that go with it. `Error.message` is the text shown for an error.
-/

namespace MetaCatalog

/-- A failed operation. -/
inductive Error where
  /-- The connection or its transaction failed. -/
  | connection (reason : String)
  /-- An item was to be loaded without belonging to a database. -/
  | missingContext (item : String)
  /-- Something the operation needs could not be loaded. -/
  | preconditionNotMet (reason : String)
  /-- The server refused to prepare a query. -/
  | prepare (reason : String)
  /-- The server refused to run a query or a read of its rows failed. -/
  | query (reason : String)
  /-- No object has the name. -/
  | notFound (object : String)
  /-- Something was not set up. -/
  | configuration (reason : String)
  /-- A file could not be read or written. -/
  | io (reason : String)
  /-- The user gave up. -/
  | cancelled
  /-- Anything else. -/
  | other (reason : String)
  deriving DecidableEq, Inhabited

namespace Error

/-- The text shown for an error. -/
def message : Error → String
  | connection reason => "Connection error: " ++ reason
  | missingContext item => item ++ ": database not set"
  | preconditionNotMet reason => reason
  | prepare reason => "Prepare error: " ++ reason
  | query reason => "Query error: " ++ reason
  | notFound object => "Not found: " ++ object
  | configuration reason => "Configuration error: " ++ reason
  | io reason => "IO error: " ++ reason
  | cancelled => "Cancelled"
  | other reason => reason

/-- The name of an error's kind. -/
def kind : Error → String
  | connection _ => "Connection"
  | missingContext _ => "MissingContext"
  | preconditionNotMet _ => "PreconditionNotMet"
  | prepare _ => "Prepare"
  | query _ => "Query"
  | notFound _ => "NotFound"
  | configuration _ => "Configuration"
  | io _ => "Io"
  | cancelled => "Cancelled"
  | other _ => "Other"

/-- The error of a kind, for a reason. -/
def ofKind (kind reason : String) : Error :=
  match kind with
  | "Connection" => connection reason
  | "MissingContext" => missingContext reason
  | "PreconditionNotMet" => preconditionNotMet reason
  | "Prepare" => prepare reason
  | "Query" => query reason
  | "NotFound" => notFound reason
  | "Configuration" => configuration reason
  | "Io" => io reason
  | "Cancelled" => cancelled
  | _ => other reason

/-- Whether the connection or its transaction failed. -/
def isConnection : Error → Bool
  | connection _ => true
  | _ => false

/-- There is no connection to the named database. -/
def notConnected (database : String) : Error := connection (database ++ ": not connected")

end Error

end MetaCatalog
