import MetaCatalog.Database
import MetaCatalog.History.Policy

/-!
# The scope of a history

A history belongs to everyone, to all databases of one name, or to one
database. Its scope gives the name under which it is stored.
-/

namespace MetaCatalog

/-- To whom a history belongs. -/
inductive HistoryScope where
  | everyone
  | databaseName (name : String)
  | database (id : Uuid)
  deriving DecidableEq, Inhabited

namespace HistoryScope

/-- The scope for statements of a database. -/
def forDatabase (granularity : Granularity) (database : Database) : HistoryScope :=
  match granularity with
  | .shared => everyone
  | .perDatabaseName => databaseName database.name.raw
  | .perDatabase => .database database.id

/-- The name under which a history is stored. -/
def storageName : HistoryScope → String
  | everyone => ""
  | databaseName name => "DATABASENAME" ++ name
  | database id => "DATABASE" ++ id.text

end HistoryScope

end MetaCatalog
