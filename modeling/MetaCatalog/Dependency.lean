import MetaCatalog.Item

/-!
# Dependencies

The catalog records which object depends on which. A dependency names the
object at the other end and its kind; rows about kinds that items do not have
are passed over.
-/

namespace MetaCatalog

/-- One end of a dependency. -/
structure Dependency where
  name : String
  kind : ItemKind
  deriving DecidableEq, Inhabited

namespace Dependency

/-- The query for the objects that an object depends on. -/
def dependsOnSql : String :=
  "select distinct d.rdb$depended_on_name, d.rdb$depended_on_type from rdb$dependencies d " ++
  "where d.rdb$dependent_name = ? and d.rdb$dependent_type = ? order by " ++
  "d.rdb$depended_on_type, d.rdb$depended_on_name"

/-- The query for the objects that depend on an object. -/
def dependentsSql : String :=
  "select distinct d.rdb$dependent_name, d.rdb$dependent_type from rdb$dependencies d " ++
  "where d.rdb$depended_on_name = ? and d.rdb$depended_on_type = ? order by " ++
  "d.rdb$dependent_type, d.rdb$dependent_name"

/-- Adds the dependency in a row, if its kind is known. -/
def step (dependencies : List Dependency) (row : Row) : Except Error (List Dependency) := do
  match ItemKind.ofCode? (← row.integer 2 (-1)) with
  | some kind => pure (dependencies ++ [{ name := ← row.trimmed 1, kind }])
  | none => pure dependencies

/-- The objects that an object depends on, or else those that depend on it. -/
def load (loader : LoaderId) (name : String) (kind : ItemKind) (dependsOn : Bool) :
    Query (List Dependency) :=
  match kind.code? with
  | none => pure []
  | some code =>
    loader.withTransaction
      (loader.fold (if dependsOn then dependsOnSql else dependentsSql)
        [.text name, .int64 code] step [])

end Dependency

end MetaCatalog
