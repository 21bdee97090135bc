import MetaCatalog.History
import MetaCatalog.History.Scope

/-!
# The registry of histories

A registry hands out the history of each scope. It loads a history when that
is first asked for, keeps it from then on, and saves all of them when it is
flushed or closed.
-/

namespace MetaCatalog

/-- The histories in use, each under its scope. -/
structure HistoryRegistry where
  histories : List (HistoryScope × History) := []
  deriving Inhabited

namespace HistoryRegistry

/-- The number of histories in use. -/
def size (registry : HistoryRegistry) : Nat := registry.histories.length

/-- Replaces the history of a scope, which is in use. -/
def replace (scope : HistoryScope) (history : History) :
    List (HistoryScope × History) → List (HistoryScope × History)
  | [] => []
  | (s, h) :: rest =>
    if s = scope then (s, history) :: rest else (s, h) :: replace scope history rest

/-- The history of a scope, and the registry with it in use. -/
def use (registry : HistoryRegistry) (settings : Settings) (scope : HistoryScope) :
    History × HistoryRegistry :=
  match registry.histories.lookup scope with
  | some history => (history, registry)
  | none =>
    let history := History.load settings scope.storageName
    (history, { registry with histories := registry.histories ++ [(scope, history)] })

/-- Runs an operation on the history of a scope. -/
def onScope (registry : HistoryRegistry) (settings : Settings) (scope : HistoryScope)
    (operation : History → α × History) : α × HistoryRegistry :=
  let (history, registry) := registry.use settings scope
  let (result, history) := operation history
  (result, { registry with histories := replace scope history registry.histories })

/-- The scope for statements of a database under the present policy. -/
def scopeOf (settings : Settings) (database : Database) : HistoryScope :=
  .forDatabase (HistoryPolicy.ofSettings settings).granularity database

/-- Saves every history in use. -/
def flush (registry : HistoryRegistry) (settings : Settings) : Settings :=
  registry.histories.foldl (fun settings entry => entry.2.save settings) settings

end HistoryRegistry

end MetaCatalog
