import MetaCatalog.Server

/-!
# The graph of items

Servers contain databases, databases contain tables, views and procedures, and
those contain the columns and parameters that have been loaded. A `Node` is
any of them. `walk` shows a node and all that it contains to a `Visitor`, every
node before its children. Nothing is loaded by it.
-/

namespace MetaCatalog

/-- An item of the graph. -/
inductive Node where
  | server (server : Server)
  | database (database : Database)
  | table (table : Table)
  | view (view : View)
  | procedure (procedure : Procedure)
  | column (column : Column)
  | parameter (parameter : Parameter)
  deriving Inhabited

namespace Node

/-- The item of a node. -/
def item : Node → Item
  | server s => s.item
  | database d => d.item
  | table t => t.item
  | view v => v.item
  | procedure p => p.item
  | column c => c.item
  | parameter p => p.item

/-- The server that a node is. -/
def server? : Node → Option Server
  | server s => some s
  | _ => none

/-- The database that a node is. -/
def database? : Node → Option Database
  | database d => some d
  | _ => none

/-- The table that a node is. -/
def table? : Node → Option Table
  | table t => some t
  | _ => none

/-- The view that a node is. -/
def view? : Node → Option View
  | view v => some v
  | _ => none

/-- The procedure that a node is. -/
def procedure? : Node → Option Procedure
  | procedure p => some p
  | _ => none

/-- Appends the loaded columns of a relation, and says whether there are any. -/
def appendColumns (relation : Relation) (out : List Node) : List Node × Bool :=
  let columns := relation.columns.items
  (out ++ columns.map column, !columns.isEmpty)

/-- Appends the nodes directly below a node, and says whether there are any. -/
def appendChildren (out : List Node) : Node → List Node × Bool
  | server s => (out ++ s.databases.map database, !s.databases.isEmpty)
  | database d =>
    let all := out ++ d.tables.map table ++ d.views.map view ++ d.procedures.map procedure
    (all, out.length < all.length)
  | table t => appendColumns t.relation out
  | view v => appendColumns v.relation out
  | procedure p =>
    let parameters := p.parameters.items
    (out ++ parameters.map parameter, !parameters.isEmpty)
  | column _ => (out, false)
  | parameter _ => (out, false)

/-- The nodes directly below a node. -/
def children (node : Node) : List Node := (node.appendChildren []).1

/-- Whether a node says that there are nodes below it. -/
def hasChildren (node : Node) : Bool := (node.appendChildren []).2

/-- How many layers there can be below a node. -/
def height : Node → Nat
  | server _ => 3
  | database _ => 2
  | table _ => 1
  | view _ => 1
  | procedure _ => 1
  | column _ => 0
  | parameter _ => 0

theorem height_lt_of_mem_children {node child : Node} (h : child ∈ node.children) :
    child.height < node.height := by
  cases node <;>
    simp only [children, appendChildren, appendColumns, List.nil_append, List.mem_append,
      List.mem_map, List.not_mem_nil] at h
  case database =>
    rcases h with (⟨_, _, rfl⟩ | ⟨_, _, rfl⟩) | ⟨_, _, rfl⟩ <;> simp only [height] <;> omega
  all_goals
    obtain ⟨_, _, rfl⟩ := h
    simp only [height]
    omega

end Node

/-! ## Walks -/

/-- What is done with an item of each kind; nothing, unless it is said. -/
structure Visitor (m : Type → Type) [Pure m] where
  server : Server → m Unit := fun _ => pure ()
  database : Database → m Unit := fun _ => pure ()
  table : Table → m Unit := fun _ => pure ()
  view : View → m Unit := fun _ => pure ()
  procedure : Procedure → m Unit := fun _ => pure ()
  column : Column → m Unit := fun _ => pure ()
  parameter : Parameter → m Unit := fun _ => pure ()

namespace Visitor

variable {m : Type → Type} [Monad m]

/-- Collects the labels of all items. -/
def labels : Visitor (StateT (List String) m) :=
  let note (item : Item) : StateT (List String) m Unit := modify (· ++ [item.label])
  { server := fun s => note s.item
    database := fun d => note d.item
    table := fun t => note t.item
    view := fun v => note v.item
    procedure := fun p => note p.item
    column := fun c => note c.item
    parameter := fun p => note p.item }

/-- Collects the names of the columns. -/
def columnNames : Visitor (StateT (List String) m) where
  column c := modify (· ++ [c.item.name.raw])

end Visitor

namespace Node

variable {m : Type → Type} [Monad m]

/-- Shows a node to a visitor. -/
def accept (visitor : Visitor m) : Node → m Unit
  | server s => visitor.server s
  | database d => visitor.database d
  | table t => visitor.table t
  | view v => visitor.view v
  | procedure p => visitor.procedure p
  | column c => visitor.column c
  | parameter p => visitor.parameter p

/-- Shows a node and all nodes below it to a visitor, every node before its
children. -/
def walk (visitor : Visitor m) (node : Node) : m Unit := do
  node.accept visitor
  if node.hasChildren then
    node.children.attach.forM fun ⟨child, _⟩ => walk visitor child
termination_by node.height
decreasing_by exact height_lt_of_mem_children ‹_›

/-- What a visitor collects on a walk. -/
def collect (visitor : Visitor (StateT (List String) Id)) (node : Node) : List String :=
  ((node.walk visitor).run []).run.2

/-- The labels of a node and all nodes below it. -/
def labels (node : Node) : List String := node.collect .labels

/-- The names of the columns at or below a node. -/
def columnNames (node : Node) : List String := node.collect .columnNames

/-- Drops one facet of a node and of the nodes below it, or all facets. -/
def invalidate (asked : Option FacetKind) : Node → Engine Node
  | server s => server <$> s.invalidate asked
  | database d => database <$> d.invalidate asked
  | table t => table <$> t.invalidate asked
  | view v => view <$> v.invalidate asked
  | procedure p => procedure <$> p.invalidate asked
  | column c => pure (column c)
  | parameter p => pure (parameter p)

/-- The node with another item. -/
def withItem (item : Item) : Node → Node
  | server s => server { s with item }
  | database d => database { d with item }
  | table t => table (t.withItem item)
  | view v => view (v.withItem item)
  | procedure p => procedure { p with item }
  | column c => column { c with item }
  | parameter p => parameter { p with item }

end Node

end MetaCatalog
