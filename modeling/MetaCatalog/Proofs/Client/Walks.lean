import MetaCatalog.Proofs.Client.Workspaces

/-!
# Walks over the graph

`Server.nodes` and its like write down what there is at and below an item: the
item, and then what it contains, as far as it is loaded. Every node appends its
children and tells truly whether there are any (`Node.appendChildren_eq`), so a
walk shows the visitor just these nodes in their order, and does nothing but
what the visitor does (`Node.walk_eq_forM`). From there on it is about lists: what
a walk from an inner node lists is a stretch of what a walk from the server lists
(`Node.nodes_prefix`). `Server.walk_lists` puts this together.
-/

namespace MetaCatalog

/-! ## What there is -/

/-- A table, and its columns that are loaded. -/
def Table.nodes (table : Table) : List Node :=
  .table table :: table.relation.columns.items.map .column

/-- A view, and its columns that are loaded. -/
def View.nodes (view : View) : List Node :=
  .view view :: view.relation.columns.items.map .column

/-- A procedure, and its parameters that are loaded. -/
def Procedure.nodes (procedure : Procedure) : List Node :=
  .procedure procedure :: procedure.parameters.items.map .parameter

/-- A database, its tables, its views and its procedures, each with what there is
below it. -/
def Database.nodes (database : Database) : List Node :=
  .database database :: (database.tables.flatMap Table.nodes ++
    database.views.flatMap View.nodes ++ database.procedures.flatMap Procedure.nodes)

/-- A server, and its databases, each with what there is below it. -/
def Server.nodes (server : Server) : List Node :=
  .server server :: server.databases.flatMap Database.nodes

namespace Node

/-- A node, and what there is below it. -/
def nodes : Node → List Node
  | server s => s.nodes
  | database d => d.nodes
  | table t => t.nodes
  | view v => v.nodes
  | procedure p => p.nodes
  | column c => [column c]
  | parameter p => [parameter p]

/-- How a list shows a node: the name of its type, a blank, and its own name. -/
def line (node : Node) : String := node.item.kind.typeName ++ " " ++ node.item.name.raw

/-! ## Children -/

/-- A node appends its children to what is there, and says that there are some if
it has appended any. -/
theorem appendChildren_eq (out : List Node) (node : Node) :
    node.appendChildren out = (out ++ node.children, !node.children.isEmpty) := by
  have grown (added : List Node) :
      decide (out.length < (out ++ added).length) = !added.isEmpty := by
    cases added <;> simp
  cases node with
  | database d =>
    simp only [children, appendChildren, List.nil_append, List.append_assoc, grown]
  | _ => simp [children, appendChildren, appendColumns]

theorem hasChildren_eq (node : Node) : node.hasChildren = !node.children.isEmpty :=
  congrArg Prod.snd (appendChildren_eq [] node)

/-- What there is at a node is the node, and then what there is at each child. -/
theorem nodes_eq (node : Node) : node.nodes = node :: node.children.flatMap nodes := by
  cases node with
  | server s =>
    simp only [nodes, Server.nodes, children, appendChildren, List.nil_append, List.flatMap_map]
  | database d =>
    simp only [nodes, Database.nodes, children, appendChildren, List.nil_append,
      List.flatMap_append, List.flatMap_map]
  | _ =>
    simp [nodes, Table.nodes, View.nodes, Procedure.nodes, children, appendChildren,
      appendColumns, List.flatMap_map, ← List.map_eq_flatMap]

/-! ## Walking -/

section

variable {m : Type → Type} [Monad m]

/-- The collector adds the line of what it is shown. -/
theorem run_accept_labels (node : Node) (names : List String) :
    (node.accept (Visitor.labels (m := m))).run names = pure ((), names ++ [node.line]) := by
  cases node <;> rfl

variable [LawfulMonad m]

theorem forM_flatMap (f : α → List β) (g : β → m Unit) (l : List α) :
    forM (l.flatMap f) g = forM l fun a => forM (f a) g := by
  induction l with
  | nil => rfl
  | cons a rest ih => rw [List.flatMap_cons, List.forM_append, List.forM_cons, ih]

/-- A walk shows the visitor what there is, in order, and does nothing else. The
induction is on the depth of the graph. -/
theorem walk_eq_forM (visitor : Visitor m) (node : Node) :
    node.walk visitor = forM node.nodes (·.accept visitor) := by
  induction node using walk.induct with
  | case1 node ih =>
    have below : node.children.attach.forM (fun child => child.1.walk visitor) =
        forM (node.children.flatMap nodes) (·.accept visitor) := by
      rw [forM_flatMap, ← List.attach_map_subtype_val node.children, List.forM_map,
        List.attach_map_subtype_val, List.forM_eq_forM]
      exact congrArg (forM node.children.attach) (funext fun child => ih child.1 child.2)
    rw [walk, nodes_eq, List.forM_cons, hasChildren_eq, below]
    cases node.children with
    | nil => rfl
    | cons child rest => rfl

/-- A walk with the collector lists what there is, line by line. -/
theorem run_walk_labels (node : Node) (names : List String) :
    (node.walk (Visitor.labels (m := m))).run names =
      pure ((), names ++ node.nodes.map line) := by
  rw [walk_eq_forM]
  induction node.nodes generalizing names with
  | nil => simp
  | cons first rest ih =>
    rw [List.forM_cons, StateT.run_bind, run_accept_labels, pure_bind, ih, List.map_cons,
      List.append_assoc, List.singleton_append]

end

/-! ## Inner nodes -/

/-- What stands in a part of a sequence is followed there by the rest of the part. -/
theorem exists_drop_prefix {f : α → List β} {l : List α} {i : Nat} {b : β}
    (h : (l.flatMap f)[i]? = some b) :
    ∃ a ∈ l, ∃ j, (f a)[j]? = some b ∧ (f a).drop j <+: (l.flatMap f).drop i := by
  induction l generalizing i with
  | nil => cases h
  | cons first rest ih =>
    rw [List.flatMap_cons] at h ⊢
    by_cases hi : i < (f first).length
    · rw [List.getElem?_append_left hi] at h
      rw [List.drop_append_of_le_length (Nat.le_of_lt hi)]
      exact ⟨first, List.mem_cons_self, i, h, List.prefix_append ..⟩
    · have past := Nat.le_of_not_lt hi
      rw [List.getElem?_append_right past] at h
      obtain ⟨a, mem, j, there, after⟩ := ih h
      refine ⟨a, List.mem_cons_of_mem _ mem, j, there, ?_⟩
      rwa [List.drop_append, List.drop_eq_nil_of_le past, List.nil_append]

/-- What there is at an inner node stands together, from the node on. -/
theorem nodes_prefix {node inner : Node} {i : Nat} (h : node.nodes[i]? = some inner) :
    inner.nodes <+: node.nodes.drop i := by
  induction node using walk.induct generalizing i with
  | case1 node ih =>
    cases i with
    | zero =>
      rw [nodes_eq] at h
      cases h
      exact List.prefix_rfl
    | succ i =>
      rw [nodes_eq] at h
      rw [nodes_eq node]
      obtain ⟨child, mem, j, there, after⟩ := exists_drop_prefix h
      exact (ih child mem there).trans after

end Node

/-! ## Servers -/

/-- Lists what there is at and below a server. -/
def Server.list (server : Server) : Engine (List String × Server) := do
  let (_, labels) ← ((Node.server server).walk .labels).run []
  pure (labels, server)

/-- What is put back where it was found is all that is found there. -/
theorem Named.lookup_put_of_lookup {named : Named α} {name : String} {a : α}
    (h : named.lookup name = some a) (other : String) :
    (named.put name a).lookup other = named.lookup other := by
  rw [Named.put, List.lookup_cons]
  by_cases same : other = name
  · rw [same, beq_self_eq_true, h]
  · have differs : (other == name) = false := beq_false_of_ne same
    simp only [differs]
    clear h
    induction named with
    | nil => rfl
    | cons entry rest ih =>
      by_cases here : entry.1 = name
      · rw [List.filter_cons_of_neg (by simp [here]), ih, List.lookup_cons, here, differs]
      · rw [List.filter_cons_of_pos (by simpa using here), List.lookup_cons, List.lookup_cons, ih]

/-- An operation that changes neither the server that is found nor the world. -/
theorem Workspace.onServer_of_run {operation : Server → Engine (α × Server)}
    {workspace : Workspace} {name : String} {server : Server} {a : α}
    (found : workspace.servers.lookup name = some server)
    (run : operation server workspace.world = ((a, server), workspace.world)) :
    Workspace.onServer name operation workspace =
      (some a, { workspace with servers := Named.put name server workspace.servers }) := by
  have engine : Workspace.engine (operation server) workspace = ((a, server), workspace) := by
    rw [Workspace.engine, StateT.run, run]
  rw [Workspace.onServer, Workspace.onNamed, Discipline.Working.run_reading, found]
  exact congrArg (fun run => (some run.1.1,
    { run.2 with servers := Named.put name run.1.2 run.2.servers })) engine

/-- A walk over a server lists what there is, each item once and by the name of its type and
its own name: the server, its databases in order, and with each of them its tables, its
views and its procedures with what they have loaded. The world stays as it is, so no query is
run. A walk from any of these nodes lists the stretch that is the node's. A client
who walks over a server finds it afterwards as it was. -/
theorem Server.walk_lists :
    (∀ (server : Server) (names : List String) (world : World),
      ((Node.server server).walk (Visitor.labels (m := Engine))).run names world =
        (((), names ++ server.nodes.map Node.line), world)) ∧
    (∀ (server : Server) (i : Fin server.nodes.length) (names : List String) (world : World),
      (server.nodes[i].walk (Visitor.labels (m := Engine))).run names world =
        (((), names ++ ((server.nodes.map Node.line).drop i).take
          server.nodes[i].nodes.length), world)) ∧
    ∀ (workspace : Workspace) (name : String),
      let (labels?, after) := Workspace.onServer name Server.list workspace
      labels? = (workspace.servers.lookup name).map (·.nodes.map Node.line) ∧
      (∀ other, after.servers.lookup other = workspace.servers.lookup other) ∧
      { after with servers := workspace.servers } = workspace := by
  have walks (node : Node) (names : List String) (world : World) :
      (node.walk (Visitor.labels (m := Engine))).run names world =
        (((), names ++ node.nodes.map Node.line), world) :=
    congrFun (node.run_walk_labels names) world
  refine ⟨fun server => walks (.server server), fun server i names world => ?_,
    fun workspace name => ?_⟩
  · have there : (Node.server server).nodes[i.val]? = some server.nodes[i] :=
      List.getElem?_eq_getElem i.isLt
    have stretch : server.nodes[i].nodes <+: server.nodes.drop i := Node.nodes_prefix there
    rw [walks, ← List.map_drop, ← List.map_take, ← List.prefix_iff_eq_take.mp stretch]
  · have lists (server : Server) (world : World) :
        server.list world = ((server.nodes.map Node.line, server), world) := by
      rw [Server.list, Engine.run_bind, walks]
      rfl
    cases found : workspace.servers.lookup name with
    | none =>
      have run : Workspace.onServer name Server.list workspace = (none, workspace) := by
        rw [Workspace.onServer, Workspace.onNamed, Discipline.Working.run_reading, found]
        rfl
      rw [run]
      exact ⟨rfl, fun _ => rfl, rfl⟩
    | some server =>
      rw [Workspace.onServer_of_run found (lists server workspace.world)]
      exact ⟨rfl, Named.lookup_put_of_lookup found, rfl⟩

/-- A table with two columns that are loaded. -/
def Table.orders : Table where
  relation := {
    item := .free default .table ⟨"ORDERS"⟩
    columns := .loaded [⟨.free default .column ⟨"ID"⟩, default⟩,
      ⟨.free default .column ⟨"Buyer"⟩, default⟩] }

/-- A database with a table and a procedure that are loaded, others that are not, and a view
that has no columns. -/
def Database.stocked : Database where
  item := .free default .database ⟨"SALES"⟩
  path := "sales.fdb"
  tables := [.orders, { relation := { item := .free default .table ⟨"LINES"⟩ } }]
  views := [{ relation := { item := .free default .view ⟨"LATE"⟩, columns := .loaded [] } }]
  procedures := [
    { item := .free default .procedure ⟨"PACK"⟩ },
    { item := .free default .procedure ⟨"SHIP"⟩
      parameters := .loaded [⟨.free default .parameter ⟨"WEIGHT"⟩, default⟩] }]

/-- A server with this database and an empty one. -/
def Server.stocked : Server where
  item := .free default .server ⟨"LOCALHOST"⟩
  host := "localhost"
  port := "3050"
  databases := [.stocked, { item := .free default .database ⟨"EMPTY"⟩, path := "empty.fdb" }]

theorem Server.walk_lists_stocked :
    let lines := ["SERVER LOCALHOST", "DATABASE SALES", "TABLE ORDERS", "COLUMN ID",
      "COLUMN Buyer", "TABLE LINES", "VIEW LATE", "PROCEDURE PACK", "PROCEDURE SHIP",
      "PARAMETER WEIGHT", "DATABASE EMPTY"]
    ((Node.server stocked).walk (Visitor.labels (m := Engine))).run [] {} = (((), lines), {}) ∧
      ((Node.table .orders).walk (Visitor.labels (m := Engine))).run [] {} =
        (((), ["TABLE ORDERS", "COLUMN ID", "COLUMN Buyer"]), {}) ∧
      (Workspace.onServer "s" Server.list { servers := [("s", stocked)] }).1 = some lines := by
  intro lines
  have written : stocked.nodes.map Node.line = lines := by decide +kernel
  obtain ⟨whole, stretch, named⟩ := walk_lists
  refine ⟨(whole stocked [] {}).trans ?_, (stretch stocked ⟨2, by decide +kernel⟩ [] {}).trans ?_,
    (named { servers := [("s", stocked)] } "s").1.trans (congrArg some written)⟩
  · rw [written]
    rfl
  · rw [written]
    rfl

end MetaCatalog
