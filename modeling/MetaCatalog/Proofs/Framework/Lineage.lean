import MetaCatalog.Proofs.Framework.Databases
import MetaCatalog.Proofs.Framework.Places

/-!
# Properties that objects inherit

A `Lineage` is a property of tables, views and procedures that new ones have and
that every call keeps, in whatever world it runs, and so does another loader.
Databases and servers do nothing else with their objects: they make new ones, call
them and give them other loaders. Hence they keep a lineage as well
(`Lineage.database_call`, `Lineage.server_call`).
-/

namespace MetaCatalog

/-- The world may change in any way. -/
def World.Anyhow (_ _ : World) : Prop := True

instance : World.Course World.Anyhow := ⟨fun _ => trivial, fun _ _ => trivial⟩

open World (Anyhow)

/-- What always comes of a computation. -/
theorem Leads.always {m : Engine α} {Q : α → Prop} (h : ∀ w, Q (m w).1) : Leads Anyhow m Q :=
  ⟨fun _ => trivial, h⟩

/-- A property that new objects have, and that is kept by calls and by other
loaders. -/
structure Lineage where
  table : Table → Prop
  view : View → Prop
  procedure : Procedure → Prop
  newTable (item : Item) : table { relation := { item } }
  newView (item : Item) : view { relation := { item } }
  newProcedure (item : Item) : procedure { item }
  tableLoader {t : Table} (h : table t) (loader : Option LoaderId) : table (t.withLoader loader)
  viewLoader {v : View} (h : view v) (loader : Option LoaderId) : view (v.withLoader loader)
  procedureLoader {p : Procedure} (h : procedure p) (loader : Option LoaderId) :
    procedure (p.withLoader loader)
  tableCall {t : Table} (h : table t) (call : TableCall) (w : World) : table (call.run t w).1.2
  viewCall {v : View} (h : view v) (call : ViewCall) (w : World) : view (call.run v w).1.2
  procedureCall {p : Procedure} (h : procedure p) (call : ProcedureCall) (w : World) :
    procedure (call.run p w).1.2

namespace Lineage

variable (L : Lineage)

/-- All objects of a database have the property. -/
structure InDatabase (database : Database) : Prop where
  tables : ∀ t ∈ database.tables, L.table t
  views : ∀ v ∈ database.views, L.view v
  procedures : ∀ p ∈ database.procedures, L.procedure p

variable {L} {database : Database}

/-! ## Calls of objects -/

theorem table_load {t : Table} (h : L.table t) (kind : FacetKind) :
    Leads Anyhow (t.load kind) fun r => L.table r.2 :=
  .always fun w => L.tableCall h (.load kind) w

theorem table_invalidate {t : Table} (h : L.table t) (asked : Option FacetKind) :
    Leads Anyhow (t.invalidate asked) L.table :=
  .always fun w => L.tableCall h (.invalidate asked) w

theorem view_load {v : View} (h : L.view v) (kind : FacetKind) :
    Leads Anyhow (v.load kind) fun r => L.view r.2 :=
  .always fun w => L.viewCall h (.load kind) w

theorem view_invalidate {v : View} (h : L.view v) (asked : Option FacetKind) :
    Leads Anyhow (v.invalidate asked) L.view :=
  .always fun w => L.viewCall h (.invalidate asked) w

theorem procedure_load {p : Procedure} (h : L.procedure p) (kind : FacetKind) :
    Leads Anyhow (p.load kind) fun r => L.procedure r.2 :=
  .always fun w => L.procedureCall h (.load kind) w

theorem procedure_invalidate {p : Procedure} (h : L.procedure p) (asked : Option FacetKind) :
    Leads Anyhow (p.invalidate asked) L.procedure :=
  .always fun w => L.procedureCall h (.invalidate asked) w

/-! ## Databases -/

/-- The item of a database does not matter for its objects. -/
theorem database_announce (h : L.InDatabase database) :
    Leads Anyhow database.announce L.InDatabase :=
  .always fun _ => ⟨h.tables, h.views, h.procedures⟩

/-- A database without objects. -/
theorem database_empty {database : Database} (tables : database.tables = [])
    (views : database.views = []) (procedures : database.procedures = []) :
    L.InDatabase database := by
  refine ⟨?_, ?_, ?_⟩
  · rw [tables]
    exact List.forall_mem_nil _
  · rw [views]
    exact List.forall_mem_nil _
  · rw [procedures]
    exact List.forall_mem_nil _

theorem database_withLoader (h : L.InDatabase database) (loader : Option LoaderId) :
    L.InDatabase (database.withLoader loader) where
  tables := List.forall_mem_map.mpr fun t ht => L.tableLoader (h.tables t ht) loader
  views := List.forall_mem_map.mpr fun v hv => L.viewLoader (h.views v hv) loader
  procedures := List.forall_mem_map.mpr fun p hp => L.procedureLoader (h.procedures p hp) loader

theorem database_disconnect (database : Database) :
    Leads Anyhow database.disconnect L.InDatabase := by
  have emptied (d : Database) : Leads Anyhow (Database.announce
      { d with
        item := { d.item with loader := none }
        connection := none, tables := [], views := [], procedures := [] }) L.InDatabase :=
    database_announce (database_empty rfl rfl rfl)
  rw [Database.disconnect]
  split
  · exact (Leads.always fun _ => trivial : Leads Anyhow _ fun _ => True).bind fun _ _ =>
      emptied database
  · exact emptied database

theorem database_connect (h : L.InDatabase database) (c : ConnectionId) :
    Leads Anyhow (database.connect c) L.InDatabase := by
  have connected {d : Database} (h : L.InDatabase d) : Leads Anyhow (do
      let loader ← World.newLoader c
      Database.announce { d.withLoader (some loader) with connection := some c })
      L.InDatabase := by
    refine (Leads.always fun _ => trivial : Leads Anyhow _ fun _ => True).bind fun loader _ => ?_
    obtain ⟨tables, views, procedures⟩ := database_withLoader h (some loader)
    exact database_announce ⟨tables, views, procedures⟩
  rw [Database.connect]
  split
  · exact (database_disconnect database).bind fun _ hd => connected hd
  · exact connected h

/-- Whatever names are found, the objects are new. -/
theorem database_withObjects (database : Database) (l : LoaderId)
    (names : List (String × Bool) × List String) :
    Leads Anyhow (database.withObjects l names) L.InDatabase := by
  rw [Database.withObjects]
  refine (Leads.mapM (P := fun _ => True) (Q := L.table)
    (fun _ _ => .always fun _ => L.newTable _) _ fun _ _ => trivial).bind fun tables ht => ?_
  refine (Leads.mapM (P := fun _ => True) (Q := L.view)
    (fun _ _ => .always fun _ => L.newView _) _ fun _ _ => trivial).bind fun views hv => ?_
  refine (Leads.mapM (P := fun _ => True) (Q := L.procedure)
    (fun _ _ => .always fun _ => L.newProcedure _) _ fun _ _ => trivial).map fun procedures hp => ?_
  exact ⟨ht, hv, hp⟩

theorem database_loadObjects (h : L.InDatabase database) :
    Leads Anyhow database.loadObjects fun r => L.InDatabase r.2 := by
  rw [Database.loadObjects]
  split
  · exact .pure h
  · next l _ =>
    refine (Leads.always fun _ => trivial : Leads Anyhow _ fun _ => True).bind fun r _ => ?_
    rcases r with ⟨e | names, item⟩
    · exact .pure ⟨h.tables, h.views, h.procedures⟩
    · exact (database_withObjects { database with item } l names).map fun _ hd => hd

theorem loadEach (load : σ → Engine (Attempted σ)) {P : σ → Prop}
    (hl : ∀ s, P s → Leads Anyhow (load s) fun r => P r.2) {objects : List σ}
    (ho : ∀ s ∈ objects, P s) :
    Leads Anyhow (Database.loadEach load objects) fun r => ∀ s ∈ r.2, P s :=
  (Leads.mapM hl objects ho).map fun _ ha => List.forall_mem_map.mpr ha

theorem database_loadMembers (h : L.InDatabase database) :
    Leads Anyhow database.loadMembers fun r => L.InDatabase r.2 := by
  refine (loadEach Table.loadColumns (fun _ ht => table_load ht .columns)
    h.tables).bind fun tables ht => ?_
  refine (loadEach View.loadColumns (fun _ hv => view_load hv .columns)
    h.views).bind fun views hv => ?_
  refine (loadEach Procedure.loadParameters (fun _ hp => procedure_load hp .parameters)
    h.procedures).map fun procedures hp => ?_
  exact ⟨ht, hv, hp⟩

theorem database_invalidate (h : L.InDatabase database) (asked : Option FacetKind) :
    Leads Anyhow (database.invalidate asked) L.InDatabase := by
  rw [Database.invalidate]
  refine (Leads.mapM (fun _ ht => table_invalidate ht asked) _ h.tables).bind fun tables ht => ?_
  refine (Leads.mapM (fun _ hv => view_invalidate hv asked) _ h.views).bind fun views hv => ?_
  refine (Leads.mapM (fun _ hp => procedure_invalidate hp asked) _ h.procedures).bind
    fun procedures hp => ?_
  exact .always fun _ => ⟨ht, hv, hp⟩

/-! ## Links -/

/-- A computation on tables keeps the lineage. -/
def Keeps (L : Lineage) (m : TableQuery α) : Prop :=
  ∀ tables, (∀ t ∈ tables, L.table t) →
    Leads Anyhow (m.run.run tables) fun r => ∀ t ∈ r.2, L.table t

theorem Keeps.bind {m : TableQuery α} {f : α → TableQuery β} (hm : L.Keeps m)
    (hf : ∀ a, L.Keeps (f a)) : L.Keeps (m >>= f) := by
  refine fun tables ht => .always fun w => ?_
  have first := (hm tables ht).result w
  rw [TableQuery.run_bind]
  rcases hr : m.run.run tables w with ⟨⟨e | a, tables'⟩, w'⟩ <;> rw [hr] at first
  · exact first
  · exact (hf a tables' first).result w'

/-- Who changes no table keeps the lineage. -/
theorem Keeps.still {m : TableQuery α} (hm : ∀ tables w, (m.run.run tables w).1.2 = tables) :
    L.Keeps m :=
  fun tables ht => .always fun w => (hm tables w).symm ▸ ht

theorem Keeps.foreignKeys (L : Lineage) (name : String) :
    L.Keeps (TableQuery.foreignKeys? name) := by
  intro tables ht
  have load (t : Table) (ht : L.table t) : Leads Anyhow (do
      let r ← t.loadForeignKeys
      Pure.pure (r.1.map fun _ => r.2.foreignKeys.items, r.2)) fun r => L.table r.2 :=
    (table_load ht .foreignKeys).map fun _ hr => hr
  exact (Leads.onFirst load tables ht).map fun _ hr => hr

/-- The recursion follows the dependents. -/
theorem Keeps.dependentKeys (L : Lineage) (names : List String) (name : String)
    (dependents : List Dependency) : L.Keeps (TableQuery.dependentKeys names name dependents) := by
  induction dependents with
  | nil => exact .still fun _ _ => rfl
  | cons dependent rest ih =>
    rw [TableQuery.dependentKeys]
    split
    · refine (Keeps.foreignKeys L dependent.name).bind fun _ => ih.bind fun _ => ?_
      exact .still fun _ _ => rfl
    · exact ih

theorem Keeps.links (L : Lineage) (l : LoaderId) (names : List String) (name : String) :
    L.Keeps (TableQuery.links l names name) := by
  refine (Keeps.foreignKeys L name).bind fun keys => ?_
  cases keys with
  | none => exact .still fun _ _ => rfl
  | some keys =>
    refine Keeps.bind (.still fun _ _ => rfl) fun dependents => ?_
    exact (Keeps.dependentKeys L names name dependents).bind fun _ => .still fun _ _ => rfl

theorem database_links (h : L.InDatabase database) (names : List String) (name : String) :
    Leads Anyhow (database.links names name) fun r => L.InDatabase r.2 := by
  rw [Database.links]
  split
  · exact .pure h
  · next l _ =>
    refine (Leads.always fun _ => trivial : Leads Anyhow _ fun _ => True).bind fun entered _ => ?_
    cases entered with
    | error e => exact .pure h
    | ok _ =>
      refine (Keeps.links L l names name database.tables h.tables).bind fun r hr => ?_
      exact .always fun _ => ⟨hr, h.views, h.procedures⟩

/-! ## Calls of databases and servers -/

/-- One more object that has the property. -/
theorem forall_added {P : σ → Prop} {objects : List σ} {object : σ} (ho : ∀ s ∈ objects, P s)
    (hn : P object) : ∀ s ∈ objects ++ [object], P s :=
  List.forall_mem_append.mpr ⟨ho, List.forall_mem_singleton.mpr hn⟩

/-- Operations on the objects of a database that keep the property of each. -/
theorem database_onTable (h : L.InDatabase database) {operation : Table → Engine (β × Table)}
    (ho : ∀ t, L.table t → Leads Anyhow (operation t) fun r => L.table r.2) (name : String) :
    Leads Anyhow (database.onTable name operation) fun r => L.InDatabase r.2 :=
  (Leads.onFirst ho database.tables h.tables).map fun _ ht => { h with tables := ht }

theorem database_onView (h : L.InDatabase database) {operation : View → Engine (β × View)}
    (ho : ∀ v, L.view v → Leads Anyhow (operation v) fun r => L.view r.2) (name : String) :
    Leads Anyhow (database.onView name operation) fun r => L.InDatabase r.2 :=
  (Leads.onFirst ho database.views h.views).map fun _ hv => { h with views := hv }

theorem database_onProcedure (h : L.InDatabase database)
    {operation : Procedure → Engine (β × Procedure)}
    (ho : ∀ p, L.procedure p → Leads Anyhow (operation p) fun r => L.procedure r.2)
    (name : String) :
    Leads Anyhow (database.onProcedure name operation) fun r => L.InDatabase r.2 :=
  (Leads.onFirst ho database.procedures h.procedures).map fun _ hp => { h with procedures := hp }

theorem database_call (h : L.InDatabase database) (call : DatabaseCall) :
    Leads Anyhow (call.run database) fun r => L.InDatabase r.2 := by
  have same {item : Item} : L.InDatabase { database with item } :=
    ⟨h.tables, h.views, h.procedures⟩
  cases call with
  | disconnect => exact (database_disconnect database).changing
  | setLogin username password =>
    exact .changing (database_announce ⟨h.tables, h.views, h.procedures⟩)
  | loadObjects => exact (database_loadObjects h).reporting
  | loadMembers => exact (database_loadMembers h).quietly
  | addTable name =>
    exact .changing ((Leads.always fun _ => L.newTable _).bind fun _ ht =>
      database_announce { h with tables := forall_added h.tables ht })
  | addView name =>
    exact .changing ((Leads.always fun _ => L.newView _).bind fun _ hv =>
      database_announce { h with views := forall_added h.views hv })
  | addProcedure name =>
    exact .changing ((Leads.always fun _ => L.newProcedure _).bind fun _ hp =>
      database_announce { h with procedures := forall_added h.procedures hp })
  | dependencies name kind dependsOn =>
    exact .reporting ((Leads.always fun _ => trivial : Leads Anyhow _ fun _ => True).map
      fun _ _ => h)
  | links names name => exact (database_links h names name).reporting
  | invalidate asked => exact (database_invalidate h asked).changing
  | item call => exact .changing (.always fun _ => same)

/-- All databases of a server have the property. -/
def InServer (L : Lineage) (server : Server) : Prop :=
  ∀ d ∈ server.databases, L.InDatabase d

variable {server : Server}

/-- An operation on every database of a server. -/
theorem server_forDatabases (h : L.InServer server)
    {operation : Database → Engine Database}
    (ho : ∀ d, L.InDatabase d → Leads Anyhow (operation d) L.InDatabase) :
    Leads Anyhow (do pure { server with databases := ← server.databases.mapM operation })
      L.InServer :=
  (Leads.mapM ho server.databases h).map fun _ hd => hd

theorem server_call (h : L.InServer server) (call : ServerCall) :
    Leads Anyhow (call.run server) fun r => L.InServer r.2 := by
  cases call with
  | rename name => exact .changing (.always fun _ => h)
  | setHost host => exact .changing (.always fun _ => h)
  | setPort port => exact .changing (.always fun _ => h)
  | rememberLogin username password => exact .changing (.always fun _ => h)
  | rememberAdministrator password => exact .changing (.always fun _ => h)
  | lockChildren =>
    refine .changing (.pure (List.forall_mem_map.mpr fun d hd => ?_))
    exact ⟨(h d hd).tables, (h d hd).views, (h d hd).procedures⟩
  | unlockChildren =>
    exact .changing (server_forDatabases h fun _ hd => .always fun _ =>
      ⟨hd.tables, hd.views, hd.procedures⟩)
  | disconnectAll => exact .changing (server_forDatabases h fun d _ => database_disconnect d)
  | invalidate asked =>
    exact .changing (server_forDatabases h fun _ hd => database_invalidate hd asked)
  | openSession connector indicator asAdministrator => exact .always fun _ => h
  | readAccounts connector indicator =>
    refine .always fun w => ?_
    show L.InServer (server.readAccounts w connector indicator).server
    rw [Server.readAccounts]
    dsimp only
    split
    · exact h
    · exact h
  | item call => exact .changing (.always fun _ => h)

theorem server_addDatabase (h : L.InServer server) (hd : L.InDatabase database) :
    Leads Anyhow (server.addDatabase database) L.InServer := by
  have given : L.InDatabase (database.withServer (some server.id)) :=
    ⟨hd.tables, hd.views, hd.procedures⟩
  exact .always fun _ => forall_added h given

/-- A database that is handed out has its objects still. -/
theorem server_removeDatabase (h : L.InServer server) (id : Uuid) :
    Leads Anyhow (server.removeDatabase id) fun r =>
      L.InServer r.2 ∧ ∀ d, r.1 = some d → L.InDatabase d := by
  unfold Server.removeDatabase
  split
  · exact .pure ⟨h, fun _ hd => absurd hd (Option.some_ne_none _).symm⟩
  · next database hd =>
    have found := h _ (List.mem_of_find?_eq_some hd)
    refine .always fun _ => ⟨fun d hd => h d (List.mem_of_mem_eraseP hd), ?_⟩
    rintro _ ⟨⟩
    exact ⟨found.tables, found.views, found.procedures⟩

theorem server_onDatabase (h : L.InServer server)
    {operation : Database → Engine (β × Database)}
    (ho : ∀ d, L.InDatabase d → Leads Anyhow (operation d) fun r => L.InDatabase r.2) (id : Uuid) :
    Leads Anyhow (server.onDatabase id operation) fun r => L.InServer r.2 :=
  (Leads.onFirst ho server.databases h).map fun _ hr => hr

end Lineage

end MetaCatalog
