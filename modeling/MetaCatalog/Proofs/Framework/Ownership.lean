import MetaCatalog.Proofs.Framework.Databases
import MetaCatalog.Proofs.Framework.Places

/-!
# Databases and servers in their places

A database is in its place if its objects belong to it and are read with its
loader, and a server if its databases belong to it. Connecting and disconnecting
give a database another loader; no call moves it otherwise (`Database.call_belongs`,
`Server.call_at`).
-/

namespace MetaCatalog

open World (Issues Hush Course)

variable {parent : Option Uuid} {loader : Option LoaderId} {id : Uuid}

/-! ## Objects of a database -/

/-- What was read without a loader was not read. -/
theorem Facet.ReadBy.relocate {facet : Facet α} {Q Q' : LoaderId → α → Prop}
    (h : facet.ReadBy none Q) : facet.ReadBy loader Q' := by
  rw [h.unloaded]
  trivial

/-- The relation belongs to no loader yet, and gets one. -/
theorem Relation.At.withLoader {relation : Relation} (h : relation.At ⟨id, parent, none⟩)
    (loader : Option LoaderId) : (relation.withLoader loader).At ⟨id, parent, loader⟩ :=
  ⟨⟨h.item.id, h.item.parent, rfl, h.item.settled⟩, h.columns.relocate, h.description.relocate⟩

namespace Table

/-- The table has the parent and the loader, and some identifier. -/
def Belongs (parent : Option Uuid) (loader : Option LoaderId) (table : Table) : Prop :=
  ∃ id, table.At ⟨id, parent, loader⟩

theorem Belongs.withLoader {table : Table} (h : table.Belongs parent none)
    (loader : Option LoaderId) : (table.withLoader loader).Belongs parent loader :=
  let ⟨id, h⟩ := h
  ⟨id, h.relation.withLoader loader, h.primaryKey.relocate, h.foreignKeys.relocate,
    h.checkConstraints.relocate, h.uniqueConstraints.relocate, h.indices.relocate,
    h.externalPath.relocate⟩

/-- A table of which nothing was read. -/
theorem Belongs.bare {item : Item} (h : item.Belongs parent loader) :
    Belongs parent loader { relation := { item } } :=
  let ⟨id, h⟩ := h
  ⟨id, ⟨h, trivial, trivial⟩, trivial, trivial, trivial, trivial, trivial, trivial⟩

theorem within_leads (owner : Uuid) (loader : Option LoaderId) (name : Identifier) :
    Leads Issues (within owner loader name) (Belongs (some owner) loader) :=
  (Item.within_leads .table name owner loader).issues.map fun _ hi => .bare hi

theorem Belongs.load {table : Table} (h : table.Belongs parent loader)
    (facet : FacetKind) :
    Leads Issues (table.load facet) fun r => r.2.Belongs parent loader := by
  obtain ⟨id, h⟩ := h
  exact (h.load facet).mono fun _ hr => ⟨id, hr⟩

theorem Belongs.invalidate {table : Table} (h : table.Belongs parent loader)
    (asked : Option FacetKind) :
    Leads Issues (table.invalidate asked) (Belongs parent loader) := by
  obtain ⟨id, h⟩ := h
  exact (h.invalidate asked).mono fun _ hr => ⟨id, hr⟩

end Table

namespace View

/-- The view has the parent and the loader, and some identifier. -/
def Belongs (parent : Option Uuid) (loader : Option LoaderId) (view : View) : Prop :=
  ∃ id, view.At ⟨id, parent, loader⟩

theorem Belongs.withLoader {view : View} (h : view.Belongs parent none)
    (loader : Option LoaderId) : (view.withLoader loader).Belongs parent loader :=
  let ⟨id, h⟩ := h
  ⟨id, h.relation.withLoader loader, h.source.relocate⟩

/-- A view of which nothing was read. -/
theorem Belongs.bare {item : Item} (h : item.Belongs parent loader) :
    Belongs parent loader { relation := { item } } :=
  let ⟨id, h⟩ := h
  ⟨id, ⟨h, trivial, trivial⟩, trivial⟩

theorem within_leads (owner : Uuid) (loader : Option LoaderId) (name : Identifier) :
    Leads Issues (within owner loader name) (Belongs (some owner) loader) :=
  (Item.within_leads .view name owner loader).issues.map fun _ hi => .bare hi

theorem Belongs.load {view : View} (h : view.Belongs parent loader)
    (facet : FacetKind) :
    Leads Issues (view.load facet) fun r => r.2.Belongs parent loader := by
  obtain ⟨id, h⟩ := h
  exact (h.load facet).mono fun _ hr => ⟨id, hr⟩

theorem Belongs.invalidate {view : View} (h : view.Belongs parent loader)
    (asked : Option FacetKind) :
    Leads Issues (view.invalidate asked) (Belongs parent loader) := by
  obtain ⟨id, h⟩ := h
  exact (h.invalidate asked).mono fun _ hr => ⟨id, hr⟩

end View

namespace Procedure

/-- The procedure has the parent and the loader, and some identifier. -/
def Belongs (parent : Option Uuid) (loader : Option LoaderId) (procedure : Procedure) : Prop :=
  ∃ id, procedure.At ⟨id, parent, loader⟩

theorem Belongs.withLoader {procedure : Procedure} (h : procedure.Belongs parent none)
    (loader : Option LoaderId) : (procedure.withLoader loader).Belongs parent loader :=
  let ⟨id, h⟩ := h
  ⟨id, ⟨h.item.id, h.item.parent, rfl, h.item.settled⟩, h.parameters.relocate, h.source.relocate,
    h.privileges.relocate, h.description.relocate⟩

/-- A procedure of which nothing was read. -/
theorem Belongs.bare {item : Item} (h : item.Belongs parent loader) :
    Belongs parent loader { item } :=
  let ⟨id, h⟩ := h
  ⟨id, h, trivial, trivial, trivial, trivial⟩

theorem within_leads (owner : Uuid) (loader : Option LoaderId) (name : Identifier) :
    Leads Issues (within owner loader name) (Belongs (some owner) loader) :=
  (Item.within_leads .procedure name owner loader).issues.map fun _ hi => .bare hi

theorem Belongs.load {procedure : Procedure} (h : procedure.Belongs parent loader)
    (facet : FacetKind) :
    Leads Issues (procedure.load facet) fun r => r.2.Belongs parent loader := by
  obtain ⟨id, h⟩ := h
  exact (h.load facet).mono fun _ hr => ⟨id, hr⟩

theorem Belongs.invalidate {procedure : Procedure} (h : procedure.Belongs parent loader)
    (asked : Option FacetKind) :
    Leads Issues (procedure.invalidate asked) (Belongs parent loader) := by
  obtain ⟨id, h⟩ := h
  exact (h.invalidate asked).mono fun _ hr => ⟨id, hr⟩

end Procedure

/-! ## Databases -/

namespace Database

/-- The database is in its place, and its objects belong to it and have its
loader. There is no loader without a connection. -/
structure At (place : Place) (database : Database) : Prop where
  item : database.item.At place
  unconnected : database.connection = none → place.loader = none
  tables : ∀ t ∈ database.tables, t.Belongs (some place.id) place.loader
  views : ∀ v ∈ database.views, v.Belongs (some place.id) place.loader
  procedures : ∀ p ∈ database.procedures, p.Belongs (some place.id) place.loader

/-- The database has the parent, and some identifier and some loader. -/
def Belongs (parent : Option Uuid) (database : Database) : Prop :=
  ∃ id loader, database.At ⟨id, parent, loader⟩

variable {place : Place} {database : Database}

theorem At.belongs (h : database.At place) : database.Belongs place.parent :=
  ⟨place.id, place.loader, h⟩

/-- The place of a database can be told from it. -/
theorem At.place_eq (h : database.At place) :
    place = ⟨database.id, database.item.parent, database.loader⟩ := by
  obtain ⟨id, parent, loader⟩ := place
  rw [Place.mk.injEq]
  exact ⟨h.item.id.symm, h.item.parent.symm, h.item.loader.symm⟩

theorem At.announce (h : database.At place) : Leads Issues database.announce (At place) :=
  h.item.announce.map fun _ hi => { h with item := hi }

theorem At.withServer (h : database.At ⟨id, parent, loader⟩) (server : Option Uuid) :
    (database.withServer server).At ⟨id, server, loader⟩ :=
  ⟨⟨h.item.id, rfl, h.item.loader, h.item.settled⟩, h.unconnected, h.tables, h.views, h.procedures⟩

/-- Nothing that was read outlives the connection. -/
theorem At.disconnect (h : database.At ⟨id, parent, loader⟩) :
    Leads Issues database.disconnect (At ⟨id, parent, none⟩) := by
  have emptied : At ⟨id, parent, none⟩ { database with
      item := { database.item with loader := none }
      connection := none
      tables := []
      views := []
      procedures := [] } :=
    ⟨⟨h.item.id, h.item.parent, rfl, h.item.settled⟩, fun _ => rfl, List.forall_mem_nil _,
      List.forall_mem_nil _, List.forall_mem_nil _⟩
  rw [Database.disconnect]
  split
  · exact (clearStatements_hush _).issues.bind fun _ _ => emptied.announce
  · exact emptied.announce

/-- Objects that were added without a connection get the new loader. -/
theorem At.connect (h : database.At ⟨id, parent, loader⟩) (c : ConnectionId) :
    Leads Issues (database.connect c) (Belongs parent) := by
  have connected {database : Database} (h : database.At ⟨id, parent, none⟩) :
      Leads Issues (do
        let loader ← World.newLoader c
        Database.announce { database.withLoader (some loader) with connection := some c })
        (Belongs parent) := by
    refine (newLoader_hush c).issues.bind fun l _ => ?_
    have relocated : At ⟨id, parent, some l⟩
        { database.withLoader (some l) with connection := some c } := by
      refine ⟨⟨h.item.id, h.item.parent, rfl, h.item.settled⟩, nofun, ?_, ?_, ?_⟩
      · exact List.forall_mem_map.mpr fun t ht => (h.tables t ht).withLoader (some l)
      · exact List.forall_mem_map.mpr fun v hv => (h.views v hv).withLoader (some l)
      · exact List.forall_mem_map.mpr fun p hp => (h.procedures p hp).withLoader (some l)
    exact relocated.announce.mono fun _ hd => hd.belongs
  rw [Database.connect]
  split
  · exact h.disconnect.bind fun _ hd => connected hd
  · next none =>
    cases h.unconnected (Option.not_isSome_iff_eq_none.mp none)
    exact connected h

theorem At.withObjects {l : LoaderId} (h : database.At ⟨id, parent, some l⟩)
    (names : List (String × Bool) × List String) :
    Leads Issues (database.withObjects l names) (At ⟨id, parent, some l⟩) := by
  rw [Database.withObjects, show database.id = id from h.item.id]
  refine (Leads.mapM (P := fun _ => True) (fun name _ => Table.within_leads id (some l) name) _
    fun _ _ => trivial).bind fun tables ht => ?_
  refine (Leads.mapM (P := fun _ => True) (fun name _ => View.within_leads id (some l) name) _
    fun _ _ => trivial).bind fun views hv => ?_
  refine (Leads.mapM (P := fun _ => True) (fun name _ => Procedure.within_leads id (some l) name) _
    fun _ _ => trivial).map fun procedures hp => ?_
  exact ⟨h.item, h.unconnected, ht, hv, hp⟩

theorem At.loadObjects (h : database.At place) :
    Leads Issues database.loadObjects fun r => r.2.At place := by
  rw [Database.loadObjects, Database.requireLoader]
  cases hl : database.loader with
  | none => exact .pure h
  | some l =>
    refine (h.item.fetch (Fetches.names.hush l)).bind fun r hr => ?_
    obtain ⟨outcome, item⟩ := r
    have kept : At place { database with item } := { h with item := hr.1 }
    cases outcome with
    | error e => exact .pure kept
    | ok names =>
      obtain ⟨id, parent, loader⟩ := place
      cases hl.symm.trans h.item.loader
      exact (kept.withObjects names).map fun _ hd => hd

theorem loadEach_leads {P : σ → Prop} {load : σ → Engine (Attempted σ)}
    (hl : ∀ s, P s → Leads Issues (load s) fun r => P r.2) (objects : List σ)
    (ho : ∀ s ∈ objects, P s) :
    Leads Issues (loadEach load objects) fun r => ∀ s ∈ r.2, P s :=
  (Leads.mapM hl objects ho).map fun _ ha => List.forall_mem_map.mpr ha

theorem At.loadMembers (h : database.At place) :
    Leads Issues database.loadMembers fun r => r.2.At place := by
  refine (loadEach_leads (fun _ ht => Table.Belongs.load ht .columns) database.tables
    h.tables).bind fun tables ht => ?_
  refine (loadEach_leads (fun _ hv => View.Belongs.load hv .columns) database.views
    h.views).bind fun views hv => ?_
  refine (loadEach_leads (fun _ hp => Procedure.Belongs.load hp .parameters) database.procedures
    h.procedures).map fun procedures hp => ?_
  exact ⟨h.item, h.unconnected, ht, hv, hp⟩

theorem At.invalidate (h : database.At place) (asked : Option FacetKind) :
    Leads Issues (database.invalidate asked) (At place) := by
  rw [Database.invalidate]
  refine (Leads.mapM (fun _ ht => Table.Belongs.invalidate ht asked) database.tables
    h.tables).bind fun tables ht => ?_
  refine (Leads.mapM (fun _ hv => View.Belongs.invalidate hv asked) database.views
    h.views).bind fun views hv => ?_
  refine (Leads.mapM (fun _ hp => Procedure.Belongs.invalidate hp asked) database.procedures
    h.procedures).bind fun procedures hp => ?_
  exact h.item.lock.unlock.map fun _ hi => ⟨hi, h.unconnected, ht, hv, hp⟩

/-- Objects may be used in any way that leaves them in their places. -/
theorem At.onTable (h : database.At place) {operation : Table → Engine (β × Table)}
    (ho : ∀ place t, Table.At place t → Leads Issues (operation t) fun r => r.2.At place)
    (name : String) : Leads Issues (database.onTable name operation) fun r => r.2.At place :=
  (Leads.onFirst (fun _ ⟨id, ht⟩ => (ho _ _ ht).mono fun _ hr => ⟨id, hr⟩) database.tables
    h.tables).map fun _ ht => { h with tables := ht }

theorem At.onView (h : database.At place) {operation : View → Engine (β × View)}
    (ho : ∀ place v, View.At place v → Leads Issues (operation v) fun r => r.2.At place)
    (name : String) : Leads Issues (database.onView name operation) fun r => r.2.At place :=
  (Leads.onFirst (fun _ ⟨id, hv⟩ => (ho _ _ hv).mono fun _ hr => ⟨id, hr⟩) database.views
    h.views).map fun _ hv => { h with views := hv }

theorem At.onProcedure (h : database.At place) {operation : Procedure → Engine (β × Procedure)}
    (ho : ∀ place p, Procedure.At place p → Leads Issues (operation p) fun r => r.2.At place)
    (name : String) : Leads Issues (database.onProcedure name operation) fun r => r.2.At place :=
  (Leads.onFirst (fun _ ⟨id, hp⟩ => (ho _ _ hp).mono fun _ hr => ⟨id, hr⟩) database.procedures
    h.procedures).map fun _ hp => { h with procedures := hp }

/-- What is added to objects that belong to the database belongs to it, too. -/
theorem forall_mem_added {P : σ → Prop} {objects : List σ} {object : σ}
    (ho : ∀ s ∈ objects, P s) (hn : P object) : ∀ s ∈ objects ++ [object], P s :=
  List.forall_mem_append.mpr ⟨ho, List.forall_mem_singleton.mpr hn⟩

theorem dependencies_leads (database : Database) (name : String) (kind : ItemKind)
    (dependsOn : Bool) :
    Leads Issues (database.dependencies name kind dependsOn).run fun _ => True := by
  have load (l : LoaderId) : Yields Hush (Dependency.load l name kind dependsOn) fun _ => True := by
    rw [Dependency.load]
    split
    · exact .of_course Course.refl
    · exact withTransaction_hush ((Fetches.dependencies name _ dependsOn).hush l)
  have found : Yields Hush (database.dependencies name kind dependsOn) fun _ => True :=
    (Yields.of_course (m := Query.ofExcept database.requireLoader) Course.refl).bind
      fun l _ => load l
  exact (Leads.issues found).mono fun _ _ => trivial

end Database

/-! ## Links -/

namespace TableQuery

/-- A computation on tables leaves all of them where they belong. -/
def Leaves (P : Table → Prop) (m : TableQuery α) : Prop :=
  ∀ tables, (∀ t ∈ tables, P t) → Leads Issues (m.run.run tables) fun r => ∀ t ∈ r.2, P t

variable {P : Table → Prop}

theorem Leaves.pure (a : α) : Leaves P (Pure.pure a) := fun _ ht => Leads.pure ht

theorem Leaves.throw (e : Error) : Leaves P (throw e : TableQuery α) := fun _ ht => Leads.pure ht

theorem Leaves.bind {m : TableQuery α} {f : α → TableQuery β} (hm : Leaves P m)
    (hf : ∀ a, Leaves P (f a)) : Leaves P (m >>= f) := by
  intro tables ht
  have run (w : World) : w.Issues ((m >>= f).run.run tables w).2 ∧
      ∀ t ∈ ((m >>= f).run.run tables w).1.2, P t := by
    have course := (hm tables ht).course w
    have result := (hm tables ht).result w
    rw [run_bind]
    rcases hr : m.run.run tables w with ⟨⟨e | a, tables'⟩, w'⟩ <;> rw [hr] at course result
    · exact ⟨course, result⟩
    · have second := hf a tables' result
      exact ⟨Course.trans course (second.course w'), second.result w'⟩
  exact ⟨fun w => (run w).1, fun w => (run w).2⟩

theorem Leaves.ofQuery {query : Query α} (hq : Yields Hush query fun _ => True) :
    Leaves P (ofQuery query) :=
  fun _ ht => (Leads.issues hq).map fun _ _ => ht

theorem Leaves.foreignKeys (hl : ∀ t, P t → Leads Issues t.loadForeignKeys fun r => P r.2)
    (name : String) : Leaves P (foreignKeys? name) := by
  intro tables ht
  have load (t : Table) (ht : P t) : Leads Issues (do
      let r ← t.loadForeignKeys
      Pure.pure (r.1.map fun _ => r.2.foreignKeys.items, r.2)) fun r => P r.2 :=
    (hl t ht).map fun _ hr => hr
  exact (Leads.onFirst load tables ht).map fun _ hr => hr

/-- The recursion follows the dependents; each that is a table may take one
load. -/
theorem Leaves.dependentKeys (hl : ∀ t, P t → Leads Issues t.loadForeignKeys fun r => P r.2)
    (names : List String) (name : String) (dependents : List Dependency) :
    Leaves P (dependentKeys names name dependents) := by
  induction dependents with
  | nil => exact .pure []
  | cons dependent rest ih =>
    rw [TableQuery.dependentKeys]
    split
    · exact .bind (.foreignKeys hl dependent.name) fun _ => .bind ih fun _ => .pure _
    · exact ih

theorem Leaves.links (hl : ∀ t, P t → Leads Issues t.loadForeignKeys fun r => P r.2)
    (l : LoaderId) (names : List String) (name : String) : Leaves P (links l names name) := by
  refine .bind (.foreignKeys hl name) fun keys => ?_
  cases keys with
  | none => exact .throw _
  | some keys =>
    have dependents : Yields Hush (Dependency.load l name .table false) fun _ => True :=
      withTransaction_hush ((Fetches.dependencies name 0 false).hush l)
    exact .bind (.ofQuery dependents) fun found =>
      .bind (.dependentKeys hl names name found) fun _ => .pure _

end TableQuery

namespace Database

variable {place : Place} {database : Database}

theorem At.links (h : database.At place) (names : List String) (name : String) :
    Leads Issues (database.links names name) fun r => r.2.At place := by
  rw [Database.links]
  cases database.requireLoader with
  | error e => exact .pure h
  | ok l =>
    refine (enter_hush l).issues.bind fun entered _ => ?_
    cases entered with
    | error e => exact .pure h
    | ok _ =>
      have found := TableQuery.Leaves.links (P := (Table.Belongs (some place.id) place.loader))
        (fun _ ht => Table.Belongs.load ht .foreignKeys) l names name
        database.tables h.tables
      exact found.bind fun _ ht => (leave_hush l).issues.bind fun _ _ =>
        .pure { h with tables := ht }

/-- Only disconnecting moves a database: it takes away the loader. -/
theorem call_belongs (h : database.Belongs parent) (call : DatabaseCall) :
    Leads Issues (call.run database) fun r => r.2.Belongs parent := by
  obtain ⟨id, loader, h⟩ := h
  have stays {m : Engine (Option Error × Database)}
      (hm : Leads Issues m fun r => r.2.At ⟨id, parent, loader⟩) :
      Leads Issues m fun r => r.2.Belongs parent :=
    hm.mono fun _ hr => hr.belongs
  have owner : database.id = id := h.item.id
  cases call with
  | disconnect => exact h.disconnect.changing.mono fun _ hr => At.belongs hr
  | setLogin username password =>
    exact stays (.changing (At.announce
      ⟨h.item, h.unconnected, h.tables, h.views, h.procedures⟩))
  | loadObjects => exact stays h.loadObjects.reporting
  | loadMembers => exact stays h.loadMembers.quietly
  | addTable name =>
    refine stays (.changing ?_)
    rw [Database.addTable, owner, show database.loader = loader from h.item.loader]
    exact (Table.within_leads id loader name).bind fun _ ht =>
      At.announce { h with tables := forall_mem_added h.tables ht }
  | addView name =>
    refine stays (.changing ?_)
    rw [Database.addView, owner, show database.loader = loader from h.item.loader]
    exact (View.within_leads id loader name).bind fun _ hv =>
      At.announce { h with views := forall_mem_added h.views hv }
  | addProcedure name =>
    refine stays (.changing ?_)
    rw [Database.addProcedure, owner, show database.loader = loader from h.item.loader]
    exact (Procedure.within_leads id loader name).bind fun _ hp =>
      At.announce { h with procedures := forall_mem_added h.procedures hp }
  | dependencies name kind dependsOn =>
    exact stays (.reporting ((dependencies_leads database name kind dependsOn).map fun _ _ => h))
  | links names name => exact stays (h.links names name).reporting
  | invalidate asked => exact stays (h.invalidate asked).changing
  | item call =>
    exact stays (.changing ((h.item.call call).map fun _ hi => { h with item := hi }))

end Database

/-! ## Servers -/

namespace Server

/-- The server is in its place, and its databases belong to it. -/
structure At (place : Place) (server : Server) : Prop where
  item : server.item.At place
  databases : ∀ d ∈ server.databases, d.Belongs (some place.id)

variable {place : Place} {server : Server}

theorem At.announce (h : server.At place) : Leads Issues server.announce (At place) :=
  h.item.announce.map fun _ hi => { h with item := hi }

/-- An operation on every database of a server. -/
theorem At.forDatabases (h : server.At place) {operation : Database → Engine Database}
    (ho : ∀ place d, Database.At place d → Leads Issues (operation d) (·.Belongs place.parent)) :
    Leads Issues (do pure { server with databases := ← server.databases.mapM operation })
      (At place) :=
  (Leads.mapM (P := Database.Belongs (some place.id))
    (fun _ ⟨id, loader, hd⟩ => ho ⟨id, some place.id, loader⟩ _ hd) server.databases
    h.databases).map fun _ hd => ⟨h.item, hd⟩

theorem At.addDatabase (h : server.At place) {database : Database}
    (hd : database.Belongs parent) : Leads Issues (server.addDatabase database) (At place) := by
  obtain ⟨id, loader, hd⟩ := hd
  have joined : (database.withServer (some server.id)).Belongs (some place.id) := by
    rw [show server.id = place.id from h.item.id]
    exact ⟨id, loader, hd.withServer _⟩
  exact At.announce ⟨h.item, Database.forall_mem_added h.databases joined⟩

/-- A database that is handed out belongs to no server. -/
theorem At.removeDatabase (h : server.At place) (id : Uuid) :
    Leads Issues (server.removeDatabase id) fun r =>
      r.2.At place ∧ ∀ d, r.1 = some d → d.Belongs none := by
  unfold Server.removeDatabase
  split
  · exact .pure ⟨h, fun _ hd => absurd hd (Option.some_ne_none _).symm⟩
  · next database hd =>
    have removed : At place { server with
        databases := server.databases.eraseP (·.id == id) } :=
      ⟨h.item, fun d hd => h.databases d (List.mem_of_mem_eraseP hd)⟩
    obtain ⟨id, loader, hd⟩ := h.databases _ (List.mem_of_find?_eq_some hd)
    refine removed.announce.map fun _ hs => ⟨hs, ?_⟩
    rintro _ ⟨⟩
    exact ⟨id, loader, hd.withServer none⟩

theorem At.onDatabase (h : server.At place) {operation : Database → Engine (β × Database)}
    (ho : ∀ parent d, Database.Belongs parent d →
      Leads Issues (operation d) fun r => r.2.Belongs parent) (id : Uuid) :
    Leads Issues (server.onDatabase id operation) fun r => r.2.At place :=
  (Leads.onFirst (ho _) server.databases h.databases).map fun _ hr => ⟨h.item, hr⟩

/-- A session leaves the items and databases of a server as they are. -/
theorem At.readAccounts (h : server.At place) (world : World) (connector : Connector)
    (indicator : Option Indicator) :
    (server.readAccounts world connector indicator).server.At place := by
  rw [Server.readAccounts]
  dsimp only
  split
  · exact ⟨h.item, h.databases⟩
  · exact ⟨h.item, h.databases⟩

theorem call_at (h : server.At place) (call : ServerCall) :
    Leads Issues (call.run server) fun r => r.2.At place := by
  cases call with
  | rename name =>
    exact .changing ((h.item.rename name).map fun _ hi => { h with item := hi })
  | setHost host => exact .changing (At.announce ⟨h.item, h.databases⟩)
  | setPort port => exact .changing (At.announce ⟨h.item, h.databases⟩)
  | rememberLogin username password => exact .changing (.pure ⟨h.item, h.databases⟩)
  | rememberAdministrator password => exact .changing (.pure ⟨h.item, h.databases⟩)
  | lockChildren =>
    refine .changing (.pure ⟨h.item, List.forall_mem_map.mpr fun d hd => ?_⟩)
    obtain ⟨id, loader, hd⟩ := h.databases d hd
    exact ⟨id, loader, { hd with item := hd.item.lock }⟩
  | unlockChildren =>
    exact .changing (h.forDatabases fun _ _ hd => hd.item.unlock.map fun _ hi =>
      Database.At.belongs { hd with item := hi })
  | disconnectAll => exact .changing (h.forDatabases fun _ _ hd => hd.disconnect.mono fun _ hd =>
      hd.belongs)
  | invalidate asked =>
    exact .changing (h.forDatabases fun _ _ hd => (hd.invalidate asked).mono fun _ hd => hd.belongs)
  | openSession connector indicator asAdministrator =>
    exact ⟨Course.refl, fun _ => ⟨h.item, h.databases⟩⟩
  | readAccounts connector indicator =>
    exact ⟨Course.refl, fun w => h.readAccounts w connector indicator⟩
  | item call => exact .changing ((h.item.call call).map fun _ hi => { h with item := hi })

end Server

end MetaCatalog
