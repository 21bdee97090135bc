import MetaCatalog.Proofs.Framework.Databases
import MetaCatalog.Proofs.Framework.LikeObjects

/-!
# Databases that are alike

Databases are alike if their items and their objects are. Every call on databases that
are alike tells the same, and so does their report; they are alike afterwards
(`Databases.tell`, `Databases.report`).
-/

namespace MetaCatalog

namespace Likeness

/-- The databases are the same but for identifiers. -/
inductive Databases (L : Likeness) (database : Database) : Database → Prop
  | mk {item : Item} {tables : List Table} {views : List View} {procedures : List Procedure}
    (same : L.Items database.item item) (ts : List.Forall₂ L.Tables database.tables tables)
    (vs : List.Forall₂ L.Views database.views views)
    (ps : List.Forall₂ L.Procedures database.procedures procedures) :
    Databases L database { database with item, tables, views, procedures }

variable {L : Likeness}

/-! ## Objects -/

theorem Tables.rawName {table table' : Table} (h : L.Tables table table') :
    table'.name.raw = table.name.raw := by
  rw [h.names.1]

theorem Views.rawName {view view' : View} (h : L.Views view view') :
    view'.name.raw = view.name.raw := by
  obtain ⟨⟨⟨-, -⟩, -⟩⟩ := h
  rfl

theorem Procedures.rawName {procedure procedure' : Procedure}
    (h : L.Procedures procedure procedure') : procedure'.name.raw = procedure.name.raw := by
  obtain ⟨⟨-, -⟩, -⟩ := h
  rfl

theorem Tables.withLoader {table table' : Table} (h : L.Tables table table')
    (loader : Option LoaderId) : L.Tables (table.withLoader loader) (table'.withLoader loader) :=
  h.withItem (h.relation.item.withLoader loader)

theorem Views.withLoader {view view' : View} (h : L.Views view view')
    (loader : Option LoaderId) : L.Views (view.withLoader loader) (view'.withLoader loader) :=
  h.withItem (h.relation.item.withLoader loader)

theorem Procedures.withLoader {procedure procedure' : Procedure}
    (h : L.Procedures procedure procedure') (loader : Option LoaderId) :
    L.Procedures (procedure.withLoader loader) (procedure'.withLoader loader) :=
  h.withItem (h.item.withLoader loader)

section

variable {owner owner' : Uuid} (above : L.ids owner owner') (loader : Option LoaderId)
  (name : Identifier)

include above

theorem Tables.within : L.Runs (Table.within owner loader name) (Table.within owner' loader name)
    L.Tables :=
  (Items.within .table name above loader).map fun _ _ h => ⟨⟨h, .unloaded⟩⟩

theorem Views.within : L.Runs (View.within owner loader name) (View.within owner' loader name)
    L.Views :=
  (Items.within .view name above loader).map fun _ _ h => ⟨⟨h, .unloaded⟩⟩

theorem Procedures.within :
    L.Runs (Procedure.within owner loader name) (Procedure.within owner' loader name)
      L.Procedures :=
  (Items.within .procedure name above loader).map fun _ _ h => ⟨h, .unloaded⟩

end

/-- An attempt for each of several objects. -/
theorem loadEach_runs {R : σ → τ → Prop} {load : σ → Engine (Attempted σ)}
    {load' : τ → Engine (Attempted τ)} (h : ∀ s t, R s t → L.Runs (load s) (load' t) (SameAnswer R))
    {objects : List σ} {objects' : List τ} (hs : List.Forall₂ R objects objects') :
    L.Runs (Database.loadEach load objects) (Database.loadEach load' objects')
      (SameAnswer (List.Forall₂ R)) := by
  refine (Runs.mapM h hs).map fun attempted attempted' same => ⟨?_, ?_⟩
  · exact map_same (fun _ _ same => congrArg (·.isOk) same.answer) same
  · rw [List.forall₂_map_left_iff, List.forall₂_map_right_iff]
    exact same.imp fun _ _ same => same.object

/-! ## Links -/

/-- Computations on tables that run alike. -/
def Relates (L : Likeness) (m m' : TableQuery α) : Prop :=
  ∀ ⦃tables tables' : List Table⦄, List.Forall₂ L.Tables tables tables' →
    L.Runs (m.run.run tables) (m'.run.run tables') (SameAnswer (List.Forall₂ L.Tables))

namespace Relates

theorem pure (a : α) : L.Relates (Pure.pure a) (Pure.pure a) :=
  fun _ _ h => .pure ⟨rfl, h⟩

theorem bind {m m' : TableQuery α} {f f' : α → TableQuery β} (hm : L.Relates m m')
    (hf : ∀ a, L.Relates (f a) (f' a)) : L.Relates (m >>= f) (m' >>= f') := by
  intro tables tables' h w w' alike
  obtain ⟨same, between⟩ := hm h alike
  rw [TableQuery.run_bind, TableQuery.run_bind]
  generalize m.run.run tables w = run at same between ⊢
  generalize m'.run.run tables' w' = run' at same between ⊢
  obtain ⟨⟨outcome, first⟩, v⟩ := run
  obtain ⟨⟨outcome', first'⟩, v'⟩ := run'
  obtain ⟨rfl : outcome' = outcome, related⟩ := same
  cases outcome' with
  | ok a => exact hf a related between
  | error e => exact ⟨⟨rfl, related⟩, between⟩

theorem ofQuery {query query' : Query α} (h : L.Finds query query' Eq) :
    L.Relates (.ofQuery query) (.ofQuery query') := by
  intro tables tables' related
  refine Runs.map h fun outcome outcome' same => ⟨?_, related⟩
  cases same with
  | ok same => exact congrArg Except.ok same.symm
  | error e => rfl

theorem foreignKeys (name : String) :
    L.Relates (TableQuery.foreignKeys? name) (TableQuery.foreignKeys? name) := by
  intro tables tables' related
  refine Runs.map (Runs.onFirst (fun _ _ same => congrArg (· == name) same.rawName)
    (fun table table' h => ?_) related) fun _ _ same =>
      ⟨congrArg (·.elim (.ok none) (·.map some)) same.answer, same.object⟩
  refine (h.load .foreignKeys).map fun _ _ same => ⟨?_, same.object⟩
  dsimp only
  rw [same.answer, same.object.rest]

theorem dependentKeys (names : List String) (name : String) (dependents : List Dependency) :
    L.Relates (TableQuery.dependentKeys names name dependents)
      (TableQuery.dependentKeys names name dependents) := by
  induction dependents with
  | nil => exact .pure []
  | cons dependent rest ih =>
    rw [TableQuery.dependentKeys]
    split
    · exact .bind (.foreignKeys dependent.name) fun _ => .bind ih fun _ => .pure _
    · exact ih

end Relates

theorem loadDependencies_finds (l : LoaderId) (name : String) (kind : ItemKind)
    (dependsOn : Bool) :
    L.Finds (Dependency.load l name kind dependsOn) (Dependency.load l name kind dependsOn) Eq := by
  rw [Dependency.load]
  split
  · exact .pure rfl
  · exact L.withTransaction_finds l (Fetches.finds (.dependencies name _ dependsOn) l)

theorem Relates.links (l : LoaderId) (names : List String) (name : String) :
    L.Relates (TableQuery.links l names name) (TableQuery.links l names name) := by
  refine .bind (.foreignKeys name) fun keys => ?_
  cases keys with
  | none => exact fun _ _ h => .pure ⟨rfl, h⟩
  | some keys =>
    exact .bind (.ofQuery (loadDependencies_finds l name .table false)) fun dependents =>
      .bind (.dependentKeys names name dependents) fun _ => .pure _

/-! ## Databases -/

namespace Databases

variable {database database' : Database}

theorem item (h : L.Databases database database') : L.Items database.item database'.item := by
  obtain ⟨same, -, -, -⟩ := h
  exact same

theorem tables (h : L.Databases database database') :
    List.Forall₂ L.Tables database.tables database'.tables := by
  obtain ⟨-, ts, -, -⟩ := h
  exact ts

theorem views (h : L.Databases database database') :
    List.Forall₂ L.Views database.views database'.views := by
  obtain ⟨-, -, vs, -⟩ := h
  exact vs

theorem procedures (h : L.Databases database database') :
    List.Forall₂ L.Procedures database.procedures database'.procedures := by
  obtain ⟨-, -, -, ps⟩ := h
  exact ps

theorem above (h : L.Databases database database') : L.ids database.id database'.id := by
  obtain ⟨⟨⟨same⟩, -⟩, -, -, -⟩ := h
  exact same

theorem loader (h : L.Databases database database') : database'.loader = database.loader := by
  obtain ⟨⟨-, -⟩, -, -, -⟩ := h
  rfl

theorem connection (h : L.Databases database database') :
    database'.connection = database.connection := by
  obtain ⟨-, -, -, -⟩ := h
  rfl

theorem requireLoader (h : L.Databases database database') :
    database'.requireLoader = database.requireLoader := by
  obtain ⟨⟨-, -⟩, -, -, -⟩ := h
  rfl

theorem withItem (h : L.Databases database database') {item item' : Item}
    (same : L.Items item item') :
    L.Databases { database with item } { database' with item := item' } := by
  obtain ⟨-, ts, vs, ps⟩ := h
  exact ⟨same, ts, vs, ps⟩

theorem withTables (h : L.Databases database database') {tables tables' : List Table}
    (ts : List.Forall₂ L.Tables tables tables') :
    L.Databases { database with tables } { database' with tables := tables' } := by
  obtain ⟨same, -, vs, ps⟩ := h
  exact ⟨same, ts, vs, ps⟩

theorem withViews (h : L.Databases database database') {views views' : List View}
    (vs : List.Forall₂ L.Views views views') :
    L.Databases { database with views } { database' with views := views' } := by
  obtain ⟨same, ts, -, ps⟩ := h
  exact ⟨same, ts, vs, ps⟩

theorem withProcedures (h : L.Databases database database')
    {procedures procedures' : List Procedure}
    (ps : List.Forall₂ L.Procedures procedures procedures') :
    L.Databases { database with procedures } { database' with procedures := procedures' } := by
  obtain ⟨same, ts, vs, -⟩ := h
  exact ⟨same, ts, vs, ps⟩

theorem withConnection (h : L.Databases database database') (connection : Option ConnectionId) :
    L.Databases { database with connection } { database' with connection } := by
  obtain ⟨same, ts, vs, ps⟩ := h
  exact ⟨same, ts, vs, ps⟩

theorem announce (h : L.Databases database database') :
    L.Runs database.announce database'.announce L.Databases :=
  h.item.announce.map fun _ _ same => h.withItem same

theorem setLogin (h : L.Databases database database') (username password : String) :
    L.Runs (database.setLogin username password) (database'.setLogin username password)
      L.Databases := by
  obtain ⟨same, ts, vs, ps⟩ := h
  exact announce ⟨same, ts, vs, ps⟩

/-! ### Connecting -/

theorem withLoader (h : L.Databases database database') (loader : Option LoaderId) :
    L.Databases (database.withLoader loader) (database'.withLoader loader) := by
  obtain ⟨same, ts, vs, ps⟩ := h
  exact ⟨same.withLoader loader, List.rel_map (fun _ _ same => same.withLoader loader) ts,
    List.rel_map (fun _ _ same => same.withLoader loader) vs,
    List.rel_map (fun _ _ same => same.withLoader loader) ps⟩

theorem disconnect (h : L.Databases database database') :
    L.Runs database.disconnect database'.disconnect L.Databases := by
  unfold Database.disconnect
  rw [h.loader]
  obtain ⟨same, -, -, -⟩ := h
  have bare := same.withLoader none
  split
  · exact (clearStatements_runs _).bind fun _ _ _ => announce ⟨bare, .nil, .nil, .nil⟩
  · exact announce ⟨bare, .nil, .nil, .nil⟩

/-- A database that has no connection any more gets a new one. -/
theorem reconnect (h : L.Databases database database') (c : ConnectionId) :
    L.Runs
      (do
        let l ← World.newLoader c
        Database.announce { database.withLoader (some l) with connection := some c })
      (do
        let l ← World.newLoader c
        Database.announce { database'.withLoader (some l) with connection := some c })
      L.Databases := by
  refine (newLoader_runs c).bind fun l _ same => same ▸ announce ?_
  exact (h.withLoader (some l)).withConnection (some c)

theorem connect (h : L.Databases database database') (c : ConnectionId) :
    L.Runs (database.connect c) (database'.connect c) L.Databases := by
  unfold Database.connect
  rw [h.connection]
  split
  · exact h.disconnect.bind fun _ _ h => h.reconnect c
  · exact h.reconnect c

/-! ### Objects -/

theorem addTable (h : L.Databases database database') (name : Identifier) :
    L.Runs (database.addTable name) (database'.addTable name) L.Databases := by
  unfold Database.addTable
  rw [h.loader]
  exact (Tables.within h.above database.loader name).bind fun _ _ same =>
    announce (h.withTables (List.rel_append h.tables (.cons same .nil)))

theorem addView (h : L.Databases database database') (name : Identifier) :
    L.Runs (database.addView name) (database'.addView name) L.Databases := by
  unfold Database.addView
  rw [h.loader]
  exact (Views.within h.above database.loader name).bind fun _ _ same =>
    announce (h.withViews (List.rel_append h.views (.cons same .nil)))

theorem addProcedure (h : L.Databases database database') (name : Identifier) :
    L.Runs (database.addProcedure name) (database'.addProcedure name) L.Databases := by
  unfold Database.addProcedure
  rw [h.loader]
  exact (Procedures.within h.above database.loader name).bind fun _ _ same =>
    announce (h.withProcedures (List.rel_append h.procedures (.cons same .nil)))

theorem withObjects (h : L.Databases database database') (l : LoaderId)
    (names : List (String × Bool) × List String) :
    L.Runs (database.withObjects l names) (database'.withObjects l names) L.Databases := by
  have above := h.above
  exact (makes (Tables.within above (some l)) _).bind fun _ _ ts =>
    (makes (Views.within above (some l)) _).bind fun _ _ vs =>
      (makes (Procedures.within above (some l)) _).map fun _ _ ps =>
        ((h.withTables ts).withViews vs).withProcedures ps

theorem loadObjects (h : L.Databases database database') :
    L.Runs database.loadObjects database'.loadObjects (SameAnswer L.Databases) := by
  unfold Database.loadObjects
  rw [h.requireLoader]
  split
  · exact .pure ⟨rfl, h⟩
  · next l _ =>
    refine (h.item.fetch (Fetches.names.finds l)).bind fun r r' fetched => ?_
    obtain ⟨_, item⟩ := r
    obtain ⟨_, item'⟩ := r'
    obtain ⟨outcome, same⟩ := fetched
    cases outcome with
    | error e => exact .pure ⟨rfl, h.withItem same⟩
    | ok found => exact found ▸ ((h.withItem same).withObjects l _).map fun _ _ h => ⟨rfl, h⟩

theorem loadMembers (h : L.Databases database database') :
    L.Runs database.loadMembers database'.loadMembers (SameAnswer L.Databases) := by
  refine (loadEach_runs (fun _ _ => Tables.loadColumns) h.tables).bind fun _ _ ts => ?_
  refine (loadEach_runs (fun _ _ => Views.loadColumns) h.views).bind fun _ _ vs => ?_
  refine (loadEach_runs (fun _ _ => Procedures.loadParameters) h.procedures).map
    fun _ _ ps => ⟨?_, ((h.withTables ts.object).withViews vs.object).withProcedures ps.object⟩
  dsimp only
  rw [ts.answer, vs.answer, ps.answer]

theorem dependencies (h : L.Databases database database') (name : String) (kind : ItemKind)
    (dependsOn : Bool) :
    L.Finds (database.dependencies name kind dependsOn)
      (database'.dependencies name kind dependsOn) Eq := by
  unfold Database.dependencies
  rw [h.requireLoader]
  exact (Finds.ofExcept _).bind fun l _ same =>
    same ▸ loadDependencies_finds l name kind dependsOn

theorem links (h : L.Databases database database') (names : List String) (name : String) :
    L.Runs (database.links names name) (database'.links names name) (SameAnswer L.Databases) := by
  unfold Database.links
  rw [h.requireLoader]
  split
  · exact .pure ⟨rfl, h⟩
  · next l _ =>
    refine Runs.bind (enter_finds l) fun _ _ entered => ?_
    cases entered with
    | error e => exact .pure ⟨rfl, h⟩
    | ok _ =>
      exact (Relates.links l names name h.tables).bind fun _ _ found =>
        (leave_runs l).map fun _ _ _ => ⟨found.answer, h.withTables found.object⟩

theorem invalidate (h : L.Databases database database') (asked : Option FacetKind) :
    L.Runs (database.invalidate asked) (database'.invalidate asked) L.Databases :=
  (Runs.mapM (fun _ _ h => h.invalidate asked) h.tables).bind fun _ _ ts =>
    (Runs.mapM (fun _ _ h => h.invalidate asked) h.views).bind fun _ _ vs =>
      (Runs.mapM (fun _ _ h => h.invalidate asked) h.procedures).bind fun _ _ ps =>
        h.item.lock.unlock.map fun _ _ same =>
          (((h.withTables ts).withViews vs).withProcedures ps).withItem same

/-! ### Calls -/

theorem tell (h : L.Databases database database') (call : DatabaseCall) :
    L.Runs (call.tell database) (call.tell database') (SameAnswer L.Databases) := by
  cases call with
  | disconnect => exact h.disconnect.noting
  | setLogin username password => exact (h.setLogin username password).noting
  | loadObjects => exact h.loadObjects.telling _
  | loadMembers => exact h.loadMembers.shows _
  | addTable name => exact (h.addTable name).noting
  | addView name => exact (h.addView name).noting
  | addProcedure name => exact (h.addProcedure name).noting
  | dependencies name kind dependsOn =>
    refine Runs.telling (Runs.map (h.dependencies name kind dependsOn) fun _ _ same => ?_) _
    cases same with
    | ok same => exact ⟨congrArg Except.ok same.symm, h⟩
    | error e => exact ⟨rfl, h⟩
  | links names name => exact (h.links names name).telling _
  | invalidate asked => exact (h.invalidate asked).noting
  | item call => exact .noting ((h.item.call call).map fun _ _ same => h.withItem same)

/-- The databases are connected to the same catalog, if to any. -/
theorem catalogs (h : L.Databases database database') {w w' : World} (alike : L.Worlds w w') :
    Option.Rel L.Catalogs (database.catalog? w) (database'.catalog? w') := by
  unfold Database.catalog?
  rw [h.connection]
  cases database.connection with
  | none => exact .none
  | some c => exact .some (alike.catalog c)

/-- Reports tell names, but no identifiers. -/
theorem report (h : L.Databases database database') {w w' : World} (alike : L.Worlds w w') :
    database'.report w' = database.report w := by
  have tables := map_same (fun _ _ same => Tables.rawName same) h.tables
  have views := map_same (fun _ _ same => Views.rawName same) h.views
  have procedures := map_same (fun _ _ same => Procedures.rawName same) h.procedures
  have loader : database'.loader.map w'.loader = database.loader.map w.loader := by
    rw [h.loader, funext alike.loader]
  have catalogs := h.catalogs alike
  unfold Database.report Database.isConnected Database.connectedUser? Database.connectedPassword?
  dsimp only
  rw [tables, views, procedures, loader, h.item.hasParent]
  generalize database.catalog? w = catalog at catalogs ⊢
  generalize database'.catalog? w' = catalog' at catalogs ⊢
  obtain ⟨⟨⟨-⟩, -⟩, -, -, -⟩ := h
  cases catalogs with
  | none => rfl
  | some same =>
    obtain ⟨_, _, rfl⟩ := same
    rfl

end Databases

/-! ## Reflexivity -/

section Reflexivity

variable (same : ∀ id, L.ids id id)

include same

theorem Items.refl (item : Item) : L.Items item item := by
  refine ⟨⟨same item.subject.id⟩, ?_⟩
  cases item.parent with
  | none => exact .none
  | some id => exact .some (same id)

theorem Relations.refl (relation : Relation) : L.Relations relation relation := by
  refine ⟨.refl same relation.item, ?_⟩
  have columns (columns : List Column) : List.Forall₂ L.Columns columns columns :=
    List.forall₂_same.mpr fun column _ => ⟨.refl same column.item⟩
  cases relation.columns with
  | unloaded => exact .unloaded
  | loading => exact .loading
  | loaded value => exact .loaded (columns value)

theorem Tables.refl (table : Table) : L.Tables table table := ⟨.refl same table.relation⟩

theorem Views.refl (view : View) : L.Views view view := ⟨.refl same view.relation⟩

theorem Procedures.refl (procedure : Procedure) : L.Procedures procedure procedure := by
  refine ⟨.refl same procedure.item, ?_⟩
  have parameters (parameters : List Parameter) :
      List.Forall₂ L.Parameters parameters parameters :=
    List.forall₂_same.mpr fun parameter _ => ⟨.refl same parameter.item⟩
  cases procedure.parameters with
  | unloaded => exact .unloaded
  | loading => exact .loading
  | loaded value => exact .loaded (parameters value)

/-- A database is like itself. -/
theorem Databases.refl (database : Database) : L.Databases database database :=
  ⟨.refl same database.item, List.forall₂_same.mpr fun t _ => .refl same t,
    List.forall₂_same.mpr fun v _ => .refl same v,
    List.forall₂_same.mpr fun p _ => .refl same p⟩

end Reflexivity

end Likeness

end MetaCatalog
