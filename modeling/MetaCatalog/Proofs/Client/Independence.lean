import MetaCatalog.Proofs.Client.Transactions
import MetaCatalog.Proofs.Framework.Answers

/-!
# Loads do not depend on the past

What loading a facet finds is the same for an object with any past and for a new
object of the same kind and name that is read with a new loader, as long as only
the library uses the statements of the loader.
`Client.Reachable.load_independent` says so for every object of every client.
-/

namespace MetaCatalog

open World

/-! ## What a facet shows -/

def Column.bare (column : Column) : Column := { column with item := column.item.bare }

def Parameter.bare (parameter : Parameter) : Parameter :=
  { parameter with item := parameter.item.bare }

/-- The value of a facet of any kind. Columns and parameters are without what is
made up for them. -/
inductive FacetValue where
  | columns (columns : List Column)
  | primaryKey (key : Option PrimaryKey)
  | foreignKeys (keys : List ForeignKey)
  | checkConstraints (constraints : List CheckConstraint)
  | uniqueConstraints (constraints : List UniqueConstraint)
  | indices (indices : List Index)
  | text (text : String)
  | parameters (parameters : List Parameter)
  | privileges (privileges : List Privilege)
  | description (description : Option String)

namespace Table

/-- What a facet of a table shows, if tables have it. -/
def facet? (table : Table) : FacetKind → Option (Facet FacetValue)
  | .columns => some (table.relation.columns.map (.columns ∘ List.map Column.bare))
  | .primaryKey => some (table.primaryKey.map .primaryKey)
  | .foreignKeys => some (table.foreignKeys.map .foreignKeys)
  | .checkConstraints => some (table.checkConstraints.map .checkConstraints)
  | .uniqueConstraints => some (table.uniqueConstraints.map .uniqueConstraints)
  | .indices => some (table.indices.map .indices)
  | .externalPath => some (table.externalPath.map .text)
  | .description => some (table.relation.description.map .description)
  | .source | .parameters | .privileges => none

/-- The queries that a facet of a table takes. -/
def queries : FacetKind → List String
  | .columns => [Column.sql]
  | .primaryKey => [primaryKeySql]
  | .foreignKeys => [foreignKeySql, referencedKeySql]
  | .checkConstraints => [checkSql]
  | .uniqueConstraints => [uniqueSql]
  | .indices => [indexSql]
  | .externalPath => [externalFileSql]
  | .description => [Relation.descriptionSql]
  | .source | .parameters | .privileges => []

end Table

namespace View

/-- What a facet of a view shows, if views have it. -/
def facet? (view : View) : FacetKind → Option (Facet FacetValue)
  | .columns => some (view.relation.columns.map (.columns ∘ List.map Column.bare))
  | .source => some (view.source.map .text)
  | .description => some (view.relation.description.map .description)
  | .primaryKey | .foreignKeys | .checkConstraints | .uniqueConstraints | .indices
  | .externalPath | .parameters | .privileges => none

/-- The queries that a facet of a view takes. -/
def queries : FacetKind → List String
  | .columns => [Column.sql]
  | .source => [sourceSql]
  | .description => [Relation.descriptionSql]
  | .primaryKey | .foreignKeys | .checkConstraints | .uniqueConstraints | .indices
  | .externalPath | .parameters | .privileges => []

end View

namespace Procedure

/-- What a facet of a procedure shows, if procedures have it. -/
def facet? (procedure : Procedure) : FacetKind → Option (Facet FacetValue)
  | .parameters => some (procedure.parameters.map (.parameters ∘ List.map Parameter.bare))
  | .source => some (procedure.source.map .text)
  | .privileges => some (procedure.privileges.map .privileges)
  | .description => some (procedure.description.map .description)
  | .columns | .primaryKey | .foreignKeys | .checkConstraints | .uniqueConstraints | .indices
  | .externalPath => none

/-- The queries that a facet of a procedure takes. -/
def queries : FacetKind → List String
  | .parameters => [Parameter.sql]
  | .source => [sourceSql]
  | .privileges => [privilegeSql]
  | .description => [descriptionSql]
  | .columns | .primaryKey | .foreignKeys | .checkConstraints | .uniqueConstraints | .indices
  | .externalPath => []

end Procedure

namespace Object

/-- What a facet of the object shows, if such objects have it. -/
def facet? : Object → FacetKind → Option (Facet FacetValue)
  | table t => t.facet?
  | view v => v.facet?
  | procedure p => p.facet?

/-- The queries that a facet of the object takes. -/
def queries : Object → FacetKind → List String
  | table _ => Table.queries
  | view _ => View.queries
  | procedure _ => Procedure.queries

/-- A new object of the same kind and name in a database, read with a new loader
on a connection. -/
def renew (object : Object) (database : Uuid) (connection : ConnectionId) : Engine Object := do
  let loader ← World.newLoader connection
  match object with
  | table t => do pure (table (← Table.within database (some loader) t.name))
  | view v => do pure (view (← View.within database (some loader) v.name))
  | procedure p => do pure (procedure (← Procedure.within database (some loader) p.name))

end Object

/-! ## What loading finds -/

theorem Facet.isLoaded_of_map {facet : Facet α} {see : α → β} (h : facet.map see = .unloaded) :
    facet.isLoaded = false := by
  cases facet with
  | loaded value => cases h
  | unloaded => rfl
  | loading => rfl

/-- What a fetch for an item finds depends on no more of the item than its
name. -/
def FindsByName (sqls : List String) (see : α → β) (fetch : Item → LoaderId → Query α) : Prop :=
  ∀ name, ∃ find, ∀ item, item.name = name → Computes sqls see (fetch item) find

/-- What an object finds when it loads a facet: the facet shows what was
found. -/
def ShowsFound (w : World) (l : LoaderId) (facet? : σ → Option (Facet FacetValue))
    (loaded : Attempted σ × World) (found : Except Error FacetValue × List Execution) : Prop :=
  ∃ shown, facet? loaded.1.2 = some shown ∧ LoadFinds w l loaded.1.1 shown loaded.2 found

namespace FindsByName

variable {sqls : List String} {fetch : Item → LoaderId → Query α}

theorem of (hf : ∀ item, Fetches sqls (fetch item))
    (hn : ∀ item item', item.name = item'.name → fetch item = fetch item') (see : α → β) :
    FindsByName sqls see fetch := by
  intro name
  have named : (Item.free .nil .table name).name = name := rfl
  obtain ⟨find, computes⟩ := (hf (Item.free .nil .table name)).computes_map see
  exact ⟨find, fun item hi => hn _ item (named.trans hi.symm) ▸ computes⟩

theorem columns :
    FindsByName [Column.sql] (FacetValue.columns ∘ List.map Column.bare) Relation.fetchColumns := by
  intro name
  obtain ⟨find, computes⟩ := (Fetches.columns name.raw).members Column.bare fun d =>
    ({ item := (Item.free .nil .column d.name).bare, definition := d } : Column)
  refine ⟨fun catalog => ((find catalog).1.map FacetValue.columns, (find catalog).2),
    fun item hi => ?_⟩
  have made := computes (Column.within item.id) fun _ _ w => ⟨rfl, w.issued + 1, rfl⟩
  rw [← hi] at made
  exact made.map FacetValue.columns

theorem parameters :
    FindsByName [Parameter.sql] (FacetValue.parameters ∘ List.map Parameter.bare)
      Procedure.fetchParameters := by
  intro name
  obtain ⟨find, computes⟩ := (Fetches.parameters name.raw).members Parameter.bare fun d =>
    ({ item := (Item.free .nil .parameter d.name).bare, definition := d } : Parameter)
  refine ⟨fun catalog => ((find catalog).1.map FacetValue.parameters, (find catalog).2),
    fun item hi => ?_⟩
  have made := computes (Parameter.within item.id) fun _ _ w => ⟨rfl, w.issued + 1, rfl⟩
  rw [← hi] at made
  exact made.map FacetValue.parameters

theorem description {sql : String} (about : AboutName sql) :
    FindsByName [sql] FacetValue.description (Relation.fetchDescription sql) :=
  of (Fetches.description about) (fun i i' h => by unfold Relation.fetchDescription; rw [h]) _

/-- An object whose facet is loaded by its item shows what the item finds. -/
theorem shows {see : α → FacetValue} (h : FindsByName sqls see fetch) (name : Identifier)
    {item : σ → Item} {facet : σ → Facet α} {facet? : σ → Option (Facet FacetValue)}
    {load : σ → Engine (Attempted σ)} (hf : ∀ object, facet? object = some ((facet object).map see))
    (hl : ∀ object w, (facet object).isLoaded = false →
      (load object w).1.1 = ((item object).load (facet object) (fetch (item object)) w).1.outcome ∧
      facet? (load object w).1.2 =
        some (((item object).load (facet object) (fetch (item object)) w).1.facet.map see) ∧
      (load object w).2 = ((item object).load (facet object) (fetch (item object)) w).2) :
    ∃ find : Finding FacetValue, ∀ {object : σ} {w : World} {l : LoaderId},
      (item object).name = name → Idle sqls w l → (item object).loader = some l →
      facet? object = some .unloaded →
      ShowsFound w l facet? (load object w) (find (w.catalogOf l).script) := by
  obtain ⟨find, computes⟩ := h name
  refine ⟨find, fun {object w l} hi idle loader unloaded => ?_⟩
  have notLoaded : (facet object).isLoaded = false :=
    Facet.isLoaded_of_map (Option.some.inj ((hf object).symm.trans unloaded))
  obtain ⟨outcome, shown, after⟩ := hl object w notLoaded
  refine ⟨_, shown, ?_⟩
  rw [outcome, after]
  exact Item.load_finds (computes _ hi) idle loader notLoaded

end FindsByName

/-- What loading a facet of a table finds, given its name. -/
theorem Table.load_finds (name : Identifier) (facet : FacetKind) :
    ∃ find : Finding FacetValue, ∀ {table : Table} {w : World} {l : LoaderId}, table.name = name →
      Idle (queries facet) w l → table.item.loader = some l →
      table.facet? facet = some .unloaded →
      ShowsFound w l (·.facet? facet) (table.load facet w) (find (w.catalogOf l).script) := by
  cases facet with
  | columns =>
    refine FindsByName.columns.shows name (fun _ => rfl) fun table w unloaded => ?_
    have run : table.load .columns w = (do
        let r ← table.relation.loadColumns
        pure (r.1, { table.dropDependents with relation := r.2 }) : Engine _) w := by
      show table.loadColumns w = _
      unfold Table.loadColumns
      rw [if_neg (by rw [unloaded]; exact Bool.false_ne_true)]
      rfl
    rw [run]
    exact ⟨rfl, rfl, rfl⟩
  | primaryKey =>
    exact (FindsByName.of Fetches.primaryKey (fun i i' h => by unfold fetchPrimaryKey; rw [h])
      FacetValue.primaryKey).shows name (fun _ => rfl) fun _ _ _ => ⟨rfl, rfl, rfl⟩
  | foreignKeys =>
    exact (FindsByName.of Fetches.foreignKeys (fun i i' h => by unfold fetchForeignKeys; rw [h])
      FacetValue.foreignKeys).shows name (fun _ => rfl) fun _ _ _ => ⟨rfl, rfl, rfl⟩
  | checkConstraints =>
    exact (FindsByName.of Fetches.checkConstraints
      (fun i i' h => by unfold fetchCheckConstraints; rw [h])
      FacetValue.checkConstraints).shows name (fun _ => rfl) fun _ _ _ => ⟨rfl, rfl, rfl⟩
  | uniqueConstraints =>
    exact (FindsByName.of Fetches.uniqueConstraints
      (fun i i' h => by unfold fetchUniqueConstraints; rw [h])
      FacetValue.uniqueConstraints).shows name (fun _ => rfl) fun _ _ _ => ⟨rfl, rfl, rfl⟩
  | indices =>
    exact (FindsByName.of Fetches.indices (fun i i' h => by unfold fetchIndices; rw [h])
      FacetValue.indices).shows name (fun _ => rfl) fun _ _ _ => ⟨rfl, rfl, rfl⟩
  | externalPath =>
    exact (FindsByName.of Fetches.externalPath (fun i i' h => by unfold fetchExternalPath; rw [h])
      FacetValue.text).shows name (fun _ => rfl) fun _ _ _ => ⟨rfl, rfl, rfl⟩
  | description =>
    exact (FindsByName.description .description).shows name (fun _ => rfl)
      fun _ _ _ => ⟨rfl, rfl, rfl⟩
  | source | parameters | privileges =>
    refine ⟨fun _ => (.error .cancelled, []), fun _ _ _ hf => ?_⟩
    cases hf

/-- What loading a facet of a view finds, given its name. -/
theorem View.load_finds (name : Identifier) (facet : FacetKind) :
    ∃ find : Finding FacetValue, ∀ {view : View} {w : World} {l : LoaderId}, view.name = name →
      Idle (queries facet) w l → view.item.loader = some l →
      view.facet? facet = some .unloaded →
      ShowsFound w l (·.facet? facet) (view.load facet w) (find (w.catalogOf l).script) := by
  cases facet with
  | columns =>
    exact FindsByName.columns.shows name (fun _ => rfl) fun _ _ _ => ⟨rfl, rfl, rfl⟩
  | source =>
    exact (FindsByName.of Fetches.viewSource (fun i i' h => by unfold fetchSource; rw [h])
      FacetValue.text).shows name (fun _ => rfl) fun _ _ _ => ⟨rfl, rfl, rfl⟩
  | description =>
    exact (FindsByName.description .description).shows name (fun _ => rfl)
      fun _ _ _ => ⟨rfl, rfl, rfl⟩
  | primaryKey | foreignKeys | checkConstraints | uniqueConstraints | indices | externalPath
  | parameters | privileges =>
    refine ⟨fun _ => (.error .cancelled, []), fun _ _ _ hf => ?_⟩
    cases hf

/-- What loading a facet of a procedure finds, given its name. -/
theorem Procedure.load_finds (name : Identifier) (facet : FacetKind) :
    ∃ find : Finding FacetValue, ∀ {procedure : Procedure} {w : World} {l : LoaderId},
      procedure.name = name → Idle (queries facet) w l → procedure.item.loader = some l →
      procedure.facet? facet = some .unloaded →
      ShowsFound w l (·.facet? facet) (procedure.load facet w)
        (find (w.catalogOf l).script) := by
  cases facet with
  | parameters =>
    exact FindsByName.parameters.shows name (fun _ => rfl) fun _ _ _ => ⟨rfl, rfl, rfl⟩
  | source =>
    exact (FindsByName.of Fetches.procedureSource (fun i i' h => by unfold fetchSource; rw [h])
      FacetValue.text).shows name (fun _ => rfl) fun _ _ _ => ⟨rfl, rfl, rfl⟩
  | privileges =>
    exact (FindsByName.of Fetches.privileges (fun i i' h => by unfold fetchPrivileges; rw [h])
      FacetValue.privileges).shows name (fun _ => rfl) fun _ _ _ => ⟨rfl, rfl, rfl⟩
  | description =>
    exact (FindsByName.description .procedureDescription).shows name (fun _ => rfl)
      fun _ _ _ => ⟨rfl, rfl, rfl⟩
  | columns | primaryKey | foreignKeys | checkConstraints | uniqueConstraints | indices
  | externalPath =>
    refine ⟨fun _ => (.error .cancelled, []), fun _ _ _ hf => ?_⟩
    cases hf

namespace Object

/-- Objects of the same kind and name. -/
def Like : Object → Object → Prop
  | table t, table t' => t'.name = t.name
  | view v, view v' => v'.name = v.name
  | procedure p, procedure p' => p'.name = p.name
  | _, _ => False

theorem Like.refl (object : Object) : object.Like object := by
  cases object <;> rfl

/-- What loading a facet finds is the same for all objects of a kind and
name. -/
theorem load_finds (object : Object) (facet : FacetKind) :
    ∃ find : Finding FacetValue, ∀ {object' : Object} {w : World} {l : LoaderId},
      object.Like object' → Idle (object.queries facet) w l → object'.item.loader = some l →
      object'.facet? facet = some .unloaded →
      ShowsFound w l (·.facet? facet) (object'.load facet w) (find (w.catalogOf l).script) := by
  cases object with
  | table t =>
    obtain ⟨find, finds⟩ := Table.load_finds t.name facet
    refine ⟨find, fun {object' w l} hn idle hl hf => ?_⟩
    cases object' with
    | table t' => exact finds hn idle hl hf
    | view _ => cases hn
    | procedure _ => cases hn
  | view v =>
    obtain ⟨find, finds⟩ := View.load_finds v.name facet
    refine ⟨find, fun {object' w l} hn idle hl hf => ?_⟩
    cases object' with
    | table _ => cases hn
    | view v' => exact finds hn idle hl hf
    | procedure _ => cases hn
  | procedure p =>
    obtain ⟨find, finds⟩ := Procedure.load_finds p.name facet
    refine ⟨find, fun {object' w l} hn idle hl hf => ?_⟩
    cases object' with
    | table _ => cases hn
    | view _ => cases hn
    | procedure p' => exact finds hn idle hl hf

/-- A new object has the new loader and is not loaded. -/
theorem run_renew (object : Object) (database : Uuid) (connection : ConnectionId) (w : World) :
    object.Like (object.renew database connection w).1 ∧
    (object.renew database connection w).1.item.loader = some ⟨w.loaders.next⟩ ∧
    (∀ facet, (object.facet? facet).isSome →
      (object.renew database connection w).1.facet? facet = some .unloaded) ∧
    (object.renew database connection w).2 =
      { (World.newLoader connection w).2 with issued := w.issued + 1 } := by
  refine ⟨?_, ?_, fun facet hf => ?_, ?_⟩
  · cases object <;> rfl
  · cases object <;> rfl
  · cases object <;> cases facet <;> first | rfl | cases hf
  · cases object <;> rfl

/-- A new object is idle on an idle connection. -/
theorem idle_renew {sqls : List String} {w : World} {l : LoaderId} (h : Idle sqls w l)
    (object : Object) (database : Uuid) :
    Idle sqls (object.renew database (w.loader l).connection w).2 ⟨w.loaders.next⟩ ∧
      ((object.renew database (w.loader l).connection w).2.loader ⟨w.loaders.next⟩).connection =
        (w.loader l).connection ∧
      (object.renew database (w.loader l).connection w).2.catalogOf ⟨w.loaders.next⟩ =
        w.catalogOf l := by
  obtain ⟨-, -, -, hw⟩ := run_renew object database (w.loader l).connection w
  have served := h.upholds.sound.served l h.knows
  have new := loader_newLoader w (w.loader l).connection ⟨w.loaders.next⟩
  rw [if_pos rfl] at new
  have connection : ((World.newLoader (w.loader l).connection w).2.loader
      ⟨w.loaders.next⟩).connection = (w.loader l).connection := by
    rw [new]
  have catalog : ({ (World.newLoader (w.loader l).connection w).2 with
      issued := w.issued + 1 } : World).catalogOf ⟨w.loaders.next⟩ = w.catalogOf l := by
    show w.catalog ((World.newLoader (w.loader l).connection w).2.loader _).connection = _
    rw [new]
    rfl
  have tidy : (World.newLoader (w.loader l).connection w).2.Tidy ⟨w.loaders.next⟩ := by
    rintro s ⟨sql, hs⟩
    rw [new] at hs
    exact absurd hs List.not_mem_nil
  have upholds : (tidiness ⟨w.loaders.next⟩).Upholds
      (World.newLoader (w.loader l).connection w).2 :=
    ⟨h.upholds.sound.newLoader served,
      balance.newLoader h.upholds.sound h.upholds.holds.1 served, tidy⟩
  rw [hw]
  have aside := Discipline.aside_upholds upholds w.observers w.deliveries (w.issued + 1)
  refine ⟨⟨aside.1, ?_, ?_, ?_⟩, connection, catalog⟩
  · exact (knows_newLoader ..).mpr (.inl rfl)
  · rw [catalog]
    exact h.closed
  · rw [catalog]
    exact h.prepares

end Object

/-! ## Clients -/

namespace Client

/-- Nobody calls the transaction of a connection without a loader, and only the
library uses the statements of one loader. -/
def Spares (l : LoaderId) (client : Client) (step : Step) : Prop :=
  step.isDirect = false ∧ ∀ name call handle, step = .useHandle name call →
    client.workspace.handles.lookup name = some handle → handle.loader ≠ l

/-- A statement that a loader does not cache is no matter of its cache. -/
theorem handleCall_tidy {w : World} {l : LoaderId} (h : w.Tidy l) {handle : Handle}
    (hn : ¬ w.Caches l handle.statement) (call : HandleCall) :
    ((call.run handle).run w).2.Tidy l := by
  obtain ⟨catalog, statement, run, -⟩ := Discipline.handleCall_touches w handle call
  rw [run]
  exact (h.setCatalog _ _).setStatement fun hc => absurd hc hn

theorem tidiness_admits (l : LoaderId) : (tidiness l).Admits (Spares l) where
  start seed := ⟨balance_admits.start seed, fun s ⟨_, hs⟩ => absurd hs List.not_mem_nil⟩
  openCatalog h database user password :=
    ⟨balance_admits.openCatalog ⟨h.sound, h.holds.1⟩ database user password, h.holds.2⟩
  script h c change :=
    ⟨balance_admits.script ⟨h.sound, h.holds.1⟩ c change, h.holds.2.setCatalog _ _⟩
  direct _ hp := nomatch hp.1
  prepare h _ hl sql :=
    ⟨balance_admits.prepare ⟨h.sound, h.holds.1⟩ hl sql, h.holds.2.prepare _ sql⟩
  useHandle h hp hn := by
    have reads := Discipline.handleCall_reads h.upholds.sound
    refine ⟨h.upholds.holds.1.reads (reads _ _).2, handleCall_tidy h.upholds.holds.2 ?_ _⟩
    intro hc
    exact hp.2 _ _ _ rfl hn ((h.fits.handles _ (mem_of_lookup hn)).caches l hc).symm

/-- Steps that use no transaction and no statement by hand spare every loader. -/
theorem Reachable.of_steps {steps : List Step} (l : LoaderId) (seed : Nat)
    (used : ∀ step ∈ steps, step.isDirect = false ∧ step.isForeign = false) :
    Reachable (Spares l) ((Client.start seed).after steps) :=
  Reachable.after (.start seed) fun step hs client => by
    obtain ⟨indirect, own⟩ := used step hs
    exact ⟨indirect, fun name call handle he _ => by rw [he] at own; cases own⟩

/-- A loader is idle if its catalog is in no transaction and refuses nothing. -/
theorem Reachable.idle {client : Client} {l : LoaderId} (h : Reachable (Spares l) client)
    (knows : client.world.Knows l) (closed : (client.world.catalogOf l).inTransaction = false)
    (prepares : (client.world.catalogOf l).prepareRefusals = []) (sqls : List String) :
    Idle sqls client.world l :=
  ⟨(h.upheld (tidiness_admits l)).upholds, knows, closed, fun _ _ => by rw [prepares]; rfl⟩

/-- Loading a facet is independent of the past. Take any table, view or procedure
that has a loader, whatever the client did before, as long as only the library
used the statements of the loader and nobody called a connection's transaction
directly. While its connection is in no transaction, loading a facet that is not
loaded has the same outcome, shows the same value and runs the same queries as it
does for a new object of the same kind and name with a new loader on the
connection, if preparing the queries is not refused. -/
theorem Reachable.load_independent {client : Client} {l : LoaderId}
    (h : Reachable (Spares l) client) {object : Object} (ho : object ∈ client.workspace.everyObject)
    (hl : object.item.loader = some l) {facet : FacetKind}
    (hf : object.facet? facet = some .unloaded)
    (closed : (client.world.catalogOf l).inTransaction = false)
    (prepares : ∀ sql ∈ object.queries facet,
      Catalog.refusal? (client.world.catalogOf l).prepareRefusals sql = none) (database : Uuid) :
    let connection := (client.world.loader l).connection
    let loaded := object.load facet client.world
    let renewed := object.renew database connection client.world
    let again := renewed.1.load facet renewed.2
    loaded.1.1 = again.1.1 ∧ loaded.1.2.facet? facet = again.1.2.facet? facet ∧
      ∃ executions : List Execution,
        (loaded.2.catalog connection).journal =
          (client.world.catalog connection).journal ++ executions ∧
        (again.2.catalog connection).journal =
          (client.world.catalog connection).journal ++ executions := by
  intro connection loaded renewed again
  have upheld := h.upheld (tidiness_admits l)
  have known := (upheld.fits.everyObject object ho).knows l hl
  have idle : Idle (object.queries facet) client.world l :=
    ⟨upheld.upholds, known, closed, prepares⟩
  obtain ⟨like, loader, unloaded, -⟩ := object.run_renew database connection client.world
  obtain ⟨idle', served, catalog⟩ := Object.idle_renew idle object database
  -- Both find what `find` says of the script, and they share the connection.
  obtain ⟨find, finds⟩ := object.load_finds facet
  obtain ⟨shown, hs, outcome, found, journal⟩ := finds (.refl object) idle hl hf
  obtain ⟨shown', hs', outcome', found', journal'⟩ :=
    finds like idle' loader (unloaded facet (by rw [hf]; rfl))
  rw [catalog] at outcome' found' journal'
  rw [served] at journal'
  refine ⟨outcome.trans outcome'.symm, ?_, _, journal, journal'⟩
  exact hs.trans ((congrArg some (found.trans found'.symm)).trans hs'.symm)

/-- Whether an object has a facet that is not loaded. -/
instance (facet : Option (Facet α)) : Decidable (facet = some .unloaded) :=
  match facet with
  | some .unloaded => .isTrue rfl
  | some .loading => .isFalse fun h => nomatch h
  | some (.loaded _) => .isFalse fun h => nomatch h
  | none => .isFalse fun h => nomatch h

/-- A client that has loaded the description of a table and dropped it again. -/
def revisiting : Client := (Client.start 0).after
  [.openCatalog "main" "test.fdb" "SYSDBA" "masterkey",
    .newDatabase "db" none (.ofCatalog "DB") "test.fdb", .connect "db" "main",
    .database "db" (.addTable (.ofCatalog "T")),
    .table { database := some "db", table := some "T" } (.load .description),
    .table { database := some "db", table := some "T" } (.invalidate none)]

theorem Reachable.load_independent_revisiting :
    ∃ object ∈ revisiting.workspace.everyObject,
      (revisiting.world.catalog ⟨0⟩).journal.length = 1 ∧
      object.facet? .description = some .unloaded ∧
      let loaded := object.load .description revisiting.world
      let renewed := object.renew .nil (revisiting.world.loader ⟨0⟩).connection revisiting.world
      let again := renewed.1.load .description renewed.2
      loaded.1.1 = again.1.1 ∧
        loaded.1.2.facet? .description = again.1.2.facet? .description := by
  have reachable : Reachable (Spares ⟨0⟩) revisiting := .of_steps ⟨0⟩ 0 (by decide)
  have one : revisiting.workspace.everyObject.head?.isSome = true := by decide +kernel
  have loader : revisiting.workspace.everyObject.head?.bind (·.item.loader) = some ⟨0⟩ := by
    decide +kernel
  have unloaded : revisiting.workspace.everyObject.head?.bind (·.facet? .description) =
      some .unloaded := by decide +kernel
  have closed : (revisiting.world.catalogOf ⟨0⟩).inTransaction = false := by decide +kernel
  have refusals : (revisiting.world.catalogOf ⟨0⟩).prepareRefusals.length = 0 := by
    decide +kernel
  obtain ⟨object, ho⟩ := Option.isSome_iff_exists.mp one
  rw [ho] at loader unloaded
  have member := List.mem_of_mem_head? ho
  have independent := Reachable.load_independent reachable member loader unloaded closed
    (fun _ _ => by rw [List.eq_nil_of_length_eq_zero refusals]; rfl) .nil
  exact ⟨object, member, by decide +kernel, unloaded, independent.1, independent.2.1⟩

end Client

end MetaCatalog
