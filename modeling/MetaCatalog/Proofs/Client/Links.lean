import MetaCatalog.Proofs.Client.Freshness
import MetaCatalog.Proofs.Client.Independence
import MetaCatalog.Proofs.Client.Releases
import MetaCatalog.Proofs.Framework.Links

/-!
# Which keys link the tables of a database

No call gives a table other foreign keys than those it had, none, or those that a
fetch has just found (`Table.call_turns`). Hence every key that a table holds names
the table, and keys that agree with the catalog still do after any call. A search for
links therefore finds exactly the keys that link a table with others, in one
transaction, whether they were read before or not (`Client.Reachable.links_exact`).
-/

namespace MetaCatalog

open World (Anyhow)

/-! ## What calls do to keys -/

/-- A facet that is loaded stays, is dropped, or holds what a fetch has just found. -/
theorem Item.load_facet (item : Item) (facet : Facet α) (fetch : LoaderId → Query α) (w : World) :
    (item.load facet fetch w).1.facet = facet ∨
      (item.load facet fetch w).1.facet.isLoaded = false ∨
      ∃ l w' value, item.loader = some l ∧ l.enter.run w = (.ok (), w') ∧
        ((fetch l).run w').1 = .ok value ∧ (item.load facet fetch w).1.facet = .loaded value := by
  obtain ⟨-, same⟩ | ⟨-, dropped, -⟩ | ⟨-, l, entered, value, read, hl, he, hr, -, loaded, -⟩ :=
    item.load_cases facet fetch w
  · rw [same]
    exact .inl rfl
  · rw [dropped]
    exact .inr (.inl rfl)
  · exact .inr (.inr ⟨l, entered, value, hl, he, congrArg Prod.fst hr, loaded⟩)

namespace Table

/-- What a call may do to the keys of a table. It leaves them, drops them, or puts
those in place that a fetch has found; the table keeps its name. -/
structure Turns (t : Table) (w : World) (t' : Table) : Prop where
  name : t'.name = t.name
  keys : t'.foreignKeys = t.foreignKeys ∨ t'.foreignKeys.isLoaded = false ∨
    ∃ l w' found, t.item.loader = some l ∧ l.enter.run w = (.ok (), w') ∧
      ((fetchForeignKeys t.item l).run w').1 = .ok found ∧ t'.foreignKeys = .loaded found

variable {t t' : Table} {w : World}

theorem Turns.of_same (name : t'.name = t.name) (keys : t'.foreignKeys = t.foreignKeys) :
    Turns t w t' := ⟨name, .inl keys⟩

theorem turns_loadColumns (t : Table) (w : World) : Turns t w (t.loadColumns w).1.2 := by
  unfold loadColumns
  split
  · exact .of_same (Item.load_kept ..).1 rfl
  · exact ⟨(Item.load_kept ..).1, .inr (.inl rfl)⟩

theorem turns_load (t : Table) (kind : FacetKind) (w : World) :
    Turns t w (t.load kind w).1.2 := by
  cases kind with
  | columns => exact turns_loadColumns t w
  | foreignKeys =>
    exact ⟨(t.loadForeignKeys_kept w).1,
      t.item.load_facet t.foreignKeys (fetchForeignKeys t.item) w⟩
  | source | parameters | privileges => exact .of_same rfl rfl
  | _ => exact .of_same (Item.load_kept ..).1 rfl

theorem turns_invalidate (t : Table) (asked : Option FacetKind) (w : World) :
    Turns t w (t.invalidate asked w).1 := by
  have name : (t.drop asked).2.name = t.name := rfl
  have keys : (t.drop asked).2.foreignKeys = t.foreignKeys ∨
      (t.drop asked).2.foreignKeys.isLoaded = false := by
    show (dropAsked asked .foreignKeys t.foreignKeys).2 = _ ∨
      (dropAsked asked .foreignKeys t.foreignKeys).2.isLoaded = false
    unfold dropAsked
    split
    · exact .inr rfl
    · exact .inl rfl
  unfold invalidate
  rcases hd : t.drop asked with ⟨_ | _, t'⟩ <;> rw [hd] at name keys <;>
    exact ⟨name, keys.imp_right .inl⟩

theorem turns_invalidateIndices (t : Table) (name : Option String) (w : World) :
    Turns t w (t.invalidateIndices name w).1 := by
  unfold invalidateIndices
  cases t.indices with
  | unloaded | loading => exact .of_same rfl rfl
  | loaded indices =>
    dsimp only
    split <;> exact .of_same rfl rfl

/-- One case for each call. -/
theorem call_turns (t : Table) (call : TableCall) (w : World) : Turns t w (call.run t w).1.2 := by
  cases call with
  | load kind => exact turns_load t kind w
  | read kind => exact (t.read_table kind w).1 ▸ turns_load t kind w
  | findColumn name => exact turns_loadColumns t w
  | insertStatement => exact turns_loadColumns t w
  | procedureTemplate usualCharset => exact turns_loadColumns t w
  | invalidate asked => exact turns_invalidate t asked w
  | invalidateIndices name => exact turns_invalidateIndices t name w
  | item call => cases call <;> exact .of_same rfl rfl

/-! ## Keys name their table -/

/-- Every key that the table holds is one of its own. -/
def OwnsKeys (table : Table) : Prop := ∀ key ∈ table.foreignKeys.items, key.table = table.name.raw

/-- The recursion follows the rows. -/
theorem gatherForeignKeys_own (table : String) (l : LoaderId) {keys : List ForeignKey}
    (rows : List ForeignKeyRow) (h : ∀ key ∈ keys, key.table = table) :
    Yields Anyhow (gatherForeignKeys table l keys rows) fun found =>
      ∀ key ∈ found, key.table = table := by
  have referenced (constraint : String) :
      Yields Anyhow (fetchReferenced l constraint) fun _ => True := .of_course fun _ => trivial
  induction rows generalizing keys with
  | nil => cases keys <;> exact .lift (.pure h)
  | cons row rest ih =>
    cases keys with
    | nil => exact (referenced _).bind fun _ _ => ih (List.forall_mem_singleton.mpr rfl)
    | cons key older =>
      obtain ⟨own, others⟩ := List.forall_mem_cons.mp h
      rw [gatherForeignKeys]
      split
      · exact ih (List.forall_mem_cons.mpr ⟨own, others⟩)
      · exact (referenced _).bind fun _ _ => ih (List.forall_mem_cons.mpr ⟨rfl, h⟩)

theorem fetchForeignKeys_own (item : Item) (l : LoaderId) :
    Yields Anyhow (fetchForeignKeys item l) fun keys =>
      ∀ key ∈ keys, key.table = item.name.raw := by
  have rows : Yields Anyhow (l.list foreignKeySql [.text item.name.raw] ForeignKeyRow.read)
      fun _ => True := .of_course fun _ => trivial
  refine rows.bind fun rows _ => ?_
  refine (gatherForeignKeys_own item.name.raw l rows (List.forall_mem_nil _)).bind fun keys hk => ?_
  exact .lift (.pure fun key h => hk key (List.mem_reverse.mp h))

theorem Turns.ownsKeys (h : Turns t w t') (own : t.OwnsKeys) : t'.OwnsKeys := by
  intro key hk
  rw [h.name]
  obtain same | gone | ⟨l, w', found, -, -, fetched, there⟩ := h.keys
  · rw [same] at hk
    exact own key hk
  · cases hf : t'.foreignKeys with
    | unloaded | loading =>
      rw [hf] at hk
      exact absurd hk List.not_mem_nil
    | loaded keys =>
      rw [hf] at gone
      cases gone
  · rw [there] at hk
    exact (fetchForeignKeys_own t.item l).result w' found fetched key hk

end Table

/-- Tables hold their own keys. -/
def Lineage.ownKeys : Lineage where
  table := Table.OwnsKeys
  view _ := True
  procedure _ := True
  newTable _ := List.forall_mem_nil _
  newView _ := trivial
  newProcedure _ := trivial
  tableLoader h _ := h
  viewLoader _ _ := trivial
  procedureLoader _ _ := trivial
  tableCall {t} h call w := (t.call_turns call w).ownsKeys h
  viewCall _ _ _ := trivial
  procedureCall _ _ _ := trivial

/-! ## Keys that agree with the catalog -/

/-- The keys that the table holds, if any, are those in the catalog. -/
def Table.Current (catalog : Catalog) (table : Table) : Prop :=
  ∀ keys, table.foreignKeys = .loaded keys → catalog.foreignKeys table.name.raw = .ok keys

/-- The foreign keys of a table in the catalog, if its name is one of those given. -/
def Catalog.keysOfNamed (catalog : Catalog) (owned : List String) : KeysOf := fun name =>
  if owned.contains name then (catalog.foreignKeys name).map some else .ok none

theorem Table.Current.keysIn {catalog : Catalog} {table : Table} (h : table.Current catalog) :
    table.keysIn catalog = catalog.foreignKeys table.name.raw := by
  rw [Table.keysIn]
  cases hf : table.foreignKeys with
  | loaded keys => exact (h keys hf).symm
  | unloaded | loading => rfl

/-- It does not matter which of the keys are there. -/
theorem Catalog.keysOf_current {catalog : Catalog} {tables : List Table}
    (h : ∀ t ∈ tables, t.Current catalog) :
    catalog.keysOf tables = catalog.keysOfNamed (tables.map (·.name.raw)) := by
  funext name
  rw [keysOf, keysOfNamed]
  cases hf : tables.find? (·.name.raw == name) with
  | none =>
    have absent : (tables.map (·.name.raw)).contains name = false := by
      rw [List.contains_eq_any_beq, List.any_map, Bool.eq_false_iff]
      intro there
      obtain ⟨t, ht, same⟩ := List.any_eq_true.mp there
      exact List.find?_eq_none.mp hf t ht (beq_iff_eq.mpr (beq_iff_eq.mp same).symm)
    rw [absent, if_neg Bool.false_ne_true]
  | some t =>
    have found := List.find?_some hf
    have same : t.name.raw = name := beq_iff_eq.mp found
    have member := List.mem_of_find?_eq_some hf
    have owned : (tables.map (·.name.raw)).contains name = true :=
      List.contains_iff_mem.mpr (List.mem_map.mpr ⟨t, member, same⟩)
    dsimp only
    rw [if_pos owned, (h t member).keysIn, same]

theorem Table.Turns.current {D : Discipline} {l : LoaderId} {t t' : Table} {w : World}
    (h : t.Turns w t') (hw : D.Upholds w) (hk : w.Knows l) (hl : t.item.loader = some l)
    (current : t.Current (w.catalogOf l)) : t'.Current (w.catalogOf l) := by
  intro keys there
  rw [h.name]
  obtain same | gone | ⟨k, w', found, loader, entered, fetched, now⟩ := h.keys
  · exact current keys (same.symm.trans there)
  · rw [there] at gone
    cases gone
  · cases hl.symm.trans loader
    cases there.symm.trans now
    obtain ⟨upholds, inside, -⟩ := Discipline.bracket hw hk entered
    have tells := (fetchForeignKeys_tells t.item).agrees
      ⟨upholds, inside, LoaderId.enter_script entered⟩
    rw [← Catalog.foreignKeys_script]
    exact tells.ok fetched

/-! ## What is found -/

theorem Catalog.keysOfRows_own {catalog : Catalog} {table : String} {rows : List ForeignKeyRow}
    {keys : List ForeignKey} (h : catalog.keysOfRows table rows = .ok keys) :
    ∀ key ∈ keys, key.table = table := by
  fun_induction keysOfRows catalog table rows generalizing keys with
  | case1 =>
    cases h
    exact List.forall_mem_nil _
  | case2 row rest ih =>
    obtain ⟨referenced, -, h⟩ := bind_eq_ok h
    obtain ⟨later, hlater, h⟩ := bind_eq_ok h
    cases h
    exact List.forall_mem_cons.mpr ⟨rfl, ih hlater⟩

theorem Catalog.foreignKeys_own {catalog : Catalog} {table : String} {keys : List ForeignKey}
    (h : catalog.foreignKeys table = .ok keys) : ∀ key ∈ keys, key.table = table := by
  obtain ⟨_, -, h⟩ := bind_eq_ok h
  obtain ⟨_, -, h⟩ := bind_eq_ok h
  exact keysOfRows_own h

/-- Whether they are there or not, the keys of a table are its own. -/
theorem Catalog.keysOf_own {catalog : Catalog} {tables : List Table}
    (own : ∀ t ∈ tables, t.OwnsKeys) {name : String} {keys : List ForeignKey}
    (h : catalog.keysOf tables name = .ok (some keys)) : ∀ key ∈ keys, key.table = name := by
  rw [keysOf] at h
  cases hf : tables.find? (·.name.raw == name) with
  | none =>
    rw [hf] at h
    cases h
  | some t =>
    have found := List.find?_some hf
    have same : t.name.raw = name := beq_iff_eq.mp found
    have mine := own t (List.mem_of_find?_eq_some hf)
    rw [hf] at h
    dsimp only at h
    unfold Table.keysIn at h
    cases hk : t.foreignKeys with
    | loaded keys' =>
      rw [hk] at h
      cases h
      rw [Table.OwnsKeys, hk, same] at mine
      exact mine
    | unloaded | loading =>
      rw [hk, same] at h
      cases hc : catalog.foreignKeys name with
      | error e =>
        rw [hc] at h
        cases h
      | ok found =>
        rw [hc] at h
        cases h
        exact foreignKeys_own hc

namespace ForeignKey

variable {keysOf : KeysOf} {names : List String} {name : String}

/-- The key links the table with one of the names, in one direction or the other. -/
def Links (names : List String) (name : String) (key : ForeignKey) : Prop :=
  (key.table = name ∧ key.referencedTable ∈ names) ∨
    (key.table ∈ names ∧ key.referencedTable = name)

/-- The recursion follows the dependents. -/
theorem ofDependents_links
    (own : ∀ n keys, keysOf n = .ok (some keys) → ∀ key ∈ keys, key.table = n)
    {dependents : List Dependency} {keys : List ForeignKey}
    (h : ofDependents keysOf names name dependents = .ok keys) :
    ∀ key ∈ keys, key.Links names name := by
  induction dependents generalizing keys with
  | nil =>
    cases h
    exact List.forall_mem_nil _
  | cons dependent rest ih =>
    by_cases listed : dependent.kind = .table ∧ names.contains dependent.name
    · rw [ofDependents_listed keysOf name listed] at h
      obtain ⟨found, hf, h⟩ := bind_eq_ok h
      obtain ⟨later, hl, h⟩ := bind_eq_ok h
      cases h
      refine List.forall_mem_append.mpr ⟨fun key hk => ?_, ih hl⟩
      rw [Option.mem_toList] at hk
      cases found with
      | none => cases hk
      | some own' =>
        have refers := List.find?_some hk
        have table := own _ _ hf key (List.mem_of_find?_eq_some hk)
        exact .inr ⟨table ▸ List.contains_iff_mem.mp listed.2, beq_iff_eq.mp refers⟩
    · rw [ofDependents_other keysOf name listed] at h
      exact ih h

theorem links_links
    (own : ∀ n keys, keysOf n = .ok (some keys) → ∀ key ∈ keys, key.table = n)
    {dependents : Except Error (List Dependency)} {keys : List ForeignKey}
    (h : links keysOf dependents names name = .ok keys) : ∀ key ∈ keys, key.Links names name := by
  obtain ⟨found, hf, h⟩ := bind_eq_ok h
  cases found with
  | none => cases h
  | some mine =>
    obtain ⟨rows, -, h⟩ := bind_eq_ok h
    obtain ⟨others, ho, h⟩ := bind_eq_ok h
    cases h
    refine List.forall_mem_append.mpr ⟨fun key hk => ?_, ofDependents_links own ho⟩
    obtain ⟨member, refers⟩ := List.mem_filter.mp hk
    exact .inl ⟨own _ _ hf key member, List.contains_iff_mem.mp refers⟩

end ForeignKey

/-! ## Databases of clients -/

/-- The database with other keys in its tables. -/
def Database.withKeys (database : Database) (held : Table → Facet (List ForeignKey)) : Database :=
  { database with tables := database.tables.map fun t => { t with foreignKeys := held t } }

theorem Database.withKeys_self (database : Database) :
    database.withKeys (·.foreignKeys) = database := by
  show { database with tables := database.tables.map fun t => t } = database
  rw [List.map_id']

theorem Database.withKeys_loader {database : Database} {l : LoaderId}
    (h : ∀ t ∈ database.tables, t.item.loader = some l) (held : Table → Facet (List ForeignKey)) :
    ∀ t ∈ (database.withKeys held).tables, t.item.loader = some l :=
  List.forall_mem_map.mpr h

theorem Database.withKeys_fits {D D' : Discipline} {w : World} {database : Database}
    (h : D.FitsDatabase w database) (allows : ∀ text, D'.allows text)
    (held : Table → Facet (List ForeignKey)) : D'.FitsDatabase w (database.withKeys held) := by
  refine ⟨⟨h.item.knows, fun _ _ => allows _⟩, List.forall_mem_map.mpr fun t ht => ?_,
    fun v hv => ?_, fun p hp => ?_⟩
  · exact ⟨(h.tables t ht).knows, fun _ _ => allows _⟩
  · exact ⟨(h.views v hv).knows, fun _ _ => allows _⟩
  · exact ⟨(h.procedures p hp).knows, fun _ _ => allows _⟩

/-- What the catalog describes, whatever keys are held that agree with it. -/
theorem Catalog.keysOf_withKeys {catalog : Catalog} {database : Database}
    {held : Table → Facet (List ForeignKey)}
    (h : ∀ t ∈ (database.withKeys held).tables, t.Current catalog) :
    catalog.keysOf (database.withKeys held).tables =
      catalog.keysOfNamed (database.tables.map (·.name.raw)) := by
  rw [keysOf_current h]
  exact congrArg catalog.keysOfNamed (List.map_map ..)

/-- A search leaves keys that agree with the catalog. -/
theorem Database.links_current {D : Discipline} {l : LoaderId} {w : World} {database : Database}
    (h : D.Upholds w) (hf : D.FitsDatabase w database) (hl : database.loader = some l)
    (loaders : ∀ t ∈ database.tables, t.item.loader = some l)
    (current : ∀ t ∈ database.tables, t.Current (w.catalogOf l)) (names : List String)
    (name : String) :
    ∀ t ∈ (database.links names name w).1.2.tables, t.Current (w.catalogOf l) := by
  obtain ⟨e, busy⟩ | ⟨entered, found⟩ := Database.links_cases h hf hl loaders names name
  · rw [busy]
    exact current
  · intro t ht keys there
    have known : t.known (w.catalogOf l) ∈ database.tables.map (Table.known (w.catalogOf l)) :=
      found.same ▸ List.mem_map_of_mem ht
    obtain ⟨before, member, same⟩ := List.mem_map.mp known
    obtain ⟨sameName, sameKeys⟩ := Prod.mk.inj same
    rw [← sameName, ← (current before member).keysIn, sameKeys, Table.keysIn_loaded there]

namespace Client

variable {permits : Client → Step → Prop} {client : Client} {database : Database} {l : LoaderId}

/-- The tables of a connected database have its loader. -/
theorem Reachable.table_loader (h : Reachable permits client)
    (hd : database ∈ client.workspace.everyDatabase) (hl : database.loader = some l) :
    ∀ t ∈ database.tables, t.item.loader = some l := by
  intro t ht
  have owned : ∀ object ∈ database.objects, database.Owns object := by
    rcases h.inPlace.everyDatabase hd with free | ⟨_, _, _, owned⟩
    · exact free.owns
    · exact owned.owns
  have object : Object.table t ∈ database.objects := by
    simp only [Database.objects, List.mem_append, List.mem_map]
    exact .inl (.inl ⟨t, ht, rfl⟩)
  exact (owned _ object).loader.trans hl

/-- The tables of a database hold their own keys. -/
theorem Reachable.table_ownsKeys (h : Reachable permits client)
    (hd : database ∈ client.workspace.everyDatabase) : ∀ t ∈ database.tables, t.OwnsKeys := by
  intro t ht
  refine h.lineage .ownKeys (.table t) ?_
  simp only [Workspace.everyObject, List.mem_append, List.mem_flatMap]
  refine .inr ⟨database, hd, ?_⟩
  simp only [Database.objects, List.mem_append, List.mem_map]
  exact .inl (.inl ⟨t, ht, rfl⟩)

/-- A search for links finds exactly the keys that link. If it succeeds, then with the
keys of a table being those it holds, or else those in the catalog, the result is every
key of the table that refers to one of the names, and then for each dependent that is a
table of such a name the first key that refers to the table. All of them link. It does
not matter which keys are held as long as they agree with the catalog: the result is
what the catalog describes, and if nothing is refused then so is an error. Keys go on
agreeing whatever is asked of their table. And a search that finds no transaction open
starts exactly one, whatever comes of it. -/
theorem Reachable.links_exact (h : Reachable permits client)
    (hd : database ∈ client.workspace.everyDatabase) (hl : database.loader = some l)
    (names : List String) (name : String) :
    let world := client.world
    let catalog := world.catalogOf l
    let search (database : Database) := database.links names name world
    let linked (keysOf : KeysOf) := ForeignKey.links keysOf (catalog.dependents name) names name
    let described := linked (catalog.keysOfNamed (database.tables.map (·.name.raw)))
    (∀ keys, (search database).1.1 = .ok keys →
      linked (catalog.keysOf database.tables) = .ok keys ∧ ∀ key ∈ keys, key.Links names name) ∧
    (∀ held, (∀ t ∈ (database.withKeys held).tables, t.Current catalog) →
      (∀ keys, (search (database.withKeys held)).1.1 = .ok keys → described = .ok keys) ∧
      (Idle linkSqls world l → (search (database.withKeys held)).1.1 = described) ∧
      ∀ t ∈ (search (database.withKeys held)).1.2.tables, t.Current catalog) ∧
    (∀ t ∈ database.tables, t.Current catalog →
      ∀ call : TableCall, (call.run t world).1.2.Current catalog) ∧
    ((world.loader l).depth = 0 → catalog.inTransaction = false →
      ∀ c, ((search database).2.catalog c).started =
        (world.catalog c).started + if c = (world.loader l).connection then 1 else 0) := by
  intro world catalog search linked described
  have upheld : coherence.Upheld client := h.upheld (coherence_admits permits)
  have fits := upheld.fits.everyDatabase database hd
  have knows : world.Knows l := fits.item.knows l hl
  have loaders := h.table_loader hd hl
  have own := h.table_ownsKeys hd
  have allows (text : String) : coherence.allows text := trivial
  refine ⟨fun keys found => ?_, fun held current => ⟨fun keys found => ?_, fun idle => ?_, ?_⟩,
    fun t ht current call => ?_, fun depth closed => ?_⟩
  · have ok := Database.links_ok upheld.upholds fits hl loaders found
    exact ⟨ok, ForeignKey.links_links (fun _ _ => Catalog.keysOf_own own) ok⟩
  · rw [show described = _ from congrArg linked (Catalog.keysOf_withKeys current).symm]
    exact Database.links_ok upheld.upholds (Database.withKeys_fits fits allows held) hl
      (Database.withKeys_loader loaders held) found
  · obtain ⟨entered, he, -⟩ := idle.enter
    have links := Database.links_found idle.upholds
      (Database.withKeys_fits fits (fun _ => trivial) held) hl
      (Database.withKeys_loader loaders held) he names name
    rw [show described = _ from congrArg linked (Catalog.keysOf_withKeys current).symm]
    exact links.agrees.error ⟨rfl, idle.prepares⟩
  · exact Database.links_current upheld.upholds (Database.withKeys_fits fits allows held) hl
      (Database.withKeys_loader loaders held) current names name
  · exact (t.call_turns call world).current upheld.upholds knows (loaders t ht) current
  · obtain ⟨entered, he, started⟩ :=
      LoaderId.enter_starts upheld.upholds.sound knows depth closed
    have found := Database.links_found upheld.upholds fits hl loaders he names name
    exact fun c => (found.started c).trans (started c)

end Client

/-! ## A catalog of sales -/

/-- A key over one column, of a table that has no other. -/
theorem Catalog.foreignKeys_single {catalog : Catalog} {table : String} {answer : List Row}
    {row : ForeignKeyRow} {referenced : String × List String}
    (asked : catalog.answer Table.foreignKeySql [.text table] = .ok answer)
    (read : answer.mapM ForeignKeyRow.read = .ok [row])
    (refers : catalog.referenced row.uniqueConstraint = .ok referenced) :
    catalog.foreignKeys table = .ok [row.toKey table referenced] := by
  rw [foreignKeys, asked]
  show (answer.mapM ForeignKeyRow.read >>= catalog.keysOfRows table) = _
  rw [read]
  show catalog.keysOfRows table [row] = _
  rw [keysOfRows_cons, refers]
  exact keysAfter_nil ..

/-- A catalog in which the orders refer to a customer, and the lines to the orders. -/
def sales : Catalog where
  database := "sales.fdb"
  replies := [
    ⟨"select distinct", some (.text "ORDERS"),
      [[.text "LINES", .int64 0], [.text "LATE", .int64 1]]⟩,
    ⟨"", some (.text "ORDERS"), [["BOUGHT", "BUYER", "CASCADE", "", "BUYERS", "I1"].map .text]⟩,
    ⟨"", some (.text "LINES"), [["PART", "NUMBER", "", "", "NUMBERS", "I2"].map .text]⟩,
    ⟨"", some (.text "BUYERS"), [["CUSTOMER", "ID"].map .text]⟩,
    ⟨"", some (.text "NUMBERS"), [["ORDERS", "ID"].map .text]⟩]

namespace sales

/-- The key of the orders. -/
def bought : ForeignKey where
  name := "BOUGHT"
  table := "ORDERS"
  columns := ["BUYER"]
  referencedTable := "CUSTOMER"
  referencedColumns := ["ID"]
  updateAction := .cascade
  deleteAction := .restrict
  indexName := "I1"

/-- The key of the lines. -/
def part : ForeignKey where
  name := "PART"
  table := "LINES"
  columns := ["NUMBER"]
  referencedTable := "ORDERS"
  referencedColumns := ["ID"]
  updateAction := .restrict
  deleteAction := .restrict
  indexName := "I2"

/-- Only the query for dependents opens like this. -/
theorem includes_distinct :
    Text.includes Dependency.dependentsSql "select distinct" = true ∧
      Text.includes Table.foreignKeySql "select distinct" = false := by
  unfold Text.includes Dependency.dependentsSql Table.foreignKeySql
  simp only [String.toList_append]
  repeat rw [String.toList_ofList]
  decide +kernel

theorem answer_orders : sales.answer Table.foreignKeySql [.text "ORDERS"] =
    .ok [["BOUGHT", "BUYER", "CASCADE", "", "BUYERS", "I1"].map .text] := by
  simp [sales, Catalog.answer, Catalog.refusal?, Catalog.reply?, includes_distinct.2,
    Text.includes_empty, Catalog.Reply.wants, Value.equals]

theorem answer_lines : sales.answer Table.foreignKeySql [.text "LINES"] =
    .ok [["PART", "NUMBER", "", "", "NUMBERS", "I2"].map .text] := by
  simp [sales, Catalog.answer, Catalog.refusal?, Catalog.reply?, includes_distinct.2,
    Text.includes_empty, Catalog.Reply.wants, Value.equals]

theorem referenced_buyers : sales.referenced "BUYERS" = .ok ("CUSTOMER", ["ID"]) := by
  have answer (sql : String) : sales.answer sql [.text "BUYERS"] =
      .ok [["CUSTOMER", "ID"].map .text] := by
    by_cases hd : Text.includes sql "select distinct" <;>
      simp [sales, Catalog.answer, Catalog.refusal?, Catalog.reply?, hd, Text.includes_empty,
        Catalog.Reply.wants, Value.equals]
  rw [Catalog.referenced, answer]
  rfl

theorem referenced_numbers : sales.referenced "NUMBERS" = .ok ("ORDERS", ["ID"]) := by
  have answer (sql : String) : sales.answer sql [.text "NUMBERS"] =
      .ok [["ORDERS", "ID"].map .text] := by
    by_cases hd : Text.includes sql "select distinct" <;>
      simp [sales, Catalog.answer, Catalog.refusal?, Catalog.reply?, hd, Text.includes_empty,
        Catalog.Reply.wants, Value.equals]
  rw [Catalog.referenced, answer]
  rfl

theorem answer_dependents : sales.answer Dependency.dependentsSql [.text "ORDERS", .int64 0] =
    .ok [[.text "LINES", .int64 0], [.text "LATE", .int64 1]] := by
  simp [sales, Catalog.answer, Catalog.refusal?, Catalog.reply?, includes_distinct.1,
    Catalog.Reply.wants, Value.equals]

theorem foreignKeys_orders : sales.foreignKeys "ORDERS" = .ok [bought] := by
  have read : [["BOUGHT", "BUYER", "CASCADE", "", "BUYERS", "I1"].map Value.text].mapM
      ForeignKeyRow.read = .ok [⟨"BOUGHT", "BUYER", "CASCADE", "", "BUYERS", "I1"⟩] := rfl
  exact Catalog.foreignKeys_single answer_orders read referenced_buyers

theorem foreignKeys_lines : sales.foreignKeys "LINES" = .ok [part] := by
  have read : [["PART", "NUMBER", "", "", "NUMBERS", "I2"].map Value.text].mapM
      ForeignKeyRow.read = .ok [⟨"PART", "NUMBER", "", "", "NUMBERS", "I2"⟩] := rfl
  exact Catalog.foreignKeys_single answer_lines read referenced_numbers

theorem dependents_orders :
    sales.dependents "ORDERS" = .ok [⟨"LINES", .table⟩, ⟨"LATE", .view⟩] := by
  rw [Catalog.dependents, Catalog.readRows, answer_dependents]
  rfl

/-- Among a customer and the lines, the orders refer to the one and the other to them. -/
theorem described : ForeignKey.links (sales.keysOfNamed ["ORDERS", "LINES"])
    (sales.dependents "ORDERS") ["CUSTOMER", "LINES"] "ORDERS" = .ok [bought, part] := by
  have orders : sales.keysOfNamed ["ORDERS", "LINES"] "ORDERS" = .ok (some [bought]) := by
    rw [Catalog.keysOfNamed, if_pos (by decide), foreignKeys_orders]
    rfl
  have lines : sales.keysOfNamed ["ORDERS", "LINES"] "LINES" = .ok (some [part]) := by
    rw [Catalog.keysOfNamed, if_pos (by decide), foreignKeys_lines]
    rfl
  have table : Dependency.kind ⟨"LINES", .table⟩ = .table ∧
      ["CUSTOMER", "LINES"].contains (Dependency.name ⟨"LINES", .table⟩) := by decide
  have view : ¬(Dependency.kind ⟨"LATE", .view⟩ = .table ∧
      ["CUSTOMER", "LINES"].contains (Dependency.name ⟨"LATE", .view⟩)) := by decide
  have listed : ForeignKey.ofDependents (sales.keysOfNamed ["ORDERS", "LINES"])
      ["CUSTOMER", "LINES"] "ORDERS" [⟨"LINES", .table⟩, ⟨"LATE", .view⟩] = .ok [part] := by
    rw [ForeignKey.ofDependents_listed _ _ table, lines, ForeignKey.ofDependents_other _ _ view]
    rfl
  rw [ForeignKey.links_ok orders dependents_orders listed]
  rfl

end sales

namespace Client

/-- A client that has opened the catalog of sales, and owns the orders and the lines. -/
def trading : Client := (Client.start 0).after
  ([.openCatalog "main" "sales.fdb" "SYSDBA" "masterkey"] ++
    sales.replies.map (fun reply => .script "main" (.reply reply)) ++
    [.newDatabase "db" none (.ofCatalog "DB") "sales.fdb", .connect "db" "main",
      .database "db" (.addTable (.ofCatalog "ORDERS")),
      .database "db" (.addTable (.ofCatalog "LINES"))])

theorem Reachable.links_exact_trading :
    ∃ database ∈ trading.workspace.everyDatabase,
      let search (database : Database) :=
        database.links ["CUSTOMER", "LINES"] "ORDERS" trading.world
      let held (table : Table) : Facet (List ForeignKey) :=
        if table.name.raw = "LINES" then .loaded [sales.part] else .unloaded
      (search database).1.1 = .ok [sales.bought, sales.part] ∧
      (search (database.withKeys held)).1.1 = .ok [sales.bought, sales.part] ∧
      (∀ key ∈ [sales.bought, sales.part], key.Links ["CUSTOMER", "LINES"] "ORDERS") ∧
      let connection := (trading.world.loader ⟨0⟩).connection
      ((search database).2.catalog connection).started =
        (trading.world.catalog connection).started + 1 := by
  have reachable : Reachable (Spares ⟨0⟩) trading := .of_steps ⟨0⟩ 0 (by decide)
  have one : trading.workspace.everyDatabase.head?.isSome = true := by decide +kernel
  have loader : trading.workspace.everyDatabase.head?.bind (·.loader) = some ⟨0⟩ := by
    decide +kernel
  have tables : trading.workspace.everyDatabase.head?.map (·.tables.map (·.name.raw)) =
      some ["ORDERS", "LINES"] := by decide +kernel
  have unloaded : trading.workspace.everyDatabase.head?.map
      (·.tables.all (!·.foreignKeys.isLoaded)) = some true := by decide +kernel
  have catalog : trading.world.catalogOf ⟨0⟩ = sales := rfl
  obtain ⟨database, hd⟩ := Option.isSome_iff_exists.mp one
  rw [hd] at loader tables unloaded
  have member := List.mem_of_mem_head? hd
  have names : database.tables.map (·.name.raw) = ["ORDERS", "LINES"] := Option.some.inj tables
  have described := sales.described
  rw [← names, ← catalog] at described
  have idle : Idle linkSqls trading.world ⟨0⟩ := by
    have upheld := reachable.upheld (tidiness_admits ⟨0⟩)
    refine reachable.idle ((upheld.fits.everyDatabase database member).item.knows _ loader) ?_ ?_ _
    all_goals
      rw [catalog]
      rfl
  obtain ⟨found, any, -, once⟩ := Reachable.links_exact reachable member loader
    ["CUSTOMER", "LINES"] "ORDERS"
  have absent : ∀ t ∈ (database.withKeys (·.foreignKeys)).tables,
      t.Current (trading.world.catalogOf ⟨0⟩) := by
    rw [database.withKeys_self]
    intro t ht keys there
    have none := List.all_eq_true.mp (Option.some.inj unloaded) t ht
    rw [there] at none
    cases none
  have present : ∀ t ∈ (database.withKeys fun t =>
      if t.name.raw = "LINES" then .loaded [sales.part] else .unloaded).tables,
      t.Current (trading.world.catalogOf ⟨0⟩) := by
    refine List.forall_mem_map.mpr fun t ht keys there => ?_
    by_cases lines : t.name.raw = "LINES"
    · dsimp only at there
      rw [if_pos lines] at there
      cases there
      rw [catalog]
      show sales.foreignKeys t.name.raw = _
      rw [lines]
      exact sales.foreignKeys_lines
    · dsimp only at there
      rw [if_neg lines] at there
      cases there
  have first := ((any _ absent).2.1 idle).trans described
  rw [database.withKeys_self] at first
  have started := once rfl (by rw [catalog]; rfl) (trading.world.loader ⟨0⟩).connection
  rw [if_pos rfl] at started
  exact ⟨database, member, first, ((any _ present).2.1 idle).trans described,
    (found _ first).2, started⟩

end Client

end MetaCatalog
