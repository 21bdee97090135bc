import MetaCatalog.Proofs.Framework.ForeignKeys
import MetaCatalog.Proofs.Framework.Databases

/-!
# Links between tables as the catalog describes them

`ForeignKey.links` says which keys link a table with others, given the keys of every
table. A search for links comes to just that, with the keys that the tables hold and
for the other tables those in the catalog (`TellsLinks.links`). It does not
matter which of the keys are there already, because a key that is read on the way is
one that the catalog describes.
-/

namespace MetaCatalog

open World

/-! ## What is linked -/

/-- The foreign keys of the table with a name, if there is such a table. -/
abbrev KeysOf := String → Except Error (Option (List ForeignKey))

/-- For each of the dependents of a table that is a table of one of the given names,
its first key that refers to the table. -/
def ForeignKey.ofDependents (keysOf : KeysOf) (names : List String) (name : String)
    (dependents : List Dependency) : Except Error (List ForeignKey) := do
  let listed := dependents.filter fun d => d.kind = .table ∧ names.contains d.name
  let others ← listed.mapM fun d => keysOf d.name
  pure (others.filterMap fun keys => (keys.getD []).find? (·.referencedTable == name))

/-- The keys that link a table with those of the given names: its own keys that refer
to one of them, followed by those of its dependents. -/
def ForeignKey.links (keysOf : KeysOf) (dependents : Except Error (List Dependency))
    (names : List String) (name : String) : Except Error (List ForeignKey) := do
  match ← keysOf name with
  | none => throw (.notFound ("TABLE " ++ name))
  | some keys =>
    let others ← ofDependents keysOf names name (← dependents)
    pure (keys.filter (fun key => names.contains key.referencedTable) ++ others)

/-- The foreign keys of a table: those it holds, or else those in the catalog. -/
def Table.keysIn (table : Table) (catalog : Catalog) : Except Error (List ForeignKey) :=
  match table.foreignKeys with
  | .loaded keys => .ok keys
  | _ => catalog.foreignKeys table.name.raw

/-- The foreign keys of the first table with a name. -/
def Catalog.keysOf (catalog : Catalog) (tables : List Table) : KeysOf := fun name =>
  match tables.find? (·.name.raw == name) with
  | none => .ok none
  | some table => (table.keysIn catalog).map some

namespace ForeignKey

variable {names : List String} {dependent : Dependency}

theorem ofDependents_listed (keysOf : KeysOf) (name : String)
    (h : dependent.kind = .table ∧ names.contains dependent.name) (rest : List Dependency) :
    ofDependents keysOf names name (dependent :: rest) = (do
      let keys ← keysOf dependent.name
      let later ← ofDependents keysOf names name rest
      pure (((keys.getD []).find? (·.referencedTable == name)).toList ++ later)) := by
  simp only [ofDependents, List.filter_cons, h, and_self, decide_true, if_true, List.mapM_cons,
    bind_assoc, pure_bind, List.filterMap_cons]
  refine congrArg _ (funext fun keys => congrArg _ (funext fun others => ?_))
  cases (keys.getD []).find? (·.referencedTable == name) <;> rfl

theorem ofDependents_other (keysOf : KeysOf) (name : String)
    (h : ¬(dependent.kind = .table ∧ names.contains dependent.name)) (rest : List Dependency) :
    ofDependents keysOf names name (dependent :: rest) = ofDependents keysOf names name rest := by
  rw [ofDependents, List.filter_cons_of_neg (by simpa using h), ofDependents]

/-- The links of a table that is there. -/
theorem links_ok {keysOf : KeysOf} {dependents : Except Error (List Dependency)}
    {name : String} {keys others : List ForeignKey} {rows : List Dependency}
    (own : keysOf name = .ok (some keys)) (found : dependents = .ok rows)
    (later : ofDependents keysOf names name rows = .ok others) :
    links keysOf dependents names name =
      .ok (keys.filter (fun key => names.contains key.referencedTable) ++ others) := by
  rw [links, own, found]
  show (ofDependents keysOf names name rows >>= fun others => _) = _
  rw [later]
  rfl

end ForeignKey

/-! ## Loading keys in a transaction -/

/-- Loading a facet leaves the name and the loader of an item alone. -/
theorem Item.load_kept (item : Item) (facet : Facet α) (fetch : LoaderId → Query α) (w : World) :
    (item.load facet fetch w).1.item.name = item.name ∧
      (item.load facet fetch w).1.item.loader = item.loader := by
  have fetched (l : LoaderId) : (item.fetch l fetch w).1.2.name = item.name ∧
      (item.fetch l fetch w).1.2.loader = item.loader := by
    rw [item.run_fetch]
    rcases l.enter.run w with ⟨e | ⟨⟩, w'⟩
    · exact ⟨rfl, rfl⟩
    · dsimp only
      unfold readLocked
      rw [Engine.run_bind]
      rcases (fetch l).run w' with ⟨e | value, w''⟩ <;> exact ⟨rfl, rfl⟩
  unfold load requireLoader
  split
  · exact ⟨rfl, rfl⟩
  · cases hl : item.loader with
    | none => exact ⟨rfl, hl⟩
    | some l =>
      have kept := fetched l
      rw [hl] at kept
      dsimp only
      rw [Engine.run_bind]
      rcases hf : item.fetch l fetch w with ⟨⟨e | value, item'⟩, w'⟩ <;> rw [hf] at kept <;>
        exact kept

variable {D : Discipline} {l : LoaderId} {script : Catalog} {w : World}

namespace Table

variable {table : Table}

theorem keysIn_loaded {keys : List ForeignKey} (h : table.foreignKeys = .loaded keys)
    (catalog : Catalog) : table.keysIn catalog = .ok keys := by
  rw [keysIn, h]

theorem keysIn_unloaded (h : table.foreignKeys.isLoaded = false) (catalog : Catalog) :
    table.keysIn catalog = catalog.foreignKeys table.name.raw := by
  rw [keysIn]
  cases hf : table.foreignKeys with
  | loaded keys =>
    rw [hf] at h
    cases h
  | unloaded => rfl
  | loading => rfl

theorem loadForeignKeys_kept (table : Table) (w : World) :
    (table.loadForeignKeys w).1.2.name = table.name ∧
      (table.loadForeignKeys w).1.2.item.loader = table.item.loader :=
  table.item.load_kept table.foreignKeys (fetchForeignKeys table.item) w

/-- What comes of loading the keys of a table inside a transaction. -/
structure TellsKeys (D : Discipline) (l : LoaderId) (script : Catalog) (table : Table) (w : World)
    (loaded : Attempted Table) (after : World) : Prop where
  reads : w.Reads after
  agrees : Agrees (D.Orderly l script) (loaded.1.map fun _ => loaded.2.foreignKeys.items)
    (table.keysIn script)
  /-- Keys that have been read are the same as keys that have not. -/
  same : loaded.2.keysIn script = table.keysIn script

theorem loadForeignKeys_tells (h : Stands D l script w) (hl : table.item.loader = some l) :
    TellsKeys D l script table w (table.loadForeignKeys w).1 (table.loadForeignKeys w).2 := by
  cases hf : table.foreignKeys.isLoaded with
  | true =>
    obtain ⟨keys, there⟩ : ∃ keys, table.foreignKeys = .loaded keys := by
      cases hk : table.foreignKeys with
      | loaded keys => exact ⟨keys, rfl⟩
      | unloaded | loading =>
        rw [hk] at hf
        cases hf
    have run : table.loadForeignKeys w = ((.ok (), table), w) := by
      unfold loadForeignKeys Item.load
      rw [if_pos hf]
      rfl
    rw [run]
    refine ⟨.refl w, ?_, rfl⟩
    rw [keysIn_loaded there]
    show Agrees _ (.ok table.foreignKeys.items) _
    rw [there]
    exact .refl _
  | false =>
    have tells : Tells D l script (fetchForeignKeys table.item l)
        (script.foreignKeys table.item.name.raw) := fetchForeignKeys_tells table.item
    have fetched := tells.reads h.enter
    have agrees := tells.agrees h.enter
    obtain ⟨outcome, facet, world⟩ :=
      table.item.run_load (fetchForeignKeys table.item) hl hf (LoaderId.enter_inside h.inside)
    have reads := fetched.trans
      (table.item.readLocked_reads (fetchForeignKeys table.item l) (w.changeDepth l (· + 1)))
    have name := (table.loadForeignKeys_kept w).1
    have run : (table.loadForeignKeys w).1.1 = (table.item.load table.foreignKeys
          (fetchForeignKeys table.item) w).1.outcome ∧
        (table.loadForeignKeys w).1.2.foreignKeys = (table.item.load table.foreignKeys
          (fetchForeignKeys table.item) w).1.facet ∧
        (table.loadForeignKeys w).2 = (table.item.load table.foreignKeys
          (fetchForeignKeys table.item) w).2 := ⟨rfl, rfl, rfl⟩
    rw [outcome, facet, world] at run
    obtain ⟨ran, keys, after⟩ := run
    rw [after]
    refine ⟨h.inside.nested reads, ?_, ?_⟩
    all_goals
      rw [keysIn_unloaded hf]
      rcases hr : ((fetchForeignKeys table.item l).run (w.changeDepth l (· + 1))).1
        with e | found <;> rw [hr] at keys agrees
    · rw [ran, hr, keys]
      exact agrees
    · rw [ran, hr, keys]
      exact agrees
    · rw [keysIn_unloaded (congrArg Facet.isLoaded keys), name]
    · rw [keysIn_loaded keys]
      exact (agrees.ok rfl).symm

end Table

theorem Table.keysIn_script (table : Table) (catalog : Catalog) :
    table.keysIn catalog.script = table.keysIn catalog := by
  simp only [keysIn, Catalog.foreignKeys_script]

theorem Catalog.keysOf_script (catalog : Catalog) (tables : List Table) :
    catalog.script.keysOf tables = catalog.keysOf tables := by
  unfold keysOf
  simp only [Table.keysIn_script]

/-! ## Searching -/

/-- The name of a table and its keys. -/
def Table.known (catalog : Catalog) (table : Table) : String × Except Error (List ForeignKey) :=
  (table.name.raw, table.keysIn catalog)

/-- Only what is known of the tables decides which keys a table has. -/
theorem Catalog.keysOf_congr {catalog : Catalog} {tables tables' : List Table}
    (h : tables'.map (Table.known catalog) = tables.map (Table.known catalog)) :
    catalog.keysOf tables' = catalog.keysOf tables := by
  have looked (tables : List Table) : catalog.keysOf tables = fun name =>
      match (tables.map (Table.known catalog)).find? (·.1 == name) with
      | none => .ok none
      | some known => known.2.map some := by
    funext name
    rw [keysOf, List.find?_map]
    show _ = match (tables.find? (·.name.raw == name)).map (Table.known catalog) with
      | none => _
      | some known => _
    cases tables.find? (·.name.raw == name) <;> rfl
  rw [looked, looked, h]

/-- What comes of a computation on tables with a loader. It reads no more than the
catalog, and the keys of the tables are the same afterwards. -/
structure Searched (D : Discipline) (l : LoaderId) (script : Catalog) (tables : List Table)
    (w : World) (expected : Except Error α) (r : (Except Error α × List Table) × World) :
    Prop where
  reads : w.Reads r.2
  agrees : Agrees (D.Orderly l script) r.1.1 expected
  same : r.1.2.map (Table.known script) = tables.map (Table.known script)
  loader : ∀ t ∈ r.1.2, t.item.loader = some l

/-- The keys of the table with the name are loaded. -/
theorem TableQuery.run_foreignKeys?_first {name : String} {table : Table} (rest : List Table)
    (w : World) (h : (table.name.raw == name) = true) :
    (TableQuery.foreignKeys? name).run.run (table :: rest) w =
      ((((table.loadForeignKeys w).1.1.map fun _ =>
          (table.loadForeignKeys w).1.2.foreignKeys.items).map some,
        (table.loadForeignKeys w).1.2 :: rest), (table.loadForeignKeys w).2) := by
  show (Database.onFirst _ _ (table :: rest) >>= fun r => Pure.pure _ : Engine _) w = _
  rw [Database.onFirst, if_pos h]
  rfl

theorem TableQuery.run_foreignKeys?_other {name : String} {table : Table} (rest : List Table)
    (w : World) (h : (table.name.raw == name) = false) :
    (TableQuery.foreignKeys? name).run.run (table :: rest) w =
      ((((TableQuery.foreignKeys? name).run.run rest w).1.1,
        table :: ((TableQuery.foreignKeys? name).run.run rest w).1.2),
        ((TableQuery.foreignKeys? name).run.run rest w).2) := by
  show (Database.onFirst _ _ (table :: rest) >>= fun r => Pure.pure _ : Engine _) w = _
  rw [Database.onFirst, if_neg (Bool.eq_false_iff.mp h)]
  rfl

/-- A computation on tables comes to what the keys of the tables say. -/
structure TellsLinks (D : Discipline) (l : LoaderId) (script : Catalog) (m : TableQuery α)
    (expected : KeysOf → Except Error α) : Prop where
  within : D.WithinTables l m
  searched {w : World} {tables : List Table} : Stands D l script w →
    (∀ t ∈ tables, D.FitsTable w t) → (∀ t ∈ tables, t.item.loader = some l) →
    Searched D l script tables w (expected (script.keysOf tables)) (m.run.run tables w)

namespace TellsLinks

/-- Nothing is done. -/
theorem ofExcept {m : TableQuery α} {expected : Except Error α} (within : D.WithinTables l m)
    (run : ∀ tables w, m.run.run tables w = ((expected, tables), w)) :
    TellsLinks D l script m fun _ => expected := by
  refine ⟨within, fun {w tables} _ _ hl => ?_⟩
  rw [run]
  exact ⟨.refl w, .refl _, rfl, hl⟩

theorem ofQuery {query : Query α} {expected : Except Error α}
    (hq : Tells D l script query expected) (within : D.WithinTables l (TableQuery.ofQuery query)) :
    TellsLinks D l script (TableQuery.ofQuery query) fun _ => expected :=
  ⟨within, fun h _ hl => ⟨hq.reads h, hq.agrees h, rfl, hl⟩⟩

theorem bind {m : TableQuery α} {f : α → TableQuery β} {expected : KeysOf → Except Error α}
    {next : α → KeysOf → Except Error β} (hm : TellsLinks D l script m expected)
    (hf : ∀ a, TellsLinks D l script (f a) (next a)) :
    TellsLinks D l script (m >>= f) fun keysOf => expected keysOf >>= (next · keysOf) := by
  refine ⟨hm.within.bind fun a => (hf a).within, fun {w tables} h ht hl => ?_⟩
  have first := hm.searched h ht hl
  have within := hm.within.ensures h.upholds h.inside ht
  rw [TableQuery.run_bind]
  rcases hr : m.run.run tables w with ⟨⟨e | a, tables'⟩, w'⟩ <;> rw [hr] at first
  · refine ⟨first.reads, ⟨nofun, fun ho => ?_⟩, first.same, first.loader⟩
    rw [← first.agrees.error ho]
    rfl
  · obtain ⟨upholds, -, fits, -⟩ := within.run hr
    have second := (hf a).searched (h.reads upholds first.reads) fits first.loader
    refine ⟨first.reads.trans second.reads, ?_, second.same.trans first.same, second.loader⟩
    rw [first.agrees.ok rfl]
    exact Catalog.keysOf_congr first.same ▸ second.agrees

theorem congr {m : TableQuery α} {expected other : KeysOf → Except Error α}
    (hm : TellsLinks D l script m expected) (h : expected = other) :
    TellsLinks D l script m other := h ▸ hm

/-- The recursion follows the tables up to the one with the name. -/
theorem foreignKeys (name : String) :
    TellsLinks D l script (TableQuery.foreignKeys? name) (· name) := by
  refine ⟨.foreignKeys name, fun {w tables} h fits hl => ?_⟩
  induction tables with
  | nil => exact ⟨.refl w, .refl _, rfl, hl⟩
  | cons table rest ih =>
    obtain ⟨head, tail⟩ := List.forall_mem_cons.mp hl
    cases hn : table.name.raw == name with
    | true =>
      have loaded := table.loadForeignKeys_tells h head
      have kept := table.loadForeignKeys_kept w
      have found : script.keysOf (table :: rest) name = (table.keysIn script).map some := by
        simp only [Catalog.keysOf, List.find?_cons, hn]
      rw [TableQuery.run_foreignKeys?_first rest w hn, found]
      refine ⟨loaded.reads, loaded.agrees.map some, ?_,
        List.forall_mem_cons.mpr ⟨kept.2.trans head, tail⟩⟩
      rw [List.map_cons, List.map_cons, Table.known, Table.known, kept.1, loaded.same]
    | false =>
      have searched := ih (fun t ht => fits t (List.mem_cons_of_mem _ ht)) tail
      have found : script.keysOf (table :: rest) name = script.keysOf rest name := by
        simp only [Catalog.keysOf, List.find?_cons, hn]
      rw [TableQuery.run_foreignKeys?_other rest w hn, found]
      refine ⟨searched.reads, searched.agrees, ?_,
        List.forall_mem_cons.mpr ⟨head, searched.loader⟩⟩
      rw [List.map_cons, List.map_cons, searched.same]

/-- The recursion follows the dependents; each that is listed may take one load. -/
theorem dependentKeys (names : List String) (name : String) (dependents : List Dependency) :
    TellsLinks D l script (TableQuery.dependentKeys names name dependents)
      (ForeignKey.ofDependents · names name dependents) := by
  induction dependents with
  | nil => exact .ofExcept (.pure []) fun _ _ => rfl
  | cons dependent rest ih =>
    rw [TableQuery.dependentKeys]
    by_cases listed : dependent.kind = .table ∧ names.contains dependent.name
    · rw [if_pos listed]
      refine ((foreignKeys dependent.name).bind fun keys => ih.bind fun later =>
        ofExcept (.pure _) fun _ _ => rfl).congr (funext fun keysOf => ?_)
      rw [ForeignKey.ofDependents_listed keysOf name listed]
      rfl
    · rw [if_neg listed]
      exact ih.congr (funext fun keysOf =>
        (ForeignKey.ofDependents_other keysOf name listed rest).symm)

theorem links (names : List String) (name : String) :
    TellsLinks D l script (TableQuery.links l names name)
      (ForeignKey.links · (script.dependents name) names name) := by
  have dependents : TellsLinks D l script
      (TableQuery.ofQuery (Dependency.load l name .table false)) fun _ => script.dependents name :=
    .ofQuery (Dependency.load_tells name)
      (.ofQuery fun h hl => Discipline.dependencies_ensures h hl.knows name .table false)
  have owned (keys : Option (List ForeignKey)) : TellsLinks D l script
      (match keys with
        | none => throw (.notFound ("TABLE " ++ name))
        | some keys => do
          let dependents ← TableQuery.ofQuery (Dependency.load l name .table false)
          let others ← TableQuery.dependentKeys names name dependents
          Pure.pure (keys.filter (fun key => names.contains key.referencedTable) ++ others))
      (fun keysOf => match keys with
        | none => throw (.notFound ("TABLE " ++ name))
        | some keys => do
          let others ← ForeignKey.ofDependents keysOf names name (← script.dependents name)
          Pure.pure (keys.filter (fun key => names.contains key.referencedTable) ++ others)) := by
    cases keys with
    | none => exact .ofExcept (.throw (D.notFound _)) fun _ _ => rfl
    | some keys =>
      exact dependents.bind fun found => (dependentKeys names name found).bind fun others =>
        ofExcept (.pure _) fun _ _ => rfl
  refine ((foreignKeys name).bind owned).congr (funext fun keysOf => ?_)
  refine congrArg _ (funext fun keys => ?_)
  cases keys <;> rfl

end TellsLinks

/-! ## Databases -/

/-- Entering changes nothing that queries are answered by. -/
theorem LoaderId.enter_script {w w' : World} (he : l.enter.run w = (.ok (), w')) :
    (w'.catalogOf l).script = (w.catalogOf l).script := by
  rw [run_enter, Catalog.startTransaction] at he
  split at he
  · cases ht : (w.catalogOf l).inTransaction <;> rw [ht] at he <;> cases he
    rw [catalogOf_changeDepth]
    show ((w.setCatalog _ _).catalog (w.loader l).connection).script = _
    rw [catalog_setCatalog]
    split <;> rfl
  · cases he
    rw [catalogOf_changeDepth]

/-- The first to enter starts a transaction. -/
theorem LoaderId.enter_starts (hs : w.Sound) (hl : w.Knows l) (depth : (w.loader l).depth = 0)
    (closed : (w.catalogOf l).inTransaction = false) :
    ∃ w', l.enter.run w = (.ok (), w') ∧ ∀ c, (w'.catalog c).started =
      (w.catalog c).started + if c = (w.loader l).connection then 1 else 0 := by
  have run := run_enter w l
  rw [if_pos depth, Catalog.startTransaction,
    if_neg (by rw [closed]; exact Bool.false_ne_true)] at run
  refine ⟨_, run, fun c => ?_⟩
  show ((w.setCatalog (w.loader l).connection _).catalog c).started = _
  rw [catalog_setCatalog]
  by_cases hc : c = (w.loader l).connection
  · rw [if_pos ⟨hc.symm, hc ▸ hs.served l hl⟩, if_pos hc, hc]
    rfl
  · rw [if_neg fun h => hc h.1.symm, if_neg hc]
    rfl

/-- No transaction starts when one ends. -/
theorem LoaderId.leave_started (w : World) (l : LoaderId) (c : ConnectionId) :
    ((l.leave w).2.catalog c).started = (w.catalog c).started := by
  have finished (catalog : Catalog) : (finish catalog).started = catalog.started := by
    rw [finish, Catalog.commit]
    by_cases ht : catalog.inTransaction = true
    · rw [if_pos ht]
    · rw [if_neg ht]
      rfl
  rw [run_leave]
  dsimp only
  split
  · rw [catalog_setCatalog]
    split
    · next hc => rw [← hc.1]; exact finished _
    · rfl
  · rfl

/-- What comes of a search in a database, once its loader has been entered. -/
structure LinksFound (D : Discipline) (l : LoaderId) (database : Database) (names : List String)
    (name : String) (w entered : World) : Prop where
  agrees : Agrees (D.Orderly l (w.catalogOf l).script) (database.links names name w).1.1
    (ForeignKey.links ((w.catalogOf l).keysOf database.tables) ((w.catalogOf l).dependents name)
      names name)
  same : (database.links names name w).1.2.tables.map (Table.known (w.catalogOf l)) =
    database.tables.map (Table.known (w.catalogOf l))
  started : ∀ c, ((database.links names name w).2.catalog c).started = (entered.catalog c).started

theorem Database.links_found {database : Database} {entered : World} (h : D.Upholds w)
    (hf : D.FitsDatabase w database) (hl : database.loader = some l)
    (loaders : ∀ t ∈ database.tables, t.item.loader = some l)
    (he : l.enter.run w = (.ok (), entered)) (names : List String) (name : String) :
    LinksFound D l database names name w entered := by
  have knows := hf.item.knows l hl
  obtain ⟨upholds, inside, -⟩ := Discipline.bracket h knows he
  have grows := (LoaderId.enter_ok knows he).toGrows
  have fits (t : Table) (ht : t ∈ database.tables) : D.FitsTable entered t :=
    ⟨fun k hk => grows.knows k ((hf.tables t ht).knows k hk), (hf.tables t ht).allows⟩
  have found := (TellsLinks.links names name).searched
    ⟨upholds, inside, LoaderId.enter_script he⟩ fits loaders
  have run := database.run_links names name w
  rw [requireLoader, hl] at run
  dsimp only at run
  rw [he] at run
  dsimp only at run
  refine ⟨?_, ?_, fun c => ?_⟩ <;> rw [run]
  · rw [← Catalog.keysOf_script]
    exact found.agrees
  · have same := found.same
    unfold Table.known at same ⊢
    simpa only [Table.keysIn_script] using same
  · have started := congrArg Catalog.started (found.reads.still c)
    rw [LoaderId.leave_started]
    exact started

/-- A search that cannot enter its loader fails and does nothing. -/
theorem Database.links_cases {database : Database} (h : D.Upholds w)
    (hf : D.FitsDatabase w database) (hl : database.loader = some l)
    (loaders : ∀ t ∈ database.tables, t.item.loader = some l) (names : List String)
    (name : String) : (∃ e, database.links names name w = ((.error e, database), w)) ∨
      ∃ entered, LinksFound D l database names name w entered := by
  rcases he : l.enter.run w with ⟨e | ⟨⟩, entered⟩
  · refine .inl ⟨e, ?_⟩
    obtain ⟨rfl, -⟩ := LoaderId.enter_error he
    have run := database.run_links names name entered
    rw [requireLoader, hl] at run
    dsimp only at run
    rw [he] at run
    exact run
  · exact .inr ⟨entered, Database.links_found h hf hl loaders he names name⟩

/-- What a search finds is what links. -/
theorem Database.links_ok {database : Database} (h : D.Upholds w)
    (hf : D.FitsDatabase w database) (hl : database.loader = some l)
    (loaders : ∀ t ∈ database.tables, t.item.loader = some l) {names : List String}
    {name : String} {keys : List ForeignKey}
    (found : (database.links names name w).1.1 = .ok keys) :
    ForeignKey.links ((w.catalogOf l).keysOf database.tables) ((w.catalogOf l).dependents name)
      names name = .ok keys := by
  obtain ⟨e, busy⟩ | ⟨entered, links⟩ := Database.links_cases h hf hl loaders names name
  · rw [busy] at found
    cases found
  · exact links.agrees.ok found

end MetaCatalog
