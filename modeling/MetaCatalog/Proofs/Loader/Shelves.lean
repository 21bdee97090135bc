import MetaCatalog.Proofs.Client.Inventory
import MetaCatalog.Proofs.Framework.Leads

/-!
# What reads do to the prepared statements

A loader and its connection have a `Shelf` of prepared statements. All that a read does to
it is to obtain the statements of a few texts, one after the other (`Shelf.obtain`): a text
that is in the cache changes nothing, and any other one is prepared. Within a transaction of
the loader each statement that a read obtains is run at once, so that the journal of the
connection tells which texts these were (`World.Obtains`). This holds of every query
(`LoaderId.query_stocks`), and so of loading any facet of any object (`Object.load_stocks`).
-/

namespace MetaCatalog

open World (Course)

/-! ## Shelves -/

/-- The statements of a loader and its connection. -/
structure Shelf where
  /-- The cache of the loader. -/
  cache : List (String × StatementId)
  /-- The texts of all statements that were ever made, in their order. -/
  texts : List String
  /-- How many queries the connection has prepared. -/
  prepared : Nat

/-- The shelf after the statement of a text was obtained: it is prepared if it is not in
the cache. -/
def Shelf.obtain (shelf : Shelf) (sql : String) : Shelf :=
  match shelf.cache.lookup sql with
  | some _ => shelf
  | none => {
    cache := (sql, ⟨shelf.texts.length⟩) :: shelf.cache
    texts := shelf.texts ++ [sql]
    prepared := shelf.prepared + 1 }

namespace World

/-- The shelf of a loader. -/
def shelf (w : World) (l : LoaderId) : Shelf where
  cache := (w.loader l).statements
  texts := w.statements.cells.toList.map (·.sql)
  prepared := (w.catalogOf l).prepared

/-- The texts of the queries that the connection of a loader was asked to run. -/
def asked (w : World) (l : LoaderId) : List String := (w.catalogOf l).journal.map (·.sql)

/-- The statements of these texts were obtained, and each was run. -/
structure Obtains (l : LoaderId) (sqls : List String) (w w' : World) : Prop where
  shelf : w'.shelf l = sqls.foldl Shelf.obtain (w.shelf l)
  asked : w'.asked l = w.asked l ++ sqls

variable {l : LoaderId} {w w' w'' : World} {sqls sqls' : List String}

theorem Obtains.nil (shelf : w'.shelf l = w.shelf l) (asked : w'.asked l = w.asked l) :
    Obtains l [] w w' :=
  ⟨shelf, asked.trans (List.append_nil _).symm⟩

theorem Obtains.trans (h : Obtains l sqls w w') (h' : Obtains l sqls' w' w'') :
    Obtains l (sqls ++ sqls') w w'' := by
  refine ⟨?_, ?_⟩
  · rw [h'.shelf, h.shelf, List.foldl_append]
  · rw [h'.asked, h.asked, List.append_assoc]

theorem Obtains.after (h : Obtains l sqls w w') (h' : Obtains l [] w' w'') :
    Obtains l sqls w w'' := by
  have whole := h.trans h'
  rwa [List.append_nil] at whole

/-- A statement keeps its text, whatever else becomes of it. -/
theorem texts_setStatement {s : StatementId} {statement : Statement}
    (hq : statement.sql = (w.statement s).sql) :
    (w.setStatement s statement).statements.cells.toList.map (·.sql) =
      w.statements.cells.toList.map (·.sql) := by
  refine List.ext_getElem? fun i => ?_
  simp only [setStatement, Arena.modify, List.getElem?_map, Array.getElem?_toList,
    Array.getElem?_modify]
  split
  · next same =>
    subst same
    cases there : w.statements.cells[s.index]? with
    | none => rfl
    | some x =>
      have found : w.statement s = x := by
        rw [World.statement, Arena.get, Array.getD_eq_getD_getElem?, there]
        rfl
      rw [Option.map_some, Option.map_some, Option.map_some, hq, found]
  · rfl

theorem shelf_setStatement (l : LoaderId) {s : StatementId} {statement : Statement}
    (hq : statement.sql = (w.statement s).sql) :
    (w.setStatement s statement).shelf l = w.shelf l := by
  rw [shelf, texts_setStatement hq]
  rfl

theorem obtains_setStatement (l : LoaderId) {s : StatementId} {statement : Statement}
    (hq : statement.sql = (w.statement s).sql) :
    Obtains l [] w (w.setStatement s statement) :=
  .nil (shelf_setStatement l hq) rfl

theorem catalogOf_setCatalog (w : World) (c : ConnectionId) (catalog : Catalog) (l : LoaderId) :
    (w.setCatalog c catalog).catalogOf l =
      if c = (w.loader l).connection ∧ w.Serves (w.loader l).connection then catalog
      else w.catalogOf l :=
  catalog_setCatalog ..

theorem shelf_setCatalog (l : LoaderId) {c : ConnectionId} {catalog : Catalog}
    (prepared : catalog.prepared = (w.catalog c).prepared) :
    (w.setCatalog c catalog).shelf l = w.shelf l := by
  have kept : ((w.setCatalog c catalog).catalogOf l).prepared = (w.catalogOf l).prepared := by
    rw [catalogOf_setCatalog]
    split
    · next here =>
      obtain ⟨rfl, -⟩ := here
      exact prepared
    · rfl
  rw [shelf, kept]
  rfl

theorem obtains_setCatalog (l : LoaderId) {c : ConnectionId} {catalog : Catalog}
    (prepared : catalog.prepared = (w.catalog c).prepared)
    (journal : catalog.journal = (w.catalog c).journal) :
    Obtains l [] w (w.setCatalog c catalog) := by
  refine .nil (shelf_setCatalog l prepared) ?_
  rw [asked, catalogOf_setCatalog, asked]
  split
  · next here =>
    obtain ⟨rfl, -⟩ := here
    rw [journal]
    rfl
  · rfl

theorem obtains_changeDepth (w : World) (l k : LoaderId) (f : Nat → Nat) :
    Obtains l [] w (w.changeDepth k f) := by
  refine .nil ?_ ?_
  · rw [shelf, (loader_changeDepth w l k f).1, catalogOf_changeDepth]
    rfl
  · rw [asked, catalogOf_changeDepth, asked]

/-! ## Order -/

/-- Whoever takes part in the transaction of the loader can rely on it. -/
structure Dependable (l : LoaderId) (w : World) : Prop where
  sound : w.Sound
  knows : w.Knows l
  active : w.Inside l → (w.catalogOf l).inTransaction = true

/-- Moreover someone does take part. -/
structure Engaged (l : LoaderId) (w : World) : Prop extends Dependable l w where
  inside : w.Inside l

/-- In worlds of a kind, the computation obtains statements, and keeps the kind. -/
def Stocks (I : World → Prop) (l : LoaderId) (w w' : World) : Prop :=
  I w → I w' ∧ ∃ sqls, Obtains l sqls w w'

instance (I : World → Prop) (l : LoaderId) : Course (Stocks I l) where
  refl _ h := ⟨h, [], .nil rfl rfl⟩
  trans := by
    intro w w' w'' first second h
    obtain ⟨h', sqls, obtains⟩ := first h
    obtain ⟨h'', sqls', obtains'⟩ := second h'
    exact ⟨h'', sqls ++ sqls', obtains.trans obtains'⟩

/-- The catalog that a loader works on is served. -/
theorem Dependable.served (h : w.Dependable l) : w.Serves (w.loader l).connection :=
  h.sound.served l h.knows

theorem Dependable.reads (h : w.Dependable l) (reads : w.Reads w') (sound : w'.Sound) :
    w'.Dependable l := by
  refine ⟨sound, reads.knows l h.knows, fun inside => ?_⟩
  rw [Inside, reads.depth] at inside
  have still := congrArg Catalog.inTransaction (reads.still (w.loader l).connection)
  rw [catalogOf, reads.connection l h.knows]
  exact still.trans (h.active inside)

/-- A query that is run is written to the journal, which is no matter of the shelf. -/
theorem Dependable.journaled (h : w.Dependable l) (execution : Execution) :
    (w.setCatalog (w.loader l).connection { w.catalogOf l with
        journal := (w.catalogOf l).journal ++ [execution] }).shelf l = w.shelf l ∧
      (w.setCatalog (w.loader l).connection { w.catalogOf l with
        journal := (w.catalogOf l).journal ++ [execution] }).asked l =
        w.asked l ++ [execution.sql] := by
  refine ⟨shelf_setCatalog l rfl, ?_⟩
  rw [asked, catalogOf_setCatalog, if_pos ⟨rfl, h.served⟩, List.map_append]
  rfl

theorem Engaged.reads (h : w.Engaged l) (reads : w.Reads w') (sound : w'.Sound) : w'.Engaged l :=
  ⟨h.toDependable.reads reads sound, reads.inside h.inside⟩

end World

open World

/-! ## Queries -/

/-- Whatever comes of a query that is run inside a transaction, it is in the journal. -/
theorem Catalog.execute_active {catalog : Catalog} (h : catalog.inTransaction = true)
    (sql : String) (parameters : Parameters) :
    (catalog.execute sql parameters).2 =
      { catalog with journal := catalog.journal ++ [⟨sql, parameters.values⟩] } := by
  unfold execute
  rw [if_pos h]
  dsimp only
  split <;> rfl

namespace LoaderId

variable {w w' : World} {l : LoaderId} {sql : String}

theorem prepare_error {e : Error} (h : (l.prepare sql).run w = (.error e, w')) : w' = w := by
  rw [run_prepare] at h
  split at h
  · split at h
    · cases h
    · split at h <;> cases h
      rfl
  · cases h
    rfl

/-- A statement that can be had is obtained, and no query is run for that. -/
theorem prepare_obtain {handle : Handle} (dependable : w.Dependable l)
    (h : (l.prepare sql).run w = (.ok handle, w')) :
    w'.shelf l = (w.shelf l).obtain sql ∧ w'.asked l = w.asked l := by
  rw [run_prepare] at h
  unfold Shelf.obtain
  split at h
  · split at h
    · next cached =>
      cases h
      rw [show (w.shelf l).cache.lookup sql = _ from cached]
      exact ⟨rfl, rfl⟩
    · next missing =>
      split at h <;> cases h
      have loader : (w.prepared l sql).loader l = { w.loader l with
          statements := (sql, ⟨w.statements.next⟩) :: (w.loader l).statements } := by
        rw [loader_prepared, if_pos ⟨rfl, dependable.knows⟩]
      have catalog : (w.prepared l sql).catalogOf l =
          { w.catalogOf l with prepared := (w.catalogOf l).prepared + 1 } := by
        rw [catalogOf, loader, catalog_prepared, if_pos ⟨rfl, dependable.served⟩]
        rfl
      have texts : (w.prepared l sql).statements.cells.toList.map (·.sql) =
          w.statements.cells.toList.map (·.sql) ++ [sql] := by
        show ((w.statements.push _).cells.toList.map _) = _
        rw [Arena.push, Array.toList_push, List.map_append]
        rfl
      have next : w.statements.next = (w.shelf l).texts.length := by
        rw [shelf, List.length_map, Array.length_toList]
        rfl
      rw [show (w.shelf l).cache.lookup sql = _ from missing, asked, catalog, shelf, loader, texts,
        catalog, ← next]
      exact ⟨rfl, rfl⟩
  · cases h

/-- A query obtains one statement and runs it, or fails before that. -/
theorem query_obtains (engaged : w.Engaged l) (sql : String) (values : List Value) :
    ∃ sqls, Obtains l sqls w ((l.query sql values).run w).2 := by
  have reads := prepare_reads w l sql
  have sound := prepare_sound engaged.sound l sql
  rcases hr : (l.prepare sql).run w with ⟨e | handle, w'⟩ <;> rw [hr] at reads sound
  · rw [run_query_error hr, prepare_error hr]
    exact ⟨[], .nil rfl rfl⟩
  · have engaged' : w'.Engaged l := engaged.reads reads sound
    obtain ⟨shelf, asked⟩ := prepare_obtain engaged.toDependable hr
    obtain ⟨hh, hf⟩ := prepare_ok engaged.knows hr
    obtain ⟨-, -, hq⟩ := engaged'.sound.filed hf
    refine ⟨[sql], ?_⟩
    have executed := Catalog.execute_active (engaged'.active engaged'.inside) sql
      ((w'.statement handle.statement).bound 1 values).parameters
    -- Whatever comes of running the statement, it is written to the journal and keeps its text.
    have done (statement : Statement) (same : statement.sql = sql) : Obtains l [sql] w
        ((w'.setCatalog (w'.loader l).connection ((w'.catalogOf l).execute sql
          ((w'.statement handle.statement).bound 1 values).parameters).2).setStatement
          handle.statement statement) := by
      obtain ⟨shelf', asked'⟩ := engaged'.toDependable.journaled
        ⟨sql, ((w'.statement handle.statement).bound 1 values).parameters.values⟩
      rw [executed]
      refine World.Obtains.after ⟨shelf'.trans shelf, ?_⟩
        (obtains_setStatement l (same.trans hq.symm))
      rw [asked', asked]
    rw [run_query engaged'.sound engaged'.inside hh hf hr]
    split
    · next he =>
      rw [he] at done
      exact done _ hq
    · next he =>
      rw [he] at done
      exact done _ hq

theorem query_stocks (l : LoaderId) (sql : String) (values : List Value) :
    Yields (Stocks (Engaged l) l) (l.query sql values) fun _ => True := by
  refine .of_course fun w engaged => ?_
  obtain ⟨reads, sound⟩ := query_reads engaged.sound engaged.inside sql values
  exact ⟨engaged.reads reads sound, query_obtains engaged sql values⟩

/-- Entering starts a transaction, unless there is one already. -/
theorem enter_stocks {w w' : World} {l : LoaderId} (dependable : w.Dependable l)
    (h : l.enter.run w = (.ok (), w')) : w'.Engaged l ∧ Obtains l [] w w' := by
  have entered := enter_ok dependable.knows h
  have sound := enter_sound dependable.sound l
  rw [h] at sound
  suffices active : (w'.catalogOf l).inTransaction = true ∧ Obtains l [] w w' from
    ⟨⟨⟨sound, entered.knows l dependable.knows, fun _ => active.1⟩, entered.inside⟩, active.2⟩
  rw [run_enter] at h
  split at h
  · split at h
    · cases h
    · next started =>
      cases h
      unfold Catalog.startTransaction at started
      split at started <;> cases started
      have catalog := catalogOf_setCatalog w (w.loader l).connection
        { w.catalogOf l with inTransaction := true, started := (w.catalogOf l).started + 1 } l
      rw [if_pos ⟨rfl, dependable.served⟩] at catalog
      have begun : Obtains l [] w (w.setCatalog (w.loader l).connection
          { w.catalogOf l with inTransaction := true, started := (w.catalogOf l).started + 1 }) :=
        obtains_setCatalog l rfl rfl
      refine ⟨?_, begun.trans (obtains_changeDepth ..)⟩
      rw [catalogOf_changeDepth, catalog]
  · next taken =>
    cases h
    refine ⟨?_, obtains_changeDepth ..⟩
    rw [catalogOf_changeDepth]
    exact dependable.active (Nat.pos_of_ne_zero taken)

/-- Leaving ends the transaction if nobody is left. -/
theorem leave_stocks {w : World} {l : LoaderId} (dependable : w.Dependable l) :
    (l.leave w).2.Dependable l ∧ Obtains l [] w (l.leave w).2 := by
  have sound := leave_sound dependable.sound l
  have knows := (leave_grows w l).knows l dependable.knows
  have depth : ((w.changeDepth l (· - 1)).loader l).depth = (w.loader l).depth - 1 := by
    rw [depth_changeDepth, if_pos ⟨rfl, dependable.knows⟩]
  have dropped := obtains_changeDepth w l l (· - 1)
  suffices active : ((l.leave w).2.Inside l → ((l.leave w).2.catalogOf l).inTransaction = true) ∧
      Obtains l [] w (l.leave w).2 from ⟨⟨sound, knows, active.1⟩, active.2⟩
  rw [run_leave]
  dsimp only
  split
  · next last =>
    -- The transaction is active, so the commit does not fail and nothing is rolled back.
    have inside : w.Inside l := by rw [Inside, last]; exact Nat.one_pos
    have finished : (finish (w.catalogOf l)).prepared = (w.catalogOf l).prepared ∧
        (finish (w.catalogOf l)).journal = (w.catalogOf l).journal := by
      rw [finish, Catalog.commit, if_pos (dependable.active inside)]
      exact ⟨rfl, rfl⟩
    refine ⟨fun left => ?_, dropped.trans (obtains_setCatalog l finished.1 finished.2)⟩
    have left : 0 < ((w.changeDepth l (· - 1)).loader l).depth := left
    rw [depth, last] at left
    exact absurd left (Nat.lt_irrefl 0)
  · refine ⟨fun left => ?_, dropped⟩
    rw [Inside, depth] at left
    rw [catalogOf_changeDepth]
    exact dependable.active (Nat.lt_of_lt_of_le left (Nat.sub_le ..))

end LoaderId

/-! ## Loads -/

section Loads

variable {l : LoaderId}

theorem deliverIf_stocks (due : Bool × Subject) :
    Leads (Stocks (Engaged l) l) (World.deliverIf due) fun _ => True := by
  refine ⟨fun w engaged => ?_, fun _ => trivial⟩
  rcases due with ⟨_ | _, subject⟩
  · exact ⟨engaged, [], .nil rfl rfl⟩
  · obtain ⟨⟨⟨served, filed, apart⟩, knows, active⟩, inside⟩ := engaged
    exact ⟨⟨⟨⟨served, filed, apart⟩, knows, active⟩, inside⟩, [], .nil rfl rfl⟩

theorem newId_stocks : Leads (Stocks (Engaged l) l) World.newId fun _ => True := by
  refine ⟨fun w engaged => ?_, fun _ => trivial⟩
  obtain ⟨⟨⟨served, filed, apart⟩, knows, active⟩, inside⟩ := engaged
  exact ⟨⟨⟨⟨served, filed, apart⟩, knows, active⟩, inside⟩, [], .nil rfl rfl⟩

theorem Fetches.stocks {sqls : List String} {m : LoaderId → Query α} (h : Fetches sqls m) :
    Yields (Stocks (Engaged l) l) (m l) fun _ => True := by
  refine h.yields l.query_stocks fun w s rows current engaged => ?_
  have engaged' := engaged.reads (reads_setStatement w s { w.statement s with rows, current })
    (engaged.sound.setStatement rfl rfl)
  exact ⟨engaged', [], obtains_setStatement l rfl⟩

/-- Items that are made of what was fetched take nothing but identifiers. -/
theorem Fetches.stocks_members {sqls : List String} {m : LoaderId → Query (List δ)}
    {make : δ → Engine α} (h : Fetches sqls m)
    (made : ∀ d, Leads (Stocks (Engaged l) l) (make d) fun _ => True) :
    Yields (Stocks (Engaged l) l) (do
      let definitions ← m l
      liftM (definitions.mapM make) : Query (List α)) fun _ => True :=
  h.stocks.bind fun definitions _ => .lift
    ((Leads.mapM (P := fun _ => True) (fun d _ => made d) definitions fun _ _ => trivial).mono
      fun _ _ => trivial)

theorem Item.within_stocks (kind : ItemKind) (name : Identifier) (parent : Uuid)
    (loader : Option LoaderId) :
    Leads (Stocks (Engaged l) l) (Item.within kind name parent loader) fun _ => True :=
  Leads.map (newId_stocks.map (f := fun id => Item.free id kind name) (Q := fun _ => True)
    fun _ _ => trivial) fun _ _ => trivial

theorem Relation.fetchColumns_stocks (item : Item) :
    Yields (Stocks (Engaged l) l) (Relation.fetchColumns item l) fun _ => True :=
  (Fetches.columns item.name.raw).stocks_members fun d =>
    (Item.within_stocks .column d.name item.id (some l)).map fun _ _ => trivial

theorem Procedure.fetchParameters_stocks (item : Item) :
    Yields (Stocks (Engaged l) l) (Procedure.fetchParameters item l) fun _ => True :=
  (Fetches.parameters item.name.raw).stocks_members fun d =>
    (Item.within_stocks .parameter d.name item.id (some l)).map fun _ _ => trivial

/-- The item is read with the loader, if with any. -/
def Item.ReadWith (item : Item) (l : LoaderId) : Prop := ∀ k, item.loader = some k → k = l

/-- A load obtains what its fetch obtains. -/
theorem Item.load_stocks {item : Item} {facet : Facet α} {fetch : LoaderId → Query α}
    (own : item.ReadWith l) (hq : Yields (Stocks (Engaged l) l) (fetch l) fun _ => True) :
    Leads (Stocks (Dependable l) l) (item.load facet fetch) fun _ => True := by
  refine load_leads fun k hk => ?_
  obtain rfl := own k hk
  refine fetch_leads hq deliverIf_stocks fun {w w' w''} entered body dependable => ?_
  obtain ⟨engaged, enter⟩ := LoaderId.enter_stocks dependable entered
  obtain ⟨engaged', sqls, obtains⟩ := body engaged
  obtain ⟨dependable', leave⟩ := LoaderId.leave_stocks engaged'.toDependable
  exact ⟨dependable', sqls, (enter.trans obtains).after leave⟩

theorem Relation.loadColumns_stocks {relation : Relation} (own : relation.item.ReadWith l) :
    Leads (Stocks (Dependable l) l) relation.loadColumns fun _ => True :=
  (Item.load_stocks own (Relation.fetchColumns_stocks relation.item)).map fun _ _ => trivial

theorem Relation.loadDescription_stocks {relation : Relation} (own : relation.item.ReadWith l) :
    Leads (Stocks (Dependable l) l) relation.loadDescription fun _ => True :=
  (Item.load_stocks own (Fetches.description .description relation.item).stocks).map
    fun _ _ => trivial

theorem Table.load_stocks {t : Table} (own : t.item.ReadWith l) (kind : FacetKind) :
    Leads (Stocks (Dependable l) l) (t.load kind) fun _ => True := by
  have facet {β : Type} {sqls : List String} {facet : Facet β} {fetch : LoaderId → Query β}
      (h : Fetches sqls fetch) :
      Leads (Stocks (Dependable l) l) (t.item.load facet fetch) fun _ => True :=
    Item.load_stocks own h.stocks
  cases kind with
  | columns =>
    have kept : (if t.relation.columns.isLoaded then t else t.dropDependents).relation.item =
        t.item := by
      split <;> rfl
    exact (Relation.loadColumns_stocks (kept ▸ own)).map fun _ _ => trivial
  | primaryKey => exact (facet (Fetches.primaryKey _)).map fun _ _ => trivial
  | foreignKeys => exact (facet (Fetches.foreignKeys _)).map fun _ _ => trivial
  | checkConstraints => exact (facet (Fetches.checkConstraints _)).map fun _ _ => trivial
  | uniqueConstraints => exact (facet (Fetches.uniqueConstraints _)).map fun _ _ => trivial
  | indices => exact (facet (Fetches.indices _)).map fun _ _ => trivial
  | externalPath => exact (facet (Fetches.externalPath _)).map fun _ _ => trivial
  | description => exact (Relation.loadDescription_stocks own).map fun _ _ => trivial
  | source | parameters | privileges => exact .pure trivial

theorem View.load_stocks {v : View} (own : v.item.ReadWith l) (kind : FacetKind) :
    Leads (Stocks (Dependable l) l) (v.load kind) fun _ => True := by
  cases kind with
  | columns => exact (Relation.loadColumns_stocks own).map fun _ _ => trivial
  | source =>
    exact (Item.load_stocks own (Fetches.viewSource _).stocks).map fun _ _ => trivial
  | description => exact (Relation.loadDescription_stocks own).map fun _ _ => trivial
  | _ => exact .pure trivial

theorem Procedure.load_stocks {p : Procedure} (own : p.item.ReadWith l) (kind : FacetKind) :
    Leads (Stocks (Dependable l) l) (p.load kind) fun _ => True := by
  cases kind with
  | parameters =>
    exact (Item.load_stocks own (fetchParameters_stocks _)).map fun _ _ => trivial
  | source =>
    exact (Item.load_stocks own (Fetches.procedureSource _).stocks).map fun _ _ => trivial
  | privileges =>
    exact (Item.load_stocks own (Fetches.privileges _).stocks).map fun _ _ => trivial
  | description =>
    exact (Item.load_stocks own (Fetches.description .procedureDescription _).stocks).map
      fun _ _ => trivial
  | _ => exact .pure trivial

/-- Loading a facet of an object obtains statements, runs each of them, and does nothing
else to the shelf of the loader. -/
theorem Object.load_stocks {object : Object} (own : object.item.ReadWith l) (kind : FacetKind) :
    Leads (Stocks (Dependable l) l) (object.load kind) fun _ => True := by
  cases object with
  | table t => exact (Table.load_stocks own kind).map fun _ _ => trivial
  | view v => exact (View.load_stocks own kind).map fun _ _ => trivial
  | procedure p => exact (Procedure.load_stocks own kind).map fun _ _ => trivial

end Loads

end MetaCatalog
