import MetaCatalog.Proofs.Framework.Answers
import MetaCatalog.Proofs.Framework.Leads

/-!
# Which queries are run

The journal of a catalog says which queries it was asked to run. Entering and
leaving a transaction, preparing and reading rows run none (`World.RunsNone`), and
a query is one at most (`World.RunsOne`), whatever world it starts in. So loading
a facet with one query runs at most one (`Item.load_runsOne`).

In a world in which everything hangs together a query also has the text that was asked
for (`World.Asks`), and a facet that is there is not asked for (`Item.load_asks`).
-/

namespace MetaCatalog

namespace World

/-- No query was run. -/
def RunsNone (w w' : World) : Prop := ∀ c, (w'.catalog c).journal = (w.catalog c).journal

/-- At most one query was run, on one of the connections. -/
def RunsOne (w w' : World) : Prop :=
  ∃ c ran, ran.length ≤ 1 ∧
    ∀ d, (w'.catalog d).journal = (w.catalog d).journal ++ if d = c then ran else []

/-- The queries that were run have these texts: on every connection some of them,
each of those once, and in their order. -/
def Asks (sqls : List String) (w w' : World) : Prop :=
  ∀ c, ∃ ran : List Execution, (w'.catalog c).journal = (w.catalog c).journal ++ ran ∧
    (ran.map (·.sql)).Sublist sqls

/-- No query with this text was run. -/
def Unasked (sql : String) (w w' : World) : Prop :=
  ∀ c, (w'.catalog c).journal.filter (·.sql == sql) = (w.catalog c).journal.filter (·.sql == sql)

instance : Course RunsNone where
  refl _ _ := rfl
  trans h h' c := (h' c).trans (h c)

variable {w w' w'' : World} {sqls : List String}

theorem RunsNone.one (h : RunsNone w w') : RunsOne w w' := by
  refine ⟨⟨0⟩, [], Nat.zero_le 1, fun d => ?_⟩
  rw [h d, ite_self, List.append_nil]

theorem RunsOne.after (h : RunsOne w w') (h' : RunsNone w' w'') : RunsOne w w'' := by
  obtain ⟨c, ran, one, journal⟩ := h
  exact ⟨c, ran, one, fun d => (h' d).trans (journal d)⟩

theorem RunsNone.before (h : RunsNone w w') (h' : RunsOne w' w'') : RunsOne w w'' := by
  obtain ⟨c, ran, one, journal⟩ := h'
  exact ⟨c, ran, one, fun d => by rw [journal d, h d]⟩

theorem RunsNone.asks (h : RunsNone w w') (sqls : List String) : Asks sqls w w' :=
  fun c => ⟨[], by rw [h c, List.append_nil], List.nil_sublist sqls⟩

theorem Asks.trans {later : List String} (h : Asks sqls w w') (h' : Asks later w' w'') :
    Asks (sqls ++ later) w w'' := by
  intro c
  obtain ⟨ran, journal, texts⟩ := h c
  obtain ⟨ran', journal', texts'⟩ := h' c
  refine ⟨ran ++ ran', by rw [journal', journal, List.append_assoc], ?_⟩
  rw [List.map_append]
  exact texts.append texts'

theorem Asks.mono {more : List String} (h : Asks sqls w w') (hs : sqls.Sublist more) :
    Asks more w w' := by
  intro c
  obtain ⟨ran, journal, texts⟩ := h c
  exact ⟨ran, journal, texts.trans hs⟩

theorem Asks.after (h : Asks sqls w w') (h' : RunsNone w' w'') : Asks sqls w w'' := by
  have whole := h.trans (h'.asks [])
  rwa [List.append_nil] at whole

theorem RunsNone.beforeAsks (h : RunsNone w w') (h' : Asks sqls w' w'') : Asks sqls w w'' :=
  (h.asks []).trans h'

/-- What is not asked for is not run. -/
theorem Asks.unasked {sql : String} (h : Asks sqls w w') (other : sql ∉ sqls) :
    Unasked sql w w' := by
  intro c
  obtain ⟨ran, journal, texts⟩ := h c
  have none : ran.filter (·.sql == sql) = [] := List.filter_eq_nil_iff.mpr fun e he same =>
    other (texts.subset (List.mem_map.mpr ⟨e, he, beq_iff_eq.mp same⟩))
  rw [journal, List.filter_append, none, List.append_nil]

/-- What is written to a catalog may be one more entry of its journal. -/
theorem runsOne_setCatalog (w : World) (c : ConnectionId) {catalog : Catalog}
    {ran : List Execution} (one : ran.length ≤ 1)
    (journal : catalog.journal = (w.catalog c).journal ++ ran) :
    RunsOne w (w.setCatalog c catalog) := by
  by_cases hs : w.Serves c
  · refine ⟨c, ran, one, fun d => ?_⟩
    rw [catalog_setCatalog]
    by_cases hd : d = c
    · subst hd
      rw [if_pos ⟨rfl, hs⟩, if_pos rfl]
      exact journal
    · rw [if_neg fun hn => hd hn.1.symm, if_neg hd, List.append_nil]
  · have same : RunsNone w (w.setCatalog c catalog) := by
      intro d
      rw [catalog_setCatalog, if_neg]
      rintro ⟨rfl, served⟩
      exact hs served
    exact same.one

theorem runsNone_setCatalog (w : World) (c : ConnectionId) {catalog : Catalog}
    (journal : catalog.journal = (w.catalog c).journal) : RunsNone w (w.setCatalog c catalog) := by
  intro d
  rw [catalog_setCatalog]
  split
  · next hd => rw [journal, hd.1]
  · rfl

theorem asks_setCatalog (w : World) (c : ConnectionId) {catalog : Catalog}
    {ran : List Execution} (texts : (ran.map (·.sql)).Sublist sqls)
    (journal : catalog.journal = (w.catalog c).journal ++ ran) :
    Asks sqls w (w.setCatalog c catalog) := by
  intro d
  rw [catalog_setCatalog]
  split
  · next hd =>
    obtain ⟨rfl, -⟩ := hd
    exact ⟨ran, journal, texts⟩
  · exact ⟨[], (List.append_nil _).symm, List.nil_sublist sqls⟩

end World

open World (RunsNone RunsOne Course runsNone_setCatalog runsOne_setCatalog asks_setCatalog)

/-! ## Primitives -/

theorem enter_runsNone (l : LoaderId) (w : World) : RunsNone w (l.enter.run w).2 := by
  rw [LoaderId.run_enter, Catalog.startTransaction]
  split
  · split
    · exact Course.refl w
    · next started =>
      split at started <;> cases started
      exact runsNone_setCatalog w _ rfl
  · exact fun _ => rfl

theorem leave_runsNone (l : LoaderId) (w : World) : RunsNone w (l.leave w).2 :=
  LoaderId.leave_journal w l

theorem bindFrom_runsNone (handle : Handle) (values : List Value) {position : Nat}
    (hp : 0 < position) (w : World) : RunsNone w ((handle.bindFrom position values).run w).2 := by
  induction values generalizing position w with
  | nil => exact Course.refl w
  | cons value rest ih =>
    rw [Handle.bindFrom, Query.run_bind_ok (Handle.run_bind w handle hp value)]
    exact ih (Nat.succ_pos position) _

/-- A catalog takes down every query that it is asked to run, and only that. -/
theorem Catalog.execute_journal (catalog : Catalog) (sql : String) (parameters : Parameters) :
    ∃ ran : List Execution, (ran.map (·.sql)).Sublist [sql] ∧
      (catalog.execute sql parameters).2.journal = catalog.journal ++ ran := by
  unfold Catalog.execute
  split
  · refine ⟨[⟨sql, parameters.values⟩], List.Sublist.refl _, ?_⟩
    dsimp only
    split <;> rfl
  · exact ⟨[], List.nil_sublist _, (List.append_nil _).symm⟩

theorem execute_runsOne (handle : Handle) (w : World) : RunsOne w (handle.execute.run w).2 := by
  rw [Handle.run_execute]
  dsimp only
  split
  · exact (Course.refl w : RunsNone w w).one
  · obtain ⟨ran, text, journal⟩ :=
      (w.catalog (w.statement handle.statement).connection).execute_journal
        (w.statement handle.statement).sql (w.statement handle.statement).parameters
    have one : ran.length ≤ 1 := by
      rw [← ran.length_map (·.sql)]
      exact text.length_le
    split
    all_goals
      next he =>
      rw [he] at journal
      exact runsOne_setCatalog w _ one journal

/-! ## Queries -/

theorem query_runsOne (l : LoaderId) (sql : String) (values : List Value) (w : World) :
    RunsOne w ((l.query sql values).run w).2 := by
  have prepared := LoaderId.prepare_journal w l sql
  unfold LoaderId.query
  rcases hr : (l.prepare sql).run w with ⟨e | handle, w'⟩ <;> rw [hr] at prepared
  · rw [Query.run_bind_error hr]
    exact RunsNone.one prepared
  · rw [Query.run_bind_ok hr]
    have bound := bindFrom_runsNone handle values Nat.one_pos w'
    rcases hb : (handle.bindFrom 1 values).run w' with ⟨e | ⟨⟩, w''⟩ <;> rw [hb] at bound
    · rw [Query.run_bind_error hb]
      exact RunsNone.one (Course.trans (R := RunsNone) prepared bound)
    · rw [Query.run_bind_ok hb]
      have ran := RunsNone.before (Course.trans (R := RunsNone) prepared bound)
        (execute_runsOne handle w'')
      rcases he : handle.execute.run w'' with ⟨e | ⟨⟩, v⟩ <;> rw [he] at ran
      · rw [Query.run_bind_error he]
        exact ran
      · rw [Query.run_bind_ok he]
        exact ran

/-- What is read by one query, row by row. -/
theorem fold_runsOne (l : LoaderId) (sql : String) (values : List Value)
    (step : σ → Row → Except Error σ) (state : σ) (w : World) :
    RunsOne w ((l.fold sql values step state).run w).2 := by
  have ran := query_runsOne l sql values w
  unfold LoaderId.fold
  rcases hq : (l.query sql values).run w with ⟨e | handle, w'⟩ <;> rw [hq] at ran
  · rw [Query.run_bind_error hq]
    exact ran
  · rw [Query.run_bind_ok hq]
    exact ran.after fun _ => rfl

section Asks

variable {w : World} {l : LoaderId} {sql : String} {values : List Value}

/-- A statement in the cache has the text that it was prepared for. -/
theorem query_asks (hs : w.Sound) (hl : w.Inside l) :
    w.Asks [sql] ((l.query sql values).run w).2 := by
  have reads := LoaderId.prepare_reads w l sql
  have sound := LoaderId.prepare_sound hs l sql
  have prepared : w.RunsNone ((l.prepare sql).run w).2 := LoaderId.prepare_journal w l sql
  rcases hp : (l.prepare sql).run w with ⟨e | handle, w'⟩ <;> rw [hp] at reads sound prepared
  · rw [LoaderId.run_query_error hp]
    exact prepared.asks [sql]
  · obtain ⟨hh, hf⟩ := LoaderId.prepare_ok hl.knows hp
    obtain ⟨ran, text, journal⟩ := (w'.catalogOf l).execute_journal sql
      ((w'.statement handle.statement).bound 1 values).parameters
    rw [LoaderId.run_query sound (reads.inside hl) hh hf hp]
    rcases he : (w'.catalogOf l).execute sql _ with ⟨e | rows, catalog⟩ <;> rw [he] at journal
    all_goals exact prepared.beforeAsks (asks_setCatalog w' _ text journal)

theorem fold_asks (hs : w.Sound) (hl : w.Inside l) (step : σ → Row → Except Error σ)
    (state : σ) : w.Asks [sql] ((l.fold sql values step state).run w).2 := by
  have asked : w.Asks [sql] ((l.query sql values).run w).2 := query_asks hs hl
  unfold LoaderId.fold
  rcases hq : (l.query sql values).run w with ⟨e | handle, w'⟩ <;> rw [hq] at asked
  · rw [Query.run_bind_error hq]
    exact asked
  · rw [Query.run_bind_ok hq]
    exact asked.after fun _ => rfl

theorem first_asks (hs : w.Sound) (hl : w.Inside l) (read : Row → Except Error α) :
    w.Asks [sql] ((l.first? sql values read).run w).2 := by
  have asked : w.Asks [sql] ((l.query sql values).run w).2 := query_asks hs hl
  unfold LoaderId.first?
  rcases hq : (l.query sql values).run w with ⟨e | handle, w'⟩ <;> rw [hq] at asked
  · rw [Query.run_bind_error hq]
    exact asked
  · rw [Query.run_bind_ok hq, Handle.run_readRow]
    split <;> exact asked.after fun _ => rfl

end Asks

/-- The columns of a relation take one query. -/
theorem Relation.fetchColumns_runsOne (item : Item) (l : LoaderId) (w : World) :
    RunsOne w ((fetchColumns item l).run w).2 := by
  have ran := fold_runsOne l Column.sql [.text item.name.raw]
    (fun rows row => (ColumnDefinition.read row).map (rows ++ [·])) [] w
  have made (d : ColumnDefinition) : Leads RunsNone (Column.within item.id l d) fun _ => True :=
    ⟨fun _ _ => rfl, fun _ => trivial⟩
  unfold fetchColumns LoaderId.list
  rcases hq : (l.fold Column.sql [.text item.name.raw]
    (fun rows row => (ColumnDefinition.read row).map (rows ++ [·])) []).run w with
    ⟨e | definitions, w'⟩ <;> rw [hq] at ran
  · rw [Query.run_bind_error hq]
    exact ran
  · rw [Query.run_bind_ok hq]
    exact ran.after ((Leads.mapM (P := fun _ => True) (fun d _ => made d) definitions
      fun _ _ => trivial).course w')

/-! ## Loading a facet -/

namespace Item

/-- Fetching runs no queries but those of the fetch. -/
theorem fetch_runsOne {fetch : LoaderId → Query α}
    (hf : ∀ l w, RunsOne w ((fetch l).run w).2) (item : Item) (l : LoaderId) (w : World) :
    RunsOne w (item.fetch l fetch w).2 := by
  have entered := enter_runsNone l w
  rw [run_fetch]
  rcases he : l.enter.run w with ⟨e | ⟨⟩, w'⟩ <;> rw [he] at entered
  · exact entered.one
  · obtain ⟨-, catalogs⟩ := readLocked_outcome item (fetch l) w'
    have read : RunsNone ((fetch l).run w').2 (item.readLocked (fetch l) w').2 :=
      fun c => congrArg Catalog.journal (catalogs c)
    exact (entered.before ((hf l w').after read)).after (leave_runsNone l _)

theorem fetch_asks {sqls : List String} {l : LoaderId} {fetch : LoaderId → Query α} {w : World}
    (hs : w.Sound) (hl : w.Knows l)
    (hf : ∀ w : World, w.Sound → w.Inside l → w.Asks sqls ((fetch l).run w).2) (item : Item) :
    w.Asks sqls (item.fetch l fetch w).2 := by
  have entered := enter_runsNone l w
  have sound := LoaderId.enter_sound hs l
  rw [run_fetch]
  rcases he : l.enter.run w with ⟨e | ⟨⟩, w'⟩ <;> rw [he] at entered sound
  · exact entered.asks sqls
  · have inside : w'.Inside l := (LoaderId.enter_ok hl he).inside
    obtain ⟨-, catalogs⟩ := readLocked_outcome item (fetch l) w'
    have read : RunsNone ((fetch l).run w').2 (item.readLocked (fetch l) w').2 :=
      fun c => congrArg Catalog.journal (catalogs c)
    exact (entered.beforeAsks ((hf w' sound inside).after read)).after (leave_runsNone l _)

/-- A facet that is there is not asked for again. -/
theorem load_asks {sqls : List String} {fetch : LoaderId → Query α} {item : Item} {w : World}
    (hs : w.Sound) (knows : ∀ l, item.loader = some l → w.Knows l)
    (hf : ∀ l (w : World), w.Sound → w.Inside l → w.Asks sqls ((fetch l).run w).2)
    (facet : Facet α) :
    w.Asks (if facet.isLoaded then [] else sqls) (item.load facet fetch w).2 := by
  have nothing (sqls : List String) : w.Asks sqls w := (Course.refl w : RunsNone w w).asks sqls
  unfold load requireLoader
  split
  · exact nothing []
  · cases hl : item.loader with
    | none => exact nothing sqls
    | some l =>
      have asked := fetch_asks hs (knows l hl) (hf l) item
      dsimp only
      rw [Engine.run_bind]
      rcases hr : item.fetch l fetch w with ⟨⟨e | a, item'⟩, w'⟩ <;> rw [hr] at asked <;>
        exact asked

theorem load_runsOne {fetch : LoaderId → Query α}
    (hf : ∀ l w, RunsOne w ((fetch l).run w).2) (item : Item) (facet : Facet α) (w : World) :
    RunsOne w (item.load facet fetch w).2 := by
  unfold load requireLoader
  split
  · exact (Course.refl w : RunsNone w w).one
  · cases item.loader with
    | none => exact (Course.refl w : RunsNone w w).one
    | some l =>
      have ran := fetch_runsOne hf item l w
      dsimp only
      rw [Engine.run_bind]
      rcases hr : item.fetch l fetch w with ⟨⟨e | a, item'⟩, w'⟩ <;> rw [hr] at ran <;> exact ran

end Item

end MetaCatalog
