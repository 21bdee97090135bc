import MetaCatalog.Proofs.Framework.Regrouping

/-!
# Reading which objects there are

The queries for the names of all relations and procedures have no parameters of their
own, so that a value which somebody bound to their statements stays there
(`World.leftBound`). The names that are read are those in the rows that the catalog
answers with then (`Database.listing_of_fetch`), and what comes of them is said by
`Database.loadObjects_cases`.
-/

namespace MetaCatalog

open World

variable {w w' : World} {l : LoaderId} {sql other : String}

/-! ## Values that stay bound -/

/-- The value that the statement of a loader for a query is bound to as its first
parameter. -/
def World.leftBound (w : World) (l : LoaderId) (sql : String) : Option Value :=
  ((w.loader l).statements.lookup sql).bind fun s => (w.statement s).parameters.first?

/-- Nothing is bound to a statement that is new. -/
theorem World.bindsFirst_nil (w : World) (l : LoaderId) (sql : String) :
    w.BindsFirst l sql [] (w.leftBound l sql) := by
  intro handle w' hr
  show (w'.statement handle.statement).parameters.first? = _
  rw [LoaderId.run_prepare] at hr
  unfold leftBound
  split at hr
  · split at hr
    · next found =>
      cases hr
      rw [found]
      rfl
    · next missing =>
      split at hr
      · cases hr
      · cases hr
        rw [missing, statement_prepared, if_pos rfl]
        rfl
  · cases hr

/-- A statement for another query is another statement. -/
theorem World.leftBound_setStatement (hs : w.Sound) {s : StatementId}
    (hf : (sql, s) ∈ (w.loader l).statements) (differ : other ≠ sql) (statement : Statement) :
    (w.setStatement s statement).leftBound l other = w.leftBound l other := by
  unfold leftBound
  rw [loader_setStatement]
  refine Option.bind_congr fun t ht => ?_
  rw [statement_setStatement, if_neg]
  rintro ⟨rfl, -⟩
  exact differ ((hs.filed (mem_of_lookup ht)).2.2.symm.trans (hs.filed hf).2.2)

theorem LoaderId.leftBound_prepare (hs : w.Sound) (differ : other ≠ sql) :
    ((l.prepare sql).run w).2.leftBound l other = w.leftBound l other := by
  rcases prepare_world w l sql with same | prepared
  · rw [same]
  · have lookup : ((w.prepared l sql).loader l).statements.lookup other =
        (w.loader l).statements.lookup other := by
      rw [loader_prepared]
      split
      · rw [List.lookup_cons, beq_false_of_ne differ]
      · rfl
    rw [prepared]
    unfold leftBound
    rw [lookup]
    refine Option.bind_congr fun t ht => ?_
    rw [statement_prepared, if_neg]
    rintro rfl
    exact not_prepares_next w (hs.filed (mem_of_lookup ht)).1

/-- A query leaves the values for another one alone, and its own statement is cached. -/
theorem LoaderId.query_leaves (hs : w.Sound) (hl : w.Inside l) (differ : other ≠ sql)
    (values : List Value) :
    ((l.query sql values).run w).2.leftBound l other = w.leftBound l other ∧
      ∀ handle, ((l.query sql values).run w).1 = .ok handle →
        (sql, handle.statement) ∈ (((l.query sql values).run w).2.loader l).statements := by
  have left := leftBound_prepare (l := l) hs differ
  have reads := prepare_reads w l sql
  have sound := prepare_sound hs l sql
  rcases hp : (l.prepare sql).run w with ⟨e | handle, v⟩ <;> rw [hp] at left reads sound
  · rw [run_query_error hp]
    exact ⟨left, nofun⟩
  · obtain ⟨hh, hf⟩ := prepare_ok hl.knows hp
    have kept (catalog : Catalog) (x : Statement) :
        ((v.setCatalog (v.loader l).connection catalog).setStatement handle.statement x).leftBound
          l other = w.leftBound l other :=
      (leftBound_setStatement (sound.setCatalog _ catalog) hf differ x).trans left
    rw [run_query sound (reads.inside hl) hh hf hp]
    rcases (v.catalogOf l).execute sql _ with ⟨e | rows, catalog⟩
    · exact ⟨kept .., nofun⟩
    · refine ⟨kept .., ?_⟩
      rintro _ ⟨⟩
      exact hf

theorem LoaderId.fold_leaves (hs : w.Sound) (hl : w.Inside l) (differ : other ≠ sql)
    (values : List Value) (step : σ → Row → Except Error σ) (state : σ) :
    let after := ((l.fold sql values step state).run w).2
    w.Reads after ∧ after.Sound ∧ after.leftBound l other = w.leftBound l other := by
  obtain ⟨reads, sound⟩ := query_reads hs hl sql values
  obtain ⟨left, cached⟩ := query_leaves hs hl differ values
  rcases hq : (l.query sql values).run w with ⟨e | handle, v⟩ <;> rw [hq] at reads sound left cached
  · rw [fold, Query.run_bind_error hq]
    exact ⟨reads, sound, left⟩
  · rw [fold, Query.run_bind_ok hq, Handle.run_foldRows]
    exact ⟨reads.trans (reads_setStatement ..), sound.setStatement rfl rfl,
      (leftBound_setStatement sound (cached handle rfl) differ _).trans left⟩

theorem LoaderId.enter_left (he : l.enter.run w = (.ok (), w')) :
    w'.leftBound l sql = w.leftBound l sql := by
  have kept (v : World) : (v.changeDepth l (· + 1)).leftBound l sql = v.leftBound l sql := by
    unfold leftBound changeDepth
    rw [loader_modifyLoader]
    split <;> rfl
  rw [run_enter] at he
  split at he
  · split at he <;> cases he
    exact kept _
  · cases he
    exact kept w

/-! ## Names -/

namespace Row

/-- The row of a relation says that it is a table. -/
def isTable (row : Row) : Bool := (row.value 2).isNull

end Row

namespace Database

theorem readRelation_ok {row : Row} {relation : String × Bool}
    (h : readRelation row = .ok relation) : relation = (row.text 1, row.isTable) := by
  obtain ⟨name, hn, h⟩ := bind_eq_ok h
  obtain ⟨absent, ha, h⟩ := bind_eq_ok h
  cases h
  rw [Row.trimmed_ok hn, Row.isTable, Row.isNull_ok ha]

/-- The rows that the catalog answers with when it is asked for relations and for procedures. -/
structure Listing (w : World) (l : LoaderId) (relations procedures : List Row) : Prop where
  relations : (w.catalogOf l).answer relationsSql (w.leftBound l relationsSql).toList =
    .ok relations
  procedures : (w.catalogOf l).answer proceduresSql (w.leftBound l proceduresSql).toList =
    .ok procedures

/-- The names in rows. -/
def namesIn (relations procedures : List Row) : List (String × Bool) × List String :=
  (relations.map fun row => (row.text 1, row.isTable), procedures.map (·.text 1))

theorem fetchNames_ok (hs : w.Sound) (hl : w.Inside l)
    {names : List (String × Bool) × List String} (hr : (fetchNames l).run w = (.ok names, w')) :
    ∃ relations procedures, Listing w l relations procedures ∧
      names = namesIn relations procedures := by
  have differ : proceduresSql ≠ relationsSql := fun same =>
    absurd (opening_proceduresSql.symm.trans ((congrArg opening same).trans opening_relationsSql))
      (by decide)
  have asked (w : World) (l : LoaderId) (sql : String) :
      w.BindsFirst l sql [] (w.leftBound l sql).toList.head? := by
    rw [Option.head?_toList]
    exact bindsFirst_nil w l sql
  obtain ⟨reads, sound, left⟩ := LoaderId.fold_leaves hs hl differ []
    (fun found row => (readRelation row).map (found ++ [·])) []
  unfold fetchNames at hr
  rcases hq : (l.list relationsSql [] readRelation).run w with ⟨e | found, v⟩
  · rw [Query.run_bind_error hq] at hr
    cases hr
  rw [Query.run_bind_ok hq] at hr
  rcases hp : (l.list proceduresSql [] (Row.trimmed · 1)).run v with ⟨e | others, v'⟩
  · rw [Query.run_bind_error hp] at hr
    cases hr
  rw [Query.run_bind_ok hp] at hr
  cases hr
  rw [show (l.fold relationsSql [] _ []).run w = _ from hq] at reads sound left
  obtain ⟨relations, readRelations, answerRelations⟩ := LoaderId.list_ok (asked ..) hq
  obtain ⟨procedures, readProcedures, answerProcedures⟩ := LoaderId.list_ok (asked ..) hp
  obtain rfl := Row.mapM_ok readRelation_ok readRelations
  obtain rfl := Row.mapM_ok (fun h => (Row.trimmed_ok h).symm) readProcedures
  refine ⟨relations, procedures, ⟨answerRelations hs hl, ?_⟩, rfl⟩
  rw [← left, ← Catalog.answer_script, ← reads.script hl.knows, Catalog.answer_script]
  exact answerProcedures sound (reads.inside hl)

/-- Entering a transaction has no part in what the catalog answers with. -/
theorem Listing.entered {relations procedures : List Row} (h : Listing w' l relations procedures)
    (he : l.enter.run w = (.ok (), w')) : Listing w l relations procedures := by
  have same (sql : String) : (w.catalogOf l).answer sql (w.leftBound l sql).toList =
      (w'.catalogOf l).answer sql (w'.leftBound l sql).toList := by
    rw [LoaderId.enter_left he, ← Catalog.answer_script, ← LoaderId.enter_script he,
      Catalog.answer_script]
  exact ⟨(same _).trans h.relations, (same _).trans h.procedures⟩

/-- What names an item has fetched. -/
theorem listing_of_fetch {item item' : Item} {names : List (String × Bool) × List String}
    (hs : w.Sound) (hl : w.Knows l)
    (hr : item.fetch l fetchNames w = ((.ok names, item'), w')) :
    ∃ relations procedures, Listing w l relations procedures ∧
      names = namesIn relations procedures := by
  obtain ⟨entered, read, he, hq⟩ := Item.fetch_ok hr
  have sound := LoaderId.enter_sound hs l
  rw [he] at sound
  obtain ⟨relations, procedures, listing, rfl⟩ :=
    fetchNames_ok sound (LoaderId.enter_ok hl he).inside hq
  exact ⟨relations, procedures, listing.entered he, rfl⟩

/-- Loading objects fails without a loader, or as the fetch of their names does, or
makes an object for each name. -/
theorem loadObjects_cases (database : Database) (w : World) :
    (database.loader = none ∧ ∃ e, database.loadObjects w = ((.error e, database), w)) ∨
    (∃ l e item w', database.loader = some l ∧
      database.item.fetch l fetchNames w = ((.error e, item), w') ∧
      database.loadObjects w = ((.error e, { database with item }), w')) ∨
    (∃ l names item w', database.loader = some l ∧
      database.item.fetch l fetchNames w = ((.ok names, item), w') ∧
      database.loadObjects w =
        ((.ok (), (withObjects { database with item } l names w').1),
          (withObjects { database with item } l names w').2)) := by
  rw [loadObjects, requireLoader]
  cases database.loader with
  | none => exact .inl ⟨rfl, _, rfl⟩
  | some l =>
    refine .inr ?_
    dsimp only
    rw [Engine.run_bind]
    rcases hf : database.item.fetch l fetchNames w with ⟨⟨e | names, item⟩, w'⟩
    · exact .inl ⟨l, e, item, w', rfl, hf, rfl⟩
    · exact .inr ⟨l, names, item, w', rfl, hf, rfl⟩

end Database

/-! ## Idle loaders -/

/-- Inside a transaction a list is read if each row of the answer can be. -/
theorem Ready.list {sqls : List String} (h : Ready sqls w l) (mem : sql ∈ sqls)
    (count : parameterCount sql = 0) {read : Row → Except Error α}
    (isRead : ∀ row, IsRead (read row)) {rows : List Row} {as : List α}
    (answer : (w.catalogOf l).answer sql [] = .ok rows) (found : rows.mapM read = .ok as) :
    ∃ w', (l.list sql [] read).run w = (.ok as, w') ∧ Ready sqls w' l ∧
      (w'.catalogOf l).script = (w.catalogOf l).script := by
  have none : ([] : List Value).length = parameterCount sql := count.symm
  have fetches : Fetches sqls fun l => l.list sql [] read := .fold [] mem none (IsRead.list isRead)
  have upholds := ((fetches.within l).ensures h.upholds h.inside).upholds
  have result : Found w l ((l.list sql [] read).run w) _ :=
    h.found mem none (.foldRows (fun found row => (read row).map (found ++ [·])) [])
  rcases hr : (l.list sql [] read).run w with ⟨outcome, w'⟩
  rw [hr] at result
  rw [show (l.list sql [] read).run w = _ from hr] at upholds
  have succeeded : outcome = .ok as := by
    refine result.outcome.trans ?_
    show (Catalog.answer _ sql []).bind _ = _
    rw [Catalog.answer_script, answer]
    refine (Statement.foldRows_eq_foldlM ..).trans ?_
    rw [foldlM_append_eq_mapM, found]
    rfl
  exact ⟨w', by rw [succeeded], h.reads upholds result.reads, result.reads.script h.inside.knows⟩

/-- With an idle loader the names of all objects are loaded if each row of the answers
has one. -/
theorem Database.loadObjects_idle {database : Database}
    (h : Idle [relationsSql, proceduresSql] w l) (hl : database.loader = some l)
    {relations procedures : List Row} {found : List (String × Bool)} {others : List String}
    (answerRelations : (w.catalogOf l).answer relationsSql [] = .ok relations)
    (answerProcedures : (w.catalogOf l).answer proceduresSql [] = .ok procedures)
    (readRelations : relations.mapM readRelation = .ok found)
    (readProcedures : procedures.mapM (Row.trimmed · 1) = .ok others) :
    (database.loadObjects w).1.1 = .ok () := by
  obtain ⟨entered, he, ready, script, -⟩ := h.enter
  rw [← Catalog.answer_script, ← script, Catalog.answer_script] at answerRelations answerProcedures
  obtain ⟨v, first, ready', script'⟩ := ready.list List.mem_cons_self count_relations
    IsRead.relation answerRelations readRelations
  rw [← Catalog.answer_script, ← script', Catalog.answer_script] at answerProcedures
  obtain ⟨v', second, -, -⟩ := ready'.list (List.mem_cons_of_mem _ List.mem_cons_self)
    count_procedures (IsRead.trimmed · 1) answerProcedures readProcedures
  have fetched : (fetchNames l).run entered = (.ok (found, others), v') := by
    rw [fetchNames, Query.run_bind_ok first, Query.run_bind_ok second]
    rfl
  have run := database.item.run_fetch l fetchNames w
  rw [he] at run
  have outcome := (database.item.readLocked_outcome (fetchNames l) entered).1
  rw [fetched, ← congrArg (·.1.1) run] at outcome
  obtain ⟨missing, -⟩ | ⟨l', e, item, w', hl', hf, -⟩ | ⟨_, _, _, _, _, _, done⟩ :=
    database.loadObjects_cases w
  · cases missing.symm.trans hl
  · cases hl'.symm.trans hl
    rw [hf] at outcome
    cases outcome
  · rw [done]

end MetaCatalog
