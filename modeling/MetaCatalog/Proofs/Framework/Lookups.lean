import MetaCatalog.Proofs.Framework.Executions
import MetaCatalog.Proofs.Framework.Positions
import MetaCatalog.Proofs.Framework.Regrouping

/-!
# How foreign keys are looked up

A row of the foreign key query either adds a column to the newest key or starts a key,
for which one lookup is run (`Table.gatherForeignKeys_run`). So when foreign keys are
fetched, the journal of the catalog grows by the main query and by one lookup for each
run of rows with one name, in the order of the runs (`Table.fetchForeignKeys_run`).
All of that happens in one transaction (`LoaderId.bracket_counts`).
-/

namespace MetaCatalog

open World

variable {w w' w'' : World} {l : LoaderId}

/-! ## The journal -/

/-- The queries that were run on the connection of a loader; none was run on another. -/
def World.Ran (w : World) (l : LoaderId) (ran : List Execution) (w' : World) : Prop :=
  ∀ c, (w'.catalog c).journal =
    (w.catalog c).journal ++ if c = (w.loader l).connection then ran else []

theorem World.RunsNone.ran (h : w.RunsNone w') : w.Ran l [] w' := by
  intro c
  rw [h c, ite_self, List.append_nil]

theorem World.Ran.trans {ran ran' : List Execution} (h : w.Ran l ran w')
    (same : (w'.loader l).connection = (w.loader l).connection) (h' : w'.Ran l ran' w'') :
    w.Ran l (ran ++ ran') w'' := by
  intro c
  rw [h' c, h c, same]
  split <;> simp

theorem World.Ran.after {ran : List Execution} (h : w.Ran l ran w') (h' : w'.RunsNone w'') :
    w.Ran l ran w'' :=
  fun c => (h' c).trans (h c)

/-- The query was run with the value as its first parameter. -/
structure Execution.Asks (execution : Execution) (sql : String) (value : Value) : Prop where
  sql : execution.sql = sql
  first : execution.parameters.head? = some value

/-- A query that succeeds is in the journal. -/
theorem Catalog.execute_ran {catalog after : Catalog} {sql : String} {parameters : Parameters}
    {rows : List Row} (h : catalog.execute sql parameters = (.ok rows, after)) :
    after.journal = catalog.journal ++ [⟨sql, parameters.values⟩] := by
  unfold execute at h
  split at h
  · dsimp only at h
    split at h <;> cases h
    rfl
  · cases h

section Queries

variable {sql : String} {value : Value} {values : List Value}

theorem LoaderId.query_ran {handle : Handle} (hw : positions.Upholds w) (hl : w.Inside l)
    (hr : (l.query sql (value :: values)).run w = (.ok handle, w')) :
    ∃ execution : Execution, w.Ran l [execution] w' ∧ execution.Asks sql value := by
  have reads := LoaderId.prepare_reads w l sql
  have sound := LoaderId.prepare_sound hw.sound l sql
  have counted := Counted.prepare hw.holds l sql
  have silent := LoaderId.prepare_journal w l sql
  rcases hp : (l.prepare sql).run w with ⟨e | h, v⟩ <;> rw [hp] at reads sound counted silent
  · rw [LoaderId.run_query_error hp] at hr
    cases hr
  · obtain ⟨hh, hf⟩ := LoaderId.prepare_ok hl.knows hp
    rw [LoaderId.run_query sound (reads.inside hl) hh hf hp] at hr
    rcases he : (v.catalogOf l).execute sql
      ((v.statement h.statement).bound 1 (value :: values)).parameters with ⟨e | rows, after⟩ <;>
      rw [he] at hr
    · cases hr
    · cases hr
      refine ⟨⟨sql, _⟩, fun c => ?_, rfl,
        Statement.bound_head (counted handle.statement) value values⟩
      show (((v.setCatalog (v.loader l).connection after).catalog c)).journal = _
      rw [catalog_setCatalogOf sound (reads.inside hl).knows, reads.connection l hl.knows,
        ← silent c]
      by_cases hc : (w.loader l).connection = c
      · rw [if_pos hc, if_pos hc.symm, Catalog.execute_ran he, ← hc,
          ← reads.connection l hl.knows]
        rfl
      · rw [if_neg hc, if_neg (Ne.symm hc), List.append_nil]

theorem LoaderId.fold_ran {step : σ → Row → Except Error σ} {state result : σ}
    (hw : positions.Upholds w) (hl : w.Inside l)
    (hr : (l.fold sql (value :: values) step state).run w = (.ok result, w')) :
    ∃ execution : Execution, w.Ran l [execution] w' ∧ execution.Asks sql value := by
  rcases hq : (l.query sql (value :: values)).run w with ⟨e | handle, after⟩
  · rw [fold, Query.run_bind_error hq] at hr
    cases hr
  · rw [fold, Query.run_bind_ok hq, Handle.run_foldRows] at hr
    obtain rfl := congrArg Prod.snd hr
    obtain ⟨execution, ran, asks⟩ := query_ran hw hl hq
    exact ⟨execution, ran, asks⟩

end Queries

/-! ## One transaction -/

/-- What a load does to the transactions of all connections: one is started and
committed on the connection of the loader, unless the loader is in use already. -/
def World.UsesTransaction (w : World) (l : LoaderId) (w' : World) : Prop :=
  ∀ c, (w'.catalog c).ledger =
    if (w.loader l).connection = c ∧ (w.loader l).depth = 0 then
      { (w.catalog c).ledger with
        started := (w.catalog c).started + 1, commits := (w.catalog c).commits + 1 }
    else (w.catalog c).ledger

theorem LoaderId.bracket_counts (hs : w.Sound) (hl : w.Knows l)
    (he : l.enter.run w = (.ok (), w')) (sound : w''.Sound) (reads : w'.Reads w'') :
    w.UsesTransaction l (l.leave w'').2 := by
  have entered := enter_ok hl he
  have inside : w''.Inside l := reads.inside entered.inside
  intro c
  by_cases hd : (w.loader l).depth = 0
  · obtain ⟨idle, started⟩ := enter_first hs hl he hd
    have connection : (w''.loader l).connection = (w.loader l).connection :=
      (reads.connection l entered.inside.knows).trans (entered.connection l hl)
    have last : (w''.loader l).depth = 1 := by
      rw [reads.depth, entered.depth, if_pos rfl, hd]
    have begun : (w''.catalogOf l).ledger = _ :=
      (reads.ledger (w''.loader l).connection).trans (congrArg Catalog.ledger (started _))
    rw [if_pos connection.symm] at begun
    have active : (w''.catalogOf l).inTransaction = true := congrArg Ledger.inTransaction begun
    rw [leave_last sound inside.knows last active, connection]
    by_cases hc : (w.loader l).connection = c
    · rw [if_pos hc, if_pos ⟨hc, hd⟩, ← hc]
      simp only [Catalog.ledger, Ledger.mk.injEq] at begun ⊢
      obtain ⟨-, began, committed, undone⟩ := begun
      exact ⟨idle.symm, began, congrArg (· + 1) committed, undone⟩
    · rw [if_neg hc, if_neg fun hn => hc hn.1, reads.ledger, started, if_neg hc]
  · rw [if_neg fun hn => hd hn.2]
    rw [run_enter, if_neg hd] at he
    cases he
    exact (Inside.nested (Nat.pos_of_ne_zero hd) reads).ledger c

/-! ## Gathering keys -/

namespace ForeignKey

/-- The key refers to what one lookup finds for the constraint that the first row of a
run names. -/
def Refers (catalog : Catalog) (key : ForeignKey) (run : List Row) : Prop :=
  ∃ first ∈ run.head?,
    catalog.referenced (first.text 5) = .ok (key.referencedTable, key.referencedColumns)

end ForeignKey

/-- The query looks up the constraint that the first row of a run names. -/
def Execution.LooksUp (execution : Execution) (run : List Row) : Prop :=
  ∃ first ∈ run.head?, execution.Asks Table.referencedKeySql (.text (first.text 5))

/-- What a key of a table, with the query that looked up what it refers to, has to do with a
run of rows. -/
structure ForeignKey.Looked (catalog : Catalog) (table : String) (asked : ForeignKey × Execution)
    (run : List Row) : Prop where
  table : asked.1.table = table
  made : asked.1.MadeOf run
  refers : asked.1.Refers catalog run
  asks : asked.2.LooksUp run

theorem ForeignKey.Looked.extend {catalog : Catalog} {table : String} {key : ForeignKey}
    {execution : Execution} {run : List Row} {row : Row}
    (h : Looked catalog table (key, execution) run) (same : key.name = row.name) :
    Looked catalog table ({ key with columns := key.columns ++ [row.text 2] }, execution)
      (run ++ [row]) := by
  obtain ⟨belongs, made, ⟨first, hf, refers⟩, ⟨asker, ha, asks⟩⟩ := h
  exact ⟨belongs, made.extend same, ⟨first, List.mem_head?_append_of_mem_head? hf, refers⟩,
    ⟨asker, List.mem_head?_append_of_mem_head? ha, asks⟩⟩

/-- A run of rows and what is looked up for it say all about a key. -/
theorem ForeignKey.Looked.unique {catalog : Catalog} {table : String} {key key' : ForeignKey}
    {execution execution' : Execution} {run : List Row}
    (h : Looked catalog table (key, execution) run)
    (h' : Looked catalog table (key', execution') run) : key = key' := by
  obtain ⟨first, hf, refers⟩ := h.refers
  obtain ⟨_, hf', refers'⟩ := h'.refers
  cases Option.mem_unique hf hf'
  obtain ⟨found, columns⟩ := Prod.mk.inj (Except.ok.inj (refers.symm.trans refers'))
  exact h.made.unique h'.made (h.table.trans h'.table.symm) found columns

/-- Rows describe keys if the catalog has what each of them refers to. -/
theorem Catalog.keysOfRows_ok {catalog : Catalog} {table : String} {rows : List ForeignKeyRow}
    (looked : ∀ row ∈ rows, ∃ referenced,
      catalog.referenced row.uniqueConstraint = .ok referenced) :
    ∃ keys, catalog.keysOfRows table rows = .ok keys := by
  fun_induction keysOfRows catalog table rows with
  | case1 => exact ⟨[], rfl⟩
  | case2 row rest ih =>
    obtain ⟨first, others⟩ := List.forall_mem_cons.mp looked
    obtain ⟨referenced, found⟩ := first
    obtain ⟨later, gathered⟩ := ih fun row hr => others row ((List.dropWhile_sublist _).mem hr)
    rw [found, gathered]
    exact ⟨_, rfl⟩

theorem Catalog.foreignKeys_ok {catalog : Catalog} {table : String} {rows : List Row}
    {said : List ForeignKeyRow}
    (answer : catalog.answer Table.foreignKeySql [.text table] = .ok rows)
    (read : rows.mapM ForeignKeyRow.read = .ok said)
    (looked : ∀ row ∈ said, ∃ referenced,
      catalog.referenced row.uniqueConstraint = .ok referenced) :
    ∃ keys, catalog.foreignKeys table = .ok keys := by
  rw [foreignKeys, answer]
  show ∃ keys, (rows.mapM ForeignKeyRow.read >>= catalog.keysOfRows table) = .ok keys
  rw [read]
  exact keysOfRows_ok looked

namespace Table

/-- What every row of the foreign key query keeps, all of them keep. A row with the
name of the newest key adds a column to it; any other starts a key with what was looked
up for it. -/
theorem gatherForeignKeys_run {table : String} {I : World → List ForeignKey → List Row → Prop}
    (extend : ∀ {w key older seen row}, key.name = row.name → I w (key :: older) seen →
      I w ({ key with columns := key.columns ++ [row.text 2] } :: older) (seen ++ [row]))
    (start : ∀ {w w' keys seen row referenced}, (∀ key ∈ keys.head?, key.name ≠ row.name) →
      I w keys seen → (fetchReferenced l (row.text 5)).run w = (.ok referenced, w') →
      I w' (row.foreignKey.toKey table referenced :: keys) (seen ++ [row]))
    {keys found : List ForeignKey} {seen rest : List Row} (h : I w keys seen)
    (hr : (gatherForeignKeys table l keys (rest.map Row.foreignKey)).run w = (.ok found, w')) :
    I w' found (seen ++ rest) := by
  induction rest generalizing w keys seen with
  | nil =>
    have done : (keys, w) = (found, w') := by
      cases keys <;> (rw [List.map_nil, gatherForeignKeys] at hr; cases hr; rfl)
    cases done
    rw [List.append_nil]
    exact h
  | cons row rest ih =>
    have looked {keys : List ForeignKey} (other : ∀ key ∈ keys.head?, key.name ≠ row.name)
        (h : I w keys seen)
        (hr : (do
          let referenced ← fetchReferenced l (row.text 5)
          gatherForeignKeys table l (row.foreignKey.toKey table referenced :: keys)
            (rest.map Row.foreignKey) : Query _).run w = (.ok found, w')) :
        I w' found (seen ++ [row] ++ rest) := by
      rcases hq : (fetchReferenced l (row.text 5)).run w with ⟨e | referenced, after⟩
      · rw [Query.run_bind_error hq] at hr
        cases hr
      · rw [Query.run_bind_ok hq] at hr
        exact ih (start other h hq) hr
    rw [List.append_cons]
    cases keys with
    | nil =>
      have none : ∀ key ∈ ([] : List ForeignKey).head?, key.name ≠ row.name :=
        fun key first => absurd first (Option.not_mem_none key)
      exact looked none h hr
    | cons key older =>
      rw [List.map_cons, gatherForeignKeys] at hr
      split at hr
      · next same => exact ih (extend same h) hr
      · next differ =>
        refine looked (fun newest first => ?_) h hr
        cases first
        exact differ

/-- Fetching foreign keys reads their rows, and then gathers the keys. -/
theorem fetchForeignKeys_ok {item : Item} {keys : List ForeignKey}
    (hr : (fetchForeignKeys item l).run w = (.ok keys, w')) :
    ∃ rows found read, keys = found.reverse ∧
      (l.list foreignKeySql [.text item.name.raw] ForeignKeyRow.read).run w =
        (.ok (rows.map Row.foreignKey), read) ∧
      (gatherForeignKeys item.name.raw l [] (rows.map Row.foreignKey)).run read =
        (.ok found, w') ∧
      (w.Sound → w.Inside l →
        (w.catalogOf l).answer foreignKeySql [.text item.name.raw] = .ok rows) := by
  unfold fetchForeignKeys at hr
  rcases hq : (l.list foreignKeySql [.text item.name.raw] ForeignKeyRow.read).run w with
    ⟨e | said, read⟩
  · rw [Query.run_bind_error hq] at hr
    cases hr
  rw [Query.run_bind_ok hq] at hr
  obtain ⟨rows, mapped, answer⟩ := LoaderId.list_ok (bindsFirst_cons ..) hq
  obtain rfl := Row.mapM_ok ForeignKeyRow.read_ok mapped
  rcases hg : (gatherForeignKeys item.name.raw l [] (rows.map Row.foreignKey)).run read with
    ⟨e | found, gathered⟩
  · rw [Query.run_bind_error hg] at hr
    cases hr
  rw [Query.run_bind_ok hg] at hr
  cases hr
  exact ⟨rows, found, read, rfl, rfl, hg, answer⟩

/-- In any world a key is made of each run of rows. -/
theorem fetchForeignKeys_regroups (item : Item) :
    Regroups (fetchForeignKeys item) foreignKeySql [.text item.name.raw] ForeignKey.MadeOf
      Row.name := by
  intro l w keys w' hr
  obtain ⟨rows, found, read, rfl, -, hg, answer⟩ := fetchForeignKeys_ok hr
  have newest : List.Forall₂ ForeignKey.MadeOf found (runsBy Row.name ([] ++ rows)).reverse :=
    gatherForeignKeys_run
      (I := fun _ keys seen => List.Forall₂ ForeignKey.MadeOf keys (runsBy Row.name seen).reverse)
      (fun same made => newest_extend made
        (fun _ made row hrow => (made.name row hrow).trans same) fun _ made => made.extend same)
      (fun other made _ => newest_start made
        (fun key first run made row hrow same =>
          other key first ((made.name row hrow).symm.trans same)) (ForeignKey.MadeOf.start ..))
      .nil hg
  refine ⟨rows, ?_, answer⟩
  rw [← List.reverse_reverse (runsBy _ rows)]
  exact List.forall₂_reverse_iff.mpr newest

/-- How far the keys have been gathered: the rows that were seen, the keys that they gave,
newest first, and the lookups that were run on the way. -/
structure Gathered (l : LoaderId) (script : Catalog) (table : String) (before w : World)
    (keys : List ForeignKey) (seen : List Row) : Prop where
  stands : Stands positions l script w
  connection : (w.loader l).connection = (before.loader l).connection
  looked : ∃ asked : List (ForeignKey × Execution), asked.map Prod.fst = keys ∧
    before.Ran l (asked.map Prod.snd).reverse w ∧
    List.Forall₂ (ForeignKey.Looked script table) asked (runsBy Row.name seen).reverse

variable {script : Catalog} {table : String} {before : World}

theorem Gathered.extend {key : ForeignKey} {older : List ForeignKey} {seen : List Row}
    {row : Row} (same : key.name = row.name)
    (h : Gathered l script table before w (key :: older) seen) :
    Gathered l script table before w ({ key with columns := key.columns ++ [row.text 2] } :: older)
      (seen ++ [row]) := by
  obtain ⟨asked, keys, ran, looked⟩ := h.looked
  obtain ⟨⟨_, execution⟩, others, rfl, rfl, rfl⟩ := List.map_eq_cons_iff.mp keys
  refine ⟨h.stands, h.connection, (_, execution) :: others, rfl, ran, ?_⟩
  exact newest_extend looked (fun _ looked row hrow => (looked.made.name row hrow).trans same)
    fun _ looked => looked.extend same

/-- A key takes one lookup. -/
theorem Gathered.start {keys : List ForeignKey} {seen : List Row} {row : Row}
    {referenced : String × List String} (other : ∀ key ∈ keys.head?, key.name ≠ row.name)
    (h : Gathered l script table before w keys seen)
    (hr : (fetchReferenced l (row.text 5)).run w = (.ok referenced, w')) :
    Gathered l script table before w' (row.foreignKey.toKey table referenced :: keys)
      (seen ++ [row]) := by
  have tells : Tells positions l script (fetchReferenced l (row.text 5))
    (script.referenced (row.text 5)) := fetchReferenced_tells (row.text 5)
  have upholds := tells.upholds h.stands
  have reads := tells.reads h.stands
  have agrees := tells.agrees h.stands
  rw [hr] at upholds reads agrees
  obtain ⟨execution, ran, asks⟩ := LoaderId.fold_ran h.stands.upholds h.stands.inside hr
  obtain ⟨asked, rfl, lookups, looked⟩ := h.looked
  refine ⟨h.stands.reads upholds reads,
    (reads.connection l h.stands.inside.knows).trans h.connection,
    (_, execution) :: asked, rfl, ?_, ?_⟩
  · rw [List.map_cons, List.reverse_cons]
    exact lookups.trans h.connection ran
  · refine newest_start looked (fun newest first run looked last hl same => ?_)
      ⟨rfl, .start .., ⟨row, rfl, agrees.ok rfl⟩, row, rfl, asks⟩
    refine other newest.1 ?_ ((looked.made.name last hl).symm.trans same)
    rw [List.head?_map]
    exact Option.mem_map_of_mem _ first

/-- What comes of fetching foreign keys: one key for each run of rows with one name, and
one lookup for each key, in that order, after the query for the rows. -/
structure Lookups (catalog : Catalog) (table : String) (rows : List Row)
    (main : Execution) (asked : List (ForeignKey × Execution)) : Prop where
  answer : catalog.answer foreignKeySql [.text table] = .ok rows
  main : main.Asks foreignKeySql (.text table)
  looked : List.Forall₂ (ForeignKey.Looked catalog table) asked (runsBy Row.name rows)

/-- Only the script of a catalog decides what is found in it. -/
theorem Lookups.ofScript {catalog : Catalog} {rows : List Row} {main : Execution}
    {asked : List (ForeignKey × Execution)} (h : Lookups catalog.script table rows main asked) :
    Lookups catalog table rows main asked :=
  ⟨h.answer, h.main,
    h.looked.imp fun _ _ looked => ⟨looked.table, looked.made, looked.refers, looked.asks⟩⟩

theorem fetchForeignKeys_run {item : Item} {keys : List ForeignKey}
    (h : Stands positions l script w) (hr : (fetchForeignKeys item l).run w = (.ok keys, w')) :
    ∃ rows main asked, Lookups script item.name.raw rows main asked ∧
      keys = asked.map Prod.fst ∧ w.Ran l (main :: asked.map Prod.snd) w' := by
  obtain ⟨rows, found, read, rfl, hq, hg, answer⟩ := fetchForeignKeys_ok hr
  have listed : Tells positions l script
      (l.list foreignKeySql [.text item.name.raw] ForeignKeyRow.read) _ :=
    .list (by simp [linkSqls]) AboutName.foreignKeys.count.symm IsRead.foreignKeyRow
  have upholds := listed.upholds h
  have reads := listed.reads h
  rw [hq] at upholds reads
  obtain ⟨main, ran, asks⟩ := LoaderId.fold_ran h.upholds h.inside hq
  have begun : Gathered l script item.name.raw read read [] [] :=
    ⟨h.reads upholds reads, rfl, [], rfl, RunsNone.ran (Course.refl read), .nil⟩
  obtain ⟨-, -, asked, rfl, lookups, looked⟩ :
      Gathered l script item.name.raw read w' found ([] ++ rows) :=
    gatherForeignKeys_run Gathered.extend Gathered.start begun hg
  refine ⟨rows, main, asked.reverse, ⟨?_, asks, ?_⟩, List.map_reverse.symm, ?_⟩
  · rw [← h.script, Catalog.answer_script]
    exact answer h.upholds.sound h.inside
  · rw [← List.reverse_reverse (runsBy _ rows)]
    exact List.forall₂_reverse_iff.mpr looked
  · rw [List.map_reverse]
    exact ran.trans (reads.connection l h.inside.knows) lookups

/-- What loading foreign keys finds. -/
structure LoadedKeys (w : World) (table : String) (loaded : Facet (List ForeignKey))
    (after : World) (l : LoaderId) (rows : List Row) (main : Execution)
    (asked : List (ForeignKey × Execution)) : Prop where
  lookups : Lookups (w.catalogOf l) table rows main asked
  loaded : loaded = .loaded (asked.map Prod.fst)
  ran : w.Ran l (main :: asked.map Prod.snd) after
  transaction : w.UsesTransaction l after

theorem load_lookups {item : Item} {facet : Facet (List ForeignKey)} (hu : positions.Upholds w)
    (knows : ∀ l, item.loader = some l → w.Knows l) (absent : facet.isLoaded = false)
    (ok : (item.load facet (fetchForeignKeys item) w).1.outcome = .ok ()) :
    ∃ l rows main asked, item.loader = some l ∧
      LoadedKeys w item.name.raw (item.load facet (fetchForeignKeys item) w).1.facet
        (item.load facet (fetchForeignKeys item) w).2 l rows main asked := by
  obtain ⟨there, -⟩ | ⟨-, -, e, failed⟩ |
    ⟨-, l, entered, keys, read, hl, he, hr, -, loaded, after⟩ :=
    item.load_cases facet (fetchForeignKeys item) w
  · rw [absent] at there
    cases there
  · rw [failed] at ok
    cases ok
  obtain ⟨upholds, inside, -⟩ := positions.bracket hu (knows l hl) he
  have stands : Stands positions l (w.catalogOf l).script entered :=
    ⟨upholds, inside, LoaderId.enter_script he⟩
  obtain ⟨rows, main, asked, lookups, rfl, ran⟩ := fetchForeignKeys_run stands hr
  have grows := (LoaderId.enter_ok (knows l hl) he).toGrows
  have fetched : Tells positions l (w.catalogOf l).script (fetchForeignKeys item l) _ :=
    fetchForeignKeys_tells item
  have reads := (fetched.reads stands).trans (item.readLocked_reads _ entered)
  have fits : positions.Fits entered item :=
    ⟨fun k hk => grows.knows k (knows k hk), fun _ _ => trivial⟩
  have sound := (Discipline.readLocked_ensures upholds inside fits
    ((Fetches.foreignKeys item).within l)).upholds.sound
  refine ⟨l, rows, main, asked, hl, lookups.ofScript, loaded, ?_, ?_⟩
  · have entering := enter_runsNone l w
    rw [he] at entering
    have leaving :
        read.RunsNone (l.leave (item.readLocked (fetchForeignKeys item l) entered).2).2 := by
      intro c
      rw [LoaderId.leave_journal, (item.readLocked_outcome _ entered).2, hr]
    rw [after]
    exact (entering.ran.trans (grows.connection l (knows l hl)) ran).after leaving
  · rw [after]
    exact LoaderId.bracket_counts hu.sound (knows l hl) he sound reads

/-- With an idle loader keys are loaded if the catalog describes some. -/
theorem load_idle {table : Table} (h : Idle linkSqls w l) (hl : table.item.loader = some l)
    (absent : table.foreignKeys.isLoaded = false) {keys : List ForeignKey}
    (described : (w.catalogOf l).foreignKeys table.name.raw = .ok keys) :
    (table.loadForeignKeys w).1.1 = .ok () := by
  obtain ⟨entered, he, ready, script, -⟩ := h.enter
  have tells : Tells (tidiness l) l (w.catalogOf l).script (fetchForeignKeys table.item l) _ :=
    fetchForeignKeys_tells table.item
  have found := (tells.agrees ⟨ready.upholds, ready.inside, script⟩).error ⟨rfl, h.prepares⟩
  rw [Catalog.foreignKeys_script] at found
  have outcome : (table.loadForeignKeys w).1.1 = _ :=
    (table.item.run_load (fetchForeignKeys table.item) hl absent he).1
  rw [outcome, found]
  exact congrArg (Except.map fun _ => ()) described

end Table

end MetaCatalog
