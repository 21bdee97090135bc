import MetaCatalog.Proofs.Framework.Answers
import MetaCatalog.Proofs.Rows.Readers

/-!
# The foreign keys that a catalog describes

The foreign keys of a table and its dependents as functions of a catalog's script
(`Catalog.foreignKeys`, `Catalog.dependents`), and that fetching them gives just
that. A fetch in the transaction of its loader that succeeds gives what the script
says, whatever the statements were used for before. An error is as the script says
if the cache is tidy and no text is refused. `Tells` is both, and passes through
sequences and nested transactions.
-/

namespace MetaCatalog

open World

namespace Catalog

/-- What comes of a query whose rows are read one after the other. -/
def readRows (catalog : Catalog) (sql : String) (values : List Value)
    (step : σ → Row → Except Error σ) (state : σ) : Except Error σ := do
  (← catalog.answer sql values).foldlM step state

/-- The table and the columns of a constraint that a foreign key refers to. Each row that the
catalog answers with has two columns and gives one column of the constraint; the last row gives
the table. -/
def referenced (catalog : Catalog) (constraint : String) : Except Error (String × List String) := do
  let rows ← catalog.answer Table.referencedKeySql [.text constraint]
  rows.forM (·.checkWidth 2)
  pure (rows.getLast?.elim "" (·.text 1), rows.map (·.text 2))

/-- The keys that rows describe. Each run of rows with one name is a key, and every
row of it gives a column. -/
def keysOfRows (catalog : Catalog) (table : String) :
    List ForeignKeyRow → Except Error (List ForeignKey)
  | [] => pure []
  | row :: rest => do
    let referenced ← catalog.referenced row.uniqueConstraint
    let run := row :: rest.takeWhile (·.name == row.name)
    let key := { row.toKey table referenced with columns := run.map (·.column) }
    pure (key :: (← catalog.keysOfRows table (rest.dropWhile (·.name == row.name))))
termination_by rows => rows.length
decreasing_by exact Nat.lt_succ_of_le (List.dropWhile_sublist _).length_le

/-- The foreign keys of a table. -/
def foreignKeys (catalog : Catalog) (table : String) : Except Error (List ForeignKey) := do
  let rows ← (← catalog.answer Table.foreignKeySql [.text table]).mapM ForeignKeyRow.read
  catalog.keysOfRows table rows

theorem keysOfRows_script (catalog : Catalog) (table : String) (rows : List ForeignKeyRow) :
    catalog.script.keysOfRows table rows = catalog.keysOfRows table rows := by
  fun_induction keysOfRows catalog table rows with
  | case1 => rw [keysOfRows]
  | case2 row rest ih =>
    simp only [keysOfRows, ih]
    rfl

theorem foreignKeys_script (catalog : Catalog) (table : String) :
    catalog.script.foreignKeys table = catalog.foreignKeys table := by
  simp only [foreignKeys, keysOfRows_script, answer_script]

/-- What depends on a table. -/
def dependents (catalog : Catalog) (table : String) : Except Error (List Dependency) :=
  catalog.readRows Dependency.dependentsSql [.text table, .int64 0] Dependency.step []

end Catalog

/-- The queries for foreign keys and for dependents. -/
def linkSqls : List String :=
  [Table.foreignKeySql, Table.referencedKeySql, Dependency.dependentsSql]

/-! ## Reading rows -/

/-- Rows that are read on their own are put together in their order. -/
theorem foldlM_append_eq_mapM (read : Row → Except Error α) (before : List α) (rows : List Row) :
    rows.foldlM (fun values row => (read row).map (values ++ [·])) before =
      (rows.mapM read).map (before ++ ·) := by
  induction rows generalizing before with
  | nil => exact congrArg Except.ok (List.append_nil before).symm
  | cons row rest ih =>
    rw [List.foldlM_cons, List.mapM_cons]
    cases read row with
    | error e => rfl
    | ok value =>
      refine (ih (before ++ [value])).trans ?_
      show (rest.mapM read).map (before ++ [value] ++ ·) =
        (do Pure.pure (value :: (← rest.mapM read)) : Except Error (List α)).map (before ++ ·)
      cases rest.mapM read with
      | error e => rfl
      | ok values => exact congrArg Except.ok (List.append_assoc ..)

theorem referencedStep_eq (found : String × List String) (row : Row) :
    referencedStep found row =
      (row.checkWidth 2).map fun _ => (row.text 1, found.2 ++ [row.text 2]) := by
  match row with
  | [] | [_] | _ :: _ :: _ => rfl

/-- By induction on the rows: the table is that of the last one so far. -/
theorem foldlM_referencedStep (rows : List Row) (table : String) (columns : List String) :
    rows.foldlM referencedStep (table, columns) = (rows.forM (·.checkWidth 2)).map fun _ =>
      (rows.getLast?.elim table (·.text 1), columns ++ rows.map (·.text 2)) := by
  induction rows generalizing table columns with
  | nil => exact congrArg (fun columns => Except.ok (table, columns)) (List.append_nil _).symm
  | cons row rest ih =>
    rw [List.foldlM_cons, referencedStep_eq, List.forM]
    cases row.checkWidth 2 with
    | error e => rfl
    | ok wide =>
      refine (ih (row.text 1) (columns ++ [row.text 2])).trans ?_
      have last : rest.getLast?.elim (row.text 1) (·.text 1) =
          (row :: rest).getLast?.elim table (·.text 1) := by
        rw [List.getLast?_cons]
        cases rest.getLast? <;> rfl
      rw [last, List.append_assoc]
      rfl

theorem Catalog.readRows_referenced (catalog : Catalog) (constraint : String) :
    catalog.readRows Table.referencedKeySql [.text constraint] referencedStep ("", []) =
      catalog.referenced constraint := by
  unfold readRows referenced
  cases catalog.answer Table.referencedKeySql [.text constraint] with
  | error e => rfl
  | ok rows =>
    refine (foldlM_referencedStep rows "" []).trans ?_
    show _ = (rows.forM (·.checkWidth 2) >>= fun _ => Except.ok _)
    cases rows.forM (·.checkWidth 2) <;> rfl

/-! ## Queries -/

namespace Parameters

theorem lookup_insert_of_ne {p q : Nat} (h : q ≠ p) (value : Value) (entries : List (Nat × Value)) :
    (insert q value entries).lookup p = entries.lookup p := by
  have other : (p == q) = false := beq_false_of_ne h.symm
  induction entries with
  | nil => simp [insert, List.lookup_cons, other]
  | cons entry rest ih =>
    obtain ⟨k, v⟩ := entry
    rw [insert]
    split
    · simp [List.lookup_cons, other]
    · split
      · next hk => simp [List.lookup_cons, ← hk, other]
      · simp [List.lookup_cons, ih]

theorem lookup_insert_self (p : Nat) (value : Value) (entries : List (Nat × Value)) :
    (insert p value entries).lookup p = some value := by
  induction entries with
  | nil => simp [insert]
  | cons entry rest ih =>
    obtain ⟨k, v⟩ := entry
    rw [insert]
    split
    · simp
    · split
      · simp
      · next hk => rw [List.lookup_cons, beq_false_of_ne hk, ih]

/-- Later positions leave the first alone. -/
theorem lookup_insertFrom {p q : Nat} (h : p < q) (values : List Value)
    (entries : List (Nat × Value)) : (insertFrom q values entries).lookup p = entries.lookup p := by
  induction values generalizing q entries with
  | nil => rfl
  | cons value rest ih =>
    rw [insertFrom, ih (Nat.lt_succ_of_lt h), lookup_insert_of_ne (Nat.ne_of_gt h)]

end Parameters

/-- Whatever a statement was bound to before, the first value counts. -/
theorem Statement.bound_cons_first (statement : Statement) (value : Value) (values : List Value) :
    (statement.bound 1 (value :: values)).parameters.first? = some value := by
  show (Parameters.insertFrom 2 values (Parameters.insert 1 value _)).lookup 1 = some value
  rw [Parameters.lookup_insertFrom (Nat.lt_succ_self 1), Parameters.lookup_insert_self]

/-- A query that succeeds gives the answer of the catalog. -/
theorem Catalog.execute_ok {catalog after : Catalog} {sql : String} {parameters : Parameters}
    {rows : List Row} (h : catalog.execute sql parameters = (.ok rows, after))
    (hc : catalog.connected = true) {values : List Value}
    (hv : parameters.first? = values.head?) : catalog.answer sql values = .ok rows := by
  rw [Catalog.execute] at h
  rw [Catalog.answer, if_pos hc]
  by_cases active : catalog.inTransaction = true
  · rw [if_pos active] at h
    dsimp only at h
    cases hr : refusal? catalog.executeRefusals sql with
    | some reason =>
      rw [hr] at h
      cases h
    | none =>
      rw [hr] at h
      cases h
      rw [← hv]
      rfl
  · rw [if_neg active] at h
    cases h

/-- Whatever statement a query with the given values is run with, that is the value which
it has as its first parameter then. -/
def World.BindsFirst (w : World) (l : LoaderId) (sql : String) (values : List Value)
    (first : Option Value) : Prop :=
  ∀ ⦃handle w'⦄, (l.prepare sql).run w = (.ok handle, w') →
    ((w'.statement handle.statement).bound 1 values).parameters.first? = first

theorem World.bindsFirst_cons (w : World) (l : LoaderId) (sql : String) (value : Value)
    (values : List Value) : w.BindsFirst l sql (value :: values) (value :: values).head? :=
  fun _ _ _ => Statement.bound_cons_first ..

theorem LoaderId.query_answer {w w' : World} {l : LoaderId} {sql : String}
    {values asked : List Value} {handle : Handle} (hs : w.Sound) (hl : w.Inside l)
    (first : w.BindsFirst l sql values asked.head?)
    (hr : (l.query sql values).run w = (.ok handle, w')) :
    (w.catalogOf l).answer sql asked = .ok (w'.statement handle.statement).rows := by
  have reads := LoaderId.prepare_reads w l sql
  have sound := LoaderId.prepare_sound hs l sql
  rcases hp : (l.prepare sql).run w with ⟨e | h, v⟩ <;> rw [hp] at reads sound
  · rw [LoaderId.run_query_error hp] at hr
    cases hr
  · obtain ⟨hh, hf⟩ := LoaderId.prepare_ok hl.knows hp
    have script := reads.script hl.knows
    have connected : (v.catalogOf l).connected = true := by
      refine (congrArg Catalog.connected script).trans ?_
      rw [LoaderId.run_prepare] at hp
      split at hp
      · next hc => exact hc
      · cases hp
    rw [LoaderId.run_query sound (reads.inside hl) hh hf hp] at hr
    rcases he : (v.catalogOf l).execute sql
      ((v.statement h.statement).bound 1 values).parameters with ⟨e | rows, after⟩ <;>
      rw [he] at hr
    · cases hr
    · cases hr
      rw [← Catalog.answer_script, ← script, Catalog.answer_script,
        Catalog.execute_ok he connected (first hp),
        statement_setStatement_self ((prepares_setCatalog ..).mpr (sound.filed hf).1)]
      rfl

/-! ## What the script says -/

/-- The outcome of a computation against the expected one. What comes of it is what
is expected, and if everything is in order then an error is so too. -/
structure Agrees (orderly : Prop) (outcome expected : Except Error α) : Prop where
  ok {a : α} : outcome = .ok a → expected = .ok a
  error : orderly → outcome = expected

namespace Agrees

variable {orderly : Prop} {outcome expected : Except Error α}

theorem refl (outcome : Except Error α) : Agrees orderly outcome outcome := ⟨id, fun _ => rfl⟩

theorem map (h : Agrees orderly outcome expected) (f : α → β) :
    Agrees orderly (outcome.map f) (expected.map f) := by
  refine ⟨fun ha => ?_, fun ho => congrArg (Except.map f) (h.error ho)⟩
  cases outcome with
  | error e => cases ha
  | ok a => exact (congrArg (Except.map f) (h.ok rfl)).trans ha

end Agrees

/-- Someone takes part in the transaction of a loader, and the catalog has the given
script. -/
structure Stands (D : Discipline) (l : LoaderId) (script : Catalog) (w : World) : Prop where
  upholds : D.Upholds w
  inside : w.Inside l
  script : (w.catalogOf l).script = script

/-- Nothing but the script decides how queries end: the cache is tidy, and preparing
is not refused. -/
def Discipline.Orderly (D : Discipline) (l : LoaderId) (script : Catalog) : Prop :=
  D = tidiness l ∧ ∀ sql ∈ linkSqls, Catalog.refusal? script.prepareRefusals sql = none

section Tells

variable {D : Discipline} {l : LoaderId} {script : Catalog} {w w' : World}

theorem Stands.reads (h : Stands D l script w) (hu : D.Upholds w') (hr : w.Reads w') :
    Stands D l script w' :=
  ⟨hu, hr.inside h.inside, (hr.script h.inside.knows).trans h.script⟩

theorem Stands.ready (h : Stands D l script w) (ho : D.Orderly l script) :
    Ready linkSqls w l := by
  obtain ⟨rfl, prepares⟩ := ho
  refine ⟨h.upholds, h.inside, fun sql hs => ?_⟩
  have refusals := prepares sql hs
  rw [← h.script] at refusals
  exact refusals

/-- A computation reads no more than the catalog, and comes to what the script says. -/
structure Tells (D : Discipline) (l : LoaderId) (script : Catalog) (m : Query α)
    (expected : Except Error α) : Prop where
  upholds {w : World} : Stands D l script w → D.Upholds (m.run w).2
  reads {w : World} : Stands D l script w → w.Reads (m.run w).2
  agrees {w : World} : Stands D l script w →
    Agrees (D.Orderly l script) (m.run w).1 expected

namespace Tells

theorem pure (a : α) : Tells D l script (Pure.pure a) (Pure.pure a) :=
  ⟨fun h => h.upholds, fun _ => .refl _, fun _ => .refl _⟩

theorem bind {m : Query α} {f : α → Query β} {expected : Except Error α}
    {next : α → Except Error β} (hm : Tells D l script m expected)
    (hf : ∀ a, Tells D l script (f a) (next a)) :
    Tells D l script (m >>= f) (expected >>= next) := by
  have run {w : World} (h : Stands D l script w) : D.Upholds ((m >>= f).run w).2 ∧
      w.Reads ((m >>= f).run w).2 ∧
      Agrees (D.Orderly l script) ((m >>= f).run w).1 (expected >>= next) := by
    have upholds := hm.upholds h
    have reads := hm.reads h
    have agrees := hm.agrees h
    rcases hr : m.run w with ⟨e | a, w'⟩ <;> rw [hr] at upholds reads agrees
    · rw [Query.run_bind_error hr]
      refine ⟨upholds, reads, nofun, fun ho => ?_⟩
      rw [← agrees.error ho]
      rfl
    · have stands := h.reads upholds reads
      rw [Query.run_bind_ok hr, agrees.ok rfl]
      exact ⟨(hf a).upholds stands, reads.trans ((hf a).reads stands), (hf a).agrees stands⟩
  exact ⟨fun h => (run h).1, fun h => (run h).2.1, fun h => (run h).2.2⟩

theorem congr {m : Query α} {expected other : Except Error α} (hm : Tells D l script m expected)
    (h : expected = other) : Tells D l script m other := h ▸ hm

/-- A query that is read row by row. -/
theorem fold {sql : String} {value : Value} {values : List Value}
    {step : σ → Row → Except Error σ} (state : σ) (mem : sql ∈ linkSqls)
    (count : (value :: values).length = parameterCount sql)
    (rows : ∀ state row, IsRead (step state row)) :
    Tells D l script (l.fold sql (value :: values) step state)
      (script.readRows sql (value :: values) step state) := by
  have within : D.Within l (l.fold sql (value :: values) step state) :=
    .bind (.query count) fun handle => .foldRows handle rows state
  have run {w : World} (h : Stands D l script w) :
      w.Reads ((l.fold sql (value :: values) step state).run w).2 ∧
      ∀ a, ((l.fold sql (value :: values) step state).run w).1 = .ok a →
        script.readRows sql (value :: values) step state = .ok a := by
    obtain ⟨reads, -⟩ := LoaderId.query_reads h.upholds.sound h.inside sql (value :: values)
    rcases hq : (l.query sql (value :: values)).run w with ⟨e | handle, w'⟩ <;> rw [hq] at reads
    · rw [LoaderId.fold, Query.run_bind_error hq]
      exact ⟨reads, nofun⟩
    · have answer := LoaderId.query_answer h.upholds.sound h.inside (bindsFirst_cons ..) hq
      rw [← Catalog.answer_script, h.script] at answer
      rw [LoaderId.fold, Query.run_bind_ok hq, Handle.run_foldRows]
      refine ⟨reads.trans (reads_setStatement ..), fun a ha => ?_⟩
      rw [Catalog.readRows, answer, ← ha]
      exact (Statement.foldRows_eq_foldlM ..).symm
  refine ⟨fun h => (within.ensures h.upholds h.inside).upholds, fun h => (run h).1,
    fun {w} h => ⟨fun ha => (run h).2 _ ha, fun ho => ?_⟩⟩
  refine ((h.ready ho).found mem count (.foldRows step state)).outcome.trans ?_
  rw [h.script, Catalog.readRows]
  cases script.answer sql (value :: values) with
  | error e => rfl
  | ok rows => exact Statement.foldRows_eq_foldlM step state rows

/-- The same with every row read on its own. -/
theorem list {sql : String} {value : Value} {values : List Value} {read : Row → Except Error α}
    (mem : sql ∈ linkSqls) (count : (value :: values).length = parameterCount sql)
    (rows : ∀ row, IsRead (read row)) :
    Tells D l script (l.list sql (value :: values) read)
      (script.answer sql (value :: values) >>= (·.mapM read)) := by
  refine (fold [] mem count (IsRead.list rows)).congr ?_
  rw [Catalog.readRows]
  cases script.answer sql (value :: values) with
  | error e => rfl
  | ok rows =>
    refine (foldlM_append_eq_mapM read [] rows).trans ?_
    show _ = rows.mapM read
    cases rows.mapM read <;> rfl

end Tells

/-! ## Nested transactions -/

/-- Who is inside can always enter once more. -/
theorem LoaderId.enter_inside (h : w.Inside l) :
    l.enter.run w = (.ok (), w.changeDepth l (· + 1)) := by
  rw [run_enter, if_neg (Nat.ne_of_gt h)]

/-- What only reads between entering once more and leaving is a mere read with both,
because the transaction goes on. -/
theorem World.Inside.nested (h : w.Inside l) (hr : (w.changeDepth l (· + 1)).Reads w') :
    w.Reads (l.leave w').2 := by
  have entered := LoaderId.enter_ok h.knows (LoaderId.enter_inside h)
  refine ⟨(entered.settles hr.toSettles).leave, fun c => ?_⟩
  have depth : (w'.loader l).depth ≠ 1 := by
    have inside : 0 < (w.loader l).depth := h
    rw [hr.depth, depth_changeDepth, if_pos ⟨rfl, h.knows⟩]
    omega
  rw [LoaderId.run_leave, if_neg depth]
  exact hr.still c

theorem Stands.enter (h : Stands D l script w) : Stands D l script (w.changeDepth l (· + 1)) := by
  obtain ⟨upholds, inside, -⟩ :=
    Discipline.bracket h.upholds h.inside.knows (LoaderId.enter_inside h.inside)
  exact ⟨upholds, inside, (catalogOf_changeDepth ..).symm ▸ h.script⟩

theorem Tells.withTransaction {body : Query α} {expected : Except Error α}
    (hb : Tells D l script body expected) : Tells D l script (l.withTransaction body) expected := by
  have run {w : World} (h : w.Inside l) : (l.withTransaction body).run w =
      ((body.run (w.changeDepth l (· + 1))).1,
        (l.leave (body.run (w.changeDepth l (· + 1))).2).2) :=
    Query.run_bind_ok (LoaderId.enter_inside h)
  refine ⟨fun {w} h => ?_, fun {w} h => ?_, fun {w} h => ?_⟩ <;> rw [run h.inside]
  · have reads := hb.reads h.enter
    exact ⟨LoaderId.leave_sound (hb.upholds h.enter).sound l,
      D.leave (hb.upholds h.enter).sound (hb.upholds h.enter).holds
        (reads.inside h.enter.inside)⟩
  · exact h.inside.nested (hb.reads h.enter)
  · exact hb.agrees h.enter

/-! ## Foreign keys and dependents -/

/-- The keys of rows that follow a key: some of the rows may still belong to it. -/
def Catalog.keysAfter (catalog : Catalog) (table : String) (key : ForeignKey)
    (rows : List ForeignKeyRow) : Except Error (List ForeignKey) := do
  let run := rows.takeWhile (·.name == key.name)
  let later ← catalog.keysOfRows table (rows.dropWhile (·.name == key.name))
  pure ({ key with columns := key.columns ++ run.map (·.column) } :: later)

theorem Catalog.keysAfter_nil (catalog : Catalog) (table : String) (key : ForeignKey) :
    catalog.keysAfter table key [] = .ok [key] := by
  rw [keysAfter, List.dropWhile_nil, keysOfRows]
  show Except.ok [{ key with columns := key.columns ++ [] }] = _
  rw [List.append_nil]

theorem Catalog.keysAfter_same (catalog : Catalog) (table : String) {key : ForeignKey}
    {row : ForeignKeyRow} (h : key.name = row.name) (rest : List ForeignKeyRow) :
    catalog.keysAfter table key (row :: rest) =
      catalog.keysAfter table { key with columns := key.columns ++ [row.column] } rest := by
  have mine : (row.name == key.name) = true := beq_iff_eq.mpr h.symm
  simp [keysAfter, mine]

theorem Catalog.keysOfRows_cons (catalog : Catalog) (table : String) (row : ForeignKeyRow)
    (rest : List ForeignKeyRow) : catalog.keysOfRows table (row :: rest) =
      catalog.referenced row.uniqueConstraint >>= fun referenced =>
        catalog.keysAfter table (row.toKey table referenced) rest := by
  rw [keysOfRows]
  rfl

theorem Catalog.keysAfter_other (catalog : Catalog) (table : String) {key : ForeignKey}
    {row : ForeignKeyRow} (h : key.name ≠ row.name) (rest : List ForeignKeyRow) :
    catalog.keysAfter table key (row :: rest) =
      (key :: ·) <$> catalog.keysOfRows table (row :: rest) := by
  have other : (row.name == key.name) = false := beq_false_of_ne h.symm
  simp [keysAfter, other]

namespace Table

theorem fetchReferenced_tells (constraint : String) :
    Tells D l script (fetchReferenced l constraint) (script.referenced constraint) :=
  have told : Tells D l script (fetchReferenced l constraint)
      (script.readRows referencedKeySql [.text constraint] referencedStep ("", [])) :=
    .fold _ (by simp [linkSqls]) AboutName.referencedKey.count.symm IsRead.referenced
  told.congr (script.readRows_referenced constraint)

/-- The recursion follows the rows. The newest key comes first as long as rows are
left. -/
theorem gatherForeignKeys_tells (table : String) (key : ForeignKey) (older : List ForeignKey)
    (rows : List ForeignKeyRow) :
    Tells D l script (gatherForeignKeys table l (key :: older) rows)
      ((·.reverse ++ older) <$> script.keysAfter table key rows) := by
  induction rows generalizing key older with
  | nil =>
    rw [gatherForeignKeys, Catalog.keysAfter_nil]
    exact .pure (key :: older)
  | cons row rest ih =>
    rw [gatherForeignKeys]
    by_cases hn : key.name = row.name
    · rw [if_pos hn, Catalog.keysAfter_same _ _ hn]
      exact ih { key with columns := key.columns ++ [row.column] } older
    · rw [if_neg hn, Catalog.keysAfter_other _ _ hn, Catalog.keysOfRows_cons]
      refine ((fetchReferenced_tells row.uniqueConstraint).bind fun referenced =>
        ih (row.toKey table referenced) (key :: older)).congr ?_
      simp

theorem fetchForeignKeys_tells (item : Item) :
    Tells D l script (fetchForeignKeys item l) (script.foreignKeys item.name.raw) := by
  have gathered (rows : List ForeignKeyRow) :
      Tells D l script (do pure (← gatherForeignKeys item.name.raw l [] rows).reverse)
        (script.keysOfRows item.name.raw rows) := by
    cases rows with
    | nil =>
      rw [gatherForeignKeys, Catalog.keysOfRows]
      exact .pure []
    | cons row rest =>
      rw [gatherForeignKeys, Catalog.keysOfRows_cons]
      refine (((fetchReferenced_tells row.uniqueConstraint).bind fun referenced =>
        gatherForeignKeys_tells item.name.raw (row.toKey item.name.raw referenced) [] rest).bind
          fun keys => .pure keys.reverse).congr ?_
      simp
  have rows : Tells D l script (l.list foreignKeySql [.text item.name.raw] ForeignKeyRow.read)
      (script.answer foreignKeySql [.text item.name.raw] >>= (·.mapM ForeignKeyRow.read)) :=
    .list (by simp [linkSqls]) AboutName.foreignKeys.count.symm IsRead.foreignKeyRow
  exact (rows.bind gathered).congr (bind_assoc ..)

end Table

theorem Dependency.load_tells (table : String) :
    Tells D l script (load l table .table false) (script.dependents table) :=
  .withTransaction (.fold [] (by simp [linkSqls]) (count_dependencies false).symm
    IsRead.dependency)

end Tells

end MetaCatalog
