import MetaCatalog.Database.Links
import MetaCatalog.Proofs.Framework.Reads

/-!
# How facets are fetched

Every fetch of the library is put together from a few queries whose rows are
read one after the other. `Fetches` describes such computations, so that what
holds of one query and of sequences holds of every fetch; the instances at the
end of this file are all fetches there are.

Each query text takes as many parameters wherever it is used
(`parameterCount`).
-/

namespace MetaCatalog

/-! ## Reading rows -/

/-- A read of a row fails with a query error, if at all. -/
structure IsRead (outcome : Except Error α) : Prop where
  query : ∀ e, outcome = .error e → ∃ reason, e = .query reason

namespace IsRead

theorem ok (a : α) : IsRead (.ok a) := ⟨fun _ h => nomatch h⟩

theorem error (reason : String) : IsRead (.error (.query reason) : Except Error α) :=
  ⟨fun _ h => ⟨reason, (Except.error.inj h).symm⟩⟩

theorem map {outcome : Except Error α} (h : IsRead outcome) (f : α → β) :
    IsRead (outcome.map f) := by
  cases outcome with
  | ok a => exact ok _
  | error e =>
    obtain ⟨r, rfl⟩ := h.query e rfl
    exact error r

theorem bind {outcome : Except Error α} {f : α → Except Error β} (h : IsRead outcome)
    (hf : ∀ a, IsRead (f a)) : IsRead (outcome >>= f) := by
  cases outcome with
  | ok a => exact hf a
  | error e =>
    obtain ⟨r, rfl⟩ := h.query e rfl
    exact error r

theorem cell (row : Row) (position : Nat) : IsRead (row.cell position) := by
  unfold Row.cell
  cases position with
  | zero => exact error _
  | succ index =>
    dsimp only
    split
    · exact ok _
    · exact error _

theorem isNull (row : Row) (position : Nat) : IsRead (row.isNull position) :=
  (cell row position).map _

theorem blob (row : Row) (position : Nat) : IsRead (row.blob position) :=
  (cell row position).map _

theorem trimmed (row : Row) (position : Nat) : IsRead (row.trimmed position) :=
  (cell row position).map _

theorem integer (row : Row) (position : Nat) (default : Int64) :
    IsRead (row.integer position default) :=
  (cell row position).map _

theorem optional (row : Row) (position : Nat) : IsRead (row.optional position) :=
  (trimmed row position).map _

theorem blobText (row : Row) (position : Nat) : IsRead (row.blobText position) :=
  (blob row position).map _

/-- The rows of a list are read one by one. -/
theorem list {read : Row → Except Error α} (h : ∀ row, IsRead (read row)) (rows : List α)
    (row : Row) : IsRead ((read row).map (rows ++ [·])) :=
  (h row).map _

theorem runReader (reader : RunReader κ γ) (hk : ∀ row, IsRead (reader.key row))
    (hs : ∀ key row, IsRead (reader.start key row)) (objects : List γ) (row : Row) :
    IsRead (reader.step objects row) := by
  refine (hk row).bind fun key => ?_
  cases objects with
  | nil => exact (hs key row).bind fun _ => ok _
  | cons object older =>
    dsimp only
    split
    · exact ok _
    · exact (hs key row).bind fun _ => ok _

theorem fieldType (row : Row) (first : Nat) : IsRead (FieldType.read row first) := by
  refine (cell ..).bind fun _ => ?_
  iterate 5 refine (integer ..).bind fun _ => ?_
  exact ok _

theorem columnDefinition (row : Row) : IsRead (ColumnDefinition.read row) := by
  refine (trimmed ..).bind fun _ => (integer ..).bind fun _ => (integer ..).bind fun _ => ?_
  refine (blobText ..).bind fun _ => (blobText ..).bind fun _ => (integer ..).bind fun _ => ?_
  refine (trimmed ..).bind fun _ => (fieldType ..).bind fun _ => (blobText ..).bind fun _ => ?_
  refine (optional ..).bind fun _ => (optional ..).bind fun _ => (blobText ..).bind fun _ => ?_
  exact ok _

theorem parameterDefinition (row : Row) : IsRead (ParameterDefinition.read row) := by
  refine (trimmed ..).bind fun _ => (trimmed ..).bind fun _ => (integer ..).bind fun _ => ?_
  refine (optional ..).bind fun _ => (fieldType ..).bind fun _ => (integer ..).bind fun _ => ?_
  exact ok _

theorem primaryKey (key : Option PrimaryKey) (row : Row) : IsRead (PrimaryKey.step key row) := by
  iterate 3 refine (trimmed ..).bind fun _ => ?_
  exact ok _

theorem uniqueConstraint (constraints : List UniqueConstraint) (row : Row) :
    IsRead (UniqueConstraint.reader.step constraints row) :=
  runReader _ (fun _ => (trimmed ..).bind fun _ => (trimmed ..).bind fun _ => ok _)
    (fun _ _ => (trimmed ..).bind fun _ => ok _) constraints row

theorem checkConstraint (row : Row) : IsRead (CheckConstraint.read row) :=
  (trimmed ..).bind fun _ => (blob ..).bind fun _ => ok _

theorem foreignKeyRow (row : Row) : IsRead (ForeignKeyRow.read row) := by
  iterate 6 refine (trimmed ..).bind fun _ => ?_
  exact ok _

theorem referenced (found : String × List String) (row : Row) :
    IsRead (referencedStep found row) :=
  (trimmed ..).bind fun _ => (trimmed ..).bind fun _ => ok _

theorem indexFirst (key : String × String) (row : Row) : IsRead (Index.readFirst key row) := by
  refine (isNull ..).bind fun absent => ?_
  dsimp only
  split
  · refine (ok _).bind fun _ => ?_
    iterate 3 refine (integer ..).bind fun _ => ?_
    exact (isNull ..).bind fun _ => (blob ..).bind fun _ => ok _
  · refine (cell ..).bind fun _ => (ok _).bind fun _ => ?_
    iterate 3 refine (integer ..).bind fun _ => ?_
    exact (isNull ..).bind fun _ => (blob ..).bind fun _ => ok _

theorem index (indices : List Index) (row : Row) : IsRead (Index.reader.step indices row) :=
  runReader _ (fun _ => (trimmed ..).bind fun _ => (trimmed ..).bind fun _ => ok _) indexFirst
    indices row

theorem externalPath (row : Row) : IsRead (Table.readExternalPathRow row) := by
  refine (isNull ..).bind fun absent => ?_
  split
  · exact ok _
  · exact trimmed ..

theorem privilege (privileges : List Privilege) (row : Row) :
    IsRead (Privilege.reader.step privileges row) := by
  refine runReader _ (fun _ => ?_) (fun _ _ => ?_) privileges row
  · exact (trimmed ..).bind fun _ => (integer ..).bind fun _ => (trimmed ..).bind fun _ => ok _
  · exact (trimmed ..).bind fun _ => (integer ..).bind fun _ => ok _

theorem relation (row : Row) : IsRead (Database.readRelation row) :=
  (trimmed ..).bind fun _ => (isNull ..).bind fun _ => ok _

theorem dependency (dependencies : List Dependency) (row : Row) :
    IsRead (Dependency.step dependencies row) := by
  refine (integer ..).bind fun code => ?_
  split
  · exact (trimmed ..).bind fun _ => ok _
  · exact ok _

end IsRead

/-! ## Parameters -/

/-- How many parameters the library binds to a query. -/
def parameterCount (sql : String) : Nat :=
  if sql = Database.relationsSql ∨ sql = Database.proceduresSql then 0
  else if sql = Dependency.dependsOnSql ∨ sql = Dependency.dependentsSql then 2
  else 1

/-- The first characters of a query, which tell the queries with one parameter
from the others. -/
def opening (sql : String) : List Char := sql.toList.take 22

theorem opening_append (cs : List Char) (rest : String) (h : 22 ≤ cs.length) :
    opening (String.ofList cs ++ rest) = cs.take 22 := by
  rw [opening, String.toList_append, String.toList_ofList, List.take_append_of_le_length h]

theorem opening_ofList (cs : List Char) : opening (String.ofList cs) = cs.take 22 := by
  rw [opening, String.toList_ofList]

theorem opening_relationsSql :
    opening Database.relationsSql = "select rdb$relation_na".toList := by
  unfold Database.relationsSql
  exact opening_append _ _ (by decide)

theorem opening_proceduresSql :
    opening Database.proceduresSql = "select rdb$procedure_n".toList := by
  unfold Database.proceduresSql
  exact opening_append _ _ (by decide)

theorem opening_dependsOnSql :
    opening Dependency.dependsOnSql = "select distinct d.rdb$".toList := by
  unfold Dependency.dependsOnSql
  simp only [String.append_assoc]
  exact opening_append _ _ (by decide)

theorem opening_dependentsSql :
    opening Dependency.dependentsSql = "select distinct d.rdb$".toList := by
  unfold Dependency.dependentsSql
  simp only [String.append_assoc]
  exact opening_append _ _ (by decide)

/-- A query that opens like none of the others takes one parameter. -/
theorem parameterCount_one {sql : String} {start : List Char} (h : opening sql = start)
    (hr : start ≠ "select rdb$relation_na".toList)
    (hp : start ≠ "select rdb$procedure_n".toList)
    (hd : start ≠ "select distinct d.rdb$".toList) : parameterCount sql = 1 := by
  subst h
  have names : ¬ (sql = Database.relationsSql ∨ sql = Database.proceduresSql) := by
    rintro (rfl | rfl)
    · exact hr opening_relationsSql
    · exact hp opening_proceduresSql
  have dependencies : ¬ (sql = Dependency.dependsOnSql ∨ sql = Dependency.dependentsSql) := by
    rintro (rfl | rfl)
    · exact hd opening_dependsOnSql
    · exact hd opening_dependentsSql
  rw [parameterCount, if_neg names, if_neg dependencies]

/-- The same for a text that is written in several pieces. -/
theorem parameterCount_one_of_append (cs : List Char) (rest : String) (h : 22 ≤ cs.length)
    (hr : cs.take 22 ≠ "select rdb$relation_na".toList)
    (hp : cs.take 22 ≠ "select rdb$procedure_n".toList)
    (hd : cs.take 22 ≠ "select distinct d.rdb$".toList) :
    parameterCount (String.ofList cs ++ rest) = 1 :=
  parameterCount_one (opening_append cs rest h) hr hp hd

/-- The queries for what belongs to one name. -/
inductive AboutName : String → Prop
  | columns : AboutName Column.sql
  | parameters : AboutName Parameter.sql
  | primaryKey : AboutName Table.primaryKeySql
  | uniqueConstraints : AboutName Table.uniqueSql
  | foreignKeys : AboutName Table.foreignKeySql
  | referencedKey : AboutName Table.referencedKeySql
  | checkConstraints : AboutName Table.checkSql
  | indices : AboutName Table.indexSql
  | externalFile : AboutName Table.externalFileSql
  | viewSource : AboutName View.sourceSql
  | procedureSource : AboutName Procedure.sourceSql
  | privileges : AboutName Procedure.privilegeSql
  | description : AboutName Relation.descriptionSql
  | procedureDescription : AboutName Procedure.descriptionSql

theorem AboutName.count {sql : String} (h : AboutName sql) : parameterCount sql = 1 := by
  cases h with
  | externalFile | viewSource | procedureSource | description | procedureDescription =>
    refine parameterCount_one (opening_ofList _) ?_ ?_ ?_ <;> decide
  | _ =>
    -- The other texts are written in pieces, and the first piece is long enough to tell.
    delta Column.sql Parameter.sql Table.primaryKeySql Table.uniqueSql Table.foreignKeySql
      Table.referencedKeySql Table.checkSql Table.indexSql Procedure.privilegeSql
    simp only [String.append_assoc]
    refine parameterCount_one_of_append _ _ ?_ ?_ ?_ ?_ <;> decide

theorem count_relations : parameterCount Database.relationsSql = 0 := if_pos (.inl rfl)

theorem count_procedures : parameterCount Database.proceduresSql = 0 := if_pos (.inr rfl)

theorem count_dependencies (dependsOn : Bool) :
    parameterCount (if dependsOn then Dependency.dependsOnSql else Dependency.dependentsSql) =
      2 := by
  have start : opening (if dependsOn then Dependency.dependsOnSql else Dependency.dependentsSql) =
      "select distinct d.rdb$".toList := by
    cases dependsOn
    · exact opening_dependentsSql
    · exact opening_dependsOnSql
  have names : ¬ ((if dependsOn then Dependency.dependsOnSql else Dependency.dependentsSql) =
        Database.relationsSql ∨
      (if dependsOn then Dependency.dependsOnSql else Dependency.dependentsSql) =
        Database.proceduresSql) := by
    rintro (h | h) <;> rw [h] at start
    · exact absurd (opening_relationsSql.symm.trans start) (by decide)
    · exact absurd (opening_proceduresSql.symm.trans start) (by decide)
  rw [parameterCount, if_neg names, if_pos]
  cases dependsOn
  · exact .inr rfl
  · exact .inl rfl

/-! ## Fetches -/

/-- A computation that reads the catalog only by queries with the given texts,
each with all its parameters, and only row by row. -/
inductive Fetches (sqls : List String) : {α : Type} → (LoaderId → Query α) → Prop
  | pure {α : Type} (a : α) : Fetches sqls fun _ => Pure.pure a
  | fold {σ : Type} {sql : String} {values : List Value} {step : σ → Row → Except Error σ}
      (state : σ) (mem : sql ∈ sqls) (count : values.length = parameterCount sql)
      (reads : ∀ state row, IsRead (step state row)) :
      Fetches sqls fun l => l.fold sql values step state
  | first {α : Type} {sql : String} {values : List Value} {read : Row → Except Error α}
      (mem : sql ∈ sqls) (count : values.length = parameterCount sql)
      (reads : ∀ row, IsRead (read row)) :
      Fetches sqls fun l => l.first? sql values read
  | bind {α β : Type} {m : LoaderId → Query α} {f : α → LoaderId → Query β} :
      Fetches sqls m → (∀ a, Fetches sqls (f a)) → Fetches sqls fun l => m l >>= (f · l)

namespace Fetches

variable {sqls : List String}

theorem map {m : LoaderId → Query α} (h : Fetches sqls m) (f : α → β) :
    Fetches sqls fun l => (do Pure.pure (f (← m l))) :=
  .bind h fun a => .pure (f a)

/-- A query for what belongs to one name. -/
theorem foldOf {sql : String} {step : σ → Row → Except Error σ} (name : String) (state : σ)
    (about : AboutName sql) (reads : ∀ state row, IsRead (step state row)) :
    Fetches [sql] fun l => l.fold sql [.text name] step state :=
  .fold state List.mem_cons_self about.count.symm reads

theorem firstOf {sql : String} {read : Row → Except Error α} (name : String)
    (about : AboutName sql) (reads : ∀ row, IsRead (read row)) :
    Fetches [sql] fun l => l.first? sql [.text name] read :=
  .first List.mem_cons_self about.count.symm reads

/-- The definitions of the columns of a relation. -/
theorem columns (name : String) :
    Fetches [Column.sql] fun l => l.list Column.sql [.text name] ColumnDefinition.read :=
  foldOf name [] .columns (IsRead.list IsRead.columnDefinition)

/-- The definitions of the parameters of a procedure. -/
theorem parameters (name : String) :
    Fetches [Parameter.sql] fun l => l.list Parameter.sql [.text name] ParameterDefinition.read :=
  foldOf name [] .parameters (IsRead.list IsRead.parameterDefinition)

theorem description {sql : String} (about : AboutName sql) (item : Item) :
    Fetches [sql] (Relation.fetchDescription sql item) :=
  map (firstOf item.name.raw about (IsRead.blobText · 1)) Option.join

theorem primaryKey (item : Item) :
    Fetches [Table.primaryKeySql] (Table.fetchPrimaryKey item) :=
  foldOf item.name.raw none .primaryKey IsRead.primaryKey

theorem uniqueConstraints (item : Item) :
    Fetches [Table.uniqueSql] (Table.fetchUniqueConstraints item) :=
  map (foldOf item.name.raw [] .uniqueConstraints IsRead.uniqueConstraint) List.reverse

theorem checkConstraints (item : Item) :
    Fetches [Table.checkSql] (Table.fetchCheckConstraints item) :=
  foldOf item.name.raw [] .checkConstraints (IsRead.list IsRead.checkConstraint)

theorem indices (item : Item) : Fetches [Table.indexSql] (Table.fetchIndices item) :=
  map (foldOf item.name.raw [] .indices IsRead.index) List.reverse

theorem externalPath (item : Item) :
    Fetches [Table.externalFileSql] (Table.fetchExternalPath item) :=
  map (firstOf item.name.raw .externalFile IsRead.externalPath) (·.getD "")

theorem referenced (sqls : List String) (uniqueConstraint : String) :
    Fetches (sqls ++ [Table.referencedKeySql]) (Table.fetchReferenced · uniqueConstraint) :=
  .fold _ (List.mem_append_right _ List.mem_cons_self) AboutName.referencedKey.count.symm
    IsRead.referenced

/-- The recursion follows the rows; each that starts a key takes one more
query. -/
theorem foreignKeysOf (sqls : List String) (table : String) (keys : List ForeignKey)
    (rows : List ForeignKeyRow) :
    Fetches (sqls ++ [Table.referencedKeySql]) (Table.gatherForeignKeys table · keys rows) := by
  induction rows generalizing keys with
  | nil => cases keys <;> exact .pure _
  | cons row rest ih =>
    cases keys with
    | nil => exact .bind (referenced sqls row.uniqueConstraint) fun _ => ih _
    | cons key older =>
      by_cases h : key.name = row.name
      · simp only [Table.gatherForeignKeys, if_pos h]
        exact ih _
      · simp only [Table.gatherForeignKeys, if_neg h]
        exact .bind (referenced sqls row.uniqueConstraint) fun _ => ih _

theorem foreignKeys (item : Item) :
    Fetches [Table.foreignKeySql, Table.referencedKeySql] (Table.fetchForeignKeys item) :=
  .bind (.fold [] List.mem_cons_self AboutName.foreignKeys.count.symm
      (IsRead.list IsRead.foreignKeyRow))
    fun rows => map (foreignKeysOf [Table.foreignKeySql] item.name.raw [] rows) List.reverse

theorem viewSource (item : Item) : Fetches [View.sourceSql] (View.fetchSource item) :=
  map (firstOf item.name.raw .viewSource fun row => (IsRead.blob row 1).map Text.trim)
    (·.getD "")

theorem procedureSource (item : Item) :
    Fetches [Procedure.sourceSql] (Procedure.fetchSource item) :=
  map (firstOf item.name.raw .procedureSource (IsRead.blob · 1)) (·.getD "")

theorem privileges (item : Item) :
    Fetches [Procedure.privilegeSql] (Procedure.fetchPrivileges item) :=
  map (foldOf item.name.raw [] .privileges IsRead.privilege) List.reverse

theorem names : Fetches [Database.relationsSql, Database.proceduresSql] Database.fetchNames := by
  have procedures : Fetches [Database.relationsSql, Database.proceduresSql] fun l =>
      l.list Database.proceduresSql [] (Row.trimmed · 1) :=
    .fold [] (List.mem_cons_of_mem _ List.mem_cons_self) count_procedures.symm
      (IsRead.list (IsRead.trimmed · 1))
  exact .bind (.fold [] List.mem_cons_self count_relations.symm (IsRead.list IsRead.relation))
    fun relations => map procedures (relations, ·)

theorem dependencies (name : String) (code : Int64) (dependsOn : Bool) :
    Fetches [if dependsOn then Dependency.dependsOnSql else Dependency.dependentsSql] fun l =>
      l.fold (if dependsOn then Dependency.dependsOnSql else Dependency.dependentsSql)
        [.text name, .int64 code] Dependency.step [] :=
  .fold [] List.mem_cons_self (count_dependencies dependsOn).symm IsRead.dependency

end Fetches

end MetaCatalog
