import MetaCatalog.Constraint
import MetaCatalog.Index
import MetaCatalog.Procedure
import MetaCatalog.Proofs.Rows.Runs

/-!
# What is made of runs of rows

Unique constraints, indices and rights take several rows each. `MadeOf` says what such
an object has to do with its rows, and that a reader makes one of each run of rows is
a case analysis of one step (`RunReader.Makes`). Rows are looked at through
`Row.text` and its like, which need no width; where a read succeeds they agree with
it.

The parts of an index that come from its later rows are not read as those of its
first row are: a blank segment is left out of the first row only
(`Index.MadeOf.segments`).
-/

namespace MetaCatalog

/-! ## Columns -/

namespace Row

/-- The value in a column. Nothing is there beyond the end of the row. -/
def value (row : Row) (position : Nat) : Value := row.getD (position - 1) .null

/-- A column as text without its padding. -/
def text (row : Row) (position : Nat) : String := Text.trimPadding (row.value position).toText

/-- The error of a row that has fewer columns than it should, which is about the first
column that is missing. -/
def checkWidth (row : Row) (width : Nat) : Except Error Unit :=
  if row.length < width then
    .error (.query ("column " ++ Decimal.ofNat (row.length + 1) ++ " out of range"))
  else .ok ()

/-- A column as an integer, or zero if it holds none. -/
def number (row : Row) (position : Nat) : Int64 := (row.value position).integer?.getD 0

variable {row : Row} {position : Nat}

theorem cell_ok {v : Value} (h : row.cell position = .ok v) : row.value position = v := by
  cases position with
  | zero => cases h
  | succ index =>
    unfold cell at h
    dsimp only at h
    split at h
    · next found =>
      cases h
      rw [value, Nat.add_sub_cancel, List.getD_eq_getElem?_getD, found]
      rfl
    · cases h

theorem map_cell_ok {f : Value → α} {a : α} (h : (row.cell position).map f = .ok a) :
    f (row.value position) = a := by
  cases hc : row.cell position with
  | error e =>
    rw [hc] at h
    cases h
  | ok v =>
    rw [hc] at h
    rw [cell_ok hc]
    exact Except.ok.inj h

theorem trimmed_ok {text : String} (h : row.trimmed position = .ok text) :
    row.text position = text :=
  map_cell_ok h

theorem integer_ok {n : Int64} (h : row.integer position 0 = .ok n) : row.number position = n :=
  map_cell_ok (f := fun v => v.integer?.getD 0) h

theorem isNull_ok {absent : Bool} (h : row.isNull position = .ok absent) :
    (row.value position).isNull = absent :=
  map_cell_ok h

theorem blob_ok {text : String} (h : row.blob position = .ok text) :
    (row.value position).toText = text :=
  map_cell_ok h

/-- Rows that can be read are read as what is seen of each. -/
theorem mapM_ok {read : Row → Except Error α} {see : Row → α}
    (seen : ∀ {row a}, read row = .ok a → a = see row) {rows : List Row} {as : List α}
    (h : rows.mapM read = .ok as) : as = rows.map see := by
  induction rows generalizing as with
  | nil =>
    cases h
    rfl
  | cons row rest ih =>
    rw [List.mapM_cons] at h
    obtain ⟨first, hf, h⟩ := bind_eq_ok h
    obtain ⟨later, hl, h⟩ := bind_eq_ok h
    cases h
    rw [seen hf, ih hl, List.map_cons]

/-- The name that stands first in a row of a constraint or an index. -/
def name (row : Row) : String := row.text 1

end Row

/-! ## Unique constraints -/

namespace UniqueConstraint

/-- The constraint has the name of its rows and one column from each; its index is
named by the first. -/
structure MadeOf (constraint : UniqueConstraint) (run : List Row) : Prop where
  name : ∀ row ∈ run, row.name = constraint.name
  columns : constraint.columns = run.map (·.text 2)
  indexName : ∃ first ∈ run.head?, constraint.indexName = first.text 3

/-- Rows make one constraint. -/
theorem MadeOf.unique {constraint constraint' : UniqueConstraint} {run : List Row}
    (h : MadeOf constraint run) (h' : MadeOf constraint' run) : constraint = constraint' := by
  obtain ⟨first, hf, index⟩ := h.indexName
  obtain ⟨_, hf', index'⟩ := h'.indexName
  cases Option.mem_unique hf hf'
  have member := List.mem_of_mem_head? hf
  have name := (h.name first member).symm.trans (h'.name first member)
  have columns := h.columns.trans h'.columns.symm
  cases constraint
  cases constraint'
  exact UniqueConstraint.mk.injEq .. ▸ ⟨name, columns, index.trans index'.symm⟩

theorem readKey_ok {row : Row} {key : String × String} (h : readKey row = .ok key) :
    row.name = key.1 ∧ row.text 2 = key.2 := by
  obtain ⟨name, hn, h⟩ := bind_eq_ok h
  obtain ⟨column, hc, h⟩ := bind_eq_ok h
  cases h
  exact ⟨Row.trimmed_ok hn, Row.trimmed_ok hc⟩

theorem reader_makes : reader.Makes Row.name MadeOf where
  start {key row constraint} hk hs := by
    obtain ⟨name, column⟩ := readKey_ok hk
    obtain ⟨indexName, hi, hs⟩ := bind_eq_ok hs
    cases hs
    refine ⟨List.forall_mem_singleton.mpr name, ?_, row, rfl, (Row.trimmed_ok hi).symm⟩
    exact congrArg ([·]) column.symm
  continues {key row last constraint run} hk made hl := by
    rw [made.name last hl, (readKey_ok hk).1]
    exact beq_iff_eq
  extend {key row constraint run} hk continued made := by
    obtain ⟨name, column⟩ := readKey_ok hk
    have same : constraint.name = key.1 := beq_iff_eq.mp continued
    obtain ⟨first, hf, indexName⟩ := made.indexName
    refine ⟨List.forall_mem_append.mpr ⟨made.name, List.forall_mem_singleton.mpr ?_⟩, ?_,
      first, List.mem_head?_append_of_mem_head? hf, indexName⟩
    · exact name.trans same.symm
    · rw [List.map_append, ← made.columns, List.map_singleton, column]
      rfl

end UniqueConstraint

/-! ## Indices -/

namespace Index

/-- What the index has from the first of its rows. -/
structure StartsAs (index : Index) (first : Row) : Prop where
  unique : index.unique = (first.number 2 == 1)
  active : index.active = (first.number 3 == 0)
  direction : index.direction = if first.number 4 = 0 then .ascending else .descending
  statistics : index.statistics =
    if (first.value 5).isNull then .minusOne else (first.value 5).number?.getD .minusOne
  isSystem : index.isSystem = !(first.value 7).isNull
  expression : index.expression = Text.trim (first.value 8).toText

/-- The index has the name of its rows. Its segments are that of the first row, unless
it is blank, and those of all later rows. -/
structure MadeOf (index : Index) (run : List Row) : Prop where
  name : ∀ row ∈ run, row.name = index.name
  rows : ∃ first later, run = first :: later ∧ index.StartsAs first ∧
    index.segments = (Row.nonEmpty? (first.text 6)).toList ++ later.map (·.text 6)

theorem readKey_ok {row : Row} {key : String × String} (h : readKey row = .ok key) :
    row.name = key.1 ∧ row.text 6 = key.2 := by
  obtain ⟨name, hn, h⟩ := bind_eq_ok h
  obtain ⟨segment, hs, h⟩ := bind_eq_ok h
  cases h
  exact ⟨Row.trimmed_ok hn, Row.trimmed_ok hs⟩

theorem readFirst_ok {key : String × String} {row : Row} {index : Index}
    (h : readFirst key row = .ok index) : index.name = key.1 ∧ index.StartsAs row ∧
      index.segments = (Row.nonEmpty? key.2).toList := by
  obtain ⟨absent, ha, h⟩ := bind_eq_ok h
  have null := Row.isNull_ok ha
  -- The selectivity is read only if it is there; the rest is read either way.
  cases absent
  on_goal 1 =>
    obtain ⟨_, hv, h⟩ := bind_eq_ok h
    obtain rfl := Row.cell_ok hv
  all_goals
    obtain ⟨statistics, hs, h⟩ := bind_eq_ok h
    obtain ⟨unique, hu, h⟩ := bind_eq_ok h
    obtain ⟨inactive, hi, h⟩ := bind_eq_ok h
    obtain ⟨direction, hd, h⟩ := bind_eq_ok h
    obtain ⟨free, hf, h⟩ := bind_eq_ok h
    obtain ⟨expression, he, h⟩ := bind_eq_ok h
    obtain rfl := Except.ok.inj h
    refine ⟨rfl, ⟨?_, ?_, ?_, ?_, ?_, ?_⟩, ?_⟩
    · rw [Row.integer_ok hu]
    · rw [Row.integer_ok hi]
    · rw [Row.integer_ok hd]
    · rw [null]
      exact (Except.ok.inj hs).symm
    · rw [Row.isNull_ok hf]
    · rw [Row.blob_ok he]
    · show (if key.2.isEmpty then [] else [key.2]) = _
      rw [Row.nonEmpty?]
      cases key.2.isEmpty <;> rfl

theorem reader_makes : reader.Makes Row.name MadeOf where
  start {key row index} hk hs := by
    obtain ⟨name, segment⟩ := readKey_ok hk
    obtain ⟨sameName, starts, segments⟩ := readFirst_ok hs
    refine ⟨List.forall_mem_singleton.mpr (name.trans sameName.symm), row, [], rfl, starts, ?_⟩
    rw [segments, segment, List.map_nil, List.append_nil]
  continues {key row last index run} hk made hl := by
    rw [made.name last hl, (readKey_ok hk).1]
    exact beq_iff_eq
  extend {key row index run} hk continued made := by
    obtain ⟨name, segment⟩ := readKey_ok hk
    have same : index.name = key.1 := beq_iff_eq.mp continued
    obtain ⟨first, later, rfl, starts, segments⟩ := made.rows
    refine ⟨List.forall_mem_append.mpr ⟨made.name, List.forall_mem_singleton.mpr ?_⟩,
      first, later ++ [row], rfl, { starts with }, ?_⟩
    · exact name.trans same.symm
    · rw [List.map_append, ← List.append_assoc, ← segments, List.map_singleton, segment]
      rfl

end Index

/-! ## Rights -/

namespace Row

/-- The holder of the right that a row grants. -/
def holder (row : Row) : String × Int64 := (row.text 1, row.number 2)

/-- The right that a row grants, unless it is blank. -/
def code? (row : Row) : Option Char := (row.text 4).toList.head?

end Row

namespace Privilege

/-- The record has the holder of its rows and the rights that they grant; who granted
them, and whether they can be passed on, is said by the first row. -/
structure MadeOf (privilege : Privilege) (run : List Row) : Prop where
  holder : ∀ row ∈ run, row.holder = (privilege.grantee, privilege.granteeType)
  first : ∃ first ∈ run.head?, privilege.grantor = first.text 3 ∧
    privilege.grantOption = (first.number 5 == 1)
  codes (code : Char) : code ∈ privilege.codes ↔ ∃ row ∈ run, row.code? = some code
  ascending : privilege.codes.Pairwise (· < ·)

theorem mem_insertCode {code c : Char} {codes : List Char} :
    c ∈ insertCode code codes ↔ c = code ∨ c ∈ codes := by
  induction codes with
  | nil => exact List.mem_singleton.trans (or_iff_left List.not_mem_nil).symm
  | cons d rest ih =>
    rw [insertCode]
    split
    · exact List.mem_cons
    · split
      · next same =>
        subst same
        simp
      · rw [List.mem_cons, ih, List.mem_cons]
        exact or_left_comm

theorem mem_addCode {code : Option Char} {c : Char} {codes : List Char} :
    c ∈ addCode code codes ↔ code = some c ∨ c ∈ codes := by
  cases code with
  | none => simp [addCode]
  | some code =>
    rw [addCode, mem_insertCode, Option.some.injEq, eq_comm]

theorem pairwise_insertCode {code : Char} {codes : List Char} (h : codes.Pairwise (· < ·)) :
    (insertCode code codes).Pairwise (· < ·) := by
  induction codes with
  | nil => exact List.pairwise_singleton ..
  | cons d rest ih =>
    obtain ⟨before, ascending⟩ := List.pairwise_cons.mp h
    rw [insertCode]
    split
    · next less =>
      exact List.pairwise_cons.mpr ⟨List.forall_mem_cons.mpr ⟨less, fun c hc =>
        Char.lt_trans less (before c hc)⟩, h⟩
    · split
      · exact h
      · next notLess differ =>
        have greater : d < code := by
          grind
        refine List.pairwise_cons.mpr ⟨fun c hc => ?_, ih ascending⟩
        rcases mem_insertCode.mp hc with rfl | hc
        · exact greater
        · exact before c hc

theorem pairwise_addCode {code : Option Char} {codes : List Char} (h : codes.Pairwise (· < ·)) :
    (addCode code codes).Pairwise (· < ·) := by
  cases code with
  | none => exact h
  | some code => exact pairwise_insertCode h

theorem readKey_ok {row : Row} {key : Key} (h : readKey row = .ok key) :
    row.holder = (key.grantee, key.granteeType) ∧ row.code? = key.code := by
  obtain ⟨grantee, hg, h⟩ := bind_eq_ok h
  obtain ⟨granteeType, ht, h⟩ := bind_eq_ok h
  obtain ⟨code, hc, h⟩ := bind_eq_ok h
  cases h
  refine ⟨Prod.ext (Row.trimmed_ok hg) (Row.integer_ok ht), ?_⟩
  rw [Row.code?, Row.trimmed_ok hc]

theorem continues_iff {privilege : Privilege} {key : Key} : reader.continues privilege key = true ↔
    (privilege.grantee, privilege.granteeType) = (key.grantee, key.granteeType) := by
  show (privilege.grantee == key.grantee && privilege.granteeType == key.granteeType) = true ↔ _
  rw [Bool.and_eq_true, beq_iff_eq, beq_iff_eq, Prod.mk.injEq]

theorem reader_makes : reader.Makes Row.holder MadeOf where
  start {key row privilege} hk hs := by
    obtain ⟨holder, code⟩ := readKey_ok hk
    obtain ⟨grantor, hg, hs⟩ := bind_eq_ok hs
    obtain ⟨option, ho, hs⟩ := bind_eq_ok hs
    cases hs
    refine ⟨List.forall_mem_singleton.mpr holder, ⟨row, rfl, (Row.trimmed_ok hg).symm, ?_⟩,
      fun c => ?_, pairwise_addCode .nil⟩
    · rw [Row.integer_ok ho]
    · simp only [List.mem_singleton, exists_eq_left, code]
      exact mem_addCode.trans (or_iff_left List.not_mem_nil)
  continues {key row last privilege run} hk made hl := by
    rw [made.holder last hl, (readKey_ok hk).1, continues_iff]
  extend {key row privilege run} hk continued made := by
    obtain ⟨holder, code⟩ := readKey_ok hk
    have same := holder.trans (continues_iff.mp continued).symm
    obtain ⟨first, hf, grantor, option⟩ := made.first
    refine ⟨List.forall_mem_append.mpr ⟨made.holder, List.forall_mem_singleton.mpr same⟩,
      ⟨first, List.mem_head?_append_of_mem_head? hf, grantor, option⟩, fun c => ?_,
      pairwise_addCode made.ascending⟩
    simp only [List.mem_append, List.mem_singleton, or_and_right, exists_or, exists_eq_left, code,
      ← made.codes]
    exact mem_addCode.trans or_comm

end Privilege

/-! ## Foreign keys -/

/-- What a row of the foreign key query says. -/
def Row.foreignKey (row : Row) : ForeignKeyRow where
  name := row.name
  column := row.text 2
  updateRule := row.text 3
  deleteRule := row.text 4
  uniqueConstraint := row.text 5
  indexName := row.text 6

theorem ForeignKeyRow.read_ok {row : Row} {said : ForeignKeyRow} (h : read row = .ok said) :
    said = row.foreignKey := by
  obtain ⟨name, hn, h⟩ := bind_eq_ok h
  obtain ⟨column, hc, h⟩ := bind_eq_ok h
  obtain ⟨updateRule, hu, h⟩ := bind_eq_ok h
  obtain ⟨deleteRule, hd, h⟩ := bind_eq_ok h
  obtain ⟨uniqueConstraint, hq, h⟩ := bind_eq_ok h
  obtain ⟨indexName, hi, h⟩ := bind_eq_ok h
  cases h
  rw [Row.foreignKey, Row.name, Row.trimmed_ok hn, Row.trimmed_ok hc, Row.trimmed_ok hu,
    Row.trimmed_ok hd, Row.trimmed_ok hq, Row.trimmed_ok hi]

namespace ForeignKeyAction

/-- The action is the one that a rule names, in whatever letters. A rule that names none of
the others restricts. -/
inductive NamedBy (rule : String) : ForeignKeyAction → Prop
  | noAction (h : Text.upperAscii (Text.trim rule) = "NO ACTION") : NamedBy rule noAction
  | cascade (h : Text.upperAscii (Text.trim rule) = "CASCADE") : NamedBy rule cascade
  | setNull (h : Text.upperAscii (Text.trim rule) = "SET NULL") : NamedBy rule setNull
  | setDefault (h : Text.upperAscii (Text.trim rule) = "SET DEFAULT") : NamedBy rule setDefault
  | restrict (h : Text.upperAscii (Text.trim rule) ∉
      ["NO ACTION", "CASCADE", "SET NULL", "SET DEFAULT"]) : NamedBy rule restrict

theorem ofRule_namedBy (rule : String) : NamedBy rule (ofRule rule) := by
  unfold ofRule
  split
  case h_1 h => exact .noAction h
  case h_2 h => exact .cascade h
  case h_3 h => exact .setNull h
  case h_4 h => exact .setDefault h
  case h_5 noAction cascade setNull setDefault =>
    refine .restrict ?_
    simp only [List.mem_cons, List.not_mem_nil, or_false, not_or]
    exact ⟨noAction, cascade, setNull, setDefault⟩

/-- A rule names one action. -/
theorem NamedBy.unique {action action' : ForeignKeyAction} {rule : String}
    (h : NamedBy rule action) (h' : NamedBy rule action') : action = action' := by
  cases h <;> cases h' <;> simp_all

end ForeignKeyAction

namespace ForeignKey

/-- The key has the name of its rows and one column from each; its actions and its
index are named by the first. -/
structure MadeOf (key : ForeignKey) (run : List Row) : Prop where
  name : ∀ row ∈ run, row.name = key.name
  columns : key.columns = run.map (·.text 2)
  first : ∃ first ∈ run.head?, ForeignKeyAction.NamedBy (first.text 3) key.updateAction ∧
    ForeignKeyAction.NamedBy (first.text 4) key.deleteAction ∧ key.indexName = first.text 6

/-- Rows say all about a key but which table it belongs to and what it refers to. -/
theorem MadeOf.unique {key key' : ForeignKey} {run : List Row} (h : MadeOf key run)
    (h' : MadeOf key' run) (table : key.table = key'.table)
    (referencedTable : key.referencedTable = key'.referencedTable)
    (referencedColumns : key.referencedColumns = key'.referencedColumns) : key = key' := by
  obtain ⟨first, hf, update, delete, index⟩ := h.first
  obtain ⟨_, hf', update', delete', index'⟩ := h'.first
  cases Option.mem_unique hf hf'
  have member := List.mem_of_mem_head? hf
  have name := (h.name first member).symm.trans (h'.name first member)
  have columns := h.columns.trans h'.columns.symm
  cases key
  cases key'
  exact ForeignKey.mk.injEq .. ▸ ⟨name, table, columns, referencedTable, referencedColumns,
    update.unique update', delete.unique delete', index.trans index'.symm⟩

theorem MadeOf.start (table : String) (referenced : String × List String) (row : Row) :
    MadeOf (row.foreignKey.toKey table referenced) [row] := by
  refine ⟨List.forall_mem_singleton.mpr rfl, rfl, row, rfl, ?_⟩
  simp only [ForeignKeyRow.toKey, Row.foreignKey, and_true]
  exact ⟨ForeignKeyAction.ofRule_namedBy (row.text 3),
    ForeignKeyAction.ofRule_namedBy (row.text 4)⟩

theorem MadeOf.extend {key : ForeignKey} {run : List Row} {row : Row} (h : MadeOf key run)
    (same : key.name = row.name) :
    MadeOf { key with columns := key.columns ++ [row.text 2] } (run ++ [row]) := by
  obtain ⟨first, hf, actions⟩ := h.first
  refine ⟨List.forall_mem_append.mpr ⟨h.name, List.forall_mem_singleton.mpr same.symm⟩, ?_,
    first, List.mem_head?_append_of_mem_head? hf, actions⟩
  show key.columns ++ [row.text 2] = _
  rw [h.columns, List.map_append]
  rfl

end ForeignKey

end MetaCatalog
