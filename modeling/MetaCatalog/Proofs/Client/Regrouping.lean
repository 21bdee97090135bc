import MetaCatalog.Proofs.Client.Links
import MetaCatalog.Proofs.Framework.Lookups

/-!
# Lists that clients hold are made of rows

A list of constraints, indices, keys or rights that an object holds was made of rows
once, one member for each run of them, and no call changes it. `Lineage.regrouped`
says so of all objects, and `Client.Reachable.table_regrouped` and
`Client.Reachable.procedure_regrouped` of those that a client can come by.
-/

namespace MetaCatalog

/-! ## Tables -/

namespace Table

/-- Every list that the table holds was made of rows. -/
structure Regrouped (t : Table) : Prop where
  uniqueConstraints : t.uniqueConstraints.Holds (MadeOfRuns UniqueConstraint.MadeOf Row.name)
  indices : t.indices.Holds (MadeOfRuns Index.MadeOf Row.name)
  foreignKeys : t.foreignKeys.Holds (MadeOfRuns ForeignKey.MadeOf Row.name)

variable {t : Table}

theorem dropAsked_kept (asked : Option FacetKind) (kind : FacetKind) (facet : Facet α) :
    (dropAsked asked kind facet).2 = facet ∨ (dropAsked asked kind facet).2 = .unloaded := by
  unfold dropAsked
  split
  · exact .inr rfl
  · exact .inl rfl

theorem Regrouped.loadColumns (h : t.Regrouped) (w : World) :
    (t.loadColumns w).1.2.Regrouped := by
  unfold Table.loadColumns
  split
  · exact ⟨h.uniqueConstraints, h.indices, h.foreignKeys⟩
  · exact ⟨.unloaded, .unloaded, .unloaded⟩

theorem Regrouped.load (h : t.Regrouped) (kind : FacetKind) (w : World) :
    (t.load kind w).1.2.Regrouped := by
  cases kind with
  | columns => exact h.loadColumns w
  | uniqueConstraints =>
    exact { h with uniqueConstraints :=
      (UniqueConstraint.reader_makes.regroups ..).holds t.item h.uniqueConstraints w }
  | indices =>
    exact { h with indices := (Index.reader_makes.regroups ..).holds t.item h.indices w }
  | foreignKeys =>
    exact { h with foreignKeys :=
      (fetchForeignKeys_regroups t.item).holds t.item h.foreignKeys w }
  | _ => exact ⟨h.uniqueConstraints, h.indices, h.foreignKeys⟩

theorem Regrouped.invalidate (h : t.Regrouped) (asked : Option FacetKind) (w : World) :
    (t.invalidate asked w).1.Regrouped := by
  have dropped : (t.drop asked).2.Regrouped :=
    ⟨h.uniqueConstraints.of_kept (dropAsked_kept ..), h.indices.of_kept (dropAsked_kept ..),
      h.foreignKeys.of_kept (dropAsked_kept ..)⟩
  unfold Table.invalidate
  rcases hd : t.drop asked with ⟨_ | _, t'⟩ <;> rw [hd] at dropped <;>
    exact ⟨dropped.uniqueConstraints, dropped.indices, dropped.foreignKeys⟩

theorem Regrouped.invalidateIndices (h : t.Regrouped) (name : Option String) (w : World) :
    (t.invalidateIndices name w).1.Regrouped := by
  unfold Table.invalidateIndices
  cases t.indices with
  | unloaded | loading => exact h
  | loaded indices =>
    dsimp only
    split
    · exact ⟨h.uniqueConstraints, .unloaded, h.foreignKeys⟩
    · exact h

/-- One case for each call. -/
theorem Regrouped.call (h : t.Regrouped) (call : TableCall) (w : World) :
    (call.run t w).1.2.Regrouped := by
  cases call with
  | load kind => exact h.load kind w
  | read kind => exact (t.read_table kind w).1 ▸ h.load kind w
  | findColumn name => exact h.loadColumns w
  | insertStatement => exact h.loadColumns w
  | procedureTemplate usualCharset => exact h.loadColumns w
  | invalidate asked => exact h.invalidate asked w
  | invalidateIndices name => exact h.invalidateIndices name w
  | item call => exact ⟨h.uniqueConstraints, h.indices, h.foreignKeys⟩

end Table

/-! ## Procedures -/

namespace Procedure

/-- The rights that the procedure holds were made of rows. -/
def Regrouped (p : Procedure) : Prop :=
  p.privileges.Holds (MadeOfRuns Privilege.MadeOf Row.holder)

variable {p : Procedure}

/-- Reading a facet loads it, and does nothing else to the procedure. -/
theorem read_procedure (p : Procedure) (kind : FacetKind) (w : World) :
    (p.read kind w).1.2 = (p.load kind w).1.2 := by
  cases kind <;> rfl

theorem Regrouped.load (h : p.Regrouped) (kind : FacetKind) (w : World) :
    (p.load kind w).1.2.Regrouped := by
  cases kind with
  | privileges =>
    exact (Privilege.reader_makes.regroups ..).holds p.item h w
  | _ => exact h

theorem Regrouped.checkParameters (h : p.Regrouped) (force : Bool) (w : World) :
    (p.checkParameters force w).1.2.Regrouped := by
  unfold Procedure.checkParameters
  split <;> exact h

theorem Regrouped.alterStatement (h : p.Regrouped) (w : World) :
    (p.alterStatement w).1.2.Regrouped := by
  have parameters : (p.loadParameters w).1.2.Regrouped := h
  unfold Procedure.alterStatement
  rw [Engine.run_bind]
  rcases hp : p.loadParameters w with ⟨⟨e | ⟨⟩, p'⟩, w'⟩ <;> rw [hp] at parameters
  · exact parameters
  · have source : (p'.loadSource w').1.2.Regrouped := parameters
    dsimp only
    rw [Engine.run_bind]
    rcases hs : p'.loadSource w' with ⟨⟨e | ⟨⟩, p''⟩, w''⟩ <;> rw [hs] at source <;> exact source

theorem Regrouped.invalidate (h : p.Regrouped) (asked : Option FacetKind) (w : World) :
    (p.invalidate asked w).1.Regrouped := by
  have dropped : (p.drop asked).2.Regrouped :=
    h.of_kept (Table.dropAsked_kept asked .privileges p.privileges)
  unfold Procedure.invalidate
  rcases hd : p.drop asked with ⟨_ | _, p'⟩ <;> rw [hd] at dropped <;> exact dropped

/-- One case for each call. -/
theorem Regrouped.call (h : p.Regrouped) (call : ProcedureCall) (w : World) :
    (call.run p w).1.2.Regrouped := by
  cases call with
  | load kind => exact h.load kind w
  | read kind => exact (p.read_procedure kind w).symm ▸ h.load kind w
  | checkParameters force => exact h.checkParameters force w
  | definition => exact h.checkParameters false w
  | alterStatement => exact h.alterStatement w
  | invalidate asked => exact h.invalidate asked w
  | isSelectable | selectStatement withColumns | executeStatement | item call => exact h

end Procedure

/-! ## Clients -/

/-- All lists were made of rows. -/
def Lineage.regrouped : Lineage where
  table := Table.Regrouped
  view _ := True
  procedure := Procedure.Regrouped
  newTable _ := ⟨.unloaded, .unloaded, .unloaded⟩
  newView _ := trivial
  newProcedure _ := .unloaded
  tableLoader h _ := ⟨h.uniqueConstraints, h.indices, h.foreignKeys⟩
  viewLoader _ _ := trivial
  procedureLoader h _ := h
  tableCall h := h.call
  viewCall _ _ _ := trivial
  procedureCall h := h.call

namespace Client

variable {permits : Client → Step → Prop} {client : Client}

theorem Reachable.table_regrouped (h : Reachable permits client) {table : Table}
    (ht : .table table ∈ client.workspace.everyObject) : table.Regrouped :=
  h.lineage .regrouped (.table table) ht

theorem Reachable.procedure_regrouped (h : Reachable permits client) {procedure : Procedure}
    (hp : .procedure procedure ∈ client.workspace.everyObject) : procedure.Regrouped :=
  h.lineage .regrouped (.procedure procedure) hp

/-! ## A catalog with one answer -/

/-- A client whose catalog answers every query with the given rows. Its database has a
table and a procedure. -/
def answering (rows : List Row) : Client := (Client.start 0).after
  [.openCatalog "main" "test.fdb" "SYSDBA" "masterkey", .script "main" (.reply ⟨"", none, rows⟩),
    .newDatabase "db" none (.ofCatalog "DB") "test.fdb", .connect "db" "main",
    .database "db" (.addTable (.ofCatalog "T")), .database "db" (.addProcedure (.ofCatalog "P"))]

variable (rows : List Row)

theorem answering_reachable : Reachable (Spares ⟨0⟩) (answering rows) :=
  .of_steps ⟨0⟩ 0 (by simp [Step.isDirect, Step.isForeign])

theorem answering_catalog : (answering rows).world.catalogOf ⟨0⟩ =
    { database := "test.fdb", replies := [⟨"", none, rows⟩] } := by
  have connection : ((answering rows).world.loader ⟨0⟩).connection = ⟨0⟩ := rfl
  rw [World.catalogOf, connection]
  rfl

theorem answering_answer (sql : String) (values : List Value) :
    ((answering rows).world.catalogOf ⟨0⟩).answer sql values = .ok rows := by
  simp [answering_catalog, Catalog.answer, Catalog.refusal?, Catalog.reply?, Text.includes_empty,
    Catalog.Reply.wants]

theorem answering_idle (sqls : List String) : Idle sqls (answering rows).world ⟨0⟩ := by
  have known : (answering rows).world.loaders.next = 1 := rfl
  refine (answering_reachable rows).idle ?_ ?_ ?_ sqls
  · show 0 < (answering rows).world.loaders.next
    rw [known]
    exact Nat.one_pos
  · rw [answering_catalog]
  · rw [answering_catalog]

/-- There is a table of the name that has the first loader, and no lists yet. -/
def hasNewTable (client : Client) (name : String) : Bool :=
  client.workspace.everyObject.any fun
    | .table t => t.name.raw == name && t.item.loader == some ⟨0⟩ &&
      !t.uniqueConstraints.isLoaded && !t.foreignKeys.isLoaded && !t.indices.isLoaded
    | _ => false

theorem exists_newTable {name : String} (h : client.hasNewTable name = true) :
    ∃ t, .table t ∈ client.workspace.everyObject ∧ t.name.raw = name ∧
      t.item.loader = some ⟨0⟩ ∧ t.uniqueConstraints.isLoaded = false ∧
      t.foreignKeys.isLoaded = false ∧ t.indices.isLoaded = false := by
  obtain ⟨object, member, facts⟩ := List.any_eq_true.mp h
  cases object with
  | view _ | procedure _ => cases facts
  | table t =>
    simp only [Bool.and_eq_true, beq_iff_eq, Bool.not_eq_true'] at facts
    obtain ⟨⟨⟨⟨raw, loader⟩, constraints⟩, keys⟩, indices⟩ := facts
    exact ⟨t, member, raw, loader, constraints, keys, indices⟩

/-- There is a procedure that has the first loader, and no rights yet. -/
def hasNewProcedure (client : Client) : Bool :=
  client.workspace.everyObject.any fun
    | .procedure p => p.item.loader == some ⟨0⟩ && !p.privileges.isLoaded
    | _ => false

theorem exists_newProcedure (h : client.hasNewProcedure = true) :
    ∃ p, .procedure p ∈ client.workspace.everyObject ∧ p.item.loader = some ⟨0⟩ ∧
      p.privileges.isLoaded = false := by
  obtain ⟨object, member, facts⟩ := List.any_eq_true.mp h
  cases object with
  | table _ | view _ => cases facts
  | procedure p =>
    simp only [Bool.and_eq_true, beq_iff_eq, Bool.not_eq_true'] at facts
    exact ⟨p, member, facts⟩

end Client

end MetaCatalog
