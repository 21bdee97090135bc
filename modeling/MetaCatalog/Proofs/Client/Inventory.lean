import MetaCatalog.Proofs.Client.Runs

/-!
# What a client has

All items of a workspace, and the tables, views and procedures among them, which
are loaded facet by facet (`Object.load`).
-/

namespace MetaCatalog

/-- A table, a view or a procedure. -/
inductive Object where
  | table (table : Table)
  | view (view : View)
  | procedure (procedure : Procedure)

namespace Object

/-- The item of the object. -/
def item : Object → Item
  | table t => t.item
  | view v => v.item
  | procedure p => p.item

/-- Loads one facet. An object has nothing to load for facets of other kinds. -/
def load (object : Object) (facet : FacetKind) : Engine (Attempted Object) := do
  match object with
  | table t =>
    let (outcome, t) ← t.load facet
    pure (outcome, table t)
  | view v =>
    let (outcome, v) ← v.load facet
    pure (outcome, view v)
  | procedure p =>
    let (outcome, p) ← p.load facet
    pure (outcome, procedure p)

end Object

/-- The tables, views and procedures of a database. -/
def Database.objects (database : Database) : List Object :=
  database.tables.map .table ++ database.views.map .view ++ database.procedures.map .procedure

namespace Workspace

/-- All databases, those of servers included. -/
def everyDatabase (workspace : Workspace) : List Database :=
  workspace.databases.map (·.2) ++ workspace.servers.flatMap (·.2.databases)

/-- All tables, views and procedures. -/
def everyObject (workspace : Workspace) : List Object :=
  workspace.tables.map (.table ·.2) ++ workspace.views.map (.view ·.2) ++
    workspace.procedures.map (.procedure ·.2) ++ workspace.everyDatabase.flatMap (·.objects)

/-- All items. -/
def everyItem (workspace : Workspace) : List Item :=
  workspace.items.map (·.2) ++ workspace.everyObject.map (·.item) ++
    workspace.everyDatabase.map (·.item) ++ workspace.servers.map (·.2.item)

end Workspace

namespace Discipline

variable {D : Discipline} {w : World} {s : Workspace}

theorem FitsDatabase.objects {database : Database} (h : D.FitsDatabase w database) :
    ∀ object ∈ database.objects, D.Fits w object.item := by
  intro object ho
  simp only [Database.objects, List.mem_append, List.mem_map] at ho
  rcases ho with (⟨t, ht, rfl⟩ | ⟨v, hv, rfl⟩) | ⟨p, hp, rfl⟩
  · exact h.tables t ht
  · exact h.views v hv
  · exact h.procedures p hp

theorem FitsWorkspace.everyDatabase (h : D.FitsWorkspace s) :
    ∀ database ∈ s.everyDatabase, D.FitsDatabase s.world database := by
  intro database hd
  simp only [Workspace.everyDatabase, List.mem_append, List.mem_map, List.mem_flatMap] at hd
  rcases hd with ⟨p, hp, rfl⟩ | ⟨p, hp, hd⟩
  · exact h.databases p hp
  · exact (h.servers p hp).databases database hd

theorem FitsWorkspace.everyObject (h : D.FitsWorkspace s) :
    ∀ object ∈ s.everyObject, D.Fits s.world object.item := by
  intro object ho
  simp only [Workspace.everyObject, List.mem_append, List.mem_map, List.mem_flatMap] at ho
  rcases ho with ((⟨t, ht, rfl⟩ | ⟨v, hv, rfl⟩) | ⟨p, hp, rfl⟩) | ⟨d, hd, ho⟩
  · exact h.tables t ht
  · exact h.views v hv
  · exact h.procedures p hp
  · exact (h.everyDatabase d hd).objects object ho

theorem FitsWorkspace.everyItem (h : D.FitsWorkspace s) :
    ∀ item ∈ s.everyItem, D.Fits s.world item := by
  intro item hi
  simp only [Workspace.everyItem, List.mem_append, List.mem_map] at hi
  rcases hi with ((⟨i, hi, rfl⟩ | ⟨o, ho, rfl⟩) | ⟨d, hd, rfl⟩) | ⟨p, hp, rfl⟩
  · exact h.items i hi
  · exact h.everyObject o ho
  · exact (h.everyDatabase d hd).item
  · exact (h.servers p hp).item

end Discipline

end MetaCatalog
