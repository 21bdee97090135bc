import MetaCatalog.Proofs.Client.Loads
import MetaCatalog.Proofs.Client.Regrouping
import MetaCatalog.Proofs.Framework.Names
import MetaCatalog.Proofs.Identifier.CatalogForm

/-!
# Loading the objects of a database

A database that loads its objects either gets new ones, one for each row in which the
catalog names one, and announces it once, or it stays as it was and nobody hears of it
(`Client.Reachable.loadObjects_whole`).
-/

namespace MetaCatalog

open World (Hush Course)

/-! ## New objects -/

theorem Row.ofCatalog_text (row : Row) (position : Nat) :
    Identifier.ofCatalog (row.text position) = ⟨row.text position⟩ :=
  congrArg Identifier.mk (Text.trimPadding_trimPadding _)

section New

variable (kind : ItemKind) (database : Uuid) (l : LoaderId) (name : Identifier)

/-- A new item has the name, belongs to the database and is read with its loader, and
nobody observes it. -/
def Item.New (item : Item) : Prop :=
  ∃ id, item = { Item.free id kind name with parent := some database, loader := some l }

/-- A new object, of which no facet was read. -/
structure Object.New (object : Object) : Prop where
  item : object.item.New kind database l name
  unread : ∀ facet value, object.part? facet ≠ some (.loaded value)

variable {kind database l name} in
theorem Object.New.name_eq {object : Object} (h : object.New kind database l name) :
    object.item.name = name := by
  obtain ⟨id, item⟩ := h.item
  rw [item]
  rfl

theorem Item.within_new :
    Leads Hush (within kind name database (some l)) (New kind database l name) := by
  have drawn : Leads Hush (fresh kind name) fun item => ∃ id, item = free id kind name :=
    newId_hush.map fun id _ => ⟨id, rfl⟩
  exact drawn.map fun _ ⟨id, free⟩ => ⟨id, free ▸ rfl⟩

theorem Table.within_new : Leads Hush (within database (some l) name) fun t =>
    (Object.table t).New .table database l name :=
  (Item.within_new ..).map fun _ new => ⟨new, fun facet _ => by cases facet <;> exact nofun⟩

theorem View.within_new : Leads Hush (within database (some l) name) fun v =>
    (Object.view v).New .view database l name :=
  (Item.within_new ..).map fun _ new => ⟨new, fun facet _ => by cases facet <;> exact nofun⟩

theorem Procedure.within_new : Leads Hush (within database (some l) name) fun p =>
    (Object.procedure p).New .procedure database l name :=
  (Item.within_new ..).map fun _ new => ⟨new, fun facet _ => by cases facet <;> exact nofun⟩

end New

/-- What comes of each element may depend on the element. -/
theorem Leads.mapM_forall₂ {R : World → World → Prop} [Course R] {f : α → Engine β}
    {Q : β → α → Prop} (hf : ∀ a, Leads R (f a) (Q · a)) (as : List α) :
    Leads R (as.mapM f) (List.Forall₂ Q · as) := by
  induction as with
  | nil => exact .pure .nil
  | cons a rest ih =>
    rw [List.mapM_cons]
    exact (hf a).bind fun b hb => ih.map fun bs hbs => .cons hb hbs

namespace Database

/-- The objects of a database are new and made of rows. There is a table for each row of
a relation that says so, a view for each other row, and a procedure for each row of a
procedure, all of them in the order of the rows and with the names in them. -/
structure MadeOf (database : Database) (l : LoaderId) (relations procedures : List Row) :
    Prop where
  tables : List.Forall₂ (fun t row => (Object.table t).New .table database.id l ⟨row.text 1⟩)
    database.tables (relations.filter Row.isTable)
  views : List.Forall₂ (fun v row => (Object.view v).New .view database.id l ⟨row.text 1⟩)
    database.views (relations.filter (!·.isTable))
  procedures : List.Forall₂
    (fun p row => (Object.procedure p).New .procedure database.id l ⟨row.text 1⟩)
    database.procedures procedures

section MadeOf

variable {database : Database} {l : LoaderId} {relations procedures : List Row}

theorem MadeOf.table_names (h : database.MadeOf l relations procedures) :
    database.tables.map (·.name.raw) = (relations.filter Row.isTable).map (·.text 1) :=
  map_eq_of_forall₂ h.tables fun _ _ new => congrArg Identifier.raw new.name_eq

theorem MadeOf.view_names (h : database.MadeOf l relations procedures) :
    database.views.map (·.name.raw) = (relations.filter (!·.isTable)).map (·.text 1) :=
  map_eq_of_forall₂ h.views fun _ _ new => congrArg Identifier.raw new.name_eq

/-- Every relation is a table or a view, once. -/
theorem MadeOf.complete (h : database.MadeOf l relations procedures) :
    (database.tables.map (·.name.raw) ++ database.views.map (·.name.raw)).Perm
      (relations.map (·.text 1)) := by
  rw [h.table_names, h.view_names, ← List.map_append]
  exact (List.filter_append_perm ..).map _

end MadeOf

/-- The objects are made in the order of their names. -/
theorem withObjects_made (database : Database) (l : LoaderId) (relations procedures : List Row) :
    Leads Hush (database.withObjects l (namesIn relations procedures)) fun made =>
      made.MadeOf l relations procedures ∧ made = { database with
        tables := made.tables, views := made.views, procedures := made.procedures } := by
  have named (kept : String × Bool → Bool) :
      (((namesIn relations procedures).1.filter kept).map fun r => Identifier.ofCatalog r.1) =
        (relations.filter fun row => kept (row.text 1, row.isTable)).map fun row =>
          ⟨row.text 1⟩ := by
    unfold namesIn
    rw [List.filter_map, List.map_map]
    exact List.map_congr_left fun row _ => row.ofCatalog_text 1
  have procedureNames : (namesIn relations procedures).2.map Identifier.ofCatalog =
      procedures.map fun row => ⟨row.text 1⟩ := by
    unfold namesIn
    rw [List.map_map]
    exact List.map_congr_left fun row _ => row.ofCatalog_text 1
  unfold withObjects
  rw [named (·.2), named (!·.2), procedureNames]
  dsimp only
  refine (Leads.mapM_forall₂ (Table.within_new database.id l) _).bind fun tables ht => ?_
  refine (Leads.mapM_forall₂ (View.within_new database.id l) _).bind fun views hv => ?_
  refine (Leads.mapM_forall₂ (Procedure.within_new database.id l) _).map fun procedures hp => ?_
  exact ⟨⟨List.forall₂_map_right_iff.mp ht, List.forall₂_map_right_iff.mp hv,
    List.forall₂_map_right_iff.mp hp⟩, rfl⟩

end Database

namespace Client

variable {permits : Client → Step → Prop} {client : Client}

/-- Loading the objects of a database is all or nothing. If it fails, the database is the
one from before with all its objects, and nobody hears of it. If it succeeds, the database
has new objects, which are those that the catalog names, and it is announced once; nothing
else about it has changed. -/
theorem Reachable.loadObjects_whole (h : Reachable permits client) {database : Database}
    (hd : database ∈ client.workspace.everyDatabase) :
    let world := client.world
    let loaded := database.loadObjects world
    (∀ e, loaded.1.1 = .error e →
      loaded.1.2 = database ∧ loaded.2.deliveries = world.deliveries) ∧
    (loaded.1.1 = .ok () → ∃ l relations procedures, database.loader = some l ∧
      Database.Listing world l relations procedures ∧
      loaded.1.2.MadeOf l relations procedures ∧
      (loaded.1.2.tables.map (·.name.raw) ++ loaded.1.2.views.map (·.name.raw)).Perm
        (relations.map (·.text 1)) ∧
      database.item.Announced world loaded.1.2.item loaded.2 ∧
      loaded.1.2 = { database with
        item := loaded.1.2.item, tables := loaded.1.2.tables, views := loaded.1.2.views,
        procedures := loaded.1.2.procedures }) := by
  intro world loaded
  have upheld := h.upheld (coherence_admits permits)
  have settled : database.item.subject.Settled := by
    obtain ⟨_, _, place⟩ | ⟨_, _, _, _, _, place⟩ := h.inPlace.everyDatabase hd <;>
      exact place.item.settled
  have fetched (l : LoaderId) := Item.fetch_announced settled (Fetches.names.hush l) world
  have run : database.loadObjects world = loaded := rfl
  obtain ⟨-, e, alone⟩ | ⟨l, e, item, w, hl, hf, failed⟩ | ⟨l, names, item, w, hl, hf, done⟩ :=
    database.loadObjects_cases world
  · rw [← run, alone]
    exact ⟨fun _ _ => ⟨rfl, rfl⟩, nofun⟩
  · have fetched := fetched l
    rw [hf] at fetched
    obtain ⟨rfl, deliveries⟩ := fetched
    rw [← run, failed]
    exact ⟨fun _ _ => ⟨rfl, deliveries⟩, nofun⟩
  · have fetched := fetched l
    rw [hf] at fetched
    have knows : world.Knows l := (upheld.fits.everyDatabase database hd).item.knows l hl
    obtain ⟨relations, procedures, listing, rfl⟩ :=
      Database.listing_of_fetch upheld.upholds.sound knows hf
    have objects := Database.withObjects_made { database with item } l relations procedures
    obtain ⟨made, rest⟩ := objects.result w
    have quiet := objects.course w
    rw [← run, done]
    -- The objects are made after the announcement, and nobody hears of them once more.
    generalize Database.withObjects { database with item } l _ w = result at *
    have same : result.1.item = item := congrArg Database.item rest
    refine ⟨nofun, fun _ => ⟨l, relations, procedures, hl, listing, made, made.complete, ?_, ?_⟩⟩
    · rw [same]
      exact fetched.hush (Course.refl _) quiet
    · rw [same]
      exact rest

/-- Two tables and, between them, a view. -/
def relationRows : List Row :=
  [[.text "CUSTOMER   ", .null], [.text "PHONE_LIST ", .bytes [5, 2]],
    [.text "SALES      ", .null]]

theorem Reachable.loadObjects_whole_split :
    let world := (answering relationRows).world
    ∃ database ∈ (answering relationRows).workspace.everyDatabase,
      let loaded := database.loadObjects world
      loaded.1.2.tables.map (·.name.raw) = ["CUSTOMER", "SALES"] ∧
        loaded.1.2.views.map (·.name.raw) = ["PHONE_LIST"] ∧
        loaded.2.deliveries.length = world.deliveries.length + 1 := by
  have new : ((answering relationRows).workspace.everyDatabase.any fun database =>
      database.loader == some ⟨0⟩ && database.item.subject.locks == 0) = true := by
    decide +kernel
  obtain ⟨found, readRelations⟩ : ∃ found, relationRows.mapM Database.readRelation = .ok found :=
    exists_of_isOk (by decide +kernel)
  obtain ⟨others, readProcedures⟩ : ∃ others, relationRows.mapM (Row.trimmed · 1) = .ok others :=
    exists_of_isOk (by decide +kernel)
  have tables : (relationRows.filter Row.isTable).map (·.text 1) = ["CUSTOMER", "SALES"] := by
    decide +kernel
  have views : (relationRows.filter (!·.isTable)).map (·.text 1) = ["PHONE_LIST"] := by
    decide +kernel
  -- From here on only what the catalog answers matters.
  have reachable := answering_reachable relationRows
  have answer := answering_answer relationRows
  have idle := answering_idle relationRows
  generalize answering relationRows = client at *
  generalize relationRows = rows at *
  intro world
  obtain ⟨database, member, facts⟩ := List.any_eq_true.mp new
  simp only [Bool.and_eq_true, beq_iff_eq] at facts
  obtain ⟨loader, free⟩ := facts
  have ok : (database.loadObjects client.world).1.1 = .ok () :=
    Database.loadObjects_idle (idle _) loader (answer _ _) (answer _ _) readRelations
      readProcedures
  obtain ⟨l, relations, procedures, hl, listing, lists, -, announced, -⟩ :=
    (Reachable.loadObjects_whole reachable member).2 ok
  cases loader.symm.trans hl
  cases (answer _ _).symm.trans listing.relations
  refine ⟨database, member, lists.table_names.trans tables, lists.view_names.trans views, ?_⟩
  rw [(announced.unlocked free).2, List.length_append]
  rfl

end Client

end MetaCatalog
