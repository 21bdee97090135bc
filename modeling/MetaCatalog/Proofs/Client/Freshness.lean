import Mathlib.Data.List.Induction
import MetaCatalog.Proofs.Client.Lineage
import MetaCatalog.Proofs.Client.Loads
import MetaCatalog.Proofs.Framework.Executions

/-!
# Nothing is older than the columns

The keys, constraints and indices of a table may name its columns. They are
dropped whenever the columns have to be read, and by nothing that is done to a
table can they come back before the columns do (`Table.Follows`). So whatever was
done to a table, if the columns and one of these facets are there, the facet was
read later (`Table.columns_first`). `Table.after` is a table after a run of deeds in
worlds of any kind, and `Table.ReadBy` says which of the deeds read what is there.
-/

namespace MetaCatalog

/-- The facets that depend on the columns of a table. -/
def FacetKind.ofColumns : FacetKind → Bool
  | primaryKey | foreignKeys | checkConstraints | uniqueConstraints | indices => true
  | _ => false

/-- Whether the call reads the columns first. -/
def TableCall.needsColumns : TableCall → Bool
  | load .columns | read .columns | findColumn _ | insertStatement | procedureTemplate _ => true
  | _ => false

namespace Table

/-- Whether a facet is there. -/
def has (table : Table) (kind : FacetKind) : Bool := (table.part? kind).any (·.isLoaded)

/-! ## What is done to a table -/

/-- What is done to a table: a call in some world, or another loader. -/
inductive Deed where
  | call (call : TableCall) (world : World)
  | withLoader (loader : Option LoaderId)

/-- The table after a deed. -/
def Deed.apply (table : Table) : Deed → Table
  | call c world => (c.run table world).1.2
  | withLoader loader => table.withLoader loader

/-- The table after a few deeds. -/
def after (table : Table) (deeds : List Deed) : Table := deeds.foldl Deed.apply table

/-- What can become of a table in one deed. A facet that is there stays as it is, or
goes. When columns come that were not there, what depends on columns is gone. -/
structure Follows (t t' : Table) : Prop where
  kept : ∀ kind, t.has kind → t'.has kind → t'.part? kind = t.part? kind
  dropped : t.has .columns = false → t'.has .columns →
    ∀ kind, kind.ofColumns → t'.has kind = false

theorem has_map {t : Table} {kind : FacetKind} {facet : Facet α} {see : α → FacetValue}
    (h : t.part? kind = some (facet.map see)) : t.has kind = facet.isLoaded := by
  rw [has, h]
  cases facet <;> rfl

variable {t t' : Table}

/-- Nothing was read: each facet stays or goes. -/
theorem Follows.of_drop (h : ∀ kind, t'.part? kind = t.part? kind ∨ t'.has kind = false) :
    Follows t t' where
  kept kind _ there := (h kind).resolve_right fun gone => by
    rw [gone] at there
    cases there
  dropped absent there := by
    rcases h .columns with same | gone
    · rw [has, same, ← has, absent] at there
      cases there
    · rw [gone] at there
      cases there

theorem Follows.of_same (h : ∀ kind, t'.part? kind = t.part? kind) : Follows t t' :=
  .of_drop fun kind => .inl (h kind)

/-- One facet was read, and it was not the columns. -/
theorem Follows.of_one {kind : FacetKind} (other : kind ≠ .columns)
    (kept : t.has kind → t'.part? kind = t.part? kind)
    (same : ∀ k, k ≠ kind → t'.part? k = t.part? k) : Follows t t' where
  kept k there _ := by
    by_cases hk : k = kind
    · exact hk ▸ kept (hk ▸ there)
    · exact same k hk
  dropped absent there := by
    rw [has, same .columns other.symm, ← has, absent] at there
    cases there

/-- A facet other than the columns is loaded by the item of the table. -/
theorem follows_load {kind : FacetKind} {facet : Facet α} {see : α → FacetValue}
    (fetch : LoaderId → Query α) (rebuild : Item → Facet α → Table) (w : World)
    (part : t.part? kind = some (facet.map see) := by rfl)
    (run : (t.load kind w).1.2 = rebuild (t.item.load facet fetch w).1.item
      (t.item.load facet fetch w).1.facet := by rfl)
    (shows : ∀ i f, (rebuild i f).part? kind = some (f.map see) := by exact fun _ _ => rfl)
    (same : ∀ i f, ∀ k, k ≠ kind → (rebuild i f).part? k = t.part? k := by
      intro i f k hk
      cases k <;> first | rfl | exact absurd rfl hk)
    (other : kind ≠ .columns := by nofun) : Follows t (t.load kind w).1.2 := by
  rw [run]
  refine .of_one other (fun there => ?_) (same _ _)
  rw [has_map part] at there
  rw [shows, part, Item.load_loaded there]

/-- The columns are read only when they are not there, and what depends on them
is gone then. -/
theorem loadColumns_cases (t : Table) (w : World) :
    (t.has .columns = true ∧ t.loadColumns w = ((.ok (), t), w)) ∨
    (t.has .columns = false ∧ ∃ item columns, (t.loadColumns w).1.2 =
      { t.dropDependents with relation := { t.relation with item, columns } }) := by
  have there : t.has .columns = t.relation.columns.isLoaded := has_map rfl
  unfold loadColumns
  cases h : t.relation.columns.isLoaded
  · exact .inr ⟨there.trans h, _, _, rfl⟩
  · refine .inl ⟨there.trans h, ?_⟩
    rw [if_pos rfl, Engine.run_bind, Relation.loadColumns, Engine.run_bind,
      Item.load_loaded h]
    rfl

theorem loadColumns_runsOne (t : Table) (w : World) : w.RunsOne (t.loadColumns w).2 := by
  have runs := Item.load_runsOne (Relation.fetchColumns_runsOne t.item) t.item t.relation.columns w
  unfold loadColumns
  split <;> exact runs

theorem follows_loadColumns (t : Table) (w : World) : Follows t (t.loadColumns w).1.2 := by
  obtain ⟨-, run⟩ | ⟨absent, item, columns, run⟩ := t.loadColumns_cases w <;> rw [run]
  · exact .of_same fun _ => rfl
  refine ⟨fun kind there now => ?_, fun _ _ kind dependent => ?_⟩
  · cases kind with
    | columns =>
      rw [absent] at there
      cases there
    | primaryKey | foreignKeys | checkConstraints | uniqueConstraints | indices => cases now
    | _ => rfl
  · cases kind <;> first | rfl | cases dependent

theorem follows_facet (t : Table) (kind : FacetKind) (w : World) :
    Follows t (t.load kind w).1.2 := by
  cases kind with
  | columns => exact follows_loadColumns t w
  | primaryKey =>
    exact follows_load (fetchPrimaryKey t.item)
      (fun i f => { t.withItem i with primaryKey := f }) w
  | foreignKeys =>
    exact follows_load (fetchForeignKeys t.item)
      (fun i f => { t.withItem i with foreignKeys := f }) w
  | checkConstraints =>
    exact follows_load (fetchCheckConstraints t.item)
      (fun i f => { t.withItem i with checkConstraints := f }) w
  | uniqueConstraints =>
    exact follows_load (fetchUniqueConstraints t.item)
      (fun i f => { t.withItem i with uniqueConstraints := f }) w
  | indices =>
    exact follows_load (fetchIndices t.item) (fun i f => { t.withItem i with indices := f }) w
  | externalPath =>
    exact follows_load (fetchExternalPath t.item)
      (fun i f => { t.withItem i with externalPath := f }) w
  | description =>
    exact follows_load (Relation.fetchDescription Relation.descriptionSql t.item)
      (fun i f => { t with relation := { t.relation with item := i, description := f } }) w
  | source | parameters | privileges => exact .of_same fun _ => rfl

/-- Reading a facet loads it, and does nothing else to the table. -/
theorem read_table (t : Table) (kind : FacetKind) (w : World) :
    (t.read kind w).1.2 = (t.load kind w).1.2 ∧ (t.read kind w).2 = (t.load kind w).2 := by
  cases kind <;> exact ⟨rfl, rfl⟩

theorem part_dropAsked (asked : Option FacetKind) (kind : FacetKind) (facet : Facet α)
    (see : α → FacetValue) :
    some ((dropAsked asked kind facet).2.map see) = some (facet.map see) ∨
      (dropAsked asked kind facet).2 = .unloaded := by
  unfold dropAsked
  split
  · exact .inr rfl
  · exact .inl rfl

theorem part_drop (t : Table) (asked : Option FacetKind) (kind : FacetKind) :
    (t.drop asked).2.part? kind = t.part? kind ∨ (t.drop asked).2.has kind = false := by
  have gone {kind : FacetKind} {α : Type} {facet : Facet α} (see : α → FacetValue)
      (part : (t.drop asked).2.part? kind = some (facet.map see))
      (unloaded : facet = .unloaded) : (t.drop asked).2.has kind = false := by
    rw [has_map part, unloaded]
    rfl
  cases kind with
  | columns =>
    cases h : Relation.covers asked .columns
    · refine .inl (congrArg some (congrArg (Facet.map _) ?_))
      simp only [drop, Relation.drop, h, Bool.false_eq_true, if_false]
    · refine .inr (gone .columns rfl ?_)
      simp only [drop, Relation.drop, h, if_true, Facet.drop]
  | description =>
    cases h : Relation.covers asked .description
    · refine .inl (congrArg some (congrArg (Facet.map _) ?_))
      simp only [drop, Relation.drop, h, Bool.false_eq_true, if_false]
    · refine .inr (gone .description rfl ?_)
      simp only [drop, Relation.drop, h, if_true, Facet.drop]
  | primaryKey => exact (part_dropAsked asked _ t.primaryKey _).imp_right (gone .primaryKey rfl)
  | foreignKeys => exact (part_dropAsked asked _ t.foreignKeys _).imp_right (gone .foreignKeys rfl)
  | checkConstraints =>
    exact (part_dropAsked asked _ t.checkConstraints _).imp_right (gone .checkConstraints rfl)
  | uniqueConstraints =>
    exact (part_dropAsked asked _ t.uniqueConstraints _).imp_right (gone .uniqueConstraints rfl)
  | indices => exact (part_dropAsked asked _ t.indices _).imp_right (gone .indices rfl)
  | externalPath => exact (part_dropAsked asked _ t.externalPath _).imp_right (gone .text rfl)
  | source | parameters | privileges => exact .inl rfl

/-- The item of a table is none of its facets. -/
theorem part_withItem (t : Table) (item : Item) (kind : FacetKind) :
    (t.withItem item).part? kind = t.part? kind := by
  cases kind <;> rfl

theorem follows_invalidate (t : Table) (asked : Option FacetKind) (w : World) :
    Follows t (t.invalidate asked w).1 := by
  refine .of_drop fun kind => ?_
  have dropped := t.part_drop asked kind
  unfold invalidate
  rcases hd : t.drop asked with ⟨_ | _, t'⟩ <;> rw [hd] at dropped
  · exact dropped
  · have part : (t'.announce w).1.part? kind = t'.part? kind := part_withItem t' _ kind
    have there : (t'.announce w).1.has kind = t'.has kind := congrArg (·.any (·.isLoaded)) part
    rw [← part, ← there] at dropped
    exact dropped

theorem follows_invalidateIndices (t : Table) (name : Option String) (w : World) :
    Follows t (t.invalidateIndices name w).1 := by
  unfold invalidateIndices
  cases t.indices with
  | unloaded => exact .of_same fun _ => rfl
  | loading => exact .of_same fun _ => rfl
  | loaded indices =>
    dsimp only
    split
    · refine .of_drop fun kind => ?_
      cases kind <;> first | exact .inl rfl | exact .inr rfl
    · exact .of_same fun _ => rfl

/-- One case for each call. -/
theorem follows_call (t : Table) (call : TableCall) (w : World) :
    Follows t (call.run t w).1.2 := by
  cases call with
  | load kind => exact follows_facet t kind w
  | read kind => exact (t.read_table kind w).1 ▸ follows_facet t kind w
  | findColumn name => exact follows_loadColumns t w
  | insertStatement => exact follows_loadColumns t w
  | procedureTemplate usualCharset => exact follows_loadColumns t w
  | invalidate asked => exact follows_invalidate t asked w
  | invalidateIndices name => exact follows_invalidateIndices t name w
  | item call => exact .of_same fun kind => part_withItem t _ kind

theorem follows_deed (t : Table) (deed : Deed) : Follows t (deed.apply t) := by
  cases deed with
  | call call w => exact follows_call t call w
  | withLoader loader => exact .of_same fun kind => by cases kind <;> rfl

/-! ## Runs -/

/-- What is there of a kind after a run of deeds was read by the deed with the
index: it was not there before, and has stayed as it is since. -/
structure ReadBy (start : Table) (deeds : List Deed) (kind : FacetKind) (i : Nat) : Prop where
  bound : i < deeds.length
  absent : (start.after (deeds.take i)).has kind = false
  since : ∀ k, i < k → k ≤ deeds.length →
    (start.after (deeds.take k)).part? kind = (start.after deeds).part? kind

variable {start : Table} {deeds : List Deed} {kind : FacetKind}

theorem ReadBy.has {i k : Nat} (h : ReadBy start deeds kind i) (hk : i < k)
    (bound : k ≤ deeds.length) :
    (start.after (deeds.take k)).has kind = (start.after deeds).has kind := by
  rw [Table.has, h.since k hk bound, ← Table.has]

/-- Only one deed can have read what is there. -/
theorem ReadBy.unique {i j : Nat} (there : (start.after deeds).has kind)
    (hi : ReadBy start deeds kind i) (hj : ReadBy start deeds kind j) : i = j := by
  have not_lt {i j : Nat} (hi : ReadBy start deeds kind i) (hj : ReadBy start deeds kind j) :
      ¬ i < j := fun before => by
    have absent := hj.absent
    rw [hi.has before (Nat.le_of_lt hj.bound), there] at absent
    cases absent
  exact Nat.le_antisymm (Nat.not_lt.mp (not_lt hj hi)) (Nat.not_lt.mp (not_lt hi hj))

theorem after_snoc (start : Table) (deeds : List Deed) (deed : Deed) :
    start.after (deeds ++ [deed]) = deed.apply (start.after deeds) := by
  rw [after, List.foldl_append]
  rfl

/-- One more deed that does not touch what is there. -/
theorem ReadBy.snoc {i : Nat} {deed : Deed} (h : ReadBy start deeds kind i)
    (same : (start.after (deeds ++ [deed])).part? kind = (start.after deeds).part? kind) :
    ReadBy start (deeds ++ [deed]) kind i := by
  have prefix_take {k : Nat} (hk : k ≤ deeds.length) : (deeds ++ [deed]).take k = deeds.take k :=
    List.take_append_of_le_length hk
  refine ⟨?_, ?_, fun k hk bound => ?_⟩
  · rw [List.length_append]
    exact Nat.lt_add_right _ h.bound
  · rw [prefix_take (Nat.le_of_lt h.bound)]
    exact h.absent
  · rcases Nat.lt_or_ge deeds.length k with last | before
    · rw [List.take_of_length_le (by rw [List.length_append]; exact last)]
    · rw [prefix_take before, same]
      exact h.since k hk before

/-- By induction from the last deed: it has read what is there, or has left it. -/
theorem readBy_exists (blank : start.has kind = false) (there : (start.after deeds).has kind) :
    ∃ i, ReadBy start deeds kind i := by
  induction deeds using List.reverseRecOn with
  | nil =>
    rw [after, List.foldl_nil, blank] at there
    cases there
  | append_singleton deeds deed ih =>
    have follows := follows_deed (start.after deeds) deed
    rw [← after_snoc] at follows
    cases before : (start.after deeds).has kind with
    | true =>
      obtain ⟨i, read⟩ := ih before
      exact ⟨i, read.snoc (follows.kept kind before there)⟩
    | false =>
      refine ⟨deeds.length, ?_, ?_, fun k hk bound => ?_⟩
      · rw [List.length_append]
        exact Nat.lt_succ_self _
      · rw [List.take_left']
        · exact before
        · rfl
      · have all : (deeds ++ [deed]).length ≤ k := by
          rw [List.length_append]
          exact hk
        rw [List.take_of_length_le all]

/-- What depends on the columns was read after them. When the columns were read, it
was gone, and it has come since. -/
theorem readBy_lt {i j : Nat} (dependent : kind.ofColumns)
    (columns : (start.after deeds).has .columns) (there : (start.after deeds).has kind)
    (hi : ReadBy start deeds .columns i) (hj : ReadBy start deeds kind j) : i < j := by
  have next : i + 1 ≤ deeds.length := hi.bound
  have step : start.after (deeds.take (i + 1)) =
      deeds[i].apply (start.after (deeds.take i)) := by
    rw [List.take_add_one, List.getElem?_eq_getElem hi.bound]
    exact after_snoc ..
  have come := hi.has (Nat.lt_succ_self i) next
  rw [columns] at come
  have follows := follows_deed (start.after (deeds.take i)) deeds[i]
  rw [← step] at follows
  have gone := follows.dropped hi.absent come kind dependent
  refine Nat.lt_of_not_le fun before => ?_
  rw [hj.has (Nat.lt_succ_of_le before) next, there] at gone
  cases gone

/-! ## Reading the columns -/

theorem needsColumns_run {call : TableCall} (h : call.needsColumns) (t : Table) (w : World) :
    (call.run t w).1.2 = (t.loadColumns w).1.2 ∧ (call.run t w).2 = (t.loadColumns w).2 := by
  cases call with
  | load kind => cases kind <;> first | exact ⟨rfl, rfl⟩ | cases h
  | read kind => cases kind <;> first | exact ⟨rfl, rfl⟩ | cases h
  | findColumn name => exact ⟨rfl, rfl⟩
  | insertStatement => exact ⟨rfl, rfl⟩
  | procedureTemplate usualCharset => exact ⟨rfl, rfl⟩
  | _ => cases h

/-- What a call does that reads the columns first. -/
structure ColumnsRead (t : Table) (w : World) (t' : Table) (w' : World) : Prop where
  runs : w.RunsOne w'
  there : t.has .columns → t' = t ∧ w' = w
  dependents : ∀ kind, kind.ofColumns →
    t'.part? kind = if t.has .columns then t.part? kind else some .unloaded
  others : t'.part? .description = t.part? .description ∧
    t'.part? .externalPath = t.part? .externalPath

theorem columnsRead (t : Table) {call : TableCall} (h : call.needsColumns) (w : World) :
    ColumnsRead t w (call.run t w).1.2 (call.run t w).2 := by
  obtain ⟨table, world⟩ := needsColumns_run h t w
  rw [table, world]
  have runs := t.loadColumns_runsOne w
  obtain ⟨there, run⟩ | ⟨absent, item, columns, run⟩ := t.loadColumns_cases w
  · rw [run] at runs ⊢
    exact ⟨runs, fun _ => ⟨rfl, rfl⟩, fun _ _ => (if_pos there).symm, rfl, rfl⟩
  · refine ⟨runs, fun there => ?_, fun kind dependent => ?_, ?_⟩
    · rw [absent] at there
      cases there
    · rw [run, absent, if_neg Bool.false_ne_true]
      cases kind <;> first | rfl | cases dependent
    · rw [run]
      exact ⟨rfl, rfl⟩

end Table

/-! ## Tables of clients -/

/-- The table came about by deeds from a blank one. -/
def Table.Made (table : Table) : Prop :=
  ∃ item deeds, table = Table.after { relation := { item } } deeds

theorem Table.Made.deed {table : Table} (h : table.Made) (deed : Deed) :
    (deed.apply table).Made := by
  obtain ⟨item, deeds, rfl⟩ := h
  exact ⟨item, deeds ++ [deed], (after_snoc _ deeds deed).symm⟩

/-- Nothing happens to the tables of databases but deeds. -/
def Lineage.made : Lineage where
  table := Table.Made
  view _ := True
  procedure _ := True
  newTable item := ⟨item, [], rfl⟩
  newView _ := trivial
  newProcedure _ := trivial
  tableLoader h loader := h.deed (.withLoader loader)
  viewLoader _ _ := trivial
  procedureLoader _ _ := trivial
  tableCall h call w := h.deed (.call call w)
  viewCall _ _ _ := trivial
  procedureCall _ _ _ := trivial

/-- Keys, constraints and indices are never older than the columns. Whatever was
done to a table, if the columns are there and something that depends on them, then
each was read by one of the deeds, and the columns were read by the earlier one.
A call that reads the columns runs one query at most; it does nothing if the
columns are there, and drops what depends on them if not, but leaves the
description and the external file. Every table of a client came about in this
way. -/
theorem Table.columns_first (item : Item) (deeds : List Table.Deed) :
    let start : Table := { relation := { item } }
    (∀ kind : FacetKind, kind.ofColumns → (start.after deeds).has .columns →
      (start.after deeds).has kind → ∃ i j, i < j ∧
        (∀ n, Table.ReadBy start deeds .columns n ↔ n = i) ∧
        ∀ n, Table.ReadBy start deeds kind n ↔ n = j) ∧
    (∀ (t : Table) (call : TableCall) (w : World), call.needsColumns →
      Table.ColumnsRead t w (call.run t w).1.2 (call.run t w).2) ∧
    ∀ (permits : Client → Step → Prop) (client : Client), Client.Reachable permits client →
      ∀ t, Object.table t ∈ client.workspace.everyObject → t.Made := by
  refine ⟨fun kind dependent columns there => ?_, fun t call w needs => t.columnsRead needs w,
    fun permits client h t ht => h.lineage .made _ ht⟩
  have blank (kind : FacetKind) : Table.has { relation := { item } } kind = false := by
    cases kind <;> rfl
  obtain ⟨i, hi⟩ := Table.readBy_exists (blank .columns) columns
  obtain ⟨j, hj⟩ := Table.readBy_exists (blank kind) there
  refine ⟨i, j, Table.readBy_lt dependent columns there hi hj, fun n => ⟨fun hn => ?_, ?_⟩,
    fun n => ⟨fun hn => ?_, ?_⟩⟩
  · exact hn.unique columns hi
  · rintro rfl
    exact hi
  · exact hn.unique there hj
  · rintro rfl
    exact hj

/-- The columns and the primary key are loaded, the columns are dropped and read
again by looking for one of them, and then the indices are read. The primary key
that was read for the older columns is gone. -/
theorem Table.columns_first_reloaded :
    let world := ((Client.start 0).after [.openCatalog "main" "test.fdb" "SYSDBA" "masterkey",
      .newLoader "l" "main"]).world
    let start : Table := { relation := { item := .free .nil .table (.ofCatalog "T") } }
    let deeds : List Table.Deed := [.withLoader (some ⟨0⟩), .call (.load .columns) world,
      .call (.load .primaryKey) world, .call (.invalidate (some .columns)) world,
      .call (.findColumn "A") world, .call (.read .indices) world]
    (start.after deeds).has .primaryKey = false ∧ (start.after (deeds.take 4)).has .primaryKey ∧
      ∃ i j, i < j ∧ Table.ReadBy start deeds .columns i ∧ Table.ReadBy start deeds .indices j := by
  intro world start deeds
  have columns : (start.after deeds).has .columns = true := by decide +kernel
  have indices : (start.after deeds).has .indices = true := by decide +kernel
  have gone : (start.after deeds).has .primaryKey = false := by decide +kernel
  have loaded : (start.after (deeds.take 4)).has .primaryKey = true := by decide +kernel
  refine ⟨gone, loaded, ?_⟩
  obtain ⟨fresh, -⟩ := Table.columns_first (.free .nil .table (.ofCatalog "T")) deeds
  obtain ⟨i, j, before, ofColumns, ofIndices⟩ := fresh .indices rfl columns indices
  exact ⟨i, j, before, (ofColumns i).mpr rfl, (ofIndices j).mpr rfl⟩

end MetaCatalog
