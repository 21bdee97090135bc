import MetaCatalog.Proofs.Client.Freshness
import MetaCatalog.Proofs.Client.Invalidations

/-!
# What a failed load costs

A load that fails leaves all facets as they were (`Object.At.failed_load`), except that of
a table's columns. There the facets that depend on columns have been dropped before it is
known whether there will be new columns, so they are lost to a load that brought nothing
(`Table.ColumnsFailed`). `Client.Reachable.failed_columns` says both of whatever a client
has.
-/

namespace MetaCatalog

namespace Object

variable {place : Place} {object : Object} {kind : FacetKind}

/-- A facet is not there because it is not loaded; none is just being read. -/
theorem At.part_of_absent (h : object.At place) {facet : Facet FacetValue}
    (part : object.part? kind = some facet) (absent : object.has kind = false) :
    facet = .unloaded := by
  have rests := h.part part
  rw [has, part] at absent
  cases facet with
  | unloaded => rfl
  | loading => exact absurd rfl rests.ne_loading
  | loaded value => cases absent

/-- There is nothing to load of a kind that such objects do not have. -/
theorem load_absent (absent : object.part? kind = none) :
    object.load kind = pure (.ok (), object) := by
  cases object <;> cases kind <;> first | rfl | cases absent

/-- Only a facet that is not loaded can fail to load. -/
theorem At.unloaded_of_failed (h : object.At place) {w : World} {e : Error}
    (failed : (object.load kind w).1.1 = .error e) : object.part? kind = some .unloaded := by
  cases part : object.part? kind with
  | none =>
    rw [load_absent part] at failed
    cases failed
  | some facet =>
    cases facet with
    | unloaded => rfl
    | loading => exact absurd part (h.part_ne_loading kind)
    | loaded value =>
      rw [(h.loads kind w).loaded value part] at failed
      cases failed

/-- A load that fails leaves all facets as they were, if it may change no other facet
than the one it is to load. -/
theorem At.failed_load (h : object.At place) (alone : object.touches kind = [kind]) {w : World}
    {e : Error} (failed : (object.load kind w).1.1 = .error e) (other : FacetKind) :
    (object.load kind w).1.2.part? other = object.part? other := by
  have loads := h.loads kind w
  have unloaded := h.unloaded_of_failed failed
  by_cases same : other = kind
  · rw [same, unloaded]
    exact (loads.error unloaded e failed).1
  · refine loads.others other fun touched => same ?_
    rw [alone] at touched
    exact List.mem_singleton.mp touched

end Object

/-! ## The columns of a table -/

namespace Table

/-- What a failed load of the columns leaves of a table. There were no columns; whatever
depends on columns is gone, and the other facets are as they were. -/
structure ColumnsFailed (t t' : Table) (e : Error) : Prop where
  absent : t.has .columns = false
  dropped : ∀ kind : FacetKind, kind.ofColumns → t'.part? kind = some .unloaded
  kept : ∀ kind : FacetKind, kind.ofColumns = false → t'.part? kind = t.part? kind
  item : t'.item = { t.item with lastError := some e.message }

theorem At.columnsFailed {place : Place} {t : Table} (h : t.At place) {w : World} {e : Error}
    (failed : (t.loadColumns w).1.1 = .error e) :
    t.ColumnsFailed (t.loadColumns w).1.2 e ∧ (t.loadColumns w).2.deliveries = w.deliveries := by
  have place : (Object.table t).At place := h
  have failed : ((Object.table t).load .columns w).1.1 = .error e := failed
  have unloaded := place.unloaded_of_failed failed
  have loads := place.loads .columns w
  obtain ⟨columns, item, deliveries⟩ := loads.error unloaded e failed
  have absent : t.has .columns = false := by
    rw [has, show t.part? .columns = _ from unloaded]
    rfl
  refine ⟨⟨absent, fun kind dependent => ?_, fun kind other => ?_, item⟩, deliveries⟩
  · have reads : (TableCall.load .columns).needsColumns := rfl
    have dropped := (t.columnsRead reads w).dependents kind dependent
    rw [absent, if_neg Bool.false_ne_true] at dropped
    exact dropped
  · by_cases same : kind = .columns
    · rw [same]
      exact columns.trans unloaded.symm
    · refine loads.others kind ?_
      cases kind <;> simp_all [Object.touches, FacetKind.ofColumns]

/-- What depends on columns has survived a failed load of them if and only if none of it
was there. -/
theorem ColumnsFailed.same_iff {place : Place} {t t' : Table} {e : Error}
    (failed : t.ColumnsFailed t' e) (h : t.At place) :
    (∀ kind : FacetKind, kind.ofColumns → t'.part? kind = t.part? kind) ↔
      ∀ kind : FacetKind, kind.ofColumns → t.has kind = false := by
  refine forall_congr' fun kind => imp_congr_right fun dependent => ?_
  rw [failed.dropped kind dependent]
  constructor
  · intro same
    rw [has, ← same]
    rfl
  · intro absent
    have part : ∃ facet, (Object.table t).part? kind = some facet := by
      cases kind <;> first | exact ⟨_, rfl⟩ | cases dependent
    obtain ⟨facet, part⟩ := part
    have place : (Object.table t).At place := h
    rw [place.part_of_absent part absent] at part
    exact part.symm

end Table

/-! ## Clients -/

namespace Client

/-- A failed load costs nothing but in one case, whatever a client has and whatever it has
done. Loading the columns of a table fails only if they are not there, and then the keys,
the constraints and the indices of the table are gone, as if columns had been read; so they
are as they were if and only if none of them was there. The other facets stay, the table
has the text of the error, and no observer hears of it. Any other load that fails leaves
all facets as they were. -/
theorem Reachable.failed_columns {permits : Client → Step → Prop} {client : Client}
    (h : Reachable permits client) (w : World) :
    (∀ t, .table t ∈ client.workspace.everyObject → ∀ e, (t.loadColumns w).1.1 = .error e →
      t.ColumnsFailed (t.loadColumns w).1.2 e ∧
      (t.loadColumns w).2.deliveries = w.deliveries ∧
      ((∀ kind : FacetKind, kind.ofColumns →
          (t.loadColumns w).1.2.part? kind = t.part? kind) ↔
        ∀ kind : FacetKind, kind.ofColumns → t.has kind = false)) ∧
    ∀ object ∈ client.workspace.everyObject, ∀ kind,
      (kind = .columns → ∀ t, object ≠ .table t) → ∀ e, (object.load kind w).1.1 = .error e →
        ∀ other, (object.load kind w).1.2.part? other = object.part? other := by
  refine ⟨fun t ht e failed => ?_, fun object ho kind noColumns e failed => ?_⟩
  · obtain ⟨_, place⟩ := h.inPlace.everyObject ht
    obtain ⟨lost, deliveries⟩ := Table.At.columnsFailed place failed
    exact ⟨lost, deliveries, lost.same_iff place⟩
  · obtain ⟨_, place⟩ := h.inPlace.everyObject ho
    have alone : object.touches kind = [kind] := by
      cases object with
      | table t =>
        cases kind with
        | columns => exact absurd rfl (noColumns rfl t)
        | _ => rfl
      | view v => rfl
      | procedure p => rfl
    exact place.failed_load alone failed

/-- A client that has lost its connection after the primary key of a table was read. -/
def disconnected : Client := (Client.start 0).after
  [.openCatalog "main" "test.fdb" "SYSDBA" "masterkey",
    .newDatabase "db" none (.ofCatalog "DB") "test.fdb", .connect "db" "main",
    .database "db" (.addTable (.ofCatalog "T")),
    .table { database := some "db", table := some "T" } (.load .primaryKey),
    .script "main" (.connected false)]

theorem disconnected_reachable : Reachable (fun _ _ => True) disconnected :=
  Reachable.after (.start 0) fun _ _ _ => trivial

/-- The first object is a table that has its primary key, and loading its columns
fails. -/
theorem table_of_first {client : Client}
    (one : (client.workspace.everyObject.head?.any fun object =>
      object.has .primaryKey && !(object.load .columns client.world).1.1.isOk) = true) :
    ∃ t, .table t ∈ client.workspace.everyObject ∧ t.has .primaryKey = true ∧
      ∃ e, (t.loadColumns client.world).1.1 = .error e := by
  obtain ⟨object, first, facts⟩ := (Option.any_eq_true _ _).mp one
  rw [Bool.and_eq_true, Bool.not_eq_true'] at facts
  obtain ⟨key, fails⟩ := facts
  cases object with
  | table t =>
    refine ⟨t, List.mem_of_mem_head? first, key, ?_⟩
    have fails : (t.loadColumns client.world).1.1.isOk = false := fails
    cases outcome : (t.loadColumns client.world).1.1 with
    | error e => exact ⟨e, rfl⟩
    | ok _ =>
      rw [outcome] at fails
      cases fails
  | view v => cases key
  | procedure p => cases key

theorem disconnected_table : ∃ t, .table t ∈ disconnected.workspace.everyObject ∧
    t.has .primaryKey = true ∧ ∃ e, (t.loadColumns disconnected.world).1.1 = .error e :=
  table_of_first (by decide +kernel)

/-- The primary key of the table is lost to a load that fails. -/
theorem Reachable.failed_columns_disconnected : ∃ t, .table t ∈ disconnected.workspace.everyObject ∧
    t.has .primaryKey = true ∧
    (t.loadColumns disconnected.world).1.2.part? .primaryKey = some .unloaded := by
  obtain ⟨t, ht, key, e, failed⟩ := disconnected_table
  obtain ⟨columns, -⟩ := Reachable.failed_columns disconnected_reachable disconnected.world
  obtain ⟨lost, -⟩ := columns t ht e failed
  exact ⟨t, ht, key, lost.dropped .primaryKey rfl⟩

/-- It is not so that a failed load of the columns leaves what depends on them. -/
theorem failed_columns_lose : ¬ ∀ client, Reachable (fun _ _ => True) client →
    ∀ t, .table t ∈ client.workspace.everyObject → ∀ e,
      (t.loadColumns client.world).1.1 = .error e →
      ∀ kind : FacetKind, kind.ofColumns →
        (t.loadColumns client.world).1.2.part? kind = t.part? kind := by
  intro kept
  obtain ⟨t, ht, key, e, failed⟩ := disconnected_table
  obtain ⟨_, place⟩ := disconnected_reachable.inPlace.everyObject ht
  obtain ⟨lost, -⟩ := Table.At.columnsFailed place failed
  have absent := (lost.same_iff place).mp (kept disconnected disconnected_reachable t ht e failed)
  rw [absent .primaryKey rfl] at key
  cases key

end Client

end MetaCatalog
