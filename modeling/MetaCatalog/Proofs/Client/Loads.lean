import MetaCatalog.Proofs.Client.Ownership

/-!
# What loading a facet does

A load of a facet that is there does nothing. Any other one either succeeds, and
then the item announces it once (`Item.Announced`), or fails, and then the item
has the error and nobody hears of it (`Item.failed`). `Object.Loads` is the whole
contract, and `Client.Reachable.load_contract` says that it holds for every table, view
and procedure that a client can have.
-/

namespace MetaCatalog

open World (Hush Course)

/-! ## Fetching for an item -/

namespace Item

/-- The item was announced once, and otherwise stayed as it was: if it is locked
the announcement is pending, else the observers that are alive have heard it. -/
structure Announced (item : Item) (w : World) (item' : Item) (w' : World) : Prop where
  rest : item' = { item with subject := item'.subject }
  locked : 0 < item.subject.locks →
    item'.subject = { item.subject with pending := true } ∧ w'.deliveries = w.deliveries
  unlocked : item.subject.locks = 0 →
    item'.subject = item.subject.prune w.isAlive ∧ w'.deliveries =
      w.deliveries ++ [⟨item.id, item.subject.observers.filter w.isAlive⟩]

variable {item : Item}

/-- A lock under which nothing happens leaves no trace. -/
theorem run_unlock_lock (settled : item.subject.Settled) (w : World) :
    item.lock.unlock w = (item, w) := by
  have quiet : item.subject.lock.unlock = (false, item.subject) :=
    if_neg fun due => Nat.ne_of_gt (settled due.2) due.1
  show (World.deliverIf item.subject.lock.unlock >>= fun subject =>
    Pure.pure { item.lock with subject }) w = _
  rw [quiet]
  rfl

/-- The item announces itself under a lock, and lets go of the lock. -/
def announceLocked (item : Item) : Engine Item := do (← item.lock.announce).unlock

/-- An announcement that is made under a lock comes out with the lock. -/
theorem announced_announceLocked (settled : item.subject.Settled) (w : World) :
    item.Announced w (item.announceLocked w).1 (item.announceLocked w).2 := by
  have held : item.subject.lock.announce = (false, { item.subject.lock with pending := true }) :=
    if_pos (decide_eq_true (Nat.succ_pos _))
  have run : item.announceLocked w = (do
      let subject ← World.deliverIf (Subject.unlock { item.subject.lock with pending := true })
      Pure.pure { item with subject } : Engine Item) w := by
    show ((World.deliverIf item.subject.lock.announce >>= fun subject =>
      Pure.pure { item.lock with subject } : Engine Item) >>= fun item => item.unlock) w = _
    rw [held]
    rfl
  rw [run]
  rcases Nat.eq_zero_or_pos item.subject.locks with free | locked
  · have quiet : item.subject.pending = false :=
      Bool.eq_false_iff.mpr fun pending => Nat.ne_of_gt (settled pending) free
    have due : Subject.unlock { item.subject.lock with pending := true } =
        (true, item.subject) := by
      refine (if_pos ⟨free, rfl⟩).trans ?_
      show (true, { item.subject with pending := false }) = _
      rw [← quiet]
    rw [due]
    exact ⟨rfl, fun locked => absurd free (Nat.ne_of_gt locked), fun _ => ⟨rfl, rfl⟩⟩
  · have still : Subject.unlock { item.subject.lock with pending := true } =
        (false, { item.subject with pending := true }) :=
      if_neg fun due => Nat.ne_of_gt locked due.1
    rw [still]
    exact ⟨rfl, fun _ => ⟨rfl, rfl⟩, fun free => absurd free (Nat.ne_of_gt locked)⟩

/-- Whoever is alive is so after what nobody heard of. -/
theorem Announced.hush {w w' v v' : World} {item' : Item} (h : item.Announced w item' w')
    (before : v.Hush w) (after : w'.Hush v') : item.Announced v item' v' := by
  have alive : w.isAlive = v.isAlive := by
    unfold World.isAlive
    rw [before.observers]
  refine ⟨h.rest, fun locked => ?_, fun free => ?_⟩
  · obtain ⟨subject, deliveries⟩ := h.locked locked
    exact ⟨subject, after.deliveries.trans (deliveries.trans before.deliveries)⟩
  · obtain ⟨subject, deliveries⟩ := h.unlocked free
    rw [alive] at subject deliveries
    rw [before.deliveries] at deliveries
    exact ⟨subject, after.deliveries.trans deliveries⟩

/-- What a fetch does to the item: a value is announced once, and an error is
not heard of. -/
theorem fetch_announced {l : LoaderId} {fetch : LoaderId → Query α}
    (settled : item.subject.Settled) (hq : Yields Hush (fetch l) fun _ => True) (w : World) :
    match item.fetch l fetch w with
    | ((.ok _, item'), w') => item.Announced w item' w'
    | ((.error _, item'), w') => item' = item ∧ w'.deliveries = w.deliveries := by
  have entered := (enter_hush l).course w
  rw [run_fetch]
  rcases he : l.enter.run w with ⟨e | ⟨⟩, w₁⟩ <;> rw [show l.enter.run w = _ from he] at entered
  · exact ⟨rfl, entered.deliveries⟩
  · have fetched := hq.course w₁
    rcases hf : (fetch l).run w₁ with ⟨e | a, w₂⟩ <;>
      rw [show (fetch l).run w₁ = _ from hf] at fetched
    · have run : item.readLocked (fetch l) w₁ = ((.error e, item), w₂) := by
        unfold readLocked
        rw [Engine.run_bind, hf]
        dsimp only
        rw [Engine.run_bind, run_unlock_lock settled]
        rfl
      dsimp only
      rw [run]
      have left := (leave_hush l).course w₂
      exact ⟨rfl, left.deliveries.trans (fetched.deliveries.trans entered.deliveries)⟩
    · have run : item.readLocked (fetch l) w₁ =
          ((.ok a, (item.announceLocked w₂).1), (item.announceLocked w₂).2) := by
        unfold readLocked
        rw [Engine.run_bind, hf]
        rfl
      dsimp only
      rw [run]
      exact (announced_announceLocked settled w₂).hush (Course.trans entered fetched)
        ((leave_hush l).course _)

/-- What came of loading a facet that was not there. -/
structure LoadedAs (item : Item) (w : World) (r : Loaded α) (w' : World) : Prop where
  ok : r.outcome = .ok () → (∃ a, r.facet = .loaded a) ∧ item.Announced w r.item w'
  error : ∀ e, r.outcome = .error e →
    r.facet = .unloaded ∧ r.item = item.failed e ∧ w'.deliveries = w.deliveries

theorem load_loaded {facet : Facet α} (h : facet.isLoaded = true) (fetch : LoaderId → Query α)
    (w : World) : item.load facet fetch w = (⟨.ok (), item, facet⟩, w) := by
  unfold load
  rw [if_pos h]
  rfl

theorem load_unloaded {facet : Facet α} {fetch : LoaderId → Query α}
    (settled : item.subject.Settled) (h : facet.isLoaded = false)
    (hq : ∀ l, Yields Hush (fetch l) fun _ => True) (w : World) :
    item.LoadedAs w (item.load facet fetch w).1 (item.load facet fetch w).2 := by
  unfold load requireLoader
  rw [if_neg (by rw [h]; exact Bool.false_ne_true)]
  cases item.loader with
  | none =>
    refine ⟨nofun, ?_⟩
    rintro _ ⟨⟩
    exact ⟨rfl, rfl, rfl⟩
  | some l =>
    have fetched := fetch_announced settled (hq l) w
    dsimp only
    rw [Engine.run_bind]
    rcases hf : item.fetch l fetch w with ⟨⟨e | a, item'⟩, w'⟩ <;> rw [hf] at fetched
    · obtain ⟨same, deliveries⟩ := fetched
      refine ⟨nofun, ?_⟩
      rintro _ ⟨⟩
      exact ⟨rfl, congrArg (·.failed e) same, deliveries⟩
    · exact ⟨fun _ => ⟨⟨a, rfl⟩, fetched⟩, nofun⟩

end Item

/-! ## Loading a facet of an object -/

theorem Facet.isLoaded_of_map_loaded {facet : Facet α} {see : α → β} {b : β}
    (h : facet.map see = .loaded b) : facet.isLoaded = true := by
  cases facet with
  | loaded a => rfl
  | unloaded => cases h
  | loading => cases h

theorem Procedure.loadParameters_of_isLoaded {p : Procedure} (h : p.parameters.isLoaded = true)
    (w : World) : p.loadParameters w = ((.ok (), p), w) := by
  unfold loadParameters
  rw [Engine.run_bind, Item.load_loaded h]
  rfl

namespace Object

/-- The facets that loading a facet may change. When the columns of a table are
loaded, these are all that depend on columns. -/
def touches : Object → FacetKind → List FacetKind
  | table _, .columns => [.columns, .primaryKey, .foreignKeys, .checkConstraints,
      .uniqueConstraints, .indices]
  | _, kind => [kind]

/-- What loading a facet does. If the facet is there, it does nothing. Otherwise
it succeeds with the facet in place and one announcement, or it fails without the
facet and without an announcement, and leaves the text of the error. No other
facet changes, and none is left in between. -/
structure Loads (object : Object) (kind : FacetKind) (w : World) : Prop where
  loaded : ∀ value, object.part? kind = some (.loaded value) →
    object.load kind w = ((.ok (), object), w)
  ok : object.part? kind = some .unloaded → (object.load kind w).1.1 = .ok () →
    (∃ value, (object.load kind w).1.2.part? kind = some (.loaded value)) ∧
      object.item.Announced w (object.load kind w).1.2.item (object.load kind w).2
  error : object.part? kind = some .unloaded → ∀ e, (object.load kind w).1.1 = .error e →
    (object.load kind w).1.2.part? kind = some .unloaded ∧
      (object.load kind w).1.2.item = { object.item with lastError := some e.message } ∧
      (object.load kind w).2.deliveries = w.deliveries
  others : ∀ other ∉ object.touches kind,
    (object.load kind w).1.2.part? other = object.part? other
  settled : ∀ other, (object.load kind w).1.2.part? other ≠ some .loading

variable {place : Place} {object : Object} {kind : FacetKind}

/-- No part of an object in its place is just being read. -/
theorem At.part_ne_loading (h : object.At place) (kind : FacetKind) :
    object.part? kind ≠ some .loading := fun hf => (h.part hf).ne_loading rfl

/-- A facet that such objects do not have. -/
theorem loads_of_absent (h : object.At place) (absent : object.part? kind = none)
    (run : object.load kind = pure (.ok (), object)) (w : World) : object.Loads kind w := by
  have run : object.load kind w = ((.ok (), object), w) := by rw [run]; rfl
  refine ⟨fun _ _ => run, ?_, ?_, ?_, ?_⟩ <;> rw [run]
  · exact fun there => nomatch absent.symm.trans there
  · exact fun there => nomatch absent.symm.trans there
  · exact fun _ _ => rfl
  · exact h.part_ne_loading

/-- A facet that is loaded by the item of the object. `rebuild` puts the item and
the facet back, as the definitions of the object's load and parts say. -/
theorem loads_of_item (facet : Facet α) (see : α → FacetValue) {fetch : LoaderId → Query α}
    (rebuild : Item → Facet α → Object) (h : object.At place)
    (hq : ∀ l, Yields Hush (fetch l) fun _ => True) (w : World)
    (part : object.part? kind = some (facet.map see) := by rfl)
    (run : (object.load kind = do
      let r ← object.item.load facet fetch
      pure (r.outcome, rebuild r.item r.facet)) := by rfl)
    (item : ∀ i f, (rebuild i f).item = i := by exact fun _ _ => rfl)
    (shows : ∀ i f, (rebuild i f).part? kind = some (f.map see) := by exact fun _ _ => rfl)
    (same : facet.isLoaded = true → rebuild object.item facet = object := by exact fun _ => rfl)
    (others : ∀ i f, ∀ other ∉ object.touches kind,
      (rebuild i f).part? other = object.part? other := by
        intro i f other ho
        cases other <;> first | rfl | exact absurd List.mem_cons_self ho) :
    object.Loads kind w := by
  have ran : object.load kind w =
      (((object.item.load facet fetch w).1.outcome,
        rebuild (object.item.load facet fetch w).1.item (object.item.load facet fetch w).1.facet),
        (object.item.load facet fetch w).2) := by
    rw [run]
    rfl
  have read (unloaded : object.part? kind = some .unloaded) :
      object.item.LoadedAs w (object.item.load facet fetch w).1
        (object.item.load facet fetch w).2 :=
    Item.load_unloaded h.item.settled
      (Facet.isLoaded_of_map (Option.some.inj (part.symm.trans unloaded))) hq w
  refine ⟨fun value there => ?_, fun unloaded ho => ?_, fun unloaded e he => ?_, fun other ho => ?_,
    (((h.load kind).result w).part_ne_loading ·)⟩
  · have isLoaded := Facet.isLoaded_of_map_loaded (Option.some.inj (part.symm.trans there))
    rw [ran, Item.load_loaded isLoaded]
    dsimp only
    rw [same isLoaded]
  · rw [ran] at ho ⊢
    obtain ⟨⟨a, loaded⟩, announced⟩ := (read unloaded).ok ho
    refine ⟨⟨see a, ?_⟩, ?_⟩
    · rw [shows, loaded]
      rfl
    · rw [item]
      exact announced
  · rw [ran] at he ⊢
    obtain ⟨dropped, failed, deliveries⟩ := (read unloaded).error e he
    refine ⟨?_, ?_, deliveries⟩
    · rw [shows, dropped]
      rfl
    · rw [item, failed]
      rfl
  · rw [ran]
    exact others _ _ other ho

theorem fetchColumns_hush (item : Item) (l : LoaderId) :
    Yields Hush (Relation.fetchColumns item l) fun _ => True :=
  (Relation.fetchColumns_yields item l).mono fun _ _ => trivial

theorem fetchParameters_hush (item : Item) (l : LoaderId) :
    Yields Hush (Procedure.fetchParameters item l) fun _ => True :=
  (Procedure.fetchParameters_yields item l).mono fun _ _ => trivial

/-- Loading the columns of a table drops what depends on them, unless they are
there. -/
theorem loads_table_columns {t : Table} (h : (table t).At place) (w : World) :
    (table t).Loads .columns w := by
  refine loads_of_item t.relation.columns .columns (fun i f => table
    { (if t.relation.columns.isLoaded then t else t.dropDependents) with
      relation := { t.relation with item := i, columns := f } })
    h (fetchColumns_hush t.item) w rfl ?_ (fun _ _ => rfl) (fun _ _ => rfl) ?_ ?_
  · show (do let r ← t.loadColumns; pure (r.1, table r.2)) = _
    unfold Table.loadColumns
    split <;> rfl
  · intro there
    rw [if_pos there]
    rfl
  · intro i f other ho
    simp only [touches, List.mem_cons, List.not_mem_nil, or_false, not_or] at ho
    obtain ⟨columns, primaryKey, foreignKeys, checkConstraints, uniqueConstraints, indices⟩ := ho
    split <;> cases other <;> first | rfl | contradiction

theorem loads_table {t : Table} (h : (table t).At place) (kind : FacetKind) (w : World) :
    (table t).Loads kind w := by
  cases kind with
  | columns => exact loads_table_columns h w
  | primaryKey =>
    exact loads_of_item t.primaryKey .primaryKey
      (fun i f => table { t.withItem i with primaryKey := f }) h (Fetches.primaryKey _).hush w
  | foreignKeys =>
    exact loads_of_item t.foreignKeys .foreignKeys
      (fun i f => table { t.withItem i with foreignKeys := f }) h (Fetches.foreignKeys _).hush w
  | checkConstraints =>
    exact loads_of_item t.checkConstraints .checkConstraints
      (fun i f => table { t.withItem i with checkConstraints := f }) h
      (Fetches.checkConstraints _).hush w
  | uniqueConstraints =>
    exact loads_of_item t.uniqueConstraints .uniqueConstraints
      (fun i f => table { t.withItem i with uniqueConstraints := f }) h
      (Fetches.uniqueConstraints _).hush w
  | indices =>
    exact loads_of_item t.indices .indices
      (fun i f => table { t.withItem i with indices := f }) h (Fetches.indices _).hush w
  | externalPath =>
    exact loads_of_item t.externalPath .text
      (fun i f => table { t.withItem i with externalPath := f }) h (Fetches.externalPath _).hush w
  | description =>
    exact loads_of_item t.relation.description .description
      (fun i f => table { t with relation := { t.relation with item := i, description := f } }) h
      (Fetches.description .description _).hush w
  | source | parameters | privileges => exact loads_of_absent h rfl rfl w

theorem loads_view {v : View} (h : (view v).At place) (kind : FacetKind) (w : World) :
    (view v).Loads kind w := by
  cases kind with
  | columns =>
    exact loads_of_item v.relation.columns .columns
      (fun i f => view { v with relation := { v.relation with item := i, columns := f } }) h
      (fetchColumns_hush v.item) w
  | source =>
    exact loads_of_item v.source .text (fun i f => view { v.withItem i with source := f }) h
      (Fetches.viewSource _).hush w
  | description =>
    exact loads_of_item v.relation.description .description
      (fun i f => view { v with relation := { v.relation with item := i, description := f } }) h
      (Fetches.description .description _).hush w
  | primaryKey | foreignKeys | checkConstraints | uniqueConstraints | indices | externalPath
  | parameters | privileges => exact loads_of_absent h rfl rfl w

theorem loads_procedure {p : Procedure} (h : (procedure p).At place) (kind : FacetKind)
    (w : World) : (procedure p).Loads kind w := by
  cases kind with
  | parameters =>
    exact loads_of_item p.parameters .parameters
      (fun i f => procedure { p with item := i, parameters := f }) h (fetchParameters_hush p.item) w
  | source =>
    exact loads_of_item p.source .text (fun i f => procedure { p with item := i, source := f }) h
      (Fetches.procedureSource _).hush w
  | privileges =>
    exact loads_of_item p.privileges .privileges
      (fun i f => procedure { p with item := i, privileges := f }) h (Fetches.privileges _).hush w
  | description =>
    exact loads_of_item p.description .description
      (fun i f => procedure { p with item := i, description := f }) h
      (Fetches.description .procedureDescription _).hush w
  | columns | primaryKey | foreignKeys | checkConstraints | uniqueConstraints | indices
  | externalPath => exact loads_of_absent h rfl rfl w

theorem At.loads (h : object.At place) (kind : FacetKind) (w : World) : object.Loads kind w := by
  cases object with
  | table t => exact loads_table h kind w
  | view v => exact loads_view h kind w
  | procedure p => exact loads_procedure h kind w

end Object

/-! ## Clients -/

namespace Client

/-- The contract of loading, for whatever a client has and whatever it has done:
no facet of a table, view or procedure is ever seen while it is being read, and
loading any facet does what `Object.Loads` says. -/
theorem Reachable.load_contract {permits : Client → Step → Prop} {client : Client}
    (h : Reachable permits client) {object : Object} (ho : object ∈ client.workspace.everyObject)
    (kind : FacetKind) :
    object.part? kind ≠ some .loading ∧ object.Loads kind client.world := by
  obtain ⟨place, at'⟩ := h.inPlace.everyObject ho
  exact ⟨at'.part_ne_loading kind, at'.loads kind client.world⟩

/-- A client with a table that an observer is attached to. -/
def watching : Client := (Client.start 0).after
  [.openCatalog "main" "test.fdb" "SYSDBA" "masterkey",
    .newDatabase "db" none (.ofCatalog "DB") "test.fdb", .connect "db" "main",
    .database "db" (.addTable (.ofCatalog "T")), .newObserver "o",
    .table { database := some "db", table := some "T" } (.item (.attach 0))]

/-- Loading the description of the table succeeds, and the observer hears of it
once. -/
theorem Reachable.load_contract_watching :
    ∃ object ∈ watching.workspace.everyObject,
      (object.load .description watching.world).1.1 = .ok () ∧
      (∃ value, (object.load .description watching.world).1.2.part? .description =
        some (.loaded value)) ∧
      (object.load .description watching.world).2.deliveries =
        watching.world.deliveries ++ [⟨object.item.id, [0]⟩] := by
  have reachable : Reachable (fun _ _ => True) watching :=
    Reachable.after (.start 0) fun _ _ _ => trivial
  have one : (watching.workspace.everyObject.head?.any fun object =>
      decide (object.part? .description = some .unloaded) &&
      (object.load .description watching.world).1.1.isOk &&
      object.item.subject.locks == 0 &&
      object.item.subject.observers.filter watching.world.isAlive == [0]) = true := by
    decide +kernel
  -- What follows is no matter of what the client did.
  generalize watching = client at reachable one ⊢
  obtain ⟨object, first, facts⟩ := (Option.any_eq_true _ _).mp one
  simp only [Bool.and_eq_true, decide_eq_true_eq, beq_iff_eq] at facts
  obtain ⟨⟨⟨unloaded, succeeds⟩, free⟩, observers⟩ := facts
  have member := List.mem_of_mem_head? first
  obtain ⟨-, loads⟩ := Reachable.load_contract reachable member .description
  cases outcome : (object.load .description client.world).1.1 with
  | error e =>
    rw [outcome] at succeeds
    cases succeeds
  | ok _ =>
    obtain ⟨shown, announced⟩ := loads.ok unloaded outcome
    have heard := (announced.unlocked free).2
    rw [observers] at heard
    exact ⟨object, member, outcome, shown, heard⟩

end Client

end MetaCatalog
