import MetaCatalog.Proofs.Framework.Calls
import MetaCatalog.Proofs.Framework.Leads

/-!
# Objects in their places

A `Place` is what an object belongs to: its own identifier, its parent's, and the
loader it is read with. An object that is in place holds only what was read with
that loader, none of its facets is being read, and what is pending at its subject
is held back by a lock. No call on an object moves it (`tableCall_at` and the
like).
-/

namespace MetaCatalog

open World (Issues Hush Course issues_deliver)

/-- Where an object belongs. -/
structure Place where
  id : Uuid
  parent : Option Uuid
  loader : Option LoaderId

variable {place : Place}

/-! ## Subjects and items -/

namespace Subject

/-- What is pending is held back by a lock. -/
def Settled (subject : Subject) : Prop := subject.pending = true → 0 < subject.locks

theorem Settled.announce {subject : Subject} (h : subject.Settled) :
    subject.announce.2.Settled := by
  rw [Subject.announce]
  split
  · next locked => exact fun _ => of_decide_eq_true locked
  · exact h

theorem Settled.lock (subject : Subject) : subject.lock.Settled := fun _ => Nat.succ_pos _

theorem Settled.unlock (subject : Subject) : subject.unlock.2.Settled := by
  rw [Subject.unlock]
  dsimp only
  split
  · exact fun pending => nomatch pending
  · next held => exact fun pending => Nat.pos_of_ne_zero fun none => held ⟨none, pending⟩

theorem id_announce (subject : Subject) : subject.announce.2.id = subject.id := by
  rw [announce]
  split <;> rfl

theorem id_unlock (subject : Subject) : subject.unlock.2.id = subject.id := by
  rw [unlock]
  dsimp only
  split <;> rfl

theorem Settled.attach {subject : Subject} (h : subject.Settled) (observer : ObserverId) :
    (subject.attach observer).Settled := by
  rw [Subject.attach]
  split
  · exact h
  · exact h

theorem id_attach (subject : Subject) (observer : ObserverId) :
    (subject.attach observer).id = subject.id := by
  rw [attach]
  split <;> rfl

end Subject

/-- A delivery that is due changes no more than who observes. -/
theorem deliverIf_leads {due : Bool × Subject} (h : due.2.Settled) :
    Leads Issues (World.deliverIf due) fun subject => subject.id = due.2.id ∧ subject.Settled := by
  rcases due with ⟨_ | _, subject⟩
  · exact .pure ⟨rfl, h⟩
  · exact ⟨fun w => issues_deliver w .., fun _ => ⟨rfl, h⟩⟩

namespace Item

/-- The item is in its place. -/
structure At (place : Place) (item : Item) : Prop where
  id : item.id = place.id
  parent : item.parent = place.parent
  loader : item.loader = place.loader
  settled : item.subject.Settled

/-- The item has the parent and the loader, and some identifier. -/
def Belongs (parent : Option Uuid) (loader : Option LoaderId) (item : Item) : Prop :=
  ∃ id, item.At ⟨id, parent, loader⟩

variable {item : Item}

theorem At.lock (h : item.At place) : item.lock.At place :=
  ⟨h.id, h.parent, h.loader, .lock _⟩

theorem At.failed (h : item.At place) (e : Error) : (item.failed e).At place :=
  ⟨h.id, h.parent, h.loader, h.settled⟩

theorem At.announce (h : item.At place) : Leads Issues item.announce (At place) :=
  (deliverIf_leads h.settled.announce).map fun _ hs =>
    ⟨(hs.1.trans (Subject.id_announce _)).trans h.id, h.parent, h.loader, hs.2⟩

theorem At.unlock (h : item.At place) : Leads Issues item.unlock (At place) :=
  (deliverIf_leads (.unlock _)).map fun _ hs =>
    ⟨(hs.1.trans (Subject.id_unlock _)).trans h.id, h.parent, h.loader, hs.2⟩

theorem At.call (h : item.At place) (call : ItemCall) :
    Leads Issues (call.run item) (At place) := by
  cases call with
  | announce => exact h.announce
  | lock => exact .pure h.lock
  | unlock => exact h.unlock
  | attach observer =>
    exact .pure ⟨(Subject.id_attach ..).trans h.id, h.parent, h.loader, h.settled.attach observer⟩
  | detach observer => exact .pure ⟨h.id, h.parent, h.loader, h.settled⟩

theorem At.rename (h : item.At place) (name : Identifier) :
    Leads Issues (item.rename name) (At place) :=
  At.announce ⟨h.id, h.parent, h.loader, h.settled⟩

theorem fresh_leads (kind : ItemKind) (name : Identifier) :
    Leads Hush (fresh kind name) (Belongs none none) :=
  newId_hush.map fun id _ => ⟨id, rfl, rfl, rfl, nofun⟩

theorem within_leads (kind : ItemKind) (name : Identifier) (parent : Uuid)
    (loader : Option LoaderId) :
    Leads Hush (within kind name parent loader) (Belongs (some parent) loader) :=
  (fresh_leads kind name).map fun _ ⟨id, h⟩ => ⟨id, h.id, rfl, rfl, h.settled⟩

/-- Whether a fetch succeeds or fails on the way, the item stays in its place. -/
theorem At.fetch {l : LoaderId} {fetch : LoaderId → Query α} {Q : α → Prop} (h : item.At place)
    (hq : Yields Hush (fetch l) Q) :
    Leads Issues (item.fetch l fetch) fun r => r.2.At place ∧ ∀ a, r.1 = .ok a → Q a := by
  have leave := (leave_hush l).issues
  refine (enter_hush l).issues.bind fun entered _ => ?_
  cases entered with
  | error e => exact .pure ⟨h, nofun⟩
  | ok _ =>
    refine (Leads.issues hq).bind fun fetched hf => ?_
    cases fetched with
    | error e =>
      exact h.lock.unlock.bind fun _ hi => leave.bind fun _ _ => .pure ⟨hi, nofun⟩
    | ok a =>
      exact h.lock.announce.bind fun _ hi => hi.unlock.bind fun _ hi =>
        leave.bind fun _ _ => .pure ⟨hi, hf⟩

end Item

/-! ## Facets -/

namespace Facet

/-- The facet is not being read, and what is there was read with the loader. -/
def ReadBy (loader : Option LoaderId) (Q : LoaderId → α → Prop) : Facet α → Prop
  | unloaded => True
  | loading => False
  | loaded a => ∃ l, loader = some l ∧ Q l a

/-- What is there was read with the loader, whatever it is. -/
abbrev Rests (loader : Option LoaderId) (facet : Facet α) : Prop :=
  facet.ReadBy loader fun _ _ => True

variable {loader : Option LoaderId} {Q : LoaderId → α → Prop} {facet : Facet α}

/-- Without a loader nothing is there. -/
theorem ReadBy.unloaded (h : facet.ReadBy none Q) : facet = .unloaded := by
  cases facet with
  | unloaded => rfl
  | loading => cases h
  | loaded a =>
    obtain ⟨l, none, -⟩ := h
    cases none

theorem ReadBy.ne_loading (h : facet.ReadBy loader Q) : facet ≠ .loading := by
  rintro rfl
  exact h

/-- Whether a facet is dropped or not, what is there was read with the loader. -/
theorem ReadBy.dropIf (h : facet.ReadBy loader Q) (asked : Bool) :
    (if asked then facet.drop else (false, facet)).2.ReadBy loader Q := by
  cases asked with
  | true => trivial
  | false => exact h

end Facet

theorem Item.At.load {item : Item} {facet : Facet α} {fetch : LoaderId → Query α}
    {Q : LoaderId → α → Prop} (h : item.At place) (hf : facet.ReadBy place.loader Q)
    (hq : ∀ l, Yields Hush (fetch l) (Q l)) :
    Leads Issues (item.load facet fetch) fun r =>
      r.item.At place ∧ r.facet.ReadBy place.loader Q := by
  unfold Item.load Item.requireLoader
  split
  · exact .pure ⟨h, hf⟩
  · cases hl : item.loader with
    | none => exact .pure ⟨h.failed _, trivial⟩
    | some l =>
      refine (h.fetch (hq l)).bind fun r hr => ?_
      obtain ⟨outcome, item'⟩ := r
      cases outcome with
      | ok a => exact .pure ⟨hr.1, l, h.loader.symm.trans hl, hr.2 a rfl⟩
      | error e => exact .pure ⟨hr.1.failed e, trivial⟩

/-! ## Calls -/

section Calls

variable {R : World → World → Prop} {P : σ → Prop}

theorem Leads.reporting {m : Engine (Except Error α × σ)} (h : Leads R m fun r => P r.2) :
    Leads R (reporting m) fun r => P r.2 :=
  h.map fun _ hr => hr

theorem Leads.quietly {m : Engine (α × σ)} (h : Leads R m fun r => P r.2) :
    Leads R (quietly m) fun r => P r.2 :=
  h.map fun _ hr => hr

theorem Leads.changing {m : Engine σ} (h : Leads R m P) : Leads R (changing m) fun r => P r.2 :=
  h.map fun _ hr => hr

end Calls

/-! ## Relations -/

namespace Relation

/-- The relation is in its place, and so are its columns. -/
structure At (place : Place) (relation : Relation) : Prop where
  item : relation.item.At place
  columns : relation.columns.ReadBy place.loader fun l columns =>
    ∀ column ∈ columns, column.item.Belongs (some place.id) (some l)
  description : relation.description.Rests place.loader

variable {relation : Relation}

/-- Columns are made within their relation. -/
theorem fetchColumns_yields (item : Item) (l : LoaderId) :
    Yields Hush (fetchColumns item l) fun columns =>
      ∀ column ∈ columns, column.item.Belongs (some item.id) (some l) :=
  ((Fetches.columns item.name.raw).hush l).bind fun definitions _ =>
    .lift (Leads.mapM (P := fun _ => True)
      (fun d _ => (Item.within_leads .column d.name item.id (some l)).map
        (f := fun i => Column.mk i d) fun _ hi => hi)
      definitions fun _ _ => trivial)

theorem At.loadColumns (h : relation.At place) :
    Leads Issues relation.loadColumns fun r => r.2.At place :=
  (h.item.load h.columns fun l =>
    h.item.id ▸ fetchColumns_yields relation.item l).map fun _ hr =>
      { h with item := hr.1, columns := hr.2 }

theorem At.loadDescription (h : relation.At place) :
    Leads Issues relation.loadDescription fun r => r.2.At place :=
  (h.item.load h.description (Fetches.description .description relation.item).hush).map
    fun _ hr => { h with item := hr.1, description := hr.2 }

theorem At.readColumns (h : relation.At place) :
    Leads Issues relation.readColumns fun r => r.2.At place :=
  h.loadColumns.map fun _ hr => hr

theorem At.readDescription (h : relation.At place) :
    Leads Issues relation.readDescription fun r => r.2.At place :=
  h.loadDescription.map fun _ hr => hr

theorem At.drop (h : relation.At place) (asked : Option FacetKind) :
    (relation.drop asked).2.At place :=
  ⟨h.item, h.columns.dropIf _, h.description.dropIf _⟩

end Relation

/-! ## Tables -/

namespace Table

/-- The table is in its place, and so is what was read of it. -/
structure At (place : Place) (table : Table) : Prop where
  relation : table.relation.At place
  primaryKey : table.primaryKey.Rests place.loader
  foreignKeys : table.foreignKeys.Rests place.loader
  checkConstraints : table.checkConstraints.Rests place.loader
  uniqueConstraints : table.uniqueConstraints.Rests place.loader
  indices : table.indices.Rests place.loader
  externalPath : table.externalPath.Rests place.loader

variable {table : Table}

theorem At.withItem (h : table.At place) {item : Item} (hi : item.At place) :
    (table.withItem item).At place :=
  { h with relation := { h.relation with item := hi } }

theorem At.loadColumns (h : table.At place) :
    Leads Issues table.loadColumns fun r => r.2.At place := by
  have rest : (if table.relation.columns.isLoaded then table else table.dropDependents).At
      place := by
    split
    · exact h
    · exact ⟨h.relation, trivial, trivial, trivial, trivial, trivial, h.externalPath⟩
  exact rest.relation.loadColumns.map fun _ hr => { rest with relation := hr }

theorem At.load (h : table.At place) (facet : FacetKind) :
    Leads Issues (table.load facet) fun r => r.2.At place := by
  have item : table.item.At place := h.relation.item
  cases facet with
  | columns => exact h.loadColumns
  | primaryKey =>
    exact (item.load h.primaryKey (Fetches.primaryKey _).hush).map fun _ hr =>
      { h.withItem hr.1 with primaryKey := hr.2 }
  | foreignKeys =>
    exact (item.load h.foreignKeys (Fetches.foreignKeys _).hush).map fun _ hr =>
      { h.withItem hr.1 with foreignKeys := hr.2 }
  | checkConstraints =>
    exact (item.load h.checkConstraints (Fetches.checkConstraints _).hush).map fun _ hr =>
      { h.withItem hr.1 with checkConstraints := hr.2 }
  | uniqueConstraints =>
    exact (item.load h.uniqueConstraints (Fetches.uniqueConstraints _).hush).map fun _ hr =>
      { h.withItem hr.1 with uniqueConstraints := hr.2 }
  | indices =>
    exact (item.load h.indices (Fetches.indices _).hush).map fun _ hr =>
      { h.withItem hr.1 with indices := hr.2 }
  | externalPath =>
    exact (item.load h.externalPath (Fetches.externalPath _).hush).map fun _ hr =>
      { h.withItem hr.1 with externalPath := hr.2 }
  | description =>
    exact h.relation.loadDescription.map fun _ hr => { h with relation := hr }
  | source | parameters | privileges => exact .pure h

theorem At.read (h : table.At place) (facet : FacetKind) :
    Leads Issues (table.read facet) fun r => r.2.At place := by
  have loaded := h.load facet
  have description : Leads Issues table.readDescription fun r => r.2.At place :=
    h.relation.readDescription.map fun _ hr => { h with relation := hr }
  cases facet with
  | description => exact description.quietly
  | source | parameters | privileges => exact .pure h
  | _ => exact .quietly (loaded.map fun _ hr => hr)

theorem At.announce (h : table.At place) : Leads Issues table.announce (At place) :=
  h.relation.item.announce.map fun _ hi => h.withItem hi

theorem At.drop (h : table.At place) (asked : Option FacetKind) :
    (table.drop asked).2.At place :=
  ⟨h.relation.drop asked, h.primaryKey.dropIf _, h.foreignKeys.dropIf _,
    h.checkConstraints.dropIf _, h.uniqueConstraints.dropIf _, h.indices.dropIf _,
    h.externalPath.dropIf _⟩

theorem At.invalidate (h : table.At place) (asked : Option FacetKind) :
    Leads Issues (table.invalidate asked) (At place) := by
  have dropped := h.drop asked
  rw [Table.invalidate]
  split
  · next hd =>
    rw [hd] at dropped
    exact dropped.announce
  · next hd =>
    rw [hd] at dropped
    exact .pure dropped

theorem call_at (h : table.At place) (call : TableCall) :
    Leads Issues (call.run table) fun r => r.2.At place := by
  have columns : Leads Issues table.readColumns fun r => r.2.At place :=
    h.loadColumns.map fun _ hr => hr
  cases call with
  | load facet => exact (h.load facet).reporting
  | read facet => exact h.read facet
  | findColumn name => exact .quietly (columns.map fun _ hr => hr)
  | insertStatement => exact .quietly (columns.map fun _ hr => hr)
  | procedureTemplate usualCharset => exact .quietly (columns.map fun _ hr => hr)
  | invalidate asked => exact (h.invalidate asked).changing
  | invalidateIndices name =>
    refine .changing ?_
    rw [invalidateIndices]
    split
    · split
      · exact At.announce { h with indices := trivial }
      · exact .pure h
    · exact .pure h
  | item call => exact .changing ((h.relation.item.call call).map fun _ hi => h.withItem hi)

end Table

/-! ## Views -/

namespace View

/-- The view is in its place, and so is what was read of it. -/
structure At (place : Place) (view : View) : Prop where
  relation : view.relation.At place
  source : view.source.Rests place.loader

variable {view : View}

theorem At.withItem (h : view.At place) {item : Item} (hi : item.At place) :
    (view.withItem item).At place :=
  { h with relation := { h.relation with item := hi } }

theorem At.load (h : view.At place) (facet : FacetKind) :
    Leads Issues (view.load facet) fun r => r.2.At place := by
  cases facet with
  | columns => exact h.relation.loadColumns.map fun _ hr => { h with relation := hr }
  | source =>
    exact (h.relation.item.load h.source (Fetches.viewSource view.item).hush).map fun _ hr =>
      { h.withItem hr.1 with source := hr.2 }
  | description => exact h.relation.loadDescription.map fun _ hr => { h with relation := hr }
  | _ => exact .pure h

theorem At.read (h : view.At place) (facet : FacetKind) :
    Leads Issues (view.read facet) fun r => r.2.At place := by
  have columns : Leads Issues view.readColumns fun r => r.2.At place :=
    h.relation.readColumns.map fun _ hr => { h with relation := hr }
  have description : Leads Issues view.readDescription fun r => r.2.At place :=
    h.relation.readDescription.map fun _ hr => { h with relation := hr }
  cases facet with
  | columns => exact columns.quietly
  | source => exact .quietly ((h.load .source).map fun _ hr => hr)
  | description => exact description.quietly
  | _ => exact .pure h

theorem At.createStatement (h : view.At place) :
    Leads Issues view.createStatement fun r => r.2.At place := by
  refine (h.load .columns).bind fun r hr => ?_
  obtain ⟨outcome, view'⟩ := r
  cases outcome with
  | error e => exact .pure hr
  | ok _ =>
    refine (At.load hr .source).bind fun r hr => ?_
    obtain ⟨outcome, view''⟩ := r
    cases outcome with
    | error e => exact .pure hr
    | ok _ => exact .pure hr

theorem At.invalidate (h : view.At place) (asked : Option FacetKind) :
    Leads Issues (view.invalidate asked) (At place) := by
  have dropped : (view.drop asked).2.At place := ⟨h.relation.drop asked, h.source.dropIf _⟩
  rw [View.invalidate]
  split
  · next hd =>
    rw [hd] at dropped
    exact dropped.relation.item.announce.map fun _ hi => dropped.withItem hi
  · next hd =>
    rw [hd] at dropped
    exact .pure dropped

theorem call_at (h : view.At place) (call : ViewCall) :
    Leads Issues (call.run view) fun r => r.2.At place := by
  cases call with
  | load facet => exact (h.load facet).reporting
  | read facet => exact h.read facet
  | createStatement => exact h.createStatement.reporting
  | invalidate asked => exact (h.invalidate asked).changing
  | item call => exact .changing ((h.relation.item.call call).map fun _ hi => h.withItem hi)

end View

/-! ## Procedures -/

namespace Procedure

/-- The procedure is in its place, and so are its parameters and what else was
read of it. -/
structure At (place : Place) (procedure : Procedure) : Prop where
  item : procedure.item.At place
  parameters : procedure.parameters.ReadBy place.loader fun l parameters =>
    ∀ parameter ∈ parameters, parameter.item.Belongs (some place.id) (some l)
  source : procedure.source.Rests place.loader
  privileges : procedure.privileges.Rests place.loader
  description : procedure.description.Rests place.loader

variable {procedure : Procedure}

/-- Parameters are made within their procedure. -/
theorem fetchParameters_yields (item : Item) (l : LoaderId) :
    Yields Hush (fetchParameters item l) fun parameters =>
      ∀ parameter ∈ parameters, parameter.item.Belongs (some item.id) (some l) :=
  ((Fetches.parameters item.name.raw).hush l).bind fun definitions _ =>
    .lift (Leads.mapM (P := fun _ => True)
      (fun d _ => (Item.within_leads .parameter d.name item.id (some l)).map
        (f := fun i => Parameter.mk i d) fun _ hi => hi)
      definitions fun _ _ => trivial)

theorem At.load (h : procedure.At place) (facet : FacetKind) :
    Leads Issues (procedure.load facet) fun r => r.2.At place := by
  cases facet with
  | parameters =>
    exact (h.item.load h.parameters fun l =>
      h.item.id ▸ fetchParameters_yields procedure.item l).map fun _ hr =>
        { h with item := hr.1, parameters := hr.2 }
  | source =>
    exact (h.item.load h.source (Fetches.procedureSource _).hush).map fun _ hr =>
      { h with item := hr.1, source := hr.2 }
  | privileges =>
    exact (h.item.load h.privileges (Fetches.privileges _).hush).map fun _ hr =>
      { h with item := hr.1, privileges := hr.2 }
  | description =>
    exact (h.item.load h.description (Fetches.description .procedureDescription _).hush).map
      fun _ hr => { h with item := hr.1, description := hr.2 }
  | _ => exact .pure h

theorem At.read (h : procedure.At place) (facet : FacetKind) :
    Leads Issues (procedure.read facet) fun r => r.2.At place := by
  have loaded := h.load facet
  cases facet with
  | parameters | source | privileges | description => exact .quietly (loaded.map fun _ hr => hr)
  | _ => exact .pure h

theorem At.announce (h : procedure.At place) : Leads Issues procedure.announce (At place) :=
  h.item.announce.map fun _ hi => { h with item := hi }

theorem At.checkParameters (h : procedure.At place) (force : Bool) :
    Leads Issues (procedure.checkParameters force) fun r => r.2.At place := by
  rw [Procedure.checkParameters]
  split
  · have forgotten : At place { procedure with parameters := .unloaded } :=
      { h with parameters := trivial }
    exact (forgotten.load .parameters).bind fun _ hr => (At.announce hr).map fun _ hp => hp
  · exact .pure h

theorem At.alterStatement (h : procedure.At place) :
    Leads Issues procedure.alterStatement fun r => r.2.At place := by
  refine (h.load .parameters).bind fun r hr => ?_
  obtain ⟨outcome, procedure'⟩ := r
  cases outcome with
  | error e => exact .pure hr
  | ok _ =>
    refine (At.load hr .source).bind fun r hr => ?_
    obtain ⟨outcome, procedure''⟩ := r
    cases outcome with
    | error e => exact .pure hr
    | ok _ => exact .pure hr

theorem At.invalidate (h : procedure.At place) (asked : Option FacetKind) :
    Leads Issues (procedure.invalidate asked) (At place) := by
  have dropped : (procedure.drop asked).2.At place :=
    ⟨h.item, h.parameters.dropIf _, h.source.dropIf _, h.privileges.dropIf _,
      h.description.dropIf _⟩
  rw [Procedure.invalidate]
  split
  · next hd =>
    rw [hd] at dropped
    exact dropped.announce
  · next hd =>
    rw [hd] at dropped
    exact .pure dropped

theorem call_at (h : procedure.At place) (call : ProcedureCall) :
    Leads Issues (call.run procedure) fun r => r.2.At place := by
  have parameters : Leads Issues procedure.readParameters fun r => r.2.At place :=
    (h.load .parameters).map fun _ hr => hr
  cases call with
  | load facet => exact (h.load facet).reporting
  | read facet => exact h.read facet
  | checkParameters force => exact (h.checkParameters force).quietly
  | isSelectable => exact .quietly (parameters.map fun _ hr => hr)
  | selectStatement withColumns => exact .quietly (parameters.map fun _ hr => hr)
  | executeStatement => exact .quietly (parameters.map fun _ hr => hr)
  | definition => exact .quietly ((h.checkParameters false).map fun _ hr => hr)
  | alterStatement => exact h.alterStatement.reporting
  | invalidate asked => exact (h.invalidate asked).changing
  | item call => exact .changing ((h.item.call call).map fun _ hi => { h with item := hi })

end Procedure

end MetaCatalog
