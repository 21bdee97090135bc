import MetaCatalog.Proofs.Framework.Calls
import MetaCatalog.Proofs.Framework.Discipline

/-!
# Objects under a discipline

Every call on an item, a table, a view or a procedure keeps to a discipline, if
the items in the object fit, and they fit afterwards (`tableCall_answers` and the
like).
-/

namespace MetaCatalog

namespace Discipline

variable {D : Discipline} {w : World}

/-! ## Lists -/

namespace Ensures

/-- A computation for each element of a list. Properties of elements have to
survive what happens to the others. -/
theorem mapM {P : World → α → Prop} {Q : World → β → Prop} {f : α → Engine β}
    (hp : ∀ {w w' a}, P w a → w.Settles w' → P w' a)
    (hq : ∀ {w w' b}, Q w b → w.Settles w' → Q w' b)
    (hf : ∀ {w a}, D.Upholds w → P w a → D.Ensures w (f a) Q) (h : D.Upholds w) (as : List α)
    (ha : ∀ a ∈ as, P w a) : D.Ensures w (as.mapM f) fun w' bs => ∀ b ∈ bs, Q w' b := by
  induction as generalizing w with
  | nil => exact .pure h fun _ hb => absurd hb List.not_mem_nil
  | cons a rest ih =>
    rw [List.mapM_cons]
    refine (hf h (ha a List.mem_cons_self)).bind fun w' b h' hs hb => ?_
    refine (ih h' fun a' ha' => hp (ha a' (List.mem_cons_of_mem _ ha')) hs).map
      fun w'' bs hs' hbs => ?_
    exact List.forall_mem_cons.mpr ⟨hq hb hs', hbs⟩

theorem onFirst {P : World → α → Prop} {R : β → Prop} {p : α → Bool}
    {operation : α → Engine (β × α)} (hp : ∀ {w w' a}, P w a → w.Settles w' → P w' a)
    (hf : ∀ {a}, P w a → D.Ensures w (operation a) fun w' r => P w' r.2 ∧ R r.1)
    (h : D.Upholds w) (as : List α) (ha : ∀ a ∈ as, P w a) :
    D.Ensures w (Database.onFirst p operation as) fun w' r =>
      (∀ a ∈ r.2, P w' a) ∧ ∀ b, r.1 = some b → R b := by
  induction as with
  | nil => exact .pure h ⟨fun _ hb => absurd hb List.not_mem_nil, fun _ hb => nomatch hb⟩
  | cons a rest ih =>
    obtain ⟨head, tail⟩ := List.forall_mem_cons.mp ha
    rw [Database.onFirst]
    split
    · refine (hf head).map fun w' r hs hr => ?_
      exact ⟨List.forall_mem_cons.mpr ⟨hr.1, fun a' ha' => hp (tail a' ha') hs⟩,
        fun b hb => Option.some.inj hb ▸ hr.2⟩
    · refine (ih tail).map fun w' r hs hr => ?_
      exact ⟨List.forall_mem_cons.mpr ⟨hp head hs, hr.1⟩, hr.2⟩

end Ensures

/-- What a call ensures: the object still fits, and the error it reports may
come up. -/
def Answers (D : Discipline) (w : World) (fits : World → σ → Prop)
    (m : Engine (Option Error × σ)) : Prop :=
  D.Ensures w m fun w' r => fits w' r.2 ∧ ∀ e, r.1 = some e → D.allows e.message

/-- What an attempt ensures. -/
def Attempts (D : Discipline) (w : World) (fits : World → σ → Prop)
    (m : Engine (Except Error α × σ)) : Prop :=
  D.Ensures w m fun w' r => fits w' r.2 ∧ D.Fails r.1

section Answers

variable {fits : World → σ → Prop}

theorem Attempts.reporting {m : Engine (Except Error α × σ)} (h : D.Attempts w fits m) :
    D.Answers w fits (reporting m) := by
  refine Ensures.map h fun w' r _ hr => ⟨hr.1, fun e he => hr.2 e ?_⟩
  rcases ho : r.1 with a | e'
  · rw [ho] at he
    exact Option.some.inj he ▸ rfl
  · rw [ho] at he
    cases he

theorem Answers.quietly {m : Engine (α × σ)} (h : D.Ensures w m fun w' r => fits w' r.2) :
    D.Answers w fits (quietly m) :=
  Ensures.map h fun _ _ _ hr => ⟨hr, fun _ he => nomatch he⟩

theorem Answers.changing {m : Engine σ} (h : D.Ensures w m fits) :
    D.Answers w fits (changing m) :=
  Ensures.map h fun _ _ _ hr => ⟨hr, fun _ he => nomatch he⟩

/-- An attempt whose outcome nobody looks at. -/
theorem Attempts.quiet {m : Engine (Except Error α × σ)} (h : D.Attempts w fits m) :
    D.Ensures w m fun w' r => fits w' r.2 :=
  h.mono fun _ _ _ hr => hr.1

end Answers

/-! ## Items -/

theorem fresh_ensures (h : D.Upholds w) (kind : ItemKind) (name : Identifier) :
    D.Ensures w (Item.fresh kind name) fun _ item => item.loader = none ∧ item.lastError = none :=
  (newId_ensures h).map fun _ _ _ _ => ⟨rfl, rfl⟩

/-- An item without a loader and without an error fits anywhere. -/
theorem Fits.blank {item : Item} (hl : item.loader = none) (he : item.lastError = none) :
    D.Fits w item := by
  refine ⟨fun l h => ?_, fun text h => ?_⟩
  · rw [hl] at h
    cases h
  · rw [he] at h
    cases h

theorem within_ensures (h : D.Upholds w) (kind : ItemKind) (name : Identifier) (parent : Uuid)
    {loader : Option LoaderId} (hl : ∀ l, loader = some l → w.Knows l) :
    D.Ensures w (Item.within kind name parent loader) D.Fits := by
  refine (fresh_ensures h kind name).map fun w' item hs hi => ?_
  have blank : D.Fits w' item := .blank hi.1 hi.2
  exact ⟨fun l hi => hs.knows l (hl l hi), blank.allows⟩

theorem itemCall_ensures (h : D.Upholds w) {item : Item} (hf : D.Fits w item) (call : ItemCall) :
    D.Ensures w (call.run item) D.Fits := by
  cases call with
  | announce => exact announce_ensures h hf
  | lock => exact .pure h ⟨hf.knows, hf.allows⟩
  | unlock => exact unlock_ensures h hf
  | attach observer => exact .pure h ⟨hf.knows, hf.allows⟩
  | detach observer => exact .pure h ⟨hf.knows, hf.allows⟩

/-! ## Relations -/

theorem members_within {definitions : List δ} {make : δ → Engine α} (l : LoaderId)
    (hm : ∀ {w : World} (d : δ), D.Upholds w → D.Ensures w (make d) fun _ _ => True) :
    D.Within l (liftM (definitions.mapM make)) :=
  .lift fun h =>
    (Ensures.mapM (P := fun _ _ => True) (Q := fun _ _ => True) (fun _ _ => trivial)
      (fun _ _ => trivial) (fun h _ => hm _ h) h definitions fun _ _ => trivial).mono
      fun _ _ _ _ => trivial

/-- A column or a parameter is an item with a definition. -/
theorem member_ensures (h : D.Upholds w) {kind : ItemKind} {name : Identifier} {parent : Uuid}
    {loader : Option LoaderId} :
    D.Ensures w (Item.within kind name parent loader) fun _ _ => True :=
  (fresh_ensures h kind name).map fun _ _ _ _ => trivial

theorem columns_within (item : Item) (l : LoaderId) : D.Within l (Relation.fetchColumns item l) :=
  .bind ((Fetches.columns item.name.raw).within l) fun _ =>
    members_within l fun _ h => (member_ensures h).map fun _ _ _ _ => trivial

/-- The item of a relation fits. -/
def FitsRelation (D : Discipline) (w : World) (relation : Relation) : Prop := D.Fits w relation.item

theorem loadColumns_attempts (h : D.Upholds w) {relation : Relation}
    (hf : D.Fits w relation.item) : D.Attempts w D.FitsRelation relation.loadColumns :=
  (load_ensures h hf (columns_within relation.item)).map fun _ _ _ hr => hr

theorem loadDescription_attempts (h : D.Upholds w) {relation : Relation}
    (hf : D.Fits w relation.item) : D.Attempts w D.FitsRelation relation.loadDescription :=
  (load_ensures h hf (Fetches.description .description relation.item).within).map
    fun _ _ _ hr => hr

theorem readColumns_ensures (h : D.Upholds w) {relation : Relation}
    (hf : D.Fits w relation.item) :
    D.Ensures w relation.readColumns fun w' r => D.FitsRelation w' r.2 :=
  (loadColumns_attempts h hf).map fun _ _ _ hr => hr.1

theorem readDescription_ensures (h : D.Upholds w) {relation : Relation}
    (hf : D.Fits w relation.item) :
    D.Ensures w relation.readDescription fun w' r => D.FitsRelation w' r.2 :=
  (loadDescription_attempts h hf).map fun _ _ _ hr => hr.1

/-! ## Tables -/

/-- The item of a table fits. -/
def FitsTable (D : Discipline) (w : World) (table : Table) : Prop := D.Fits w table.item

section Tables

variable {table : Table}

theorem load_table {facet : Facet α} {fetch : Item → LoaderId → Query α} {sqls : List String}
    (h : D.Upholds w) (hf : D.FitsTable w table) (hq : Fetches sqls (fetch table.item))
    {rebuild : Item.Loaded α → Table} (hr : ∀ loaded, (rebuild loaded).item = loaded.item) :
    D.Attempts w D.FitsTable (do
      let loaded ← table.item.load facet (fetch table.item)
      pure (loaded.outcome, rebuild loaded)) :=
  (load_ensures h hf hq.within).map fun w' loaded _ hl =>
    ⟨show D.Fits w' (rebuild loaded).item from (hr loaded).symm ▸ hl.1, hl.2⟩

theorem table_loadColumns (h : D.Upholds w) (hf : D.FitsTable w table) :
    D.Attempts w D.FitsTable table.loadColumns := by
  unfold Table.loadColumns
  dsimp only
  split
  · exact (loadColumns_attempts h hf).map fun _ _ _ hr => hr
  · exact (loadColumns_attempts h hf).map fun _ _ _ hr => hr

theorem tableLoad_attempts (h : D.Upholds w) (hf : D.FitsTable w table) (facet : FacetKind) :
    D.Attempts w D.FitsTable (table.load facet) := by
  cases facet with
  | columns => exact table_loadColumns h hf
  | primaryKey => exact load_table h hf (.primaryKey _) fun _ => rfl
  | foreignKeys => exact load_table h hf (.foreignKeys _) fun _ => rfl
  | checkConstraints => exact load_table h hf (.checkConstraints _) fun _ => rfl
  | uniqueConstraints => exact load_table h hf (.uniqueConstraints _) fun _ => rfl
  | indices => exact load_table h hf (.indices _) fun _ => rfl
  | externalPath => exact load_table h hf (.externalPath _) fun _ => rfl
  | description => exact (loadDescription_attempts h hf).map fun _ _ _ hr => hr
  | source | parameters | privileges => exact .pure h ⟨hf, .ok ()⟩

theorem tableRead_answers (h : D.Upholds w) (hf : D.FitsTable w table) (facet : FacetKind) :
    D.Answers w D.FitsTable (table.read facet) := by
  have loaded := tableLoad_attempts h hf facet
  cases facet with
  | description => exact .quietly ((readDescription_ensures h hf).map fun _ _ _ hr => hr)
  | source | parameters | privileges => exact .pure h ⟨hf, fun _ he => nomatch he⟩
  | _ => exact .quietly (loaded.map fun _ _ _ hr => hr.1)

theorem tableAnnounce_ensures (h : D.Upholds w) (hf : D.FitsTable w table) :
    D.Ensures w table.announce D.FitsTable :=
  (announce_ensures h hf).map fun _ _ _ hi => hi

theorem tableInvalidate_ensures (h : D.Upholds w) (hf : D.FitsTable w table)
    (asked : Option FacetKind) : D.Ensures w (table.invalidate asked) D.FitsTable := by
  have fits : D.FitsTable w (table.drop asked).2 := hf
  rw [Table.invalidate]
  split
  · next hd =>
    rw [hd] at fits
    exact tableAnnounce_ensures h fits
  · next hd =>
    rw [hd] at fits
    exact .pure h fits

theorem tableCall_answers (h : D.Upholds w) (hf : D.FitsTable w table) (call : TableCall) :
    D.Answers w D.FitsTable (call.run table) := by
  have columns : D.Ensures w table.readColumns fun w' r => D.FitsTable w' r.2 :=
    (table_loadColumns h hf).map fun _ _ _ hr => hr.1
  cases call with
  | load facet => exact (tableLoad_attempts h hf facet).reporting
  | read facet => exact tableRead_answers h hf facet
  | findColumn name => exact .quietly (columns.map fun _ _ _ hr => hr)
  | insertStatement => exact .quietly (columns.map fun _ _ _ hr => hr)
  | procedureTemplate usualCharset => exact .quietly (columns.map fun _ _ _ hr => hr)
  | invalidate asked => exact .changing (tableInvalidate_ensures h hf asked)
  | invalidateIndices name =>
    refine .changing ?_
    rw [Table.invalidateIndices]
    split
    · split
      · exact tableAnnounce_ensures h hf
      · exact .pure h hf
    · exact .pure h hf
  | item call => exact .changing ((itemCall_ensures h hf call).map fun _ _ _ hi => hi)

end Tables

/-! ## Views -/

/-- The item of a view fits. -/
def FitsView (D : Discipline) (w : World) (view : View) : Prop := D.Fits w view.item

section Views

variable {view : View}

theorem viewLoad_attempts (h : D.Upholds w) (hf : D.FitsView w view) (facet : FacetKind) :
    D.Attempts w D.FitsView (view.load facet) := by
  cases facet with
  | columns => exact (loadColumns_attempts h hf).map fun _ _ _ hr => hr
  | source => exact (load_ensures h hf (Fetches.viewSource view.item).within).map fun _ _ _ hr => hr
  | description => exact (loadDescription_attempts h hf).map fun _ _ _ hr => hr
  | _ => exact .pure h ⟨hf, .ok ()⟩

theorem viewRead_answers (h : D.Upholds w) (hf : D.FitsView w view) (facet : FacetKind) :
    D.Answers w D.FitsView (view.read facet) := by
  cases facet with
  | columns => exact .quietly ((readColumns_ensures h hf).map fun _ _ _ hr => hr)
  | source => exact .quietly ((viewLoad_attempts h hf .source).map fun _ _ _ hr => hr.1)
  | description => exact .quietly ((readDescription_ensures h hf).map fun _ _ _ hr => hr)
  | _ => exact .pure h ⟨hf, fun _ he => nomatch he⟩

theorem createStatement_attempts (h : D.Upholds w) (hf : D.FitsView w view) :
    D.Attempts w D.FitsView view.createStatement := by
  refine (viewLoad_attempts h hf .columns).bind fun w' r h' _ hr => ?_
  obtain ⟨outcome, view'⟩ := r
  cases outcome with
  | error e => exact .pure h' ⟨hr.1, hr.2.cast⟩
  | ok _ =>
    refine (viewLoad_attempts h' hr.1 .source).bind fun w'' r h'' _ hr => ?_
    obtain ⟨outcome, view''⟩ := r
    cases outcome with
    | error e => exact .pure h'' ⟨hr.1, hr.2.cast⟩
    | ok _ => exact .pure h'' ⟨hr.1, .ok _⟩

theorem viewInvalidate_ensures (h : D.Upholds w) (hf : D.FitsView w view)
    (asked : Option FacetKind) : D.Ensures w (view.invalidate asked) D.FitsView := by
  have fits : D.FitsView w (view.drop asked).2 := hf
  rw [View.invalidate]
  split
  · next hd =>
    rw [hd] at fits
    exact (announce_ensures h fits).map fun _ _ _ hi => hi
  · next hd =>
    rw [hd] at fits
    exact .pure h fits

theorem viewCall_answers (h : D.Upholds w) (hf : D.FitsView w view) (call : ViewCall) :
    D.Answers w D.FitsView (call.run view) := by
  cases call with
  | load facet => exact (viewLoad_attempts h hf facet).reporting
  | read facet => exact viewRead_answers h hf facet
  | createStatement => exact (createStatement_attempts h hf).reporting
  | invalidate asked => exact .changing (viewInvalidate_ensures h hf asked)
  | item call => exact .changing ((itemCall_ensures h hf call).map fun _ _ _ hi => hi)

end Views

/-! ## Procedures -/

/-- The item of a procedure fits. -/
def FitsProcedure (D : Discipline) (w : World) (procedure : Procedure) : Prop :=
  D.Fits w procedure.item

section Procedures

variable {procedure : Procedure}

theorem parameters_within (item : Item) (l : LoaderId) :
    D.Within l (Procedure.fetchParameters item l) :=
  .bind ((Fetches.parameters item.name.raw).within l) fun _ =>
    members_within l fun _ h => (member_ensures h).map fun _ _ _ _ => trivial

theorem procedureLoad_attempts (h : D.Upholds w) (hf : D.FitsProcedure w procedure)
    (facet : FacetKind) : D.Attempts w D.FitsProcedure (procedure.load facet) := by
  cases facet with
  | parameters =>
    exact (load_ensures h hf (parameters_within procedure.item)).map fun _ _ _ hr => hr
  | source =>
    exact (load_ensures h hf (Fetches.procedureSource procedure.item).within).map
      fun _ _ _ hr => hr
  | privileges =>
    exact (load_ensures h hf (Fetches.privileges procedure.item).within).map fun _ _ _ hr => hr
  | description =>
    exact (load_ensures h hf (Fetches.description .procedureDescription _).within).map
      fun _ _ _ hr => hr
  | _ => exact .pure h ⟨hf, .ok ()⟩

theorem procedureRead_answers (h : D.Upholds w) (hf : D.FitsProcedure w procedure)
    (facet : FacetKind) : D.Answers w D.FitsProcedure (procedure.read facet) := by
  have loaded := procedureLoad_attempts h hf facet
  cases facet with
  | parameters | source | privileges | description =>
    exact .quietly (loaded.map fun _ _ _ hr => hr.1)
  | _ => exact .pure h ⟨hf, fun _ he => nomatch he⟩

theorem checkParameters_ensures (h : D.Upholds w) (hf : D.FitsProcedure w procedure)
    (force : Bool) :
    D.Ensures w (procedure.checkParameters force) fun w' r => D.FitsProcedure w' r.2 := by
  rw [Procedure.checkParameters]
  split
  · have forgotten : D.FitsProcedure w { procedure with parameters := .unloaded } := hf
    refine (procedureLoad_attempts h forgotten .parameters).bind fun w' r h' _ hr => ?_
    have announced : D.Ensures w' r.2.announce D.FitsProcedure :=
      (announce_ensures h' hr.1).map fun _ _ _ hi => hi
    exact announced.map fun _ _ _ hp => hp
  · exact .pure h hf

theorem preconditionError_allowed {w : World} (hf : D.FitsProcedure w procedure) {e : Error}
    (he : D.allows e.message) : D.allows (procedure.preconditionError e).message := by
  show D.allows (procedure.item.lastError.getD e.message)
  cases hl : procedure.item.lastError with
  | none => exact he
  | some text => exact hf.allows text hl

theorem alterStatement_attempts (h : D.Upholds w) (hf : D.FitsProcedure w procedure) :
    D.Attempts w D.FitsProcedure procedure.alterStatement := by
  refine (procedureLoad_attempts h hf .parameters).bind fun w' r h' _ hr => ?_
  obtain ⟨outcome, procedure'⟩ := r
  cases outcome with
  | error e => exact .pure h' ⟨hr.1, .error (preconditionError_allowed hr.1 (hr.2 e rfl))⟩
  | ok _ =>
    refine (procedureLoad_attempts h' hr.1 .source).bind fun w'' r h'' _ hr => ?_
    obtain ⟨outcome, procedure''⟩ := r
    cases outcome with
    | error e => exact .pure h'' ⟨hr.1, .error (preconditionError_allowed hr.1 (hr.2 e rfl))⟩
    | ok _ => exact .pure h'' ⟨hr.1, .ok _⟩

theorem procedureInvalidate_ensures (h : D.Upholds w) (hf : D.FitsProcedure w procedure)
    (asked : Option FacetKind) :
    D.Ensures w (procedure.invalidate asked) D.FitsProcedure := by
  have fits : D.FitsProcedure w (procedure.drop asked).2 := hf
  rw [Procedure.invalidate]
  split
  · next hd =>
    rw [hd] at fits
    exact (announce_ensures h fits).map fun _ _ _ hi => hi
  · next hd =>
    rw [hd] at fits
    exact .pure h fits

theorem procedureCall_answers (h : D.Upholds w) (hf : D.FitsProcedure w procedure)
    (call : ProcedureCall) : D.Answers w D.FitsProcedure (call.run procedure) := by
  have parameters : D.Ensures w procedure.readParameters fun w' r => D.FitsProcedure w' r.2 :=
    (procedureLoad_attempts h hf .parameters).map fun _ _ _ hr => hr.1
  cases call with
  | load facet => exact (procedureLoad_attempts h hf facet).reporting
  | read facet => exact procedureRead_answers h hf facet
  | checkParameters force => exact .quietly (checkParameters_ensures h hf force)
  | isSelectable => exact .quietly (parameters.map fun _ _ _ hr => hr)
  | selectStatement withColumns => exact .quietly (parameters.map fun _ _ _ hr => hr)
  | executeStatement => exact .quietly (parameters.map fun _ _ _ hr => hr)
  | definition => exact .quietly ((checkParameters_ensures h hf false).map fun _ _ _ hr => hr)
  | alterStatement => exact (alterStatement_attempts h hf).reporting
  | invalidate asked => exact .changing (procedureInvalidate_ensures h hf asked)
  | item call => exact .changing ((itemCall_ensures h hf call).map fun _ _ _ hi => hi)

end Procedures

end Discipline

end MetaCatalog
