import MetaCatalog.Proofs.Framework.LikeItems
import MetaCatalog.Proofs.Framework.Tellings

/-!
# Objects that are alike

Tables, views and procedures are alike if their items are and if what was read of them
is the same, columns and parameters up to identifiers. Every call on objects that are
alike tells the same, and they are alike afterwards (`Tables.tell` and so on): nothing
that is told depends on an identifier.
-/

namespace MetaCatalog

namespace Likeness

section

variable (L : Likeness)

inductive Columns (column : Column) : Column → Prop
  | mk {item : Item} (same : L.Items column.item item) : Columns column { column with item }

inductive Parameters (parameter : Parameter) : Parameter → Prop
  | mk {item : Item} (same : L.Items parameter.item item) :
    Parameters parameter { parameter with item }

inductive Relations (relation : Relation) : Relation → Prop
  | mk {item : Item} {columns : Facet (List Column)} (same : L.Items relation.item item)
    (members : SameFacet (List.Forall₂ L.Columns) relation.columns columns) :
    Relations relation { relation with item, columns }

inductive Tables (table : Table) : Table → Prop
  | mk {relation : Relation} (same : L.Relations table.relation relation) :
    Tables table { table with relation }

inductive Views (view : View) : View → Prop
  | mk {relation : Relation} (same : L.Relations view.relation relation) :
    Views view { view with relation }

inductive Procedures (procedure : Procedure) : Procedure → Prop
  | mk {item : Item} {parameters : Facet (List Parameter)} (same : L.Items procedure.item item)
    (members : SameFacet (List.Forall₂ L.Parameters) procedure.parameters parameters) :
    Procedures procedure { procedure with item, parameters }

end

variable {L : Likeness}

/-! ## Tellings -/

namespace Runs

variable {R : σ → τ → Prop} {m : Engine (α × σ)} {m' : Engine (β × τ)}

theorem showing {encode : α → Json} {encode' : β → Json}
    (h : L.Runs m m' fun r r' => encode' r'.1 = encode r.1 ∧ R r.2 r'.2) :
    L.Runs (showing encode m) (MetaCatalog.showing encode' m') (SameAnswer R) :=
  h.map fun _ _ same => ⟨congrArg Json.ok same.1, same.2⟩

theorem shows {m' : Engine (α × τ)} (h : L.Runs m m' (SameAnswer R)) (encode : α → Json) :
    L.Runs (MetaCatalog.showing encode m) (MetaCatalog.showing encode m') (SameAnswer R) :=
  showing (h.mono fun _ _ same => ⟨congrArg encode same.answer, same.object⟩)

theorem telling {m : Engine (Except Error α × σ)} {m' : Engine (Except Error α × τ)}
    (h : L.Runs m m' (SameAnswer R)) (encode : α → Json) :
    L.Runs (telling encode m) (MetaCatalog.telling encode m') (SameAnswer R) :=
  h.map fun _ _ same => ⟨congrArg (Json.outcome encode) same.answer, same.object⟩

theorem noting {m : Engine σ} {m' : Engine τ} (h : L.Runs m m' R) :
    L.Runs (noting m) (MetaCatalog.noting m') (SameAnswer R) :=
  h.map fun _ _ same => ⟨rfl, same⟩

end Runs

/-- Related lists tell the same if related elements do. -/
theorem map_same {R : α → β → Prop} {f : α → γ} {f' : β → γ} (h : ∀ a b, R a b → f' b = f a)
    {as : List α} {bs : List β} (hs : List.Forall₂ R as bs) : bs.map f' = as.map f := by
  induction hs with
  | nil => rfl
  | cons head _ ih => rw [List.map_cons, List.map_cons, h _ _ head, ih]

/-- The first element with a property, if it is the same one in both lists. -/
theorem find_same {R : α → β → Prop} {p : α → Bool} {p' : β → Bool}
    (h : ∀ a b, R a b → p' b = p a) {as : List α} {bs : List β} (hs : List.Forall₂ R as bs) :
    Option.Rel R (as.find? p) (bs.find? p') := by
  induction hs with
  | nil => exact .none
  | cons head _ ih =>
    rw [List.find?_cons, List.find?_cons, h _ _ head]
    split
    · exact .some head
    · exact ih

/-! ## Members -/

theorem Columns.report {column column' : Column} (h : L.Columns column column') :
    column'.report = column.report := by
  obtain ⟨⟨-, -⟩⟩ := h
  rfl

theorem Columns.definition {column column' : Column} (h : L.Columns column column') :
    column'.definition = column.definition := by
  obtain ⟨-⟩ := h
  rfl

theorem Columns.name {column column' : Column} (h : L.Columns column column') :
    column'.item.name = column.item.name := by
  obtain ⟨⟨-, -⟩⟩ := h
  rfl

theorem Columns.reports {columns columns' : List Column}
    (h : List.Forall₂ L.Columns columns columns') :
    Json.list Column.report columns' = .list Column.report columns :=
  congrArg Json.array (map_same (fun _ _ same => same.report) h)

theorem Columns.found {column column' : Option Column} (h : Option.Rel L.Columns column column') :
    Json.opt Column.report column' = .opt Column.report column := by
  cases h with
  | none => rfl
  | some same => exact same.report

theorem Columns.definitions {columns columns' : List Column}
    (h : List.Forall₂ L.Columns columns columns') :
    columns'.map (·.definition) = columns.map (·.definition) :=
  map_same (fun _ _ same => same.definition) h

theorem Parameters.report {parameter parameter' : Parameter}
    (h : L.Parameters parameter parameter') : parameter'.report = parameter.report := by
  obtain ⟨⟨-, -⟩⟩ := h
  rfl

theorem Parameters.reports {parameters parameters' : List Parameter}
    (h : List.Forall₂ L.Parameters parameters parameters') :
    Json.list Parameter.report parameters' = .list Parameter.report parameters :=
  congrArg Json.array (map_same (fun _ _ same => same.report) h)

theorem Parameters.definition {parameter parameter' : Parameter}
    (h : L.Parameters parameter parameter') : parameter'.definition = parameter.definition := by
  obtain ⟨-⟩ := h
  rfl

/-- Members are made alike for each definition. -/
theorem makes {make : δ → Engine α} {make' : δ → Engine β} {R : α → β → Prop}
    (h : ∀ definition, L.Runs (make definition) (make' definition) R) (definitions : List δ) :
    L.Runs (definitions.mapM make) (definitions.mapM make') (List.Forall₂ R) :=
  Runs.mapM (R := Eq) (fun definition _ same => same ▸ h definition) (List.forall₂_refl definitions)

theorem Columns.within {owner owner' : Uuid} (above : L.ids owner owner') (l : LoaderId)
    (definition : ColumnDefinition) :
    L.Runs (Column.within owner l definition) (Column.within owner' l definition) L.Columns :=
  (Items.within .column definition.name above (some l)).map fun _ _ h => .mk h

theorem Parameters.within {owner owner' : Uuid} (above : L.ids owner owner') (l : LoaderId)
    (definition : ParameterDefinition) :
    L.Runs (Parameter.within owner l definition) (Parameter.within owner' l definition)
      L.Parameters :=
  (Items.within .parameter definition.name above (some l)).map fun _ _ h => .mk h

theorem fetchColumns_finds {item item' : Item} (h : L.Items item item') (l : LoaderId) :
    L.Finds (Relation.fetchColumns item l) (Relation.fetchColumns item' l)
      (List.Forall₂ L.Columns) := by
  obtain ⟨⟨same⟩, -⟩ := h
  exact ((Fetches.columns item.name.raw).finds l).bind fun definitions _ found =>
    found ▸ .lift (makes (Columns.within same l) definitions)

theorem fetchParameters_finds {item item' : Item} (h : L.Items item item') (l : LoaderId) :
    L.Finds (Procedure.fetchParameters item l) (Procedure.fetchParameters item' l)
      (List.Forall₂ L.Parameters) := by
  obtain ⟨⟨same⟩, -⟩ := h
  exact ((Fetches.parameters item.name.raw).finds l).bind fun definitions _ found =>
    found ▸ .lift (makes (Parameters.within same l) definitions)

/-! ## Relations -/

namespace Relations

variable {relation relation' : Relation}

theorem item (h : L.Relations relation relation') : L.Items relation.item relation'.item := by
  obtain ⟨same, -⟩ := h
  exact same

theorem columns (h : L.Relations relation relation') :
    SameFacet (List.Forall₂ L.Columns) relation.columns relation'.columns := by
  obtain ⟨-, members⟩ := h
  exact members

theorem withItem (h : L.Relations relation relation') {item item' : Item}
    (same : L.Items item item') :
    L.Relations { relation with item } { relation' with item := item' } := by
  obtain ⟨-, members⟩ := h
  exact ⟨same, members⟩

theorem loadColumns (h : L.Relations relation relation') :
    L.Runs relation.loadColumns relation'.loadColumns (SameAnswer L.Relations) := by
  obtain ⟨same, members⟩ := h
  exact (same.load members (fetchColumns_finds same)).map fun _ _ loaded =>
    ⟨loaded.outcome, ⟨loaded.item, loaded.facet⟩⟩

theorem loadDescription (h : L.Relations relation relation') :
    L.Runs relation.loadDescription relation'.loadDescription (SameAnswer L.Relations) := by
  obtain ⟨⟨same, above⟩, members⟩ := h
  exact Items.attempt ⟨same, above⟩ relation.description (.description .description relation.item)
    fun _ _ _ _ item => ⟨item, members⟩

theorem readColumns (h : L.Relations relation relation') :
    L.Runs relation.readColumns relation'.readColumns fun r r' =>
      List.Forall₂ L.Columns r.1 r'.1 ∧ L.Relations r.2 r'.2 :=
  h.loadColumns.map fun _ _ same => ⟨same.object.columns.items, same.object⟩

theorem description (h : L.Relations relation relation') :
    relation'.description = relation.description := by
  obtain ⟨-, -⟩ := h
  rfl

theorem readDescription (h : L.Relations relation relation') :
    L.Runs relation.readDescription relation'.readDescription (SameAnswer L.Relations) :=
  h.loadDescription.map fun _ _ same =>
    ⟨congrArg (·.value?.join) same.object.description, same.object⟩

theorem drop (h : L.Relations relation relation') (asked : Option FacetKind) :
    SameAnswer L.Relations (relation.drop asked) (relation'.drop asked) := by
  obtain ⟨same, members⟩ := h
  obtain ⟨lost, rest⟩ := members.dropIf (Relation.covers asked .columns)
  refine ⟨?_, ⟨same, rest⟩⟩
  unfold Relation.drop
  dsimp only
  rw [lost]

end Relations

/-! ## Tables -/

namespace Tables

variable {table table' : Table}

theorem relation (h : L.Tables table table') : L.Relations table.relation table'.relation := by
  obtain ⟨same⟩ := h
  exact same

theorem withRelation (h : L.Tables table table') {relation relation' : Relation}
    (same : L.Relations relation relation') :
    L.Tables { table with relation } { table' with relation := relation' } := by
  obtain ⟨-⟩ := h
  exact ⟨same⟩

theorem loadColumns (h : L.Tables table table') :
    L.Runs table.loadColumns table'.loadColumns (SameAnswer L.Tables) := by
  have load {table table' : Table} (h : L.Tables table table') :
      L.Runs
        (do
          let r ← table.relation.loadColumns
          pure (r.1, { table with relation := r.2 }))
        (do
          let r ← table'.relation.loadColumns
          pure (r.1, { table' with relation := r.2 }))
        (SameAnswer L.Tables) :=
    h.relation.loadColumns.map fun _ _ same => ⟨same.answer, h.withRelation same.object⟩
  have dropped : L.Tables table.dropDependents table'.dropDependents := by
    obtain ⟨same⟩ := h
    exact ⟨same⟩
  unfold Table.loadColumns
  rw [h.relation.columns.isLoaded]
  split
  · exact load h
  · exact load dropped

theorem load (h : L.Tables table table') (facet : FacetKind) :
    L.Runs (table.load facet) (table'.load facet) (SameAnswer L.Tables) := by
  obtain ⟨⟨⟨same, above⟩, members⟩⟩ := h
  have item : L.Items table.item _ := ⟨same, above⟩
  cases facet with
  | columns => exact (Tables.mk ⟨item, members⟩).loadColumns
  | description =>
    exact (Relations.mk item members).loadDescription.map fun _ _ same =>
      ⟨same.answer, ⟨same.object⟩⟩
  | primaryKey => exact item.attempt _ (.primaryKey _) fun _ _ _ _ h => ⟨⟨h, members⟩⟩
  | foreignKeys => exact item.attempt _ (.foreignKeys _) fun _ _ _ _ h => ⟨⟨h, members⟩⟩
  | checkConstraints => exact item.attempt _ (.checkConstraints _) fun _ _ _ _ h => ⟨⟨h, members⟩⟩
  | uniqueConstraints => exact item.attempt _ (.uniqueConstraints _) fun _ _ _ _ h => ⟨⟨h, members⟩⟩
  | indices => exact item.attempt _ (.indices _) fun _ _ _ _ h => ⟨⟨h, members⟩⟩
  | externalPath => exact item.attempt _ (.externalPath _) fun _ _ _ _ h => ⟨⟨h, members⟩⟩
  | source | parameters | privileges => exact .pure ⟨rfl, ⟨⟨item, members⟩⟩⟩

/-- Besides the relation the tables are the same. -/
theorem rest (h : L.Tables table table') : table' = { table with relation := table'.relation } := by
  obtain ⟨-⟩ := h
  rfl

theorem withItem (h : L.Tables table table') {item item' : Item} (same : L.Items item item') :
    L.Tables (table.withItem item) (table'.withItem item') :=
  h.withRelation (h.relation.withItem same)

theorem names (h : L.Tables table table') :
    table'.name = table.name ∧ table'.quotedName = table.quotedName := by
  obtain ⟨⟨⟨-, -⟩, -⟩⟩ := h
  exact ⟨rfl, rfl⟩

theorem readColumns (h : L.Tables table table') :
    L.Runs table.readColumns table'.readColumns fun r r' =>
      List.Forall₂ L.Columns r.1 r'.1 ∧ L.Tables r.2 r'.2 :=
  h.loadColumns.map fun _ _ same => ⟨same.object.relation.columns.items, same.object⟩

/-- A facet other than the columns, as it is read. -/
theorem read (see : Table → α) (hs : ∀ table relation, see { table with relation } = see table)
    {m m' : Engine (Attempted Table)} (h : L.Runs m m' (SameAnswer L.Tables)) :
    L.Runs
      (do
        let (_, table) ← m
        pure (see table, table))
      (do
        let (_, table) ← m'
        pure (see table, table))
      (SameAnswer L.Tables) :=
  h.map fun _ _ same => ⟨(congrArg see same.object.rest).trans (hs _ _), same.object⟩

theorem readDescription (h : L.Tables table table') :
    L.Runs table.readDescription table'.readDescription (SameAnswer L.Tables) :=
  h.relation.readDescription.map fun _ _ same => ⟨same.answer, h.withRelation same.object⟩

theorem tellFacet (h : L.Tables table table') (facet : FacetKind) :
    L.Runs (table.tell facet) (table'.tell facet) (SameAnswer L.Tables) := by
  have loaded := h.load facet
  cases facet with
  | columns => exact .showing (h.readColumns.mono fun _ _ same =>
      ⟨Columns.reports same.1, same.2⟩)
  | description => exact h.readDescription.shows _
  | primaryKey => exact (read (·.primaryKey.value?.join) (fun _ _ => rfl) loaded).shows _
  | foreignKeys => exact (read (·.foreignKeys.items) (fun _ _ => rfl) loaded).shows _
  | checkConstraints => exact (read (·.checkConstraints.items) (fun _ _ => rfl) loaded).shows _
  | uniqueConstraints => exact (read (·.uniqueConstraints.items) (fun _ _ => rfl) loaded).shows _
  | indices => exact (read (·.indices.items) (fun _ _ => rfl) loaded).shows _
  | externalPath => exact (read (·.externalPath.text) (fun _ _ => rfl) loaded).shows _
  | source | parameters | privileges => exact .pure ⟨rfl, h⟩

theorem findColumn (h : L.Tables table table') (name : String) :
    L.Runs (table.findColumn name) (table'.findColumn name) fun r r' =>
      Option.Rel L.Columns r.1 r'.1 ∧ L.Tables r.2 r'.2 :=
  h.readColumns.map fun _ _ same =>
    ⟨find_same (fun _ _ same => congrArg (·.raw == name) same.name) same.1, same.2⟩

/-- A text that is written from the columns. -/
theorem write (h : L.Tables table table')
    (text : Identifier → String → List ColumnDefinition → String) :
    L.Runs
      (do
        let (columns, table) ← table.readColumns
        pure (text table.name table.quotedName (columns.map (·.definition)), table))
      (do
        let (columns, table) ← table'.readColumns
        pure (text table.name table.quotedName (columns.map (·.definition)), table))
      (SameAnswer L.Tables) :=
  h.readColumns.map fun _ _ same => by
    obtain ⟨columns, object⟩ := same
    obtain ⟨name, quoted⟩ := object.names
    refine ⟨?_, object⟩
    dsimp only
    rw [name, quoted, Columns.definitions columns]

theorem announce (h : L.Tables table table') : L.Runs table.announce table'.announce L.Tables :=
  h.relation.item.announce.map fun _ _ same => h.withItem same

theorem drop (h : L.Tables table table') (asked : Option FacetKind) :
    SameAnswer L.Tables (table.drop asked) (table'.drop asked) := by
  obtain ⟨same⟩ := h
  obtain ⟨lost, rest⟩ := same.drop asked
  refine ⟨?_, ⟨rest⟩⟩
  unfold Table.drop
  dsimp only
  rw [lost]

theorem invalidate (h : L.Tables table table') (asked : Option FacetKind) :
    L.Runs (table.invalidate asked) (table'.invalidate asked) L.Tables := by
  unfold Table.invalidate
  obtain ⟨_, _, lost, lost', same⟩ | ⟨_, _, kept, kept', same⟩ := (h.drop asked).cases
  · rw [lost, lost']
    exact same.announce
  · rw [kept, kept']
    exact .pure same

theorem invalidateIndices (h : L.Tables table table') (name : Option String) :
    L.Runs (table.invalidateIndices name) (table'.invalidateIndices name) L.Tables := by
  obtain ⟨same⟩ := h
  unfold Table.invalidateIndices
  dsimp only
  split
  · split
    · exact announce ⟨same⟩
    · exact .pure ⟨same⟩
  · exact .pure ⟨same⟩

theorem tell (h : L.Tables table table') (call : TableCall) :
    L.Runs (call.tell table) (call.tell table') (SameAnswer L.Tables) := by
  cases call with
  | load facet => exact (h.load facet).telling _
  | read facet => exact h.tellFacet facet
  | findColumn name => exact .showing ((h.findColumn name).mono fun _ _ same =>
      ⟨Columns.found same.1, same.2⟩)
  | insertStatement => exact (h.write fun _ => Table.insertSql).shows _
  | procedureTemplate usualCharset =>
    exact (h.write fun name _ => Table.procedureSql name usualCharset).shows _
  | invalidate asked => exact (h.invalidate asked).noting
  | invalidateIndices name => exact (h.invalidateIndices name).noting
  | item call => exact .noting ((h.relation.item.call call).map fun _ _ same => h.withItem same)

end Tables

/-! ## Views -/

namespace Views

variable {view view' : View}

theorem relation (h : L.Views view view') : L.Relations view.relation view'.relation := by
  obtain ⟨same⟩ := h
  exact same

theorem withRelation (h : L.Views view view') {relation relation' : Relation}
    (same : L.Relations relation relation') :
    L.Views { view with relation } { view' with relation := relation' } := by
  obtain ⟨-⟩ := h
  exact ⟨same⟩

theorem withItem (h : L.Views view view') {item item' : Item} (same : L.Items item item') :
    L.Views (view.withItem item) (view'.withItem item') :=
  h.withRelation (h.relation.withItem same)

theorem name (h : L.Views view view') : view'.item.quotedName = view.item.quotedName := by
  obtain ⟨⟨⟨-, -⟩, -⟩⟩ := h
  rfl

theorem source (h : L.Views view view') : view'.source = view.source := by
  obtain ⟨-⟩ := h
  rfl

theorem loadColumns (h : L.Views view view') :
    L.Runs view.loadColumns view'.loadColumns (SameAnswer L.Views) :=
  h.relation.loadColumns.map fun _ _ same => ⟨same.answer, h.withRelation same.object⟩

theorem loadSource (h : L.Views view view') :
    L.Runs view.loadSource view'.loadSource (SameAnswer L.Views) := by
  obtain ⟨⟨⟨same, above⟩, members⟩⟩ := h
  have item : L.Items view.item _ := ⟨same, above⟩
  exact item.attempt view.source (.viewSource view.item) fun _ _ _ _ h => ⟨⟨h, members⟩⟩

theorem load (h : L.Views view view') (facet : FacetKind) :
    L.Runs (view.load facet) (view'.load facet) (SameAnswer L.Views) := by
  cases facet with
  | columns => exact h.loadColumns
  | source => exact h.loadSource
  | description =>
    exact h.relation.loadDescription.map fun _ _ same =>
      ⟨same.answer, h.withRelation same.object⟩
  | _ => exact .pure ⟨rfl, h⟩

theorem tellFacet (h : L.Views view view') (facet : FacetKind) :
    L.Runs (view.tell facet) (view'.tell facet) (SameAnswer L.Views) := by
  cases facet with
  | columns =>
    refine .showing (h.relation.readColumns.map fun _ _ same => ?_)
    exact ⟨Columns.reports same.1, h.withRelation same.2⟩
  | source =>
    refine Runs.shows (h.loadSource.map fun _ _ same => ?_) _
    exact ⟨congrArg (·.text) same.object.source, same.object⟩
  | description =>
    refine Runs.shows (h.relation.readDescription.map fun _ _ same => ?_) _
    exact ⟨same.answer, h.withRelation same.object⟩
  | _ => exact .pure ⟨rfl, h⟩

theorem createStatement (h : L.Views view view') :
    L.Runs view.createStatement view'.createStatement (SameAnswer L.Views) := by
  refine h.loadColumns.bind fun _ _ loaded => ?_
  obtain ⟨_, _, _, rfl, rfl, h⟩ | ⟨_, _, rfl, rfl, h⟩ := loaded.attempted
  · exact .pure ⟨rfl, h⟩
  · refine h.loadSource.bind fun _ _ loaded => ?_
    obtain ⟨_, _, _, rfl, rfl, h⟩ | ⟨_, _, rfl, rfl, h⟩ := loaded.attempted
    · exact .pure ⟨rfl, h⟩
    · refine .pure ⟨?_, h⟩
      dsimp only
      rw [h.name, h.source, Columns.definitions h.relation.columns.items]

theorem drop (h : L.Views view view') (asked : Option FacetKind) :
    SameAnswer L.Views (view.drop asked) (view'.drop asked) := by
  obtain ⟨same⟩ := h
  obtain ⟨lost, rest⟩ := same.drop asked
  refine ⟨?_, ⟨rest⟩⟩
  unfold View.drop
  dsimp only
  rw [lost]

theorem invalidate (h : L.Views view view') (asked : Option FacetKind) :
    L.Runs (view.invalidate asked) (view'.invalidate asked) L.Views := by
  unfold View.invalidate
  obtain ⟨_, _, lost, lost', same⟩ | ⟨_, _, kept, kept', same⟩ := (h.drop asked).cases
  · rw [lost, lost']
    exact same.relation.item.announce.map fun _ _ item => same.withItem item
  · rw [kept, kept']
    exact .pure same

theorem tell (h : L.Views view view') (call : ViewCall) :
    L.Runs (call.tell view) (call.tell view') (SameAnswer L.Views) := by
  cases call with
  | load facet => exact (h.load facet).telling _
  | read facet => exact h.tellFacet facet
  | createStatement => exact h.createStatement.telling _
  | invalidate asked => exact (h.invalidate asked).noting
  | item call => exact .noting ((h.relation.item.call call).map fun _ _ same => h.withItem same)

end Views

/-! ## Procedures -/

namespace Procedures

variable {procedure procedure' : Procedure}

theorem item (h : L.Procedures procedure procedure') :
    L.Items procedure.item procedure'.item := by
  obtain ⟨same, -⟩ := h
  exact same

theorem parameters (h : L.Procedures procedure procedure') :
    SameFacet (List.Forall₂ L.Parameters) procedure.parameters procedure'.parameters := by
  obtain ⟨-, members⟩ := h
  exact members

theorem withItem (h : L.Procedures procedure procedure') {item item' : Item}
    (same : L.Items item item') :
    L.Procedures (procedure.withItem item) (procedure'.withItem item') := by
  obtain ⟨-, members⟩ := h
  exact ⟨same, members⟩

/-- Besides the item and the parameters the procedures are the same. -/
theorem rest (h : L.Procedures procedure procedure') :
    procedure' =
      { procedure with item := procedure'.item, parameters := procedure'.parameters } := by
  obtain ⟨-, -⟩ := h
  rfl

theorem name (h : L.Procedures procedure procedure') :
    procedure'.quotedName = procedure.quotedName := by
  obtain ⟨⟨-, -⟩, -⟩ := h
  rfl

theorem definitions (h : L.Procedures procedure procedure') :
    procedure'.loadedParameters = procedure.loadedParameters :=
  map_same (fun _ _ same => same.definition) h.parameters.items

theorem unreadParameters (h : L.Procedures procedure procedure') :
    L.Procedures { procedure with parameters := .unloaded }
      { procedure' with parameters := .unloaded } := by
  obtain ⟨same, -⟩ := h
  exact ⟨same, .unloaded⟩

theorem loadParameters (h : L.Procedures procedure procedure') :
    L.Runs procedure.loadParameters procedure'.loadParameters (SameAnswer L.Procedures) := by
  obtain ⟨same, members⟩ := h
  exact (same.load members (fetchParameters_finds same)).map fun _ _ loaded =>
    ⟨loaded.outcome, ⟨loaded.item, loaded.facet⟩⟩

theorem load (h : L.Procedures procedure procedure') (facet : FacetKind) :
    L.Runs (procedure.load facet) (procedure'.load facet) (SameAnswer L.Procedures) := by
  obtain ⟨⟨same, above⟩, members⟩ := h
  have item : L.Items procedure.item _ := ⟨same, above⟩
  cases facet with
  | parameters => exact (Procedures.mk item members).loadParameters
  | source => exact item.attempt _ (.procedureSource _) fun _ _ _ _ h => ⟨h, members⟩
  | privileges => exact item.attempt _ (.privileges _) fun _ _ _ _ h => ⟨h, members⟩
  | description =>
    exact item.attempt _ (.description .procedureDescription _) fun _ _ _ _ h => ⟨h, members⟩
  | _ => exact .pure ⟨rfl, ⟨item, members⟩⟩

/-- A facet other than the parameters, as it is read. -/
theorem read (see : Procedure → α)
    (hs : ∀ procedure item parameters,
      see { procedure with item, parameters } = see procedure)
    {m m' : Engine (Attempted Procedure)} (h : L.Runs m m' (SameAnswer L.Procedures)) :
    L.Runs
      (do
        let (_, procedure) ← m
        pure (see procedure, procedure))
      (do
        let (_, procedure) ← m'
        pure (see procedure, procedure))
      (SameAnswer L.Procedures) :=
  h.map fun _ _ same => ⟨(congrArg see same.object.rest).trans (hs _ _ _), same.object⟩

theorem readParameters (h : L.Procedures procedure procedure') :
    L.Runs procedure.readParameters procedure'.readParameters fun r r' =>
      List.Forall₂ L.Parameters r.1 r'.1 ∧ L.Procedures r.2 r'.2 :=
  h.loadParameters.map fun _ _ same => ⟨same.object.parameters.items, same.object⟩

theorem tellFacet (h : L.Procedures procedure procedure') (facet : FacetKind) :
    L.Runs (procedure.tell facet) (procedure'.tell facet) (SameAnswer L.Procedures) := by
  have loaded := h.load facet
  cases facet with
  | parameters =>
    exact .showing (h.readParameters.mono fun _ _ same => ⟨Parameters.reports same.1, same.2⟩)
  | source => exact (read (·.source.text) (fun _ _ _ => rfl) loaded).shows _
  | privileges => exact (read (·.privileges.items) (fun _ _ _ => rfl) loaded).shows _
  | description => exact (read (·.description.value?.join) (fun _ _ _ => rfl) loaded).shows _
  | _ => exact .pure ⟨rfl, h⟩

theorem announce (h : L.Procedures procedure procedure') :
    L.Runs procedure.announce procedure'.announce L.Procedures :=
  h.item.announce.map fun _ _ same => h.withItem same

theorem checkParameters (h : L.Procedures procedure procedure') (force : Bool) :
    L.Runs (procedure.checkParameters force) (procedure'.checkParameters force)
      (SameAnswer L.Procedures) := by
  unfold Procedure.checkParameters
  rw [h.parameters.isLoaded]
  split
  · exact h.unreadParameters.loadParameters.bind fun _ _ same =>
      same.object.announce.map fun _ _ h => ⟨h.parameters.isLoaded, h⟩
  · exact .pure ⟨rfl, h⟩

theorem isSelectable (h : L.Procedures procedure procedure') :
    L.Runs procedure.isSelectable procedure'.isSelectable (SameAnswer L.Procedures) := by
  refine h.readParameters.map fun r r' same => ⟨?_, same.2⟩
  have definitions := map_same (fun _ _ same => Parameters.definition same) same.1
  have any (parameters : List Parameter) : parameters.any (·.definition.isOutput) =
      (parameters.map (·.definition)).any (·.isOutput) := by
    rw [List.any_map]
    rfl
  dsimp only
  rw [any, any, definitions]

/-- A text that is written from the parameters. -/
theorem write {m : Engine (β × Procedure)} {m' : Engine (γ × Procedure)}
    (h : L.Runs m m' fun r r' => L.Procedures r.2 r'.2)
    (text : String → List ParameterDefinition → String) :
    L.Runs
      (do
        let (_, procedure) ← m
        pure (text procedure.quotedName procedure.loadedParameters, procedure))
      (do
        let (_, procedure) ← m'
        pure (text procedure.quotedName procedure.loadedParameters, procedure))
      (SameAnswer L.Procedures) :=
  h.map fun _ _ same => by
    refine ⟨?_, same⟩
    dsimp only
    rw [same.name, same.definitions]

theorem preconditionError (h : L.Procedures procedure procedure') (e : Error) :
    procedure'.preconditionError e = procedure.preconditionError e := by
  obtain ⟨⟨-, -⟩, -⟩ := h
  rfl

theorem alterStatement (h : L.Procedures procedure procedure') :
    L.Runs procedure.alterStatement procedure'.alterStatement (SameAnswer L.Procedures) := by
  refine h.loadParameters.bind fun _ _ loaded => ?_
  obtain ⟨e, _, _, rfl, rfl, h⟩ | ⟨_, _, rfl, rfl, h⟩ := loaded.attempted
  · exact .pure ⟨congrArg Except.error (h.preconditionError e), h⟩
  · refine (h.load .source).bind fun _ _ loaded => ?_
    obtain ⟨e, _, _, rfl, rfl, h⟩ | ⟨_, _, rfl, rfl, h⟩ := loaded.attempted
    · exact .pure ⟨congrArg Except.error (h.preconditionError e), h⟩
    · refine .pure ⟨?_, h⟩
      dsimp only
      rw [h.name, h.definitions, h.rest]

theorem drop (h : L.Procedures procedure procedure') (asked : Option FacetKind) :
    SameAnswer L.Procedures (procedure.drop asked) (procedure'.drop asked) := by
  obtain ⟨same, members⟩ := h
  obtain ⟨lost, rest⟩ := members.dropIf (Relation.covers asked .parameters)
  refine ⟨?_, ⟨same, rest⟩⟩
  unfold Procedure.drop Procedure.dropAsked
  dsimp only
  rw [lost]

theorem invalidate (h : L.Procedures procedure procedure') (asked : Option FacetKind) :
    L.Runs (procedure.invalidate asked) (procedure'.invalidate asked) L.Procedures := by
  unfold Procedure.invalidate
  obtain ⟨_, _, lost, lost', same⟩ | ⟨_, _, kept, kept', same⟩ := (h.drop asked).cases
  · rw [lost, lost']
    exact same.announce
  · rw [kept, kept']
    exact .pure same

theorem tell (h : L.Procedures procedure procedure') (call : ProcedureCall) :
    L.Runs (call.tell procedure) (call.tell procedure') (SameAnswer L.Procedures) := by
  have read := h.readParameters.mono fun _ _ same => same.2
  cases call with
  | load facet => exact (h.load facet).telling _
  | read facet => exact h.tellFacet facet
  | checkParameters force => exact (h.checkParameters force).shows _
  | isSelectable => exact h.isSelectable.shows _
  | selectStatement withColumns =>
    exact (write read fun name parameters =>
      Procedure.selectSql name parameters withColumns).shows _
  | executeStatement => exact (write read Procedure.executeSql).shows _
  | definition =>
    have checked := (h.checkParameters false).mono fun _ _ same => same.object
    exact (write checked Procedure.definitionText).shows _
  | alterStatement => exact h.alterStatement.telling _
  | invalidate asked => exact (h.invalidate asked).noting
  | item call => exact .noting ((h.item.call call).map fun _ _ same => h.withItem same)

end Procedures

end Likeness

end MetaCatalog
