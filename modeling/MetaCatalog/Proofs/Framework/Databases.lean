import MetaCatalog.Proofs.Framework.Objects

/-!
# Databases and servers under a discipline

Like the calls on their objects, every call on a database or a server keeps to a
discipline (`databaseCall_answers`, `serverCall_ensures`). A search for links is
a bracket around what happens to the tables in it (`WithinTables.links`).
-/

namespace MetaCatalog

open World

/-! ## Searches for links -/

theorem TableQuery.run_bind (m : TableQuery α) (f : α → TableQuery β) (tables : List Table)
    (w : World) :
    (m >>= f).run.run tables w =
      match m.run.run tables w with
      | ((.ok a, tables), w) => (f a).run.run tables w
      | ((.error e, tables), w) => ((.error e, tables), w) := by
  show ExceptT.bindCont f (m tables w).1.1 (m tables w).1.2 (m tables w).2 =
    match m tables w with
    | ((.ok a, tables), w) => f a tables w
    | ((.error e, tables), w) => ((.error e, tables), w)
  rcases m tables w with ⟨⟨_ | a, tables'⟩, w'⟩ <;> rfl

theorem Database.run_links (database : Database) (names : List String) (name : String)
    (w : World) :
    database.links names name w =
      match database.requireLoader with
      | .error e => ((.error e, database), w)
      | .ok l =>
        match l.enter.run w with
        | (.error e, w') => ((.error e, database), w')
        | (.ok (), w') =>
          let found := (TableQuery.links l names name).run.run database.tables w'
          ((found.1.1, { database with tables := found.1.2 }), (l.leave found.2).2) := by
  rw [Database.links]
  cases database.requireLoader with
  | error e => rfl
  | ok l =>
    dsimp only
    rw [Engine.run_bind]
    rcases l.enter.run w with ⟨e | ⟨⟩, w'⟩ <;> rfl

namespace Discipline

variable {D : Discipline} {w : World}

/-! ## Databases -/

/-- The items of a database and of its objects fit. -/
structure FitsDatabase (D : Discipline) (w : World) (database : Database) : Prop where
  item : D.Fits w database.item
  tables : ∀ t ∈ database.tables, D.FitsTable w t
  views : ∀ v ∈ database.views, D.FitsView w v
  procedures : ∀ p ∈ database.procedures, D.FitsProcedure w p

theorem FitsDatabase.settles {w w' : World} {database : Database} (h : D.FitsDatabase w database)
    (hs : w.Settles w') : D.FitsDatabase w' database :=
  ⟨h.item.settles hs, fun t ht => (h.tables t ht).settles hs, fun v hv => (h.views v hv).settles hs,
    fun p hp => (h.procedures p hp).settles hs⟩

section Databases

variable {database : Database}

theorem databaseAnnounce_ensures (h : D.Upholds w) (hf : D.FitsDatabase w database) :
    D.Ensures w database.announce D.FitsDatabase :=
  (announce_ensures h hf.item).map fun _ _ hs hi => { hf.settles hs with item := hi }

theorem clearStatements_ensures (h : D.Upholds w) (l : LoaderId) :
    D.Ensures w l.clearStatements fun _ _ => True :=
  ⟨⟨h.sound.clearStatements l, D.clearStatements h.sound h.holds⟩, settles_clearStatements w l,
    trivial⟩

theorem newLoader_ensures (h : D.Upholds w) {c : ConnectionId} (hc : w.Serves c) :
    D.Ensures w (World.newLoader c) fun w' l => w'.Knows l :=
  ⟨⟨h.sound.newLoader hc, D.newLoader h.sound h.holds hc⟩, settles_newLoader w c,
    (knows_newLoader w c _).mpr (.inl rfl)⟩

theorem disconnect_ensures (h : D.Upholds w) (hf : D.FitsDatabase w database) :
    D.Ensures w database.disconnect D.FitsDatabase := by
  have emptied (w' : World) (hs : w.Settles w') : D.FitsDatabase w' { database with
      item := { database.item with loader := none }
      connection := none
      tables := []
      views := []
      procedures := [] } :=
    ⟨⟨fun _ hl => (nomatch hl), hf.item.allows⟩, fun _ ht => absurd ht List.not_mem_nil,
      fun _ hv => absurd hv List.not_mem_nil, fun _ hp => absurd hp List.not_mem_nil⟩
  rw [Database.disconnect]
  split
  · exact (clearStatements_ensures h _).bind fun w' _ h' hs _ =>
      databaseAnnounce_ensures h' (emptied w' hs)
  · exact databaseAnnounce_ensures h (emptied w (.refl w))

theorem fits_withLoader {loader : Option LoaderId} (hf : D.FitsDatabase w database)
    (hl : ∀ l, loader = some l → w.Knows l) : D.FitsDatabase w (database.withLoader loader) := by
  refine ⟨⟨hl, hf.item.allows⟩, fun t ht => ?_, fun v hv => ?_, fun p hp => ?_⟩
  · obtain ⟨t', ht', rfl⟩ := List.mem_map.mp ht
    exact ⟨hl, (hf.tables t' ht').allows⟩
  · obtain ⟨v', hv', rfl⟩ := List.mem_map.mp hv
    exact ⟨hl, (hf.views v' hv').allows⟩
  · obtain ⟨p', hp', rfl⟩ := List.mem_map.mp hp
    exact ⟨hl, (hf.procedures p' hp').allows⟩

theorem connect_ensures (h : D.Upholds w) (hf : D.FitsDatabase w database) {c : ConnectionId}
    (hc : w.Serves c) : D.Ensures w (database.connect c) D.FitsDatabase := by
  have connected {w : World} {database : Database} (h : D.Upholds w)
      (hf : D.FitsDatabase w database) (hc : w.Serves c) :
      D.Ensures w (do
        let loader ← World.newLoader c
        Database.announce { database.withLoader (some loader) with connection := some c })
        D.FitsDatabase := by
    refine (newLoader_ensures h hc).bind fun w' l h' hs hl => databaseAnnounce_ensures h' ?_
    have knows (k : LoaderId) (hk : some l = some k) : w'.Knows k := Option.some.inj hk ▸ hl
    have fits := fits_withLoader (hf.settles hs) knows
    exact ⟨fits.item, fits.tables, fits.views, fits.procedures⟩
  rw [Database.connect]
  split
  · exact (disconnect_ensures h hf).bind fun w' d h' hs hd => connected h' hd (hs.serves c hc)
  · exact connected h hf hc

theorem requireLoader_knows {l : LoaderId} (hf : D.FitsDatabase w database)
    (hl : database.requireLoader = .ok l) : w.Knows l := by
  rw [Database.requireLoader] at hl
  split at hl
  · next hk =>
    cases hl
    exact hf.item.knows l hk
  · cases hl

theorem requireLoader_fails {e : Error} (he : database.requireLoader = .error e) :
    D.allows e.message := by
  rw [Database.requireLoader] at he
  split at he
  · cases he
  · cases he
    exact D.notConnected _

theorem table_within_ensures (h : D.Upholds w) {id : Uuid} {loader : Option LoaderId}
    (hl : ∀ l, loader = some l → w.Knows l) (name : Identifier) :
    D.Ensures w (Table.within id loader name) D.FitsTable :=
  (within_ensures h .table name id hl).map fun _ _ _ hi => hi

theorem view_within_ensures (h : D.Upholds w) {id : Uuid} {loader : Option LoaderId}
    (hl : ∀ l, loader = some l → w.Knows l) (name : Identifier) :
    D.Ensures w (View.within id loader name) D.FitsView :=
  (within_ensures h .view name id hl).map fun _ _ _ hi => hi

theorem procedure_within_ensures (h : D.Upholds w) {id : Uuid} {loader : Option LoaderId}
    (hl : ∀ l, loader = some l → w.Knows l) (name : Identifier) :
    D.Ensures w (Procedure.within id loader name) D.FitsProcedure :=
  (within_ensures h .procedure name id hl).map fun _ _ _ hi => hi

/-- Making an object for each of several names. -/
theorem make_ensures (fits : World → σ → Prop) {make : Identifier → Engine σ} {l : LoaderId}
    (hf : ∀ {w w' s}, fits w s → w.Settles w' → fits w' s)
    (hm : ∀ {w}, D.Upholds w → (∀ k, some l = some k → w.Knows k) → ∀ name,
      D.Ensures w (make name) fits) (h : D.Upholds w) (hl : w.Knows l) (names : List Identifier) :
    D.Ensures w (names.mapM make) fun w' objects => ∀ s ∈ objects, fits w' s :=
  .mapM (P := fun w _ => w.Knows l) (Q := fits) (fun hl hs => hs.knows l hl) hf
    (fun h hl => hm h (fun _ hk => Option.some.inj hk ▸ hl) _) h names fun _ _ => hl

theorem withObjects_ensures (h : D.Upholds w) (hf : D.FitsDatabase w database) {l : LoaderId}
    (hl : w.Knows l) (names : List (String × Bool) × List String) :
    D.Ensures w (database.withObjects l names) D.FitsDatabase := by
  rw [Database.withObjects]
  refine (make_ensures D.FitsTable Fits.settles (fun h hk => table_within_ensures h hk) h hl _).bind
    fun w₁ tables h₁ hs₁ ht => ?_
  have hl₁ := hs₁.knows l hl
  refine (make_ensures D.FitsView Fits.settles (fun h hk => view_within_ensures h hk) h₁ hl₁ _).bind
    fun w₂ views h₂ hs₂ hv => ?_
  have hl₂ := hs₂.knows l hl₁
  refine (make_ensures D.FitsProcedure Fits.settles (fun h hk => procedure_within_ensures h hk) h₂
    hl₂ _).map fun w₃ procedures hs₃ hp => ?_
  exact ⟨((hf.settles hs₁).settles hs₂).item.settles hs₃,
    fun t h => ((ht t h).settles hs₂).settles hs₃, fun v h => (hv v h).settles hs₃, hp⟩

theorem loadObjects_attempts (h : D.Upholds w) (hf : D.FitsDatabase w database) :
    D.Attempts w D.FitsDatabase database.loadObjects := by
  rw [Database.loadObjects]
  split
  · next he => exact .pure h ⟨hf, .error (requireLoader_fails he)⟩
  · next l hl =>
    have knows := requireLoader_knows hf hl
    refine (fetch_ensures h knows hf.item (Fetches.names.within l)).bind fun w' r h' hs hr => ?_
    obtain ⟨outcome, item⟩ := r
    have fits : D.FitsDatabase w' { database with item } := { hf.settles hs with item := hr.1 }
    cases outcome with
    | error e => exact .pure h' ⟨fits, hr.2.cast⟩
    | ok names =>
      exact (withObjects_ensures h' fits (hs.knows l knows) names).map fun _ _ _ hd => ⟨hd, .ok ()⟩

theorem loadEach_ensures (fits : World → σ → Prop) {load : σ → Engine (Attempted σ)}
    (hf : ∀ {w w' s}, fits w s → w.Settles w' → fits w' s)
    (hl : ∀ {w s}, D.Upholds w → fits w s → D.Attempts w fits (load s)) (h : D.Upholds w)
    (objects : List σ) (ho : ∀ s ∈ objects, fits w s) :
    D.Ensures w (Database.loadEach load objects) fun w' r => ∀ s ∈ r.2, fits w' s := by
  refine (Ensures.mapM (P := fits) (Q := fun w (r : Attempted σ) => fits w r.2) hf hf
    (fun h hs => (hl h hs).quiet) h objects ho).map fun w' attempted _ ha => ?_
  intro s hs
  obtain ⟨r, hr, rfl⟩ := List.mem_map.mp hs
  exact ha r hr

theorem loadMembers_ensures (h : D.Upholds w) (hf : D.FitsDatabase w database) :
    D.Ensures w database.loadMembers fun w' r => D.FitsDatabase w' r.2 := by
  rw [Database.loadMembers]
  refine (loadEach_ensures D.FitsTable Fits.settles table_loadColumns h database.tables
    hf.tables).bind fun w₁ tables h₁ hs₁ ht => ?_
  have hf₁ := hf.settles hs₁
  refine (loadEach_ensures D.FitsView Fits.settles
    (fun h hv => viewLoad_attempts h hv .columns) h₁ database.views
    hf₁.views).bind fun w₂ views h₂ hs₂ hv => ?_
  have hf₂ := hf₁.settles hs₂
  refine (loadEach_ensures D.FitsProcedure Fits.settles
    (fun h hp => procedureLoad_attempts h hp .parameters) h₂ database.procedures
    hf₂.procedures).map fun w₃ procedures hs₃ hp => ?_
  exact ⟨hf₂.item.settles hs₃, fun t h => ((ht t h).settles hs₂).settles hs₃,
    fun v h => (hv v h).settles hs₃, hp⟩

theorem dependencies_ensures (h : D.Upholds w) {l : LoaderId} (hl : w.Knows l) (name : String)
    (kind : ItemKind) (dependsOn : Bool) :
    D.Ensures w (Dependency.load l name kind dependsOn).run fun _ r => D.Fails r := by
  rw [Dependency.load]
  split
  · exact .pure h (.ok [])
  · exact withTransaction_ensures h hl ((Fetches.dependencies name _ dependsOn).within l)

theorem databaseDependencies_ensures (h : D.Upholds w) (hf : D.FitsDatabase w database)
    (name : String) (kind : ItemKind) (dependsOn : Bool) :
    D.Ensures w (database.dependencies name kind dependsOn).run fun _ r => D.Fails r := by
  rcases hr : database.requireLoader with e | l
  · have run : (Query.ofExcept database.requireLoader).run w = (.error e, w) := by
      rw [Query.run_ofExcept, hr]
    exact .ofRun (Query.run_bind_error run) h (.refl w) (.error (requireLoader_fails hr))
  · have run : (database.dependencies name kind dependsOn).run w =
        (Dependency.load l name kind dependsOn).run w := by
      rw [Database.dependencies, Query.run_bind, Query.run_ofExcept, hr]
    have loaded := dependencies_ensures h (requireLoader_knows hf hr) name kind dependsOn
    exact .ofRun run loaded.upholds loaded.settles loaded.result

/-- What a computation on the tables of a database does inside the transaction
of a loader. -/
structure WithinTables (D : Discipline) (l : LoaderId) (m : TableQuery α) : Prop where
  ensures {w : World} {tables : List Table} : D.Upholds w → w.Inside l →
    (∀ t ∈ tables, D.FitsTable w t) →
    D.Ensures w (m.run.run tables) fun w' r => (∀ t ∈ r.2, D.FitsTable w' t) ∧ D.Fails r.1

namespace WithinTables

variable {l : LoaderId}

theorem pure (a : α) : D.WithinTables l (Pure.pure a) :=
  ⟨fun h _ ht => .pure h ⟨ht, .ok a⟩⟩

theorem throw {e : Error} (he : D.allows e.message) :
    D.WithinTables l (throw e : TableQuery α) :=
  ⟨fun h _ ht => .pure h ⟨ht, .error he⟩⟩

theorem bind {m : TableQuery α} {f : α → TableQuery β} (hm : D.WithinTables l m)
    (hf : ∀ a, D.WithinTables l (f a)) : D.WithinTables l (m >>= f) := by
  refine ⟨fun {w tables} h hl ht => ?_⟩
  have run := TableQuery.run_bind m f tables w
  rcases hr : m.run.run tables w with ⟨⟨e | a, tables'⟩, w'⟩ <;> rw [hr] at run
  · obtain ⟨upholds, settles, fits, fails⟩ := (hm.ensures h hl ht).run hr
    exact .ofRun run upholds settles ⟨fits, fails.cast⟩
  · obtain ⟨upholds, settles, fits, -⟩ := (hm.ensures h hl ht).run hr
    have second := (hf a).ensures upholds (settles.inside hl) fits
    exact .ofRun run second.upholds (settles.trans second.settles) second.result

theorem ofQuery {query : Query α}
    (hq : ∀ {w}, D.Upholds w → w.Inside l → D.Ensures w query.run fun _ r => D.Fails r) :
    D.WithinTables l (TableQuery.ofQuery query) :=
  ⟨fun h hl ht => (hq h hl).map fun _ _ hs hr => ⟨fun t h => (ht t h).settles hs, hr⟩⟩

theorem foreignKeys (name : String) : D.WithinTables l (TableQuery.foreignKeys? name) := by
  refine ⟨fun {w tables} h _ ht => ?_⟩
  have load {t : Table} (ht : D.FitsTable w t) :
      D.Ensures w (do
        let r ← t.loadForeignKeys
        Pure.pure (r.1.map fun _ => r.2.foreignKeys.items, r.2)) fun w' r =>
          D.FitsTable w' r.2 ∧ D.Fails r.1 := by
    refine (tableLoad_attempts h ht .foreignKeys).map fun w' r _ hr => ⟨hr.1, ?_⟩
    obtain ⟨outcome, table⟩ := r
    cases outcome with
    | ok _ => exact .ok _
    | error e => exact hr.2.cast
  refine (Ensures.onFirst (P := D.FitsTable) (R := fun r => D.Fails r) Fits.settles load h tables
    ht).map fun w' r _ hr => ⟨hr.1, ?_⟩
  rcases ho : r.1 with _ | outcome
  · exact .ok _
  · cases outcome with
    | ok keys => exact .ok _
    | error e => exact (hr.2 _ ho).cast

/-- The recursion follows the dependents; each that is a table may take one
load. -/
theorem dependentKeys (names : List String) (name : String) (dependents : List Dependency) :
    D.WithinTables l (TableQuery.dependentKeys names name dependents) := by
  induction dependents with
  | nil => exact .pure []
  | cons dependent rest ih =>
    rw [TableQuery.dependentKeys]
    split
    · exact .bind (.foreignKeys dependent.name) fun _ => .bind ih fun _ => .pure _
    · exact ih

theorem links (names : List String) (name : String) :
    D.WithinTables l (TableQuery.links l names name) := by
  refine .bind (.foreignKeys name) fun keys => ?_
  cases keys with
  | none => exact .throw (D.notFound _)
  | some keys =>
    exact .bind (.ofQuery fun h hl => dependencies_ensures h hl.knows name .table false)
      fun dependents => .bind (.dependentKeys names name dependents) fun _ => .pure _

end WithinTables

theorem links_attempts (h : D.Upholds w) (hf : D.FitsDatabase w database) (names : List String)
    (name : String) : D.Attempts w D.FitsDatabase (database.links names name) := by
  have run := database.run_links names name w
  rcases hr : database.requireLoader with e | l <;> rw [hr] at run
  · exact .ofRun run h (.refl w) ⟨hf, .error (requireLoader_fails hr)⟩
  · have knows := requireLoader_knows hf hr
    dsimp only at run
    rcases he : l.enter.run w with ⟨e | ⟨⟩, w'⟩ <;> rw [he] at run
    · obtain ⟨rfl, allowed⟩ := D.enter_refused he
      exact .ofRun run h (.refl w') ⟨hf, .error allowed⟩
    · obtain ⟨upholds, inside, finish⟩ := bracket h knows he
      have grows := (LoaderId.enter_ok knows he).toGrows
      have fits (t : Table) (ht : t ∈ database.tables) : D.FitsTable w' t :=
        ⟨fun k hk => grows.knows k ((hf.tables t ht).knows k hk), (hf.tables t ht).allows⟩
      have found := (WithinTables.links names name).ensures upholds inside fits
      obtain ⟨upholds', settles⟩ := finish _ found.upholds found.settles
      refine .ofRun run upholds' settles ⟨{ hf.settles settles with tables := ?_ }, found.result.2⟩
      intro t ht
      have fit := found.result.1 t ht
      exact ⟨fun k hk => (l.leave_grows _).knows k (fit.knows k hk), fit.allows⟩

/-- The item of the database is only locked meanwhile. -/
theorem databaseInvalidate_ensures (h : D.Upholds w) (hf : D.FitsDatabase w database)
    (asked : Option FacetKind) : D.Ensures w (database.invalidate asked) D.FitsDatabase := by
  rw [Database.invalidate]
  refine (Ensures.mapM (P := D.FitsTable) (Q := D.FitsTable) Fits.settles Fits.settles
    (fun h ht => tableInvalidate_ensures h ht asked) h database.tables hf.tables).bind
    fun w₁ tables h₁ hs₁ ht => ?_
  have hf₁ := hf.settles hs₁
  refine (Ensures.mapM (P := D.FitsView) (Q := D.FitsView) Fits.settles Fits.settles
    (fun h hv => viewInvalidate_ensures h hv asked) h₁ database.views hf₁.views).bind
    fun w₂ views h₂ hs₂ hv => ?_
  have hf₂ := hf₁.settles hs₂
  refine (Ensures.mapM (P := D.FitsProcedure) (Q := D.FitsProcedure) Fits.settles Fits.settles
    (fun h hp => procedureInvalidate_ensures h hp asked) h₂ database.procedures
    hf₂.procedures).bind fun w₃ procedures h₃ hs₃ hp => ?_
  have locked : D.Fits w₃ database.item.lock :=
    ⟨(hf₂.item.settles hs₃).knows, hf.item.allows⟩
  refine (unlock_ensures h₃ locked).map fun w₄ item hs₄ hi => ?_
  exact ⟨hi, fun t h => (((ht t h).settles hs₂).settles hs₃).settles hs₄,
    fun v h => ((hv v h).settles hs₃).settles hs₄, fun p h => (hp p h).settles hs₄⟩

/-- An object that is added to a database. -/
theorem added_fits {fits : World → σ → Prop} {w' : World} {objects : List σ} {object : σ}
    (ho : ∀ s ∈ objects, fits w' s) (hn : fits w' object) :
    ∀ s ∈ objects ++ [object], fits w' s := by
  intro s hs
  rcases List.mem_append.mp hs with hs | hs
  · exact ho s hs
  · exact List.mem_singleton.mp hs ▸ hn

theorem databaseCall_answers (h : D.Upholds w) (hf : D.FitsDatabase w database)
    (call : DatabaseCall) : D.Answers w D.FitsDatabase (call.run database) := by
  have loader : ∀ l, database.loader = some l → w.Knows l := hf.item.knows
  cases call with
  | disconnect => exact .changing (disconnect_ensures h hf)
  | setLogin username password =>
    exact .changing (databaseAnnounce_ensures h
      ⟨hf.item, hf.tables, hf.views, hf.procedures⟩)
  | loadObjects => exact (loadObjects_attempts h hf).reporting
  | loadMembers => exact .quietly (loadMembers_ensures h hf)
  | addTable name =>
    refine .changing ((table_within_ensures h loader name).bind fun w' t h' hs ht => ?_)
    have hf' := hf.settles hs
    exact databaseAnnounce_ensures h' { hf' with tables := added_fits hf'.tables ht }
  | addView name =>
    refine .changing ((view_within_ensures h loader name).bind fun w' v h' hs hv => ?_)
    have hf' := hf.settles hs
    exact databaseAnnounce_ensures h' { hf' with views := added_fits hf'.views hv }
  | addProcedure name =>
    refine .changing ((procedure_within_ensures h loader name).bind fun w' p h' hs hp => ?_)
    have hf' := hf.settles hs
    exact databaseAnnounce_ensures h' { hf' with procedures := added_fits hf'.procedures hp }
  | dependencies name kind dependsOn =>
    have found := databaseDependencies_ensures h hf name kind dependsOn
    exact Attempts.reporting (found.map fun _ _ hs hr => ⟨hf.settles hs, hr⟩)
  | links names name => exact (links_attempts h hf names name).reporting
  | invalidate asked => exact .changing (databaseInvalidate_ensures h hf asked)
  | item call =>
    exact .changing ((itemCall_ensures h hf.item call).map fun _ _ hs hi =>
      { hf.settles hs with item := hi })

end Databases

/-! ## Servers -/

/-- The items of a server and of its databases fit. -/
structure FitsServer (D : Discipline) (w : World) (server : Server) : Prop where
  item : D.Fits w server.item
  databases : ∀ d ∈ server.databases, D.FitsDatabase w d

theorem FitsServer.settles {w w' : World} {server : Server} (h : D.FitsServer w server)
    (hs : w.Settles w') : D.FitsServer w' server :=
  ⟨h.item.settles hs, fun d hd => (h.databases d hd).settles hs⟩

section Servers

variable {server : Server}

theorem serverAnnounce_ensures (h : D.Upholds w) (hf : D.FitsServer w server) :
    D.Ensures w server.announce D.FitsServer :=
  (announce_ensures h hf.item).map fun _ _ hs hi => { hf.settles hs with item := hi }

/-- An operation on every database of a server. -/
theorem databases_ensures {operation : Database → Engine Database}
    (ho : ∀ {w d}, D.Upholds w → D.FitsDatabase w d → D.Ensures w (operation d) D.FitsDatabase)
    (h : D.Upholds w) (hf : D.FitsServer w server) :
    D.Ensures w (do pure { server with databases := ← server.databases.mapM operation })
      D.FitsServer :=
  (Ensures.mapM (P := D.FitsDatabase) (Q := D.FitsDatabase) FitsDatabase.settles
    FitsDatabase.settles ho h server.databases hf.databases).map fun _ _ hs hd =>
      ⟨hf.item.settles hs, hd⟩

theorem databaseUnlock_ensures {database : Database} (h : D.Upholds w)
    (hf : D.FitsDatabase w database) :
    D.Ensures w (do pure { database with item := ← database.item.unlock }) D.FitsDatabase :=
  (unlock_ensures h hf.item).map fun _ _ hs hi => { hf.settles hs with item := hi }

/-- A session leaves a server with the same items, whatever comes of it. -/
theorem readAccounts_fits (hf : D.FitsServer w server) (world : World) (connector : Connector)
    (indicator : Option Indicator) :
    D.FitsServer w (server.readAccounts world connector indicator).server := by
  rw [Server.readAccounts]
  dsimp only
  split
  · exact ⟨hf.item, hf.databases⟩
  · exact ⟨hf.item, hf.databases⟩

theorem serverCall_ensures (h : D.Upholds w) (hf : D.FitsServer w server) (call : ServerCall) :
    D.Ensures w (call.run server) fun w' r =>
      D.FitsServer w' r.2 ∧ (call.isSession = false → r.1 = none) := by
  have changing {m : Engine Server} (hm : D.Ensures w m D.FitsServer) :
      D.Ensures w (changing m) fun w' r =>
        D.FitsServer w' r.2 ∧ (call.isSession = false → r.1 = none) :=
    hm.map fun _ _ _ hs => ⟨hs, fun _ => rfl⟩
  cases call with
  | rename name =>
    have named : D.Fits w { server.item with name } := ⟨hf.item.knows, hf.item.allows⟩
    exact changing ((announce_ensures h named).map fun _ _ hs hi =>
      ⟨hi, (hf.settles hs).databases⟩)
  | setHost host => exact changing (serverAnnounce_ensures h ⟨hf.item, hf.databases⟩)
  | setPort port => exact changing (serverAnnounce_ensures h ⟨hf.item, hf.databases⟩)
  | rememberLogin username password => exact changing (.pure h ⟨hf.item, hf.databases⟩)
  | rememberAdministrator password => exact changing (.pure h ⟨hf.item, hf.databases⟩)
  | lockChildren =>
    refine changing (.pure h ⟨hf.item, fun d hd => ?_⟩)
    obtain ⟨d', hd', rfl⟩ := List.mem_map.mp hd
    have fits := hf.databases d' hd'
    exact { fits with item := ⟨fits.item.knows, fits.item.allows⟩ }
  | unlockChildren => exact changing (databases_ensures databaseUnlock_ensures h hf)
  | disconnectAll => exact changing (databases_ensures disconnect_ensures h hf)
  | invalidate asked =>
    exact changing (databases_ensures (fun h hd => databaseInvalidate_ensures h hd asked) h hf)
  | openSession connector indicator asAdministrator =>
    refine .ofRun rfl h (.refl w) ⟨?_, fun hs => nomatch hs⟩
    exact ⟨hf.item, hf.databases⟩
  | readAccounts connector indicator =>
    refine .ofRun rfl h (.refl w) ⟨?_, fun hs => nomatch hs⟩
    exact readAccounts_fits hf w connector indicator
  | item call =>
    exact changing ((itemCall_ensures h hf.item call).map fun _ _ hs hi =>
      ⟨hi, (hf.settles hs).databases⟩)

end Servers

end Discipline

end MetaCatalog
