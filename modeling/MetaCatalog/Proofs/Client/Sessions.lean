import MetaCatalog.Proofs.Client.Locks
import MetaCatalog.Proofs.Client.Steps
import MetaCatalog.Proofs.Framework.LikeDatabases

/-!
# Sessions with a database

A session is a list of what is done to a database and its objects, and to the world
around them: catalogs may answer differently, and connections, loaders and statements may
be used by hand. Sessions with databases that are alike tell the same at every event, and
leave databases and worlds that are alike (`Likeness.Databases.session`).
-/

namespace MetaCatalog

/-! ## The world -/

/-- Tells the outcome of a query. -/
def asking (encode : α → Json) (query : Query α) : Engine Json := do
  pure (.outcome encode (← query.run))

/-- Tells that something was done. -/
def doing (operation : Engine α) : Engine Json := do
  let _ ← operation
  pure (.ok .null)

/-- Runs a call on a prepared statement and tells what comes of it. -/
def HandleCall.tell (handle : Handle) : HandleCall → Engine Json
  | bind position value => asking (fun _ => .null) (handle.bind position value)
  | execute => asking (fun _ => .null) handle.execute
  | fetch => asking .bool (liftM handle.fetch)
  | row => asking (.list Value.report) handle.row

/-- What may be done in the world without an object. -/
inductive WorldCall where
  | openCatalog (database user password : String)
  | script (connection : ConnectionId) (change : ScriptChange)
  /-- Calls the transaction of a connection without a loader. -/
  | direct (connection : ConnectionId) (call : TransactionCall)
  | newLoader (connection : ConnectionId)
  | clearStatements (loader : LoaderId)
  | prepare (loader : LoaderId) (sql : String)
  | useHandle (handle : Handle) (call : HandleCall)
  | enter (loader : LoaderId)
  | leave (loader : LoaderId)
  /-- Only these observers are alive from now on. -/
  | observers (alive : List ObserverId)
  /-- Draws the identifier of an item. -/
  | newItem

/-- Performs a call in the world and tells what comes of it. -/
def WorldCall.tell : WorldCall → Engine Json
  | openCatalog database user password => doing (World.connect { database, user, password })
  | script connection change =>
    doing (modify fun w => w.setCatalog connection (change.apply (w.catalog connection)))
  | direct connection call =>
    asking (fun _ => .null) (Query.changeCatalog connection (call.apply ·))
  | newLoader connection => doing (World.newLoader connection)
  | clearStatements loader => doing loader.clearStatements
  | prepare loader sql => asking (fun handle => .nat handle.statement.index) (loader.prepare sql)
  | useHandle handle call => call.tell handle
  | enter loader => asking (fun _ => .null) loader.enter
  | leave loader => doing loader.leave
  | observers alive => doing (modify fun w => { w with observers := alive })
  | newItem => doing World.newId

/-! ## Databases -/

namespace Database

/-- Tells what comes of a deed; nothing if there is no object of the name. -/
def Deed.tell (database : Database) : Deed → Engine (Json × Database)
  | call c => c.tell database
  | connect connection => noting (database.connect connection)
  | table name c => showing (.opt fun told => told) (database.onTable name c.tell)
  | view name c => showing (.opt fun told => told) (database.onView name c.tell)
  | procedure name c => showing (.opt fun told => told) (database.onProcedure name c.tell)

/-- Two operations that leave the same objects leave the same lists of them. -/
theorem onFirst_does {p : σ → Bool} {m : σ → Engine (α × σ)} {m' : σ → Engine (β × σ)}
    (h : ∀ s, Does (m s) (m' s)) (objects : List σ) :
    Does (onFirst p m objects) (onFirst p m' objects) := by
  induction objects with
  | nil => exact fun _ => rfl
  | cons object rest ih =>
    rw [onFirst, onFirst]
    split
    · exact (h object).within (· :: rest) (fun _ => rfl) fun _ => rfl
    · exact ih.within (object :: ·) (fun _ => rfl) fun _ => rfl

theorem onTable_does {m : Table → Engine (α × Table)} {m' : Table → Engine (β × Table)}
    (h : ∀ t, Does (m t) (m' t)) (database : Database) (name : String) :
    Does (database.onTable name m) (database.onTable name m') :=
  (onFirst_does h database.tables).within (fun tables => { database with tables })
    (fun _ => rfl) fun _ => rfl

theorem onView_does {m : View → Engine (α × View)} {m' : View → Engine (β × View)}
    (h : ∀ v, Does (m v) (m' v)) (database : Database) (name : String) :
    Does (database.onView name m) (database.onView name m') :=
  (onFirst_does h database.views).within (fun views => { database with views })
    (fun _ => rfl) fun _ => rfl

theorem onProcedure_does {m : Procedure → Engine (α × Procedure)}
    {m' : Procedure → Engine (β × Procedure)} (h : ∀ p, Does (m p) (m' p)) (database : Database)
    (name : String) : Does (database.onProcedure name m) (database.onProcedure name m') :=
  (onFirst_does h database.procedures).within (fun procedures => { database with procedures })
    (fun _ => rfl) fun _ => rfl

/-- To the database and to the world a deed that tells does what the deed does. -/
theorem Deed.tell_does (database : Database) (deed : Deed) (w : World) :
    ((deed.tell database w).1.2, (deed.tell database w).2) = deed.run database w := by
  cases deed with
  | call call => exact call.tell_does database w
  | connect connection => rfl
  | table name call => exact onTable_does call.tell_does database name w
  | view name call => exact onView_does call.tell_does database name w
  | procedure name call => exact onProcedure_does call.tell_does database name w

/-- What happens in a session. -/
inductive Event where
  | deed (deed : Deed)
  /-- Looks at the database. -/
  | look
  /-- Gives the database to a server, or takes it away. -/
  | move (server : Option Uuid)
  | world (call : WorldCall)

/-- What an event tells, and the database after it. -/
def Event.tell (database : Database) : Event → Engine (Json × Database)
  | deed d => d.tell database
  | look => do pure (database.report (← get), database)
  | move server => pure (.null, database.withServer server)
  | world call => do pure (← call.tell, database)

/-- What a session tells, event by event, and the database after it. -/
def session (database : Database) : List Event → Engine (List Json × Database)
  | [] => pure ([], database)
  | event :: rest => do
    let (told, database) ← event.tell database
    let (more, database) ← database.session rest
    pure (told :: more, database)

end Database

/-! ## Sessions that are alike -/

namespace Likeness

variable {L : Likeness}

theorem asks {query query' : Query α} (h : L.Finds query query' Eq) (encode : α → Json) :
    L.Runs (asking encode query) (asking encode query') Eq := by
  refine Runs.map h fun _ _ same => ?_
  cases same with
  | ok same => exact congrArg (Json.outcome encode ∘ Except.ok) same
  | error e => rfl

theorem does {R : α → β → Prop} {m : Engine α} {m' : Engine β} (h : L.Runs m m' R) :
    L.Runs (doing m) (doing m') Eq :=
  h.map fun _ _ _ => rfl

theorem HandleCall.tell_runs (handle : Handle) (call : HandleCall) :
    L.Runs (call.tell handle) (call.tell handle) Eq := by
  cases call with
  | bind position value => exact asks (bind_finds handle position value) _
  | execute => exact asks (execute_finds handle) _
  | fetch =>
    refine asks (.lift fun w w' alike => ?_) _
    unfold Handle.fetch
    rw [alike.statement]
    exact ⟨rfl, alike.setStatement _ _⟩
  | row =>
    have stands : L.Finds handle.row handle.row Eq := fun w w' alike => by
      refine ⟨?_, alike⟩
      show SameOutcome Eq (w.statement handle.statement).row (w'.statement handle.statement).row
      rw [alike.statement]
      exact .refl _
    exact asks stands _

theorem script_same (change : ScriptChange) {catalog catalog' : Catalog}
    (h : L.Catalogs catalog catalog') :
    L.Catalogs (change.apply catalog) (change.apply catalog') := by
  obtain ⟨replies, same, rfl⟩ := h
  cases change with
  | reply reply => exact ⟨_, L.extend reply same, rfl⟩
  | refusePreparing refusal | refuseExecuting refusal | connected on => exact ⟨replies, same, rfl⟩

theorem direct_same (call : TransactionCall) {catalog catalog' : Catalog}
    (h : L.Catalogs catalog catalog') :
    SameOutcome L.Catalogs (call.apply catalog) (call.apply catalog') := by
  cases call with
  | start => exact start_same h
  | commit => exact commit_same h
  | rollback => exact .ok (rollback_same h)

theorem changeCatalog_finds (connection : ConnectionId) {change : Catalog → Except Error Catalog}
    (h : ∀ {catalog catalog'}, L.Catalogs catalog catalog' →
      SameOutcome L.Catalogs (change catalog) (change catalog')) :
    L.Finds (Query.changeCatalog connection change) (Query.changeCatalog connection change) Eq := by
  intro w w' alike
  rw [Query.run_changeCatalog, Query.run_changeCatalog]
  have changed := h (alike.catalog connection)
  generalize change (w.catalog connection) = outcome at changed ⊢
  generalize change (w'.catalog connection) = outcome' at changed ⊢
  cases changed with
  | ok same => exact ⟨.ok rfl, alike.setCatalog connection same⟩
  | error e => exact ⟨.error e, alike⟩

theorem WorldCall.tell_runs (call : WorldCall) : L.Runs call.tell call.tell Eq := by
  cases call with
  | openCatalog database user password => exact does (connect_runs ⟨[], L.silent, rfl⟩)
  | script connection change =>
    exact fun _ _ alike => ⟨rfl, alike.setCatalog _ (script_same change (alike.catalog connection))⟩
  | direct connection call => exact asks (changeCatalog_finds connection (direct_same call)) _
  | newLoader connection => exact does (newLoader_runs connection)
  | clearStatements loader => exact does (clearStatements_runs loader)
  | prepare loader sql => exact asks (prepare_finds loader sql) _
  | useHandle handle call => exact HandleCall.tell_runs handle call
  | enter loader => exact asks (enter_finds loader) _
  | leave loader => exact does (leave_runs loader)
  | observers alive => exact fun _ _ alike => ⟨rfl, { alike with observers := rfl }⟩
  | newItem => exact does newId_runs

namespace Databases

variable {database database' : Database}

theorem onTable (h : L.Databases database database') (name : String)
    {operation operation' : Table → Engine (α × Table)}
    (ho : ∀ {t t'}, L.Tables t t' → L.Runs (operation t) (operation' t') (SameAnswer L.Tables)) :
    L.Runs (database.onTable name operation) (database'.onTable name operation')
      (SameAnswer L.Databases) :=
  (Runs.onFirst (fun _ _ same => congrArg (· == name) same.rawName) (fun _ _ => ho)
    h.tables).map fun _ _ same => ⟨same.answer, h.withTables same.object⟩

theorem onView (h : L.Databases database database') (name : String)
    {operation operation' : View → Engine (α × View)}
    (ho : ∀ {v v'}, L.Views v v' → L.Runs (operation v) (operation' v') (SameAnswer L.Views)) :
    L.Runs (database.onView name operation) (database'.onView name operation')
      (SameAnswer L.Databases) :=
  (Runs.onFirst (fun _ _ same => congrArg (· == name) same.rawName) (fun _ _ => ho)
    h.views).map fun _ _ same => ⟨same.answer, h.withViews same.object⟩

theorem onProcedure (h : L.Databases database database') (name : String)
    {operation operation' : Procedure → Engine (α × Procedure)}
    (ho : ∀ {p p'}, L.Procedures p p' →
      L.Runs (operation p) (operation' p') (SameAnswer L.Procedures)) :
    L.Runs (database.onProcedure name operation) (database'.onProcedure name operation')
      (SameAnswer L.Databases) :=
  (Runs.onFirst (fun _ _ same => congrArg (· == name) same.rawName) (fun _ _ => ho)
    h.procedures).map fun _ _ same => ⟨same.answer, h.withProcedures same.object⟩

theorem deed (h : L.Databases database database') (deed : Database.Deed) :
    L.Runs (deed.tell database) (deed.tell database') (SameAnswer L.Databases) := by
  cases deed with
  | call call => exact h.tell call
  | connect connection => exact (h.connect connection).noting
  | table name call => exact (h.onTable name fun same => same.tell call).shows _
  | view name call => exact (h.onView name fun same => same.tell call).shows _
  | procedure name call => exact (h.onProcedure name fun same => same.tell call).shows _

/-- What happens is told alike, and leaves databases that are alike. -/
theorem event (same : ∀ id, L.ids id id) (h : L.Databases database database')
    (event : Database.Event) :
    L.Runs (event.tell database) (event.tell database') (SameAnswer L.Databases) := by
  cases event with
  | deed deed => exact h.deed deed
  | look => exact fun w w' alike => ⟨⟨h.report alike, h⟩, alike⟩
  | move server =>
    refine .pure ⟨rfl, ?_⟩
    obtain ⟨⟨item, -⟩, ts, vs, ps⟩ := h
    refine ⟨⟨item, ?_⟩, ts, vs, ps⟩
    cases server with
    | none => exact .none
    | some id => exact .some (same id)
  | world call => exact (WorldCall.tell_runs call).map fun _ _ told => ⟨told.symm, h⟩

/-- By induction on the session: every event is told alike. -/
theorem session (same : ∀ id, L.ids id id) (h : L.Databases database database')
    (events : List Database.Event) :
    L.Runs (database.session events) (database'.session events) (SameAnswer L.Databases) := by
  induction events generalizing database database' with
  | nil => exact .pure ⟨rfl, h⟩
  | cons event rest ih =>
    refine (h.event same event).bind fun _ _ told => (ih told.object).map fun _ _ more =>
      ⟨?_, more.object⟩
    dsimp only
    rw [told.answer, more.answer]

end Databases

end Likeness

end MetaCatalog
