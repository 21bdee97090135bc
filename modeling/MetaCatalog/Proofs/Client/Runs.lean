import Mathlib.Data.List.Perm.Basic
import MetaCatalog.Proofs.Client.Steps
import MetaCatalog.Proofs.Client.Workspaces

/-!
# Runs of clients under a discipline

Whatever steps a client takes, its objects stay in order, and the depth of a
loader is the number of guards on it, provided that the primitive steps the
client takes keep to the discipline (`Admits`). `Reachable.upheld` says so of
every client that can be reached, `Upheld.settles` that no step but taking and
dropping a guard changes a depth, and `Upheld.reports` which errors steps
report.
-/

namespace MetaCatalog

open World

namespace Discipline

variable {D : Discipline}

/-! ## Primitive steps -/

/-- Of a statement no more was changed than its rows and parameters, and of its
connection no more than the history. -/
def Touches (w : World) (s : StatementId) (w' : World) : Prop :=
  ∃ catalog statement,
    w' = (w.setCatalog (w.statement s).connection catalog).setStatement s statement ∧
    catalog.still = (w.catalog (w.statement s).connection).still ∧
    statement.connection = (w.statement s).connection ∧ statement.sql = (w.statement s).sql

theorem Touches.statement {w w' : World} {s : StatementId} {statement : Statement}
    (h : w' = w.setStatement s statement) (hc : statement.connection = (w.statement s).connection)
    (hq : statement.sql = (w.statement s).sql) : Touches w s w' :=
  ⟨w.catalog (w.statement s).connection, statement, by rw [setCatalog_catalog, h], rfl, hc, hq⟩

theorem Touches.refl (w : World) (s : StatementId) : Touches w s w :=
  .statement (setStatement_statement w s).symm rfl rfl

theorem handleCall_touches (w : World) (handle : Handle) (call : HandleCall) :
    Touches w handle.statement ((call.run handle).run w).2 := by
  cases call with
  | bind position value =>
    cases position with
    | zero => exact .refl w _
    | succ position =>
      have run := Handle.run_bind w handle (Nat.succ_pos position) value
      exact .statement (congrArg Prod.snd run) rfl rfl
  | execute =>
    have run := Handle.run_execute w handle
    have still := (w.catalog (w.statement handle.statement).connection).execute_still
      (w.statement handle.statement).sql (w.statement handle.statement).parameters
    show Touches w handle.statement (handle.execute.run w).2
    rw [run]
    dsimp only
    split
    · exact .refl w _
    · split
      · next he =>
        rw [he] at still
        exact ⟨_, w.statement handle.statement, (setStatement_statement ..).symm, still, rfl, rfl⟩
      · next he =>
        rw [he] at still
        exact ⟨_, _, rfl, still, rfl, rfl⟩
  | fetch =>
    have run : ((HandleCall.fetch.run handle).run w).2 =
        w.setStatement handle.statement (w.statement handle.statement).fetch.2 := rfl
    refine .statement run ?_ ?_
    all_goals
      rw [Statement.fetch]
      split <;> rfl
  | row =>
    have same : ((do let _ ← handle.row; Pure.pure () : Query Unit).run w).2 = w := by
      rw [Query.run_bind, Handle.row, Query.run_bind, Query.run_get]
      dsimp only
      rw [Query.run_ofExcept]
      cases (w.statement handle.statement).row <;> rfl
    exact .statement (same.trans (setStatement_statement w _).symm) rfl rfl

/-- What is done with a statement by hand is at most a read. -/
theorem handleCall_reads {w : World} (h : w.Sound) (handle : Handle) (call : HandleCall) :
    ((call.run handle).run w).2.Sound ∧ w.Reads ((call.run handle).run w).2 := by
  obtain ⟨catalog, statement, run, still, connection, sql⟩ := handleCall_touches w handle call
  rw [run]
  exact ⟨(h.setCatalog _ _).setStatement connection sql,
    (reads_setCatalog w _ still).trans (reads_setStatement ..)⟩

/-- All that the client has is in order, and the depth of a loader is the number
of guards on it. -/
structure Upheld (D : Discipline) (client : Client) : Prop where
  upholds : D.Upholds client.world
  fits : D.FitsWorkspace client.workspace
  guards (l : LoaderId) : (client.world.loader l).depth = client.guards.count l

/-- The primitive steps of a client keep to a discipline, as far as they are
permitted. -/
structure Admits (D : Discipline) (permits : Client → Step → Prop) : Prop where
  start (seed : BitVec 64) : D.holds { seed }
  openCatalog {w : World} (h : D.Upholds w) (database user password : String) :
    D.holds (World.connect { database, user, password } w).2
  script {w : World} (h : D.Upholds w) (c : ConnectionId) (change : ScriptChange) :
    D.holds (w.setCatalog c (change.apply (w.catalog c)))
  direct {client : Client} {name : String} {call : TransactionCall} (h : D.Upheld client)
    (hp : permits client (.direct name call)) {c : ConnectionId} {catalog : Catalog}
    (ha : call.apply (client.world.catalog c) = .ok catalog) :
    D.holds (client.world.setCatalog c catalog)
  prepare {w : World} (h : D.Upholds w) {l : LoaderId} (hl : w.Knows l) (sql : String) :
    D.holds ((l.prepare sql).run w).2
  useHandle {client : Client} {name : String} {call : HandleCall} {handle : Handle}
    (h : D.Upheld client) (hp : permits client (.useHandle name call))
    (hn : client.workspace.handles.lookup name = some handle) :
    D.holds ((call.run handle).run client.world).2

/-- The start is in order: there is nothing yet. -/
theorem Admits.upheld_start {permits : Client → Step → Prop} (ha : D.Admits permits)
    (seed : BitVec 64) : D.Upheld (.start seed) := by
  refine ⟨⟨⟨fun l hl => ?_, fun hs => ?_, fun ⟨_, hs⟩ _ => ?_⟩, ha.start seed⟩, ?_, fun l => ?_⟩
  · exact absurd hl (Nat.not_lt_zero _)
  · exact absurd hs List.not_mem_nil
  · exact absurd hs List.not_mem_nil
  · constructor <;> exact fun _ hp => absurd hp List.not_mem_nil
  · rfl

/-! ## Steps -/

section Steps

variable {s : Workspace}

/-- An error that may come up. -/
def Allowed (D : Discipline) (e : Error) : Prop := D.allows e.message

theorem withNamed_keeps {named : Workspace → Named α} {name : String}
    {use : α → Working (Option Error)} {Q : Workspace → Option Error → Prop}
    (h : D.Upholds s.world) (hf : D.FitsWorkspace s) (hn : Q s none)
    (hu : ∀ a, (named s).lookup name = some a → D.Keeps s (use a) Q) :
    D.Keeps s (Step.withNamed named name use) Q := by
  rcases hl : (named s).lookup name with _ | a
  · refine (Keeps.pure h hf hn).congr ?_
    unfold Step.withNamed
    rw [Working.run_reading, hl]
  · refine (hu a hl).congr ?_
    unfold Step.withNamed
    rw [Working.run_reading, hl]

/-- A new thing that is put under a name. -/
theorem made_keeps {m : Engine α} {Q : World → α → Prop} {f : α → Workspace → Workspace}
    {R : Option Error → Prop} (hf : D.FitsWorkspace s) (hm : D.Ensures s.world m Q)
    (hr : R none) (hw : ∀ a s, (f a s).world = s.world)
    (hp : ∀ a s, D.FitsWorkspace s → Q s.world a → D.FitsWorkspace (f a s)) :
    D.Keeps s (do
      let a ← Workspace.engine m
      modify (f a)
      Pure.pure none) fun _ r => R r := by
  refine (Keeps.engine hf hm).bind fun s' a h' hf' _ ha => ?_
  exact (Keeps.change (f := f a) h' (hw a s') (hp a s' hf' ha.2)).map fun _ _ _ => hr

theorem attempt_keeps {query : Query Unit} (hf : D.FitsWorkspace s)
    (hq : D.Ensures s.world query.run fun _ _ => True) :
    D.Keeps s (Step.attempt query) fun _ _ => True :=
  (Keeps.engine hf hq).map fun _ _ _ => trivial

/-- An operation on one object whose errors may come up. -/
theorem serving_answers {fits : World → σ → Prop} {operation : σ → Engine (Option Error × σ)}
    (ho : ∀ object, fits s.world object → D.Answers s.world fits (operation object)) :
    D.Serving s.world fits (IfAny D.Allowed) operation :=
  ho

theorem prepare_fails (w : World) (l : LoaderId) (sql : String) :
    D.Fails ((l.prepare sql).run w).1 := by
  rw [LoaderId.run_prepare]
  split
  · split
    · exact .ok _
    · split
      · exact .error (D.refused _)
      · exact .ok _
  · exact .error (D.notConnected _)

theorem prepare_fits {w : World} (hs : w.Sound) {l : LoaderId} (hl : w.Knows l) (sql : String)
    {handle : Handle} (hr : ((l.prepare sql).run w).1 = .ok handle) :
    FitsHandle ((l.prepare sql).run w).2 handle := by
  have sound := LoaderId.prepare_sound hs l sql
  obtain ⟨rfl, cached⟩ := LoaderId.prepare_ok hl (Prod.ext hr rfl)
  exact ⟨(sound.filed cached).1, fun k hk => sound.apart hk ⟨sql, cached⟩⟩

theorem identified_fits {w : World} {item : Item} (id : Option Uuid) (h : D.Fits w item) :
    D.Fits w (Step.identified id item) := by
  cases id with
  | none => exact h
  | some id => exact ⟨h.knows, h.allows⟩

/-- A database without objects. -/
theorem FitsDatabase.bare {w : World} {database : Database} (h : D.Fits w database.item)
    (ht : database.tables = []) (hv : database.views = []) (hp : database.procedures = []) :
    D.FitsDatabase w database := by
  refine ⟨h, ?_, ?_, ?_⟩
  · rw [ht]
    exact fun _ h => absurd h List.not_mem_nil
  · rw [hv]
    exact fun _ h => absurd h List.not_mem_nil
  · rw [hp]
    exact fun _ h => absurd h List.not_mem_nil

theorem addDatabase_keeps (name : String) {database : Database} (h : D.Upholds s.world)
    (hf : D.FitsWorkspace s) (hd : D.FitsDatabase s.world database) :
    D.Keeps s (Workspace.addDatabase name database) fun _ _ => True :=
  (Keeps.change h rfl { hf with databases := forall_put hf.databases hd }).mono
    fun _ _ _ => trivial

/-- The owner of a database does not matter for its items. -/
theorem withServer_fits {w : World} {database : Database} (hd : D.FitsDatabase w database)
    (server : Option Uuid) : D.FitsDatabase w (database.withServer server) :=
  ⟨⟨hd.item.knows, hd.item.allows⟩, hd.tables, hd.views, hd.procedures⟩

theorem giveTo_keeps (owner name : String) {database : Database} (h : D.Upholds s.world)
    (hf : D.FitsWorkspace s) (hd : D.FitsDatabase s.world database) :
    D.Keeps s (Workspace.giveTo owner name database) fun _ _ => True := by
  have added : D.Serving s.world D.FitsServer (fun _ => True)
      (fun server => do pure ((), ← server.addDatabase database)) := by
    intro server hs
    have fits : D.FitsServer s.world { server with
        databases := server.databases ++ [database.withServer (some server.id)] } :=
      ⟨hs.item, added_fits hs.databases (withServer_fits hd _)⟩
    exact (serverAnnounce_ensures h fits).map fun _ _ _ hs => ⟨hs, trivial⟩
  refine (onServer_keeps added owner h hf).bind fun s' _ h' hf' _ _ => ?_
  exact (Keeps.change h' rfl { hf' with databases := forall_drop hf'.databases }).mono
    fun _ _ _ => trivial

theorem removeDatabase_serving (h : D.Upholds s.world) (id : Uuid) :
    D.Serving s.world D.FitsServer (IfAny (D.FitsDatabase s.world)) (·.removeDatabase id) := by
  intro server hs
  show D.Ensures s.world (server.removeDatabase id) _
  unfold Server.removeDatabase
  split
  · exact .pure h ⟨hs, .none⟩
  · next database hd =>
    have removed : D.FitsServer s.world { server with
        databases := server.databases.eraseP (·.id == id) } :=
      ⟨hs.item, fun d hd => hs.databases d (List.mem_of_mem_eraseP hd)⟩
    refine (serverAnnounce_ensures h removed).map fun _ _ _ hs' => ⟨hs', .some ?_⟩
    exact withServer_fits (hs.databases _ (List.mem_of_find?_eq_some hd)) none

theorem takeFrom_keeps (owner : String) (id : Uuid) (name : String) (h : D.Upholds s.world)
    (hf : D.FitsWorkspace s) :
    D.Keeps s (Workspace.takeFrom owner id name) fun _ _ => True := by
  refine (onServer_keeps (removeDatabase_serving h id) owner h hf).bind
    fun s' r h' hf' hs hr => ?_
  rcases r with _ | _ | database
  · exact .pure h' hf' trivial
  · exact .pure h' hf' trivial
  · have fits := (hr _ rfl database rfl).settles hs
    exact (addDatabase_keeps name h' hf' fits).map fun _ _ _ => trivial

/-- Observers come and go. -/
theorem observers_keeps {m : Working α} {a : α} (h : D.Upholds s.world) (hf : D.FitsWorkspace s)
    (alive : List ObserverId) (held : Named ObserverId) (names : List String)
    (hm : m s = (a, { s with
      observers := held, observerNames := names, world := { s.world with observers := alive } })) :
    D.Keeps s m fun _ _ => True := by
  obtain ⟨upholds, settles⟩ := aside_upholds h alive s.world.deliveries s.world.issued
  have fits := hf.grows settles.toGrows
  refine ⟨?_, ?_, ?_, trivial⟩ <;> rw [hm]
  · exact upholds
  · exact ⟨fits.catalogs, fits.loaders, fits.handles, fits.databases, fits.tables, fits.views,
      fits.procedures, fits.items, fits.servers⟩
  · exact settles

variable {permits : Client → Step → Prop} {client : Client}

/-- What any step does that neither takes nor drops a guard. -/
theorem work_keeps (ha : D.Admits permits) (hclient : D.Upheld client) (step : Step)
    (hp : permits client step) :
    D.Keeps client.workspace step.work fun _ r =>
      step.isForeign = false → IfAny D.Allowed r := by
  have h := hclient.upholds
  have hf := hclient.fits
  cases step with
  | openCatalog name raw user password =>
    refine made_keeps (Q := fun w' c => w'.Serves c)
      (f := fun id s => { s with catalogs := Named.put name id s.catalogs }) hf ?_ (fun _ => .none)
      (fun _ _ => rfl) fun c s hf hc => { hf with catalogs := forall_put hf.catalogs hc }
    exact ⟨⟨h.sound.connect _, ha.openCatalog h raw user password⟩, settles_connect ..,
      (serves_connect ..).mpr (.inl rfl)⟩
  | script catalog change =>
    refine withNamed_keeps h hf (fun _ => .none) fun c hc => ?_
    have changed : D.Ensures client.workspace.world
        (fun w => ((), w.setCatalog c (change.apply (w.catalog c)))) fun _ _ => True :=
      .ofRun rfl ⟨h.sound.setCatalog _ _, ha.script h c change⟩ (settles_setCatalog ..) trivial
    exact ((Keeps.engine hf changed).map (f := fun _ => none) fun _ _ _ _ => .none).congr rfl
  | direct catalog call =>
    refine withNamed_keeps h hf (fun _ => .none) fun c hc => ?_
    refine (attempt_keeps hf ?_).mono fun _ _ _ hs => absurd hs Bool.noConfusion
    have run := Query.run_changeCatalog c (call.apply ·) client.workspace.world
    rcases hr : call.apply (client.workspace.world.catalog c) with e | changed <;> rw [hr] at run
    · exact .ofRun run h (.refl _) trivial
    · exact .ofRun run ⟨h.sound.setCatalog _ _, ha.direct hclient hp hr⟩ (settles_setCatalog ..)
        trivial
  | newLoader name catalog =>
    refine withNamed_keeps h hf (fun _ => .none) fun c hc => ?_
    exact made_keeps (f := fun l s => { s with loaders := Named.put name l s.loaders }) hf
      (newLoader_ensures h (hf.catalogs _ (mem_of_lookup hc))) (fun _ => .none) (fun _ _ => rfl)
      fun l s hf hl => { hf with loaders := forall_put hf.loaders hl }
  | keepLoader name owner =>
    have found : D.Serving client.workspace.world D.FitsDatabase
        (fun loader => ∀ l, loader = some l → client.workspace.world.Knows l)
        (fun d => pure (d.loader, d)) := fun _ hd => .pure h ⟨hd, hd.item.knows⟩
    refine (onDatabase_keeps found owner h hf).bind fun s' loader h' hf' hs hl => ?_
    cases hj : loader.join with
    | none => exact .pure h' hf' fun _ => .none
    | some l =>
      refine (Keeps.change (f := fun s => { s with loaders := Named.put name l s.loaders }) h' rfl
        ?_).map fun _ _ _ _ => .none
      have known := hs.knows l (hl _ (Option.join_eq_some_iff.mp hj) l rfl)
      exact { hf' with loaders := forall_put hf'.loaders known }
  | clearStatements loader =>
    refine withNamed_keeps h hf (fun _ => .none) fun l hl => ?_
    exact (Keeps.engine hf (clearStatements_ensures h l)).map fun _ _ _ _ => .none
  | prepare name loader sql =>
    refine withNamed_keeps h hf (fun _ => .none) fun l hl => ?_
    have known := hf.loaders _ (mem_of_lookup hl)
    have prepared : D.Ensures client.workspace.world (l.prepare sql).run fun w r =>
        D.Fails r ∧ ∀ handle, r = .ok handle → FitsHandle w handle :=
      ⟨⟨LoaderId.prepare_sound h.sound l sql, ha.prepare h known sql⟩,
        (LoaderId.prepare_reads _ l sql).toSettles, prepare_fails _ l sql,
        fun _ => prepare_fits h.sound known sql⟩
    refine (Keeps.engine hf prepared).bind fun s' r h' hf' _ hr => ?_
    cases r with
    | error e => exact .pure h' hf' fun _ => .some (hr.2.1 e rfl)
    | ok handle =>
      exact (Keeps.change (f := fun s => { s with handles := Named.put name handle s.handles })
        h' rfl { hf' with handles := forall_put hf'.handles (hr.2.2 handle rfl) }).map
        fun _ _ _ _ => .none
  | useHandle handle call =>
    refine withNamed_keeps h hf (fun _ => .none) fun a hn => ?_
    obtain ⟨sound, reads⟩ := handleCall_reads h.sound a call
    refine (attempt_keeps hf ?_).mono fun _ _ _ hs => absurd hs Bool.noConfusion
    exact ⟨⟨sound, ha.useHandle hclient hp hn⟩, reads.toSettles, trivial⟩
  | enter loader => exact .pure h hf fun _ => .none
  | leave guard => exact .pure h hf fun _ => .none
  | newDatabase name id raw path =>
    have made : D.Ensures client.workspace.world (Database.register raw path) D.FitsDatabase :=
      (fresh_ensures h .database raw).map fun _ _ _ hi => .bare (.blank hi.1 hi.2) rfl rfl rfl
    refine (Keeps.engine hf made).bind fun s' d h' hf' _ hd => ?_
    refine (addDatabase_keeps name h' hf' ?_).map fun _ _ _ _ => .none
    exact { hd.2 with item := identified_fits id hd.2.item }
  | connect name catalog =>
    refine withNamed_keeps h hf (fun _ => .none) fun c hc => ?_
    have serves := hf.catalogs _ (mem_of_lookup hc)
    exact (onDatabase_keeps (serving_answers fun _ hd => .changing (connect_ensures h hd serves))
      name h hf).map fun _ _ hr _ => hr.join
  | database name call =>
    exact (onDatabase_keeps (serving_answers fun _ hf => databaseCall_answers h hf call) name h
      hf).map fun _ _ hr _ => hr.join
  | newTable name raw =>
    exact made_keeps (Q := D.FitsTable)
      (f := fun t s => { s with tables := Named.put name t s.tables }) hf
      ((fresh_ensures h .table raw).map fun _ _ _ hi => .blank hi.1 hi.2) (fun _ => .none)
      (fun _ _ => rfl) fun _ _ hf ht => { hf with tables := forall_put hf.tables ht }
  | table address call =>
    exact (onTable_keeps (serving_answers fun _ hf => tableCall_answers h hf call) address h
      hf).map fun _ _ hr _ => hr.join
  | newView name raw =>
    exact made_keeps (Q := D.FitsView)
      (f := fun t s => { s with views := Named.put name t s.views }) hf
      ((fresh_ensures h .view raw).map fun _ _ _ hi => .blank hi.1 hi.2) (fun _ => .none)
      (fun _ _ => rfl) fun _ _ hf ht => { hf with views := forall_put hf.views ht }
  | view address call =>
    exact (onView_keeps (serving_answers fun _ hf => viewCall_answers h hf call) address h
      hf).map fun _ _ hr _ => hr.join
  | newProcedure name raw =>
    exact made_keeps (Q := D.FitsProcedure)
      (f := fun t s => { s with procedures := Named.put name t s.procedures }) hf
      ((fresh_ensures h .procedure raw).map fun _ _ _ hi => .blank hi.1 hi.2) (fun _ => .none)
      (fun _ _ => rfl) fun _ _ hf ht => { hf with procedures := forall_put hf.procedures ht }
  | procedure address call =>
    exact (onProcedure_keeps (serving_answers fun _ hf => procedureCall_answers h hf call) address
      h hf).map fun _ _ hr _ => hr.join
  | newItem name id kind raw parent loader =>
    refine made_keeps (Q := D.Fits) (f := fun made s => { s with
        items := Named.put name
          { Step.identified id made with
            parent, loader := parent.bind fun _ => s.loaders.lookup loader } s.items })
      hf ((fresh_ensures h kind raw).mono fun _ _ _ hi => .blank hi.1 hi.2) (fun _ => .none)
      (fun _ _ => rfl) fun made s hf hm => { hf with items := forall_put hf.items ?_ }
    refine ⟨fun l hl => ?_, (identified_fits id hm).allows⟩
    obtain ⟨_, -, hl⟩ := Option.bind_eq_some_iff.mp hl
    exact hf.loaders _ (mem_of_lookup hl)
  | renameItem name raw =>
    refine (onFreeItem_keeps (serving_answers fun item hi => .changing ?_) name h hf).map
      fun _ _ _ _ => .none
    have renamed : D.Fits client.workspace.world { item with name := raw } := ⟨hi.knows, hi.allows⟩
    exact announce_ensures h renamed
  | item name call =>
    exact (onFreeItem_keeps (serving_answers fun _ hi => .changing (itemCall_ensures h hi call))
      name h hf).map fun _ _ hr _ => hr.join
  | newServer name host port =>
    exact made_keeps (Q := D.FitsServer)
      (f := fun made s => { s with servers := Named.put name made s.servers }) hf
      ((fresh_ensures h .server (.ofCatalog host)).map fun _ _ _ hi =>
        ⟨.blank hi.1 hi.2, fun _ hd => absurd hd List.not_mem_nil⟩) (fun _ => .none)
      (fun _ _ => rfl) fun _ _ hf hs => { hf with servers := forall_put hf.servers hs }
  | giveTo owner name =>
    refine withNamed_keeps h hf (fun _ => .none) fun _ _ => ?_
    refine withNamed_keeps h hf (fun _ => .none) fun d hd => ?_
    exact (giveTo_keeps owner name h hf (hf.databases _ (mem_of_lookup hd))).map
      fun _ _ _ _ => .none
  | takeFrom owner name =>
    rcases hi : client.workspace.databaseId? name with _ | id
    · refine (Keeps.pure h hf fun _ => .none).congr ?_
      rw [Step.work, Working.run_reading, hi]
    · refine ((takeFrom_keeps owner id name h hf).map fun _ _ _ _ => .none).congr ?_
      rw [Step.work, Working.run_reading, hi]
  | server name call =>
    refine (onServer_keeps (R := fun r => call.isSession = false → r = none)
      (fun _ hs => serverCall_ensures h hs call) name h hf).map fun _ r hr hs => ?_
    cases hj : r.join with
    | none => exact .none
    | some e => cases hr _ (Option.join_eq_some_iff.mp hj) hs
  | newObserver name =>
    refine (observers_keeps (m := Workspace.addObserver name) (a := ()) h hf
      (client.workspace.world.observers.filter
        (some · != client.workspace.observers.lookup name) ++
        [client.workspace.observerNames.length])
      (Named.put name client.workspace.observerNames.length client.workspace.observers)
      (client.workspace.observerNames ++ [name]) rfl).map (f := fun _ => none) fun _ _ _ _ => .none
  | dropObserver name =>
    rcases ho : client.workspace.observers.lookup name with _ | id
    · have nothing : Workspace.dropObserver name client.workspace = (false, client.workspace) := by
        unfold Workspace.dropObserver
        rw [Working.run_reading, ho]
        rfl
      refine ((observers_keeps h hf client.workspace.world.observers client.workspace.observers
        client.workspace.observerNames nothing).map (f := fun _ => none)) fun _ _ _ _ => .none
    · refine ((observers_keeps (a := true) h hf
        (client.workspace.world.observers.filter (· != id))
        (Named.drop name client.workspace.observers) client.workspace.observerNames ?_).map
        (f := fun _ => none)) fun _ _ _ _ => .none
      unfold Workspace.dropObserver
      rw [Working.run_reading, ho]
      rfl

/-- A step that neither takes nor drops a guard does its work, and no more. -/
theorem perform_work (client : Client) {step : Step} (hs : step.isGuard = false) :
    step.perform client = ((step.work client.workspace).1,
      { client with workspace := (step.work client.workspace).2 }) := by
  cases step
  case enter => cases hs
  case leave => cases hs
  all_goals rfl

theorem perform_keeps (ha : D.Admits permits) (hc : D.Upheld client) {step : Step}
    (hp : permits client step) (hs : step.isGuard = false) : D.Upheld (step.perform client).2 := by
  have keeps := work_keeps ha hc step hp
  rw [perform_work client hs]
  exact ⟨keeps.upholds, keeps.fits, fun l => (keeps.settles.depth l).trans (hc.guards l)⟩

theorem engine_run {s : Workspace} {m : Engine α} {a : α} {w : World} (h : m.run s.world = (a, w)) :
    Workspace.engine m s = (a, { s with world := w }) := by
  unfold Workspace.engine
  rw [h]

/-- Taking a guard enters the transaction of its loader, or fails because the
connection is busy. -/
theorem enter_upheld (hc : D.Upheld client) (name : String) :
    D.Upheld ((Step.enter name).perform client).2 ∧
      IfAny D.Allowed ((Step.enter name).perform client).1 := by
  rcases hl : client.workspace.loaders.lookup name with _ | l
  · have run : (Step.enter name).perform client = (none, client) := by
      simp only [Step.perform, hl]
    rw [run]
    exact ⟨hc, .none⟩
  have known := hc.fits.loaders _ (mem_of_lookup hl)
  rcases he : l.enter.run client.world with ⟨outcome, w'⟩
  have ran : Workspace.engine l.enter.run client.workspace =
      (outcome, { client.workspace with world := w' }) := engine_run he
  rcases outcome with e | ⟨⟩
  · have run : (Step.enter name).perform client =
        (some e, { client with workspace := { client.workspace with world := w' } }) := by
      simp only [Step.perform, hl, ran]
    obtain ⟨rfl, allowed⟩ := D.enter_refused he
    rw [run]
    exact ⟨hc, .some allowed⟩
  · have run : (Step.enter name).perform client = (none,
        { workspace := { client.workspace with world := w' }, guards := l :: client.guards }) := by
      simp only [Step.perform, hl, ran]
    have entered := LoaderId.enter_ok known he
    obtain ⟨upholds, -, -⟩ := bracket hc.upholds known he
    rw [run]
    refine ⟨⟨upholds, hc.fits.grows entered.toGrows, fun k => ?_⟩, .none⟩
    refine (entered.depth k).trans ?_
    show (client.world.loader k).depth + (if l = k then 1 else 0) = (l :: client.guards).count k
    rw [List.count_cons, ← hc.guards]
    by_cases hk : l = k
    · rw [if_pos hk, if_pos (beq_iff_eq.mpr hk)]
    · rw [if_neg hk, if_neg fun h => hk (beq_iff_eq.mp h)]

/-- Dropping a guard leaves the transaction of its loader. -/
theorem leave_upheld (hc : D.Upheld client) (guard : Nat) :
    D.Upheld ((Step.leave guard).perform client).2 := by
  rcases hg : client.guards[guard]? with _ | l
  · have run : (Step.leave guard).perform client = (none, client) := by
      simp only [Step.perform, hg]
    rw [run]
    exact hc
  have run : (Step.leave guard).perform client = (none,
      { workspace := { client.workspace with world := (l.leave client.world).2 }
        guards := client.guards.eraseIdx guard }) := by
    simp only [Step.perform, hg]
    rfl
  obtain ⟨bound, hl⟩ := List.getElem?_eq_some_iff.mp hg
  have inside : client.world.Inside l := by
    rw [Inside, hc.guards, ← hl]
    exact List.count_pos_iff.mpr (List.getElem_mem bound)
  rw [run]
  refine ⟨⟨LoaderId.leave_sound hc.upholds.sound l,
    D.leave hc.upholds.sound hc.upholds.holds inside⟩, hc.fits.grows (l.leave_grows _), fun k => ?_⟩
  show ((l.leave client.world).2.loader k).depth = (client.guards.eraseIdx guard).count k
  have count := (List.getElem_cons_eraseIdx_perm bound).count_eq k
  rw [hl, List.count_cons] at count
  rw [LoaderId.leave_depth inside, hc.guards]
  by_cases hk : l = k
  · rw [if_pos (beq_iff_eq.mpr hk)] at count
    rw [if_pos hk]
    omega
  · rw [if_neg fun h => hk (beq_iff_eq.mp h)] at count
    rw [if_neg hk]
    omega

/-- No step but taking or dropping a guard changes the depth of a loader. -/
theorem Upheld.settles (ha : D.Admits permits) (hc : D.Upheld client) {step : Step}
    (hp : permits client step) (hs : step.isGuard = false) :
    client.world.Settles (step.perform client).2.world := by
  rw [perform_work client hs]
  exact (work_keeps ha hc step hp).settles

/-- The library's own errors are those that may come up. -/
theorem Upheld.reports (ha : D.Admits permits) (hc : D.Upheld client) {step : Step}
    (hp : permits client step) (hs : step.isForeign = false) :
    IfAny D.Allowed (step.perform client).1 := by
  cases hg : step.isGuard
  · rw [perform_work client hg]
    exact (work_keeps ha hc step hp).result hs
  · cases step
    case enter => exact (enter_upheld hc _).2
    case leave guard =>
      rcases h : client.guards[guard]? with _ | l
      · simp only [Step.perform, h]
        exact .none
      · simp only [Step.perform, h]
        exact .none
    all_goals cases hg

end Steps

end Discipline

/-- Whatever a client does, it stays in order, and the depth of a loader is the
number of guards on it. -/
theorem Client.Reachable.upheld {D : Discipline} {permits : Client → Step → Prop}
    (ha : D.Admits permits) {client : Client} (h : Client.Reachable permits client) :
    D.Upheld client := by
  induction h with
  | start seed => exact ha.upheld_start seed
  | step step _ hp ih =>
    cases hs : step.isGuard
    · exact Discipline.perform_keeps ha ih hp hs
    · cases step
      case enter => exact (Discipline.enter_upheld ih _).1
      case leave => exact Discipline.leave_upheld ih _
      all_goals cases hs

end MetaCatalog
