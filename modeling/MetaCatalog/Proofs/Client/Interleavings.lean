import MetaCatalog.Proofs.Client.Oblivious

/-!
# Sessions do not see how replies were interleaved

Replies that name a value and replies that take any may be registered with a catalog in
any order among each other: whatever a client does afterwards, it is told the same, step
by step, and in the end only the scripts differ (`Client.session_interleaved`). Two runs of
a session are compared step by step (`Client.tell_same`).
-/

namespace MetaCatalog

open Likeness

/-! ## Scripts -/

namespace World

/-- The world without the scripts of its catalogs. -/
def unscripted (w : World) : World :=
  { w with connections := ⟨w.connections.cells.map fun catalog => { catalog with replies := [] }⟩ }

/-- The world after replies were registered with a catalog. -/
def register (w : World) (c : ConnectionId) (replies : List Reply) : World :=
  w.setCatalog c { w.catalog c with replies := (w.catalog c).replies ++ replies }

theorem setCatalog_of_not_serves {w : World} {c : ConnectionId} (h : ¬ w.Serves c)
    (catalog : Catalog) : w.setCatalog c catalog = w := by
  rw [setCatalog, w.connections.modify_of_next_le (Nat.le_of_not_lt h)]

theorem register_nil (w : World) (c : ConnectionId) : w.register c [] = w := by
  rw [register, List.append_nil]
  exact setCatalog_catalog w c

theorem register_register (w : World) (c : ConnectionId) (some more : List Reply) :
    (w.register c some).register c more = w.register c (some ++ more) := by
  by_cases h : w.Serves c
  · unfold register
    rw [catalog_setCatalog, if_pos ⟨rfl, h⟩, ← List.append_assoc]
    simp only [setCatalog, Arena.modify_modify]
  · unfold register
    rw [setCatalog_of_not_serves h, setCatalog_of_not_serves h, setCatalog_of_not_serves h]

theorem alike_refl (w : World) : interleaved.Worlds w w where
  catalog c := ⟨(w.catalog c).replies, ⟨rfl, rfl⟩, rfl⟩
  connections := rfl
  loaders := rfl
  statements := rfl
  observers := rfl
  deliveries := List.forall₂_same.mpr fun _ _ => ⟨rfl, rfl⟩
  supply := rfl

/-- Registering the same replies of each kind, in whatever order. -/
theorem register_alike (w : World) (c : ConnectionId) {replies replies' : List Reply}
    (same : Reply.SameByKind replies replies') :
    interleaved.Worlds (w.register c replies) (w.register c replies') := by
  refine (alike_refl w).setCatalog c ⟨_, ?_, rfl⟩
  have grown := same.append (w.catalog c).replies []
  rwa [List.append_nil, List.append_nil] at grown

/-- Worlds that are alike but for how the scripts are interleaved are the same without them. -/
theorem unscripted_same {w w' : World} (alike : interleaved.Worlds w w') :
    w'.unscripted = w.unscripted := by
  have delivered : w.deliveries = w'.deliveries :=
    eq_of_forall₂ (Deliveries.eq interleaved_rigid) alike.deliveries
  have drawn : (w.seed, w.issued) = (w'.seed, w'.issued) := alike.supply
  have scripts : w'.connections.cells.map (fun catalog => { catalog with replies := [] }) =
      w.connections.cells.map fun catalog => { catalog with replies := [] } := by
    have size : w'.connections.cells.size = w.connections.cells.size := alike.connections
    refine Array.ext (by rw [Array.size_map, Array.size_map, size]) fun i hi' hi => ?_
    rw [Array.size_map] at hi hi'
    obtain ⟨_, _, same⟩ := alike.catalog ⟨i⟩
    rw [World.catalog, World.catalog, Arena.get_of_lt_next _ hi, Arena.get_of_lt_next _ hi'] at same
    rw [Array.getElem_map, Array.getElem_map, same]
  unfold unscripted
  rw [scripts, alike.loaders, alike.statements, alike.observers, ← delivered,
    (Prod.mk.inj drawn).1, (Prod.mk.inj drawn).2]

end World

/-! ## Clients -/

namespace Client

/-- The client in another world. -/
def inWorld (client : Client) (world : World) : Client :=
  { client with workspace := client.workspace.inWorld world }

/-- The client without the scripts of its catalogs. -/
def unscripted (client : Client) : Client := client.inWorld client.world.unscripted

/-- The client after replies were registered with a catalog, one after the other. -/
def scripted (client : Client) (catalog : String) (replies : List Reply) : Client :=
  client.after (replies.map fun reply => .script catalog (.reply reply))

/-- The clients are the same but for how the scripts of their catalogs are interleaved. -/
inductive Interleaved (client : Client) : Client → Prop
  | mk {world : World} (alike : interleaved.Worlds client.world world) :
    Interleaved client (client.inWorld world)

theorem Interleaved.unscripted {client client' : Client} (h : client.Interleaved client') :
    client'.unscripted = client.unscripted := by
  obtain ⟨alike⟩ := h
  exact congrArg client.inWorld (World.unscripted_same alike)

theorem Interleaved.journal {client client' : Client} (h : client.Interleaved client')
    (c : ConnectionId) : (client'.world.catalog c).journal = (client.world.catalog c).journal := by
  obtain @⟨world, alike⟩ := h
  obtain ⟨_, _, same⟩ := alike.catalog c
  show (world.catalog c).journal = _
  rw [same]

/-! ### Registering -/

/-- The world of a client after replies were registered with a catalog, if there is one of
the name. -/
def registered (client : Client) (catalog : String) (replies : List Reply) : World :=
  match client.workspace.catalogs.lookup catalog with
  | none => client.world
  | some c => client.world.register c replies

theorem perform_reply (client : Client) (catalog : String) (reply : Reply) :
    ((Step.script catalog (.reply reply)).perform client).2 =
      client.inWorld (client.registered catalog [reply]) := by
  rw [Discipline.perform_work client rfl]
  show { client with workspace := ((Step.withNamed _ _ _ : Working _) client.workspace).2 } = _
  unfold Step.withNamed registered
  rw [Discipline.Working.run_reading]
  cases client.workspace.catalogs.lookup catalog with
  | none => rfl
  | some c => rfl

/-- By induction on the replies. -/
theorem scripted_eq (client : Client) (catalog : String) (replies : List Reply) :
    client.scripted catalog replies = client.inWorld (client.registered catalog replies) := by
  induction replies generalizing client with
  | nil =>
    unfold registered
    cases client.workspace.catalogs.lookup catalog with
    | none => rfl
    | some c =>
      dsimp only
      rw [World.register_nil]
      rfl
  | cons reply rest ih =>
    show ((Step.script catalog (.reply reply)).perform client).2.scripted catalog rest = _
    rw [perform_reply, ih]
    show client.inWorld _ = client.inWorld _
    congr 1
    have there : (client.inWorld (client.registered catalog [reply])).workspace.catalogs =
      client.workspace.catalogs := rfl
    unfold registered at there ⊢
    rw [there]
    cases client.workspace.catalogs.lookup catalog with
    | none => rfl
    | some c => exact World.register_register client.world c [reply] rest

/-- The same replies of each kind may be registered in whatever order. -/
theorem scripted_interleaved (client : Client) (catalog : String) {replies replies' : List Reply}
    (same : Reply.SameByKind replies replies') :
    (client.scripted catalog replies).Interleaved (client.scripted catalog replies') := by
  rw [scripted_eq, scripted_eq]
  refine @Interleaved.mk (client.inWorld _) _ ?_
  show interleaved.Worlds (client.registered catalog replies) (client.registered catalog replies')
  unfold registered
  cases client.workspace.catalogs.lookup catalog with
  | none => exact World.alike_refl client.world
  | some c => exact World.register_alike client.world c same

/-! ### Sessions -/

theorem Interleaved.of_workspace {s s' : Workspace} (h : s.Interleaved s')
    (guards : List LoaderId) : Interleaved ⟨s, guards⟩ ⟨s', guards⟩ := by
  obtain ⟨alike⟩ := h
  exact @mk ⟨s, guards⟩ _ alike

theorem enter_same {client client' : Client} (h : client.Interleaved client') (name : String) :
    ((Step.enter name).perform client').1 = ((Step.enter name).perform client).1 ∧
      Interleaved ((Step.enter name).perform client).2 ((Step.enter name).perform client').2 := by
  obtain @⟨world, alike⟩ := h
  have loaders : (client.inWorld world).workspace.loaders = client.workspace.loaders := rfl
  have workspace : (client.inWorld world).workspace = client.workspace.inWorld world := rfl
  rw [Step.perform, Step.perform, loaders, workspace]
  cases client.workspace.loaders.lookup name with
  | none => exact ⟨rfl, .mk alike⟩
  | some l =>
    have entered := Oblivious.engine (.query (enter_finds l)) ⟨alike⟩
    dsimp only
    generalize Workspace.engine l.enter.run client.workspace = run at entered ⊢
    generalize Workspace.engine l.enter.run (client.workspace.inWorld world) = run' at entered ⊢
    obtain ⟨outcome, between⟩ := run
    obtain ⟨outcome', between'⟩ := run'
    obtain ⟨rfl : outcome' = outcome, same : between.Interleaved between'⟩ := entered
    cases outcome' with
    | error e => exact ⟨rfl, .of_workspace same _⟩
    | ok _ => exact ⟨rfl, .of_workspace same _⟩

theorem leave_same {client client' : Client} (h : client.Interleaved client') (guard : Nat) :
    ((Step.leave guard).perform client').1 = ((Step.leave guard).perform client).1 ∧
      Interleaved ((Step.leave guard).perform client).2 ((Step.leave guard).perform client').2 := by
  obtain @⟨world, alike⟩ := h
  have guards : (client.inWorld world).guards = client.guards := rfl
  rw [Step.perform, Step.perform, guards]
  cases client.guards[guard]? with
  | none => exact ⟨rfl, .mk alike⟩
  | some l =>
    obtain ⟨-, same⟩ := Oblivious.engine (leave_runs l) ⟨alike⟩
    exact ⟨rfl, .of_workspace same _⟩

/-- A step is told the same, and the clients stay the same but for their scripts. -/
theorem tell_same {client client' : Client} (h : client.Interleaved client') (step : Step) :
    (step.tell client').1 = (step.tell client).1 ∧
      (step.tell client).2.Interleaved (step.tell client').2 := by
  unfold Step.tell
  cases guard : step.isGuard with
  | false =>
    obtain ⟨alike⟩ := h
    obtain ⟨told, between⟩ := Oblivious.answer step ⟨alike⟩
    exact ⟨told, .of_workspace between _⟩
  | true =>
    cases step
    case enter name =>
      obtain ⟨told, after⟩ := enter_same h name
      exact ⟨congrArg (·.map Error.report) told, after⟩
    case leave index =>
      obtain ⟨told, after⟩ := leave_same h index
      exact ⟨congrArg (·.map Error.report) told, after⟩
    all_goals exact absurd guard Bool.false_ne_true

/-- By induction on the session. -/
theorem session_same {client client' : Client} (h : client.Interleaved client')
    (steps : List Step) :
    (client'.session steps).1 = (client.session steps).1 ∧
      (client.session steps).2.Interleaved (client'.session steps).2 := by
  induction steps generalizing client client' with
  | nil => exact ⟨rfl, h⟩
  | cons step rest ih =>
    obtain ⟨told, between⟩ := tell_same h step
    obtain ⟨more, after⟩ := ih between
    exact ⟨List.cons_eq_cons.mpr ⟨told, more⟩, after⟩

/-- Replies may be registered with a catalog in two orders, as long as those that name a value
keep their order, and so do those that take any. Whatever steps the client performs afterwards,
it is told the same in both runs, results and errors, step by step; the same notifications are
delivered, the same executions are recorded, and in the end the clients are the same but for
the scripts. And a statement that is executed, in whatever world, hands out all rows of the
reply that is chosen there, each once, in their order, and no others, whatever it has had
before. -/
theorem session_interleaved (client : Client) (catalog : String) {replies replies' : List Reply}
    (same : Reply.SameByKind replies replies') (steps : List Step) :
    let run := (client.scripted catalog replies).session steps
    let run' := (client.scripted catalog replies').session steps
    run'.1 = run.1 ∧ run'.2.world.deliveries = run.2.world.deliveries ∧
      (∀ c, (run'.2.world.catalog c).journal = (run.2.world.catalog c).journal) ∧
      run'.2.unscripted = run.2.unscripted ∧
      ∀ (w w' : World) (handle : Handle), w.Prepares handle.statement →
        handle.execute.run w = (.ok (), w') →
        let statement := w.statement handle.statement
        let chosen := Reply.chosen? (w.catalog statement.connection).replies statement.sql
          statement.parameters.first?
        w'.HandsOut handle (chosen.elim [] (·.rows)) := by
  intro run run'
  obtain ⟨told, last⟩ := session_same (scripted_interleaved client catalog same) steps
  have bare := last.unscripted
  exact ⟨told, congrArg (·.world.deliveries) bare, last.journal, bare,
    fun _ _ _ h executed => Handle.execute_handsOut h executed⟩

/-- A client that is in the transaction of a loader and has prepared a statement. -/
def asking : Client := (Client.start 0).after
  [.openCatalog "main" "test.fdb" "SYSDBA" "masterkey", .newLoader "l" "main", .enter "l",
    .prepare "st" "l" "select name from t where key = ?"]

/-- What the client is answered if the key is NULL. -/
def forNull : Reply := ⟨"from t", some .null, [[.text "A"], [.text "B"]]⟩

/-- What it is answered else. -/
def forAny : Reply := ⟨"select", none, [[.text "C"], [.text "D"]]⟩

/-- The client asks for NULL, reads one row, and binds another key. -/
def askingOnce : List Step :=
  [.useHandle "st" (.bind 1 .null), .useHandle "st" .execute, .useHandle "st" .fetch,
    .useHandle "st" .row, .useHandle "st" (.bind 1 (.text "x"))]

/-- The world in which the client has asked. -/
def asked : World := ((asking.scripted "main" [forAny, forNull]).after askingOnce).world

/-- Whichever reply is registered first, the client reads the first row for NULL. If it asks
again then, it gets all rows for another key, and not the row it has left. -/
theorem session_interleaved_asking :
    ((asking.scripted "main" [forNull, forAny]).session askingOnce).1 =
        [some (.ok .null), some (.ok .null), some (.ok (.bool true)),
          some (.ok (.array [.str "A"])), some (.ok .null)] ∧
      asked.Prepares ⟨0⟩ ∧ (asked.statement ⟨0⟩).rows = [[.text "B"]] ∧
      ∃ w', (Handle.execute ⟨⟨0⟩, ⟨0⟩⟩).run asked = (.ok (), w') ∧
        w'.HandsOut ⟨⟨0⟩, ⟨0⟩⟩ [[.text "C"], [.text "D"]] := by
  obtain ⟨told, -, -, -, handsOut⟩ := session_interleaved asking "main"
    (⟨rfl, rfl⟩ : Reply.SameByKind [forAny, forNull] [forNull, forAny]) askingOnce
  have first : ((asking.scripted "main" [forAny, forNull]).session askingOnce).1 =
      [some (.ok .null), some (.ok .null), some (.ok (.bool true)),
        some (.ok (.array [.str "A"])), some (.ok .null)] := by rfl
  have prepared : asked.Prepares ⟨0⟩ := by decide +kernel
  have done : ((Handle.execute ⟨⟨0⟩, ⟨0⟩⟩).run asked).1.isOk = true := by decide +kernel
  obtain ⟨_, done⟩ := exists_of_isOk done
  have chosen : ((Reply.chosen? (asked.catalog (asked.statement ⟨0⟩).connection).replies
      (asked.statement ⟨0⟩).sql (asked.statement ⟨0⟩).parameters.first?).elim [] (·.rows)) =
      [[.text "C"], [.text "D"]] := by rfl
  refine ⟨told.trans first, prepared, by rfl, _, Prod.ext done rfl, ?_⟩
  rw [← chosen]
  exact handsOut asked _ ⟨⟨0⟩, ⟨0⟩⟩ prepared (Prod.ext done rfl)

end Client

end MetaCatalog
