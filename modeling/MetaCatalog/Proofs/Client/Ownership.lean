import MetaCatalog.Proofs.Client.Places

/-!
# What belongs to whom

Whatever a client does, its workspace stays in place (`Client.Reachable.inPlace`).
From this it is read off what belongs to whom, and that nothing that was read
outlives the connection it was read from (`Client.Reachable.owned`).
-/

namespace MetaCatalog

open World (Issues Hush Course issues_deliver)

/-! ## Steps -/

theorem Item.At.identified {item : Item} {place : Place} (h : item.At place) (id : Option Uuid) :
    (Step.identified id item).Belongs place.parent place.loader := by
  cases id with
  | none => exact ⟨place.id, h⟩
  | some id => exact ⟨id, rfl, h.parent, h.loader, nofun⟩

/-- A database without objects and without a connection. -/
theorem Database.register_leads (raw : Identifier) (path : String) (id : Option Uuid) :
    Leads Issues (register raw path) fun made =>
      Database.Belongs none { made with item := Step.identified id made.item } :=
  (Item.fresh_leads .database raw).issues.map fun _ ⟨_, h⟩ =>
    let ⟨id, h⟩ := h.identified id
    ⟨id, none, h, fun _ => rfl, List.forall_mem_nil _, List.forall_mem_nil _, List.forall_mem_nil _⟩

namespace Workspace.Houses

theorem addDatabase (name : String) {database : Database} (hd : database.Belongs none) :
    Houses (Workspace.addDatabase name database) fun _ => True :=
  change fun _ hs => { hs with databases := Discipline.forall_put hs.databases hd }

theorem giveTo (owner name : String) {database : Database} (hd : database.Belongs none) :
    Houses (Workspace.giveTo owner name database) fun _ => True := by
  refine (onServer (P := fun _ => True) (fun h => (h.addDatabase hd).map fun _ hs =>
    ⟨hs, trivial⟩) owner).bind fun _ _ => ?_
  exact change fun _ hs => { hs with databases := Discipline.forall_drop hs.databases }

theorem takeFrom (owner : String) (id : Uuid) (name : String) :
    Houses (Workspace.takeFrom owner id name) fun _ => True := by
  refine (onServer (P := fun r => ∀ d, r = some d → d.Belongs none)
    (fun h => h.removeDatabase id) owner).bind fun r hr => ?_
  rcases r with _ | _ | database
  · exact pure trivial
  · exact pure trivial
  · exact (addDatabase name (hr _ rfl database rfl)).quiet

/-- Who observes does not matter for places. -/
theorem observers {m : Working α} (hm : ∀ s : Workspace, ∃ alive observers observerNames,
      (m s).2 = { s with
        world := { s.world with observers := alive }
        observers := observers
        observerNames := observerNames }) :
    Houses m fun _ => True := by
  refine ⟨fun s hs => ?_, fun _ _ => trivial⟩
  obtain ⟨alive, observers, observerNames, run⟩ := hm s
  rw [run]
  exact { hs.issues (issues_deliver s.world alive s.world.deliveries) with }

/-- Whatever is done with a statement by hand, no identifier is handed out. -/
theorem handleCall_leads (handle : Handle) (call : HandleCall) :
    Leads Issues (call.run handle).run fun _ => True := by
  refine ⟨fun w => ?_, fun _ => trivial⟩
  obtain ⟨catalog, statement, run, -⟩ := Discipline.handleCall_touches w handle call
  show w.Issues ((call.run handle).run w).2
  rw [run]
  exact ⟨rfl, Nat.le_refl _⟩

theorem changeCatalog_leads (c : ConnectionId) (change : Catalog → Except Error Catalog) :
    Leads Issues (Query.changeCatalog c change).run fun _ => True := by
  refine ⟨fun w => ?_, fun _ => trivial⟩
  show w.Issues ((Query.changeCatalog c change).run w).2
  rw [Query.run_changeCatalog]
  cases change (w.catalog c) with
  | error e => exact Course.refl w
  | ok catalog => exact ⟨rfl, Nat.le_refl _⟩

/-- A server that is new has an identifier that no other server has. -/
theorem newServer (name host port : String) :
    Houses (Step.newServer name host port).work fun _ => True := by
  refine ⟨fun s hs => ?_, fun _ _ => trivial⟩
  let server : Server :=
    { item := .free (.numbered s.world.seed s.world.issued) .server (.ofCatalog host), host, port }
  have place : server.At ⟨server.id, none, none⟩ :=
    ⟨⟨rfl, rfl, rfl, nofun⟩, List.forall_mem_nil _⟩
  exact { hs with
    servers := Discipline.forall_put (P := fun s : Server => s.At ⟨s.id, none, none⟩)
      hs.servers place
    numbers := hs.numbers.new server rfl }

/-- One case for each step. -/
theorem work (step : Step) : Houses step.work fun _ => True := by
  cases step with
  | openCatalog name database user password =>
    have opened : Leads Issues (World.connect { database, user, password }) fun _ => True :=
      ⟨fun _ => ⟨rfl, Nat.le_refl _⟩, fun _ => trivial⟩
    exact made opened fun _ _ _ hs => { hs with }
  | script catalog change' =>
    refine withNamed (P := fun _ => True) (fun _ _ _ _ => trivial) fun c _ => ?_
    refine (change fun s hs => ?_).quiet
    exact hs.issues ⟨rfl, Nat.le_refl _⟩
  | direct catalog call =>
    exact withNamed (P := fun _ => True) (fun _ _ _ _ => trivial) fun c _ =>
      attempt (changeCatalog_leads c _)
  | newLoader name catalog =>
    exact withNamed (P := fun _ => True) (fun _ _ _ _ => trivial) fun c _ =>
      made (newLoader_hush c).issues fun _ _ _ hs => { hs with }
  | keepLoader name owner =>
    refine (onDatabase (fun _ d hd => .pure hd) owner).bind fun loader _ => ?_
    cases loader.join with
    | none => exact pure trivial
    | some l =>
      refine (change fun s hs => ?_).quiet
      exact { hs with }
  | clearStatements loader =>
    exact withNamed (P := fun _ => True) (fun _ _ _ _ => trivial) fun l _ =>
      (engine (clearStatements_hush l).issues).quiet
  | prepare name loader sql =>
    refine withNamed (P := fun _ => True) (fun _ _ _ _ => trivial) fun l _ => ?_
    have prepared : Leads Issues (l.prepare sql).run fun _ => True :=
      ⟨fun w => (prepare_hush l sql w).toIssues, fun _ => trivial⟩
    refine (engine prepared).bind fun r _ => ?_
    cases r with
    | error e => exact pure trivial
    | ok handle =>
      refine (change fun s hs => ?_).quiet
      exact { hs with }
  | useHandle handle call =>
    exact withNamed (P := fun _ => True) (fun _ _ _ _ => trivial) fun h _ =>
      attempt (handleCall_leads h call)
  | enter loader => exact pure trivial
  | leave guard => exact pure trivial
  | newDatabase name id raw path =>
    exact (engine (Database.register_leads raw path id)).bind fun _ hd =>
      (addDatabase name hd).quiet
  | connect name catalog =>
    refine withNamed (P := fun _ => True) (fun _ _ _ _ => trivial) fun c _ => ?_
    exact (onDatabase (fun _ _ ⟨_, _, h⟩ => (h.connect c).changing) name).quiet
  | database name call =>
    exact (onDatabase (fun _ _ h => Database.call_belongs h call) name).quiet
  | newTable name raw =>
    exact made ((Item.fresh_leads .table raw).issues.map fun _ hi => Table.Belongs.bare hi)
      fun _ ht _ hs => { hs with tables := Discipline.forall_put hs.tables ht }
  | table address call =>
    exact (onTable (fun _ _ h => Table.call_at h call) address).quiet
  | newView name raw =>
    exact made ((Item.fresh_leads .view raw).issues.map fun _ hi => View.Belongs.bare hi)
      fun _ hv _ hs => { hs with views := Discipline.forall_put hs.views hv }
  | view address call =>
    exact (onView (fun _ _ h => View.call_at h call) address).quiet
  | newProcedure name raw =>
    exact made ((Item.fresh_leads .procedure raw).issues.map fun _ hi => Procedure.Belongs.bare hi)
      fun _ hp _ hs => { hs with procedures := Discipline.forall_put hs.procedures hp }
  | procedure address call =>
    exact (onProcedure (fun _ _ h => Procedure.call_at h call) address).quiet
  | newItem name id kind raw parent loader =>
    refine made (Item.fresh_leads kind raw).issues fun item hi s hs => ?_
    obtain ⟨_, h⟩ := hi
    obtain ⟨id, h⟩ := h.identified id
    exact { hs with
      items := Discipline.forall_put (P := fun i : Item => ∃ place, i.At place) hs.items
        ⟨⟨id, parent, parent.bind fun _ => s.loaders.lookup loader⟩, h.id, rfl, rfl, h.settled⟩ }
  | renameItem name raw =>
    exact (onFreeItem (fun h => (h.rename raw).changing) name).quiet
  | item name call =>
    exact (onFreeItem (fun h => (h.call call).changing) name).quiet
  | newServer name host port => exact newServer name host port
  | giveTo owner name =>
    refine withNamed (P := fun _ => True) (fun _ _ _ _ => trivial) fun _ _ => ?_
    exact withNamed (fun _ hs => hs.databases) fun d hd => (giveTo owner name hd).quiet
  | takeFrom owner name =>
    refine reading fun s _ => ?_
    cases s.databaseId? name with
    | none => exact pure trivial
    | some id => exact (takeFrom owner id name).quiet
  | server name call =>
    exact (onServer (P := fun _ => True) (fun h => (Server.call_at h call).mono fun _ hs =>
      ⟨hs, trivial⟩) name).quiet
  | newObserver name =>
    exact (observers fun s => ⟨_, _, _, rfl⟩ : Houses (Workspace.addObserver name) _).quiet
  | dropObserver name =>
    refine Houses.quiet (P := fun _ => True) (observers fun s => ?_)
    unfold Workspace.dropObserver
    rw [Discipline.Working.run_reading]
    cases s.observers.lookup name with
    | none => exact ⟨s.world.observers, s.observers, s.observerNames, rfl⟩
    | some id => exact ⟨_, _, _, rfl⟩

end Workspace.Houses

/-! ## Clients -/

namespace Client

/-- A step leaves the workspace in place. Taking and dropping a guard change no
more than the world. -/
theorem perform_inPlace {client : Client} (h : client.workspace.InPlace) (step : Step) :
    (step.perform client).2.workspace.InPlace := by
  cases hs : step.isGuard
  · rw [Discipline.perform_work client hs]
    exact (Workspace.Houses.work step).inPlace _ h
  · cases step
    case enter name =>
      rw [Step.perform]
      split
      · exact h
      · next l _ =>
        have entered := (Workspace.Houses.engine (enter_hush l).issues).inPlace _ h
        split
        all_goals
          next he =>
          rw [he] at entered
          exact entered
    case leave guard =>
      rw [Step.perform]
      split
      · exact h
      · next l _ => exact (Workspace.Houses.engine (leave_hush l).issues).inPlace _ h
    all_goals cases hs

/-- Whatever a client does, all that it has is in its place. -/
theorem Reachable.inPlace {permits : Client → Step → Prop} {client : Client}
    (h : Reachable permits client) : client.workspace.InPlace := by
  induction h with
  | start seed =>
    constructor <;> first
      | exact List.forall_mem_nil _
      | exact ⟨List.forall_mem_nil _, fun _ => List.forall_mem_nil _⟩
  | step step _ _ ih => exact perform_inPlace ih step

end Client

/-! ## What belongs to whom -/

/-- An object of a database names it as its parent and is read with the loader
that the database has now; so is what was read of the object. Without a loader
nothing is there that was read. -/
structure Database.Owns (database : Database) (object : Object) : Prop where
  parent : object.item.parent = some database.id
  loader : object.item.loader = database.loader
  members : ∀ member ∈ object.members,
    member.parent = some object.item.id ∧ member.loader = database.loader
  unread : database.loader = none → ∀ kind facet, object.part? kind = some facet →
    facet = .unloaded

namespace Database.Belongs

variable {database : Database} {parent : Option Uuid}

theorem owns (h : database.Belongs parent) : ∀ object ∈ database.objects, database.Owns object := by
  obtain ⟨_, _, h⟩ := h
  cases h.place_eq
  intro object ho
  obtain ⟨id, place⟩ := h.object ho
  refine ⟨place.item.parent, place.item.loader, fun member hm => ?_, fun none kind facet hf => ?_⟩
  · rw [show object.item.id = id from place.item.id]
    exact place.members member hm
  · have read := place.part hf
    rw [none] at read
    exact read.unloaded

theorem parent_eq (h : database.Belongs parent) : database.item.parent = parent :=
  let ⟨_, _, h⟩ := h
  h.item.parent

end Database.Belongs

/-- A database names as its parent the server that has it. -/
theorem Workspace.InPlace.parent_iff {s : Workspace} (h : s.InPlace) {database : Database}
    (hd : database ∈ s.everyDatabase) (id : Uuid) : database.item.parent = some id ↔
      ∃ p ∈ s.servers, p.2.id = id ∧ database ∈ p.2.databases := by
  constructor
  · intro hp
    rcases h.everyDatabase hd with free | ⟨p, member, has, owned⟩
    · cases free.parent_eq.symm.trans hp
    · exact ⟨p, member, Option.some.inj (owned.parent_eq.symm.trans hp), has⟩
  · rintro ⟨p, member, rfl, has⟩
    exact ((h.servers p member).databases database has).parent_eq

namespace Client

/-- Nothing that was read outlives the connection it was read from. Whatever a
client did, a database has a server's identifier as its parent if and only if a
server with this identifier has the database, and no two servers share an
identifier before identifiers recur. All objects of a database belong to it and
to the loader that it has now, as does what was read of them; nothing is there
that was read if there is no loader. -/
theorem Reachable.owned {permits : Client → Step → Prop} {client : Client}
    (h : Reachable permits client) :
    (∀ database ∈ client.workspace.everyDatabase, ∀ id, database.item.parent = some id ↔
      ∃ p ∈ client.workspace.servers, p.2.id = id ∧ database ∈ p.2.databases) ∧
    (client.world.issued ≤ UInt64.size → ∀ p ∈ client.workspace.servers,
      ∀ database ∈ client.workspace.everyDatabase,
        database ∈ p.2.databases ↔ database.item.parent = some p.2.id) ∧
    ∀ database ∈ client.workspace.everyDatabase, ∀ object ∈ database.objects,
      database.Owns object := by
  have place := h.inPlace
  refine ⟨fun _ hd id => place.parent_iff hd id, fun bound p hp database hd => ?_,
    fun database hd => ?_⟩
  · rw [place.parent_iff hd]
    constructor
    · exact fun has => ⟨p, hp, rfl, has⟩
    · rintro ⟨q, hq, same, has⟩
      exact place.numbers.apart bound q hq p hp same ▸ has
  · rcases place.everyDatabase hd with free | ⟨_, _, _, owned⟩
    · exact free.owns
    · exact owned.owns

/-- A client that has added a table to a database of a server before it was
connected, and has read the description of the table. -/
def reading : Client := (Client.start 0).after
  [.openCatalog "main" "test.fdb" "SYSDBA" "masterkey", .newServer "s" "localhost" "3050",
    .newDatabase "db" none (.ofCatalog "DB") "test.fdb", .giveTo "s" "db",
    .database "db" (.addTable (.ofCatalog "T")), .connect "db" "main",
    .table { database := some "db", table := some "T" } (.load .description)]

theorem Reachable.owned_reading :
    ∃ p ∈ reading.workspace.servers, ∃ database ∈ p.2.databases, ∃ object ∈ database.objects,
      (object.part? .description).any (·.isLoaded) = true ∧
        database.item.parent = some p.2.id ∧ object.item.parent = some database.id ∧
        database.loader = some ⟨0⟩ ∧ object.item.loader = database.loader := by
  have reachable : Reachable (fun _ _ => True) reading :=
    Reachable.after (.start 0) fun _ _ _ => trivial
  have one : ((reading.workspace.servers.head?.bind fun p => p.2.databases.head?.bind fun d =>
      d.objects.head?.map (d, ·)).any fun (d, o) =>
        d.loader == some ⟨0⟩ && (o.part? .description).any (·.isLoaded)) = true := by
    decide +kernel
  have bound : reading.world.issued ≤ UInt64.size := by decide +kernel
  -- What follows is no matter of what the client did.
  generalize reading = client at reachable one bound
  obtain ⟨⟨database, object⟩, found, shown⟩ := (Option.any_eq_true _ _).mp one
  obtain ⟨p, hp, found⟩ := Option.bind_eq_some_iff.mp found
  obtain ⟨d, hd, found⟩ := Option.bind_eq_some_iff.mp found
  obtain ⟨o, ho, found⟩ := Option.map_eq_some_iff.mp found
  cases found
  obtain ⟨loader, shown⟩ := Bool.and_eq_true_iff.mp shown
  have server := List.mem_of_mem_head? hp
  have has := List.mem_of_mem_head? hd
  have every : database ∈ client.workspace.everyDatabase :=
    List.mem_append_right _ (List.mem_flatMap.mpr ⟨p, server, has⟩)
  have member := List.mem_of_mem_head? ho
  obtain ⟨-, servers, owns⟩ := Reachable.owned reachable
  have owned := owns database every object member
  exact ⟨p, server, database, has, object, member, shown,
    (servers bound p server database every).mp has, owned.parent, eq_of_beq loader, owned.loader⟩

end Client

end MetaCatalog
