import MetaCatalog.Proofs.Client.Ownership
import MetaCatalog.Proofs.Client.Sessions

/-!
# Objects that are added before or after connecting

A table, view or procedure that is added to a database without a connection gets its loader
when the database is connected; one that is added later gets it at once. It makes no
difference (`Database.addAll_connect`): the database and the world are the same in the end.
What has become of the database then is written down in `Database.Joined`. If one of the runs
draws other identifiers the databases are alike, and no session can tell them apart
(`Client.Reachable.additions_connect`).
-/

namespace MetaCatalog

/-! ## Announcements -/

namespace Subject

/-- The subject after an announcement. -/
def heard (subject : Subject) (alive : ObserverId → Bool) : Subject :=
  if subject.isLocked then { subject with pending := true } else subject.prune alive

/-- What is delivered by an announcement. -/
def news (subject : Subject) (alive : ObserverId → Bool) : List Delivery :=
  if subject.isLocked then [] else [⟨subject.id, subject.observers.filter alive⟩]

theorem id_heard (subject : Subject) (alive : ObserverId → Bool) :
    (subject.heard alive).id = subject.id := by
  unfold heard
  split <;> rfl

/-- An announcement is heard by the same observers as the one before it. -/
theorem news_heard (subject : Subject) (alive : ObserverId → Bool) :
    (subject.heard alive).news alive = subject.news alive := by
  unfold heard
  split
  · next locked =>
    rw [news, news, if_pos locked]
    exact if_pos locked
  · next unlocked =>
    rw [news, news, if_neg unlocked]
    refine (if_neg unlocked).trans ?_
    show [Delivery.mk subject.id ((subject.observers.filter alive).filter alive)] = _
    rw [List.filter_filter]
    simp only [Bool.and_self]

end Subject

/-- The world after deliveries. -/
def World.told (world : World) (news : List Delivery) : World :=
  { world with deliveries := world.deliveries ++ news }

theorem World.run_announce (subject : Subject) (w : World) : World.announce subject w =
    (subject.heard w.isAlive, w.told (subject.news w.isAlive)) := by
  unfold announce Subject.announce Subject.heard Subject.news
  split
  · rw [told, List.append_nil]
    rfl
  · rfl

namespace Database

/-- The database after an announcement. -/
def heard (database : Database) (alive : ObserverId → Bool) : Database :=
  { database with
    item := { database.item with subject := database.item.subject.heard alive } }

/-- What is delivered by an announcement of the database. -/
def news (database : Database) (alive : ObserverId → Bool) : List Delivery :=
  database.item.subject.news alive

theorem id_heard (database : Database) (alive : ObserverId → Bool) :
    (database.heard alive).id = database.id :=
  database.item.subject.id_heard alive

theorem news_heard (database : Database) (alive : ObserverId → Bool) :
    (database.heard alive).news alive = database.news alive :=
  database.item.subject.news_heard alive

theorem run_announce (database : Database) (w : World) : database.announce w =
    (database.heard w.isAlive, w.told (database.news w.isAlive)) := by
  unfold announce Item.announce
  rw [Engine.run_bind, Engine.run_bind, World.run_announce]
  rfl

/-! ## Additions -/

/-- A call that adds an object. -/
inductive Addition where
  | table (name : Identifier)
  | view (name : Identifier)
  | procedure (name : Identifier)

namespace Addition

/-- The name of the table that is added, if one is. -/
def table? : Addition → Option Identifier
  | table name => some name
  | _ => none

/-- The name of the view that is added, if one is. -/
def view? : Addition → Option Identifier
  | view name => some name
  | _ => none

/-- The name of the procedure that is added, if one is. -/
def procedure? : Addition → Option Identifier
  | procedure name => some name
  | _ => none

/-- The call on a database. -/
def call : Addition → DatabaseCall
  | table name => .addTable name
  | view name => .addView name
  | procedure name => .addProcedure name

/-- Adds the object to a database. -/
def run (database : Database) : Addition → Engine Database
  | table name => database.addTable name
  | view name => database.addView name
  | procedure name => database.addProcedure name

/-- The item of the object that is added. -/
def item (database : Database) (id : Uuid) (kind : ItemKind) (name : Identifier) : Item :=
  { Item.free id kind name with parent := some database.id, loader := database.loader }

/-- The database with the object, which gets the identifier. -/
def join (database : Database) (id : Uuid) : Addition → Database
  | table name => { database with
    tables := database.tables ++ [{ relation := { item := item database id .table name } }] }
  | view name => { database with
    views := database.views ++ [{ relation := { item := item database id .view name } }] }
  | procedure name => { database with
    procedures := database.procedures ++ [{ item := item database id .procedure name }] }

end Addition

/-- Adds objects one after the other. -/
def addAll (database : Database) (additions : List Addition) : Engine Database :=
  additions.foldlM Addition.run database

/-- The database with a new loader, which all its objects get. -/
def linked (database : Database) (loader : LoaderId) (connection : ConnectionId) : Database :=
  { database.withLoader (some loader) with connection := some connection }

theorem run_addition (database : Database) (addition : Addition) (w : World) :
    addition.run database w =
      ((addition.join database (Uuid.numbered w.seed w.issued)).heard w.isAlive,
        { w with issued := w.issued + 1 }.told (database.news w.isAlive)) := by
  cases addition with
  | table name | view name | procedure name =>
    exact run_announce _ { w with issued := w.issued + 1 }

/-- A database without a connection has nothing to give up. -/
theorem run_connect {database : Database} (unconnected : database.connection = none)
    (c : ConnectionId) (w : World) :
    database.connect c w =
      ((database.linked ⟨w.loaders.next⟩ c).heard w.isAlive,
        { w with loaders := w.loaders.push { connection := c } }.told
          (database.news w.isAlive)) := by
  unfold connect
  rw [unconnected]
  exact run_announce (database.linked ⟨w.loaders.next⟩ c)
    { w with loaders := w.loaders.push { connection := c } }

theorem heard_join (database : Database) (addition : Addition) (id : Uuid)
    (alive : ObserverId → Bool) :
    (addition.join database id).heard alive = addition.join (database.heard alive) id := by
  have kept := database.id_heard alive
  cases addition with
  | table name | view name | procedure name =>
    unfold Addition.join Addition.item
    rw [kept]
    rfl

/-- An object gets the same loader, whether it is added before or after connecting. -/
theorem linked_join (database : Database) (addition : Addition) (id : Uuid) (l : LoaderId)
    (c : ConnectionId) :
    (addition.join database id).linked l c = addition.join (database.linked l c) id := by
  cases addition with
  | table name | view name | procedure name =>
    unfold linked withLoader Addition.join
    dsimp only
    rw [List.map_append]
    rfl

theorem connection_join (database : Database) (addition : Addition) (id : Uuid) :
    (addition.join database id).connection = database.connection := by
  cases addition with
  | table name | view name | procedure name => rfl

theorem news_join (database : Database) (addition : Addition) (id : Uuid)
    (alive : ObserverId → Bool) :
    (addition.join database id).news alive = database.news alive := by
  cases addition with
  | table name | view name | procedure name => rfl

/-- Adding one object and connecting commute. -/
theorem addition_connect {database : Database} (unconnected : database.connection = none)
    (addition : Addition) (c : ConnectionId) :
    (do (← addition.run database).connect c) = (do addition.run (← database.connect c)) := by
  funext w
  have joined : ((addition.join database (Uuid.numbered w.seed w.issued)).heard
      w.isAlive).connection = none := (connection_join ..).trans unconnected
  rw [Engine.run_bind, Engine.run_bind, run_addition, run_connect unconnected]
  dsimp only
  rw [run_connect joined, run_addition, heard_join, linked_join]
  refine Prod.ext ?_ ?_
  · rfl
  · rw [news_join]
    rfl

/-- Adding objects and connecting commute. -/
theorem addAll_connect {database : Database} (unconnected : database.connection = none)
    (additions : List Addition) (c : ConnectionId) :
    (do (← database.addAll additions).connect c) =
      (do (← database.connect c).addAll additions) := by
  funext w
  -- The world is fixed: only a database that the first addition leaves is known to be
  -- without a connection still.
  induction additions generalizing database w with
  | nil => rfl
  | cons addition rest ih =>
    have swapped := congrFun (addition_connect unconnected addition c) w
    have unconnected' : (addition.run database w).1.connection = none := by
      rw [run_addition]
      exact (connection_join ..).trans unconnected
    calc (do (← database.addAll (addition :: rest)).connect c) w
      _ = (do (← (addition.run database w).1.addAll rest).connect c)
          (addition.run database w).2 := by
        unfold addAll
        rw [List.foldlM_cons]
        rfl
      _ = (do (← (addition.run database w).1.connect c).addAll rest)
          (addition.run database w).2 := ih unconnected' _
      _ = (do (← (do addition.run (← database.connect c))).addAll rest) w :=
        congrArg (fun r => r.1.addAll rest r.2) swapped
      _ = (do (← database.connect c).addAll (addition :: rest)) w := by
        unfold addAll
        simp only [List.foldlM_cons]
        rfl

/-! ## What comes of it -/

/-- A database to which objects were added, and the world afterwards. -/
structure Extended (database : Database) (additions : List Addition) (w : World)
    (extended : Database) (w' : World) : Prop where
  id : extended.id = database.id
  connection : extended.connection = database.connection
  news : extended.news w.isAlive = database.news w.isAlive
  tables : extended.tables.map (·.name) =
    database.tables.map (·.name) ++ additions.filterMap Addition.table?
  views : extended.views.map (·.name) =
    database.views.map (·.name) ++ additions.filterMap Addition.view?
  procedures : extended.procedures.map (·.name) =
    database.procedures.map (·.name) ++ additions.filterMap Addition.procedure?
  world : ∃ issued, w' = { w with issued }.told
    (List.replicate additions.length (database.news w.isAlive)).flatten

theorem Extended.refl (database : Database) (w : World) : database.Extended [] w database w := by
  refine ⟨rfl, rfl, rfl, (List.append_nil _).symm, (List.append_nil _).symm,
    (List.append_nil _).symm, w.issued, ?_⟩
  show w = { w with deliveries := w.deliveries ++ [] }
  rw [List.append_nil]

theorem Extended.trans {first second third : Database} {w w' w'' : World}
    {additions more : List Addition} (h : first.Extended additions w second w')
    (h' : second.Extended more w' third w'') :
    first.Extended (additions ++ more) w third w'' := by
  obtain ⟨issued, world⟩ := h.world
  obtain ⟨issued', world'⟩ := h'.world
  have alive : w'.isAlive = w.isAlive := by rw [world]; rfl
  have news := h'.news
  rw [alive] at news world'
  refine ⟨h'.id.trans h.id, h'.connection.trans h.connection, news.trans h.news, ?_, ?_, ?_,
    issued', ?_⟩
  · rw [h'.tables, h.tables, List.filterMap_append, List.append_assoc]
  · rw [h'.views, h.views, List.filterMap_append, List.append_assoc]
  · rw [h'.procedures, h.procedures, List.filterMap_append, List.append_assoc]
  · rw [world', world, h.news, List.length_append, List.replicate_add, List.flatten_append]
    unfold World.told
    dsimp only
    rw [List.append_assoc]

theorem addition_extended (database : Database) (addition : Addition) (w : World) :
    database.Extended [addition] w (addition.run database w).1 (addition.run database w).2 := by
  rw [run_addition]
  have news := (addition.join database (Uuid.numbered w.seed w.issued)).news_heard w.isAlive
  have id := (addition.join database (Uuid.numbered w.seed w.issued)).id_heard w.isAlive
  have world : ∃ issued, { w with issued := w.issued + 1 }.told (database.news w.isAlive) =
      { w with issued }.told (List.replicate 1 (database.news w.isAlive)).flatten :=
    ⟨w.issued + 1, by rw [List.replicate_one, List.flatten_singleton]⟩
  cases addition with
  | table name =>
    exact ⟨id, rfl, news, List.map_append, (List.append_nil _).symm, (List.append_nil _).symm,
      world⟩
  | view name =>
    exact ⟨id, rfl, news, (List.append_nil _).symm, List.map_append, (List.append_nil _).symm,
      world⟩
  | procedure name =>
    exact ⟨id, rfl, news, (List.append_nil _).symm, (List.append_nil _).symm, List.map_append,
      world⟩

theorem addAll_extended (database : Database) (additions : List Addition) (w : World) :
    database.Extended additions w (database.addAll additions w).1
      (database.addAll additions w).2 := by
  induction additions generalizing database w with
  | nil => exact .refl database w
  | cons addition rest ih =>
    unfold addAll
    rw [List.foldlM_cons]
    exact (database.addition_extended addition w).trans (ih _ _)

theorem addAll_belongs {database : Database} {parent : Option Uuid}
    (h : database.Belongs parent) (additions : List Addition) (w : World) :
    (database.addAll additions w).1.Belongs parent := by
  induction additions generalizing database w with
  | nil => exact h
  | cons addition rest ih =>
    unfold addAll
    rw [List.foldlM_cons]
    have added : (addition.run database w).1.Belongs parent := by
      have called := (call_belongs h addition.call).result w
      cases addition with
      | table name | view name | procedure name => exact called
    exact ih added _

/-- A database that was connected after objects were added, or before. It has its old objects
and the new ones, all with the loader of the connection and all unread; the announcements
were heard by whoever observed it, and nothing else has happened in the world. -/
structure Joined (database : Database) (additions : List Addition) (c : ConnectionId) (w : World)
    (joined : Database) (w' : World) : Prop where
  id : joined.id = database.id
  connection : joined.connection = some c
  loader : joined.loader = some ⟨w.loaders.next⟩
  tables : joined.tables.map (·.name) =
    database.tables.map (·.name) ++ additions.filterMap Addition.table?
  views : joined.views.map (·.name) =
    database.views.map (·.name) ++ additions.filterMap Addition.view?
  procedures : joined.procedures.map (·.name) =
    database.procedures.map (·.name) ++ additions.filterMap Addition.procedure?
  owns : ∀ object ∈ joined.objects, joined.Owns object
  unread : ∀ object ∈ joined.objects, ∀ kind facet, object.part? kind = some facet →
    facet = .unloaded
  world : ∃ issued, w' = { w with
    issued
    loaders := w.loaders.push { connection := c }
    deliveries := w.deliveries ++ if database.item.subject.isLocked then [] else
      List.replicate (additions.length + 1)
        ⟨database.id, database.item.subject.observers.filter w.isAlive⟩ }

/-- What is read of an object does not change when it gets another loader. -/
theorem mem_objects_linked {database : Database} {l : LoaderId} {c : ConnectionId}
    {object : Object} (h : object ∈ (database.linked l c).objects) :
    ∃ before ∈ database.objects, object.part? = before.part? := by
  simp only [objects, linked, withLoader, List.map_map, List.mem_append, List.mem_map,
    Function.comp_apply] at h
  simp only [objects, List.mem_append, List.mem_map]
  rcases h with (⟨t, ht, rfl⟩ | ⟨v, hv, rfl⟩) | ⟨p, hp, rfl⟩
  · exact ⟨.table t, .inl (.inl ⟨t, ht, rfl⟩), funext fun kind => by cases kind <;> rfl⟩
  · exact ⟨.view v, .inl (.inr ⟨v, hv, rfl⟩), funext fun kind => by cases kind <;> rfl⟩
  · exact ⟨.procedure p, .inr ⟨p, hp, rfl⟩, funext fun kind => by cases kind <;> rfl⟩

theorem names_linked (database : Database) (l : LoaderId) (c : ConnectionId) :
    (database.linked l c).tables.map (·.name) = database.tables.map (·.name) ∧
      (database.linked l c).views.map (·.name) = database.views.map (·.name) ∧
      (database.linked l c).procedures.map (·.name) = database.procedures.map (·.name) :=
  ⟨List.map_map, List.map_map, List.map_map⟩

theorem replicate_news (database : Database) (alive : ObserverId → Bool) (n : Nat) :
    (List.replicate n (database.news alive)).flatten =
      if database.item.subject.isLocked then [] else
        List.replicate n ⟨database.id, database.item.subject.observers.filter alive⟩ := by
  unfold news Subject.news
  split
  · exact List.flatten_replicate_nil
  · exact List.flatten_replicate_singleton

theorem addAll_connect_joined {database : Database} {parent : Option Uuid}
    (h : database.Belongs parent) (unconnected : database.connection = none)
    (additions : List Addition) (c : ConnectionId) (w : World) :
    database.Joined additions c w ((do (← database.addAll additions).connect c) w).1
      ((do (← database.addAll additions).connect c) w).2 := by
  have extended := database.addAll_extended additions w
  have belongs := addAll_belongs h additions w
  rw [Engine.run_bind]
  generalize (database.addAll additions w).1 = d at extended belongs ⊢
  generalize (database.addAll additions w).2 = v at extended ⊢
  have unconnected' : d.connection = none := extended.connection.trans unconnected
  obtain ⟨tables, views, procedures⟩ := d.names_linked ⟨v.loaders.next⟩ c
  have owns : ∀ object ∈ (d.connect c v).1.objects, (d.connect c v).1.Owns object := by
    obtain ⟨id, loader, place⟩ := belongs
    exact ((At.connect place c).result v).owns
  have unread : d.loader = none := by
    obtain ⟨id, loader, place⟩ := belongs
    exact place.item.loader.trans (place.unconnected unconnected')
  rw [d.run_connect unconnected' c v] at owns ⊢
  obtain ⟨issued, rfl⟩ := extended.world
  refine ⟨?_, rfl, rfl, tables.trans extended.tables, views.trans extended.views,
    procedures.trans extended.procedures, owns, fun object ho => ?_, issued, ?_⟩
  · exact (d.linked _ c).id_heard _ |>.trans extended.id
  · obtain ⟨before, hb, same⟩ := mem_objects_linked (c := c) ho
    rw [same]
    exact (belongs.owns before hb).unread unread
  · rw [← replicate_news, List.replicate_succ', List.flatten_append, List.flatten_singleton,
      ← List.append_assoc, ← extended.news]
    rfl

end Database

/-! ## Other identifiers -/

namespace Likeness

/-- Identifiers are drawn with another seed: those that are drawn at the same time stand for
each other, and those that were there before for themselves. -/
def reseeded (seed seed' : BitVec 64) : Likeness where
  ids id id' := id' = id ∨ ∃ n, id = .numbered seed n ∧ id' = .numbered seed' n
  supplies supply supply' := supply.1 = seed ∧ supply' = (seed', supply.2)
  replies replies replies' := replies' = replies
  draw := by
    rintro _ _ n _ ⟨rfl, same⟩
    cases same
    exact ⟨.inr ⟨n, rfl, rfl⟩, rfl, rfl⟩
  reply := by
    rintro _ _ rfl _ _
    rfl
  silent := rfl
  extend := by
    rintro _ _ _ rfl
    rfl

variable {L : Likeness}

theorem Databases.addAll {database database' : Database} (h : L.Databases database database')
    (additions : List Database.Addition) :
    L.Runs (database.addAll additions) (database'.addAll additions) L.Databases := by
  induction additions generalizing database database' with
  | nil => exact .pure h
  | cons addition rest ih =>
    unfold Database.addAll
    rw [List.foldlM_cons, List.foldlM_cons]
    have added : L.Runs (addition.run database) (addition.run database') L.Databases := by
      cases addition with
      | table name => exact h.addTable name
      | view name => exact h.addView name
      | procedure name => exact h.addProcedure name
    exact added.bind fun _ _ h => ih h

theorem reseeded_worlds (w : World) (seed : BitVec 64) :
    (reseeded w.seed seed).Worlds w { w with seed } where
  catalog c := ⟨(w.catalog c).replies, rfl, rfl⟩
  connections := rfl
  loaders := rfl
  statements := rfl
  observers := rfl
  deliveries := List.forall₂_same.mpr fun _ _ => ⟨.inl rfl, rfl⟩
  supply := ⟨rfl, rfl⟩

end Likeness

namespace Client

/-- Adding objects and connecting commute, for every database of a client that has no
connection. In whichever order they are done, the same comes of it: the database has its
objects and the added ones in this order, all with the one loader and unread, and its
observers have heard as often. And if other identifiers are drawn in one of the two runs,
every session afterwards is told the same, event by event, and leaves catalogs that are the
same, with all that they have executed, and databases and worlds that differ in these
identifiers only. -/
theorem Reachable.additions_connect {permits : Client → Step → Prop} {client : Client}
    (h : Reachable permits client) {database : Database}
    (hd : database ∈ client.workspace.everyDatabase) (unconnected : database.connection = none)
    (additions : List Database.Addition) (c : ConnectionId) :
    let before : Engine Database := do (← database.addAll additions).connect c
    let after : Engine Database := do (← database.connect c).addAll additions
    before = after ∧
      database.Joined additions c client.world (before client.world).1 (before client.world).2 ∧
      ∀ seed events,
        let L := Likeness.reseeded client.world.seed seed
        let run := (do (← before).session events : Engine _) client.world
        let run' := (do (← after).session events : Engine _) { client.world with seed }
        run'.1.1 = run.1.1 ∧ (∀ c, run'.2.catalog c = run.2.catalog c) ∧
          L.Databases run.1.2 run'.1.2 ∧ L.Worlds run.2 run'.2 := by
  intro before after
  have commute : before = after := Database.addAll_connect unconnected additions c
  refine ⟨commute, ?_, ?_⟩
  · rcases h.inPlace.everyDatabase hd with free | ⟨_, _, _, owned⟩
    · exact Database.addAll_connect_joined free unconnected additions c client.world
    · exact Database.addAll_connect_joined owned unconnected additions c client.world
  · intro seed events L run run'
    have same : ∀ id, L.ids id id := fun _ => .inl rfl
    have runs : L.Runs (do (← before).session events) (do (← after).session events)
        (SameAnswer L.Databases) := by
      rw [← commute]
      exact (((Likeness.Databases.refl same database).addAll additions).bind fun _ _ h =>
        h.connect c).bind fun _ _ h => h.session same events
    obtain ⟨told, worlds⟩ := runs (Likeness.reseeded_worlds client.world seed)
    refine ⟨told.answer, fun c => ?_, told.object, worlds⟩
    obtain ⟨_, rfl, catalog⟩ := worlds.catalog c
    exact catalog

/-- A client that has observed a database without a connection and added a table to it. -/
def waiting : Client := (Client.start 0).after
  [.openCatalog "main" "test.fdb" "SYSDBA" "masterkey",
    .newDatabase "db" none (.ofCatalog "DB") "test.fdb", .newObserver "o",
    .database "db" (.item (.attach 0)), .database "db" (.addTable (.ofCatalog "OLD"))]

/-- The client adds a view and a table, after connecting: the old table comes first, and the
observer has heard of every call. -/
theorem Reachable.additions_connect_waiting :
    ∃ database ∈ waiting.workspace.everyDatabase, database.connection = none ∧
      ∃ run : Database × World, run = (do
        let d ← database.connect ⟨0⟩
        d.addAll [.view (.ofCatalog "V"), .table (.ofCatalog "NEW")] : Engine _) waiting.world ∧
      run.1.tables.map (·.name) = [.ofCatalog "OLD", .ofCatalog "NEW"] ∧
      run.1.loader = some ⟨0⟩ ∧
      run.2.deliveries.map (·.receivers) = [[0], [0], [0], [0]] := by
  have reachable : Reachable (fun _ _ => True) waiting :=
    Reachable.after (.start 0) fun _ _ _ => trivial
  have one : (waiting.workspace.databases.head?.any fun p => p.2.connection.isNone &&
      p.2.tables.map (·.name) == [.ofCatalog "OLD"] && !p.2.item.subject.isLocked &&
      p.2.item.subject.observers.filter waiting.world.isAlive == [0]) = true := by
    decide +kernel
  have heard : waiting.world.deliveries.map (·.receivers) = [[0]] := by decide +kernel
  have loaders : waiting.world.loaders.next = 0 := by decide +kernel
  generalize waiting = client at reachable one heard loaders
  obtain ⟨p, found, shown⟩ := (Option.any_eq_true _ _).mp one
  simp only [Bool.and_eq_true, Bool.not_eq_true', beq_iff_eq, Option.isNone_iff_eq_none] at shown
  obtain ⟨⟨⟨unconnected, tables⟩, unlocked⟩, observers⟩ := shown
  have every : p.2 ∈ client.workspace.everyDatabase :=
    List.mem_append_left _ (List.mem_map_of_mem (List.mem_of_mem_head? found))
  obtain ⟨commute, joined, -⟩ := Reachable.additions_connect reachable every unconnected
    [.view (.ofCatalog "V"), .table (.ofCatalog "NEW")] ⟨0⟩
  rw [commute] at joined
  refine ⟨p.2, every, unconnected, _, rfl, ?_, ?_, ?_⟩
  · exact joined.tables.trans (by rw [tables]; rfl)
  · exact joined.loader.trans (by rw [loaders])
  · obtain ⟨issued, world⟩ := joined.world
    rw [world]
    dsimp only
    rw [unlocked, if_neg Bool.false_ne_true, List.map_append, heard, List.map_replicate,
      observers]
    rfl

end Client

end MetaCatalog
