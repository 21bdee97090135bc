import MetaCatalog.Proofs.Client.Invalidations

/-!
# Locks of items and databases

Whatever is done to a database, short of a lock or an unlock, leaves it locked as often as
it was (`Database.Deed.run_steady`), because what locks it on the way unlocks it again.
While it is locked it is not heard of: what happens in the world is the same whoever
observes it (`Database.Deed.run_unheard`).
-/

namespace MetaCatalog

/-! ## Subjects -/

namespace Subject

theorem locks_announce (subject : Subject) : subject.announce.2.locks = subject.locks := by
  rw [announce]
  split <;> rfl

theorem locks_unlock (subject : Subject) : subject.unlock.2.locks = subject.locks - 1 := by
  rw [unlock]
  dsimp only
  split <;> rfl

end Subject

/-- A delivery changes neither the identifier nor the locks. -/
theorem World.deliverIf_same (due : Bool × Subject) (w : World) :
    (World.deliverIf due w).1.id = due.2.id ∧ (World.deliverIf due w).1.locks = due.2.locks := by
  rcases due with ⟨_ | _, subject⟩ <;> exact ⟨rfl, rfl⟩

/-! ## Items -/

namespace Item

/-- The item is the same one, and is locked as often. -/
structure Steady (item item' : Item) : Prop where
  id : item'.id = item.id
  locks : item'.subject.locks = item.subject.locks

/-- The item with other observers. -/
def observedBy (item : Item) (observers : List ObserverId) : Item :=
  { item with subject := { item.subject with observers } }

variable {item : Item}

theorem announce_steady (item : Item) (w : World) : item.Steady (item.announce w).1 := by
  obtain ⟨id, locks⟩ := World.deliverIf_same item.subject.announce w
  exact ⟨id.trans (Subject.id_announce _), locks.trans (Subject.locks_announce _)⟩

theorem unlock_locks (item : Item) (w : World) : (item.unlock w).1.id = item.id ∧
    (item.unlock w).1.subject.locks = item.subject.locks - 1 := by
  obtain ⟨id, locks⟩ := World.deliverIf_same item.subject.unlock w
  exact ⟨id.trans (Subject.id_unlock _), locks.trans (Subject.locks_unlock _)⟩

theorem unlock_lock_steady (item : Item) (w : World) : item.Steady (item.lock.unlock w).1 :=
  ⟨(item.lock.unlock_locks w).1, (item.lock.unlock_locks w).2⟩

theorem announceLocked_steady (item : Item) (w : World) :
    item.Steady (item.announceLocked w).1 := by
  have announced := item.lock.announce_steady w
  obtain ⟨id, locks⟩ := (item.lock.announce w).1.unlock_locks (item.lock.announce w).2
  exact ⟨id.trans announced.id, locks.trans (congrArg (· - 1) announced.locks)⟩

theorem readLocked_steady (item : Item) (query : Query α) (w : World) :
    item.Steady (item.readLocked query w).1.2 := by
  unfold readLocked
  rw [Engine.run_bind]
  rcases query.run w with ⟨e | a, w'⟩
  · exact item.unlock_lock_steady w'
  · exact item.announceLocked_steady w'

theorem fetch_steady (item : Item) (l : LoaderId) (fetch : LoaderId → Query α) (w : World) :
    item.Steady (item.fetch l fetch w).1.2 := by
  rw [run_fetch]
  rcases l.enter.run w with ⟨e | ⟨⟩, w'⟩
  · exact ⟨rfl, rfl⟩
  · exact item.readLocked_steady (fetch l) w'

/-! ## Locked items -/

theorem settled_of_locked (locked : 0 < item.subject.locks) : item.subject.Settled :=
  fun _ => locked

theorem announceLocked_locked (locked : 0 < item.subject.locks) (w : World) :
    (item.announceLocked w).2 = w := by
  have held : 0 < item.lock.subject.locks := Nat.succ_pos _
  unfold announceLocked
  rw [Engine.run_bind, announce_locked held]
  have settled : ({ item with
      subject := { item.subject with pending := true } } : Item).subject.Settled := fun _ => locked
  exact congrArg Prod.snd (run_unlock_lock settled w)

theorem readLocked_locked (locked : 0 < item.subject.locks) (query : Query α) (w : World) :
    (item.readLocked query w).1.1 = (query.run w).1 ∧
      (item.readLocked query w).2 = (query.run w).2 := by
  unfold readLocked
  rw [Engine.run_bind]
  rcases query.run w with ⟨e | a, w'⟩
  · exact ⟨rfl, congrArg Prod.snd (run_unlock_lock (settled_of_locked locked) w')⟩
  · exact ⟨rfl, announceLocked_locked locked w'⟩

/-- Fetching something for a locked item is no more than a query in a transaction. -/
theorem fetch_locked (locked : 0 < item.subject.locks) (l : LoaderId)
    (fetch : LoaderId → Query α) (w : World) :
    ((item.fetch l fetch w).1.1, (item.fetch l fetch w).2) =
      (l.withTransaction (fetch l)).run w := by
  rw [run_fetch, LoaderId.withTransaction, Query.run_bind]
  rcases l.enter.run w with ⟨e | ⟨⟩, w'⟩
  · rfl
  · obtain ⟨outcome, world⟩ := readLocked_locked locked (fetch l) w'
    dsimp only
    rw [outcome, world]
    rfl

end Item

/-! ## Databases -/

namespace Database

/-- The database with other observers. -/
def observedBy (database : Database) (observers : List ObserverId) : Database :=
  { database with item := database.item.observedBy observers }

/-- What is done to a database or to one of its objects. -/
inductive Deed where
  | call (call : DatabaseCall)
  | connect (connection : ConnectionId)
  | table (name : String) (call : TableCall)
  | view (name : String) (call : ViewCall)
  | procedure (name : String) (call : ProcedureCall)

end Database

/-- Whether the call is neither a lock nor an unlock. -/
def ItemCall.isNeutral : ItemCall → Bool
  | lock | unlock => false
  | _ => true

namespace Database.Deed

/-- The database after a deed. -/
def run (database : Database) : Deed → Engine Database
  | call c => do pure (← c.run database).2
  | connect connection => database.connect connection
  | table name c => do pure (← database.onTable name c.run).2
  | view name c => do pure (← database.onView name c.run).2
  | procedure name c => do pure (← database.onProcedure name c.run).2

/-- Whether the deed neither locks nor unlocks the database. -/
def isNeutral : Deed → Bool
  | call (.item c) => c.isNeutral
  | _ => true

end Database.Deed

theorem ItemCall.run_steady {call : ItemCall} (neutral : call.isNeutral) (item : Item)
    (w : World) : item.Steady (call.run item w).1 := by
  cases call with
  | announce => exact item.announce_steady w
  | attach observer =>
    refine ⟨Subject.id_attach .., ?_⟩
    show (item.subject.attach observer).locks = _
    unfold Subject.attach
    split <;> rfl
  | detach observer => exact ⟨rfl, rfl⟩
  | lock | unlock => cases neutral

theorem ItemCall.run_unheard {item : Item} (locked : 0 < item.subject.locks)
    (observers : List ObserverId) (w : World) {call : ItemCall} (neutral : call.isNeutral) :
    (call.run (item.observedBy observers) w).2 = (call.run item w).2 := by
  cases call with
  | announce =>
    have quiet (item : Item) (locked : 0 < item.subject.locks) : (item.announce w).2 = w :=
      congrArg Prod.snd (Item.announce_locked locked w)
    exact (quiet (item.observedBy observers) locked).trans (quiet item locked).symm
  | attach observer | detach observer => rfl
  | lock | unlock => cases neutral

namespace Database

variable {database : Database}

theorem disconnect_steady (database : Database) (w : World) :
    database.item.Steady (database.disconnect w).1.item := by
  have announced := Item.announce_steady { database.item with loader := none }
  unfold disconnect
  cases database.loader with
  | none => exact ⟨(announced w).id, (announced w).locks⟩
  | some l => exact ⟨(announced _).id, (announced _).locks⟩

theorem connect_steady (database : Database) (connection : ConnectionId) (w : World) :
    database.item.Steady (database.connect connection w).1.item := by
  have announced (item : Item) (loader : Option LoaderId) :=
    Item.announce_steady { item with loader }
  unfold connect
  split
  · have first := database.disconnect_steady w
    have second := announced (database.disconnect w).1.item
    exact ⟨(second _ _).id.trans first.id, (second _ _).locks.trans first.locks⟩
  · exact ⟨(announced database.item _ _).id, (announced database.item _ _).locks⟩

theorem loadObjects_steady (database : Database) (w : World) :
    database.item.Steady (database.loadObjects w).1.2.item := by
  unfold loadObjects
  cases database.requireLoader with
  | error e => exact ⟨rfl, rfl⟩
  | ok l =>
    have fetched := database.item.fetch_steady l fetchNames w
    dsimp only
    rw [Engine.run_bind]
    rcases hf : database.item.fetch l fetchNames w with ⟨⟨e | names, item⟩, w'⟩ <;>
      rw [hf] at fetched <;> exact fetched

theorem links_steady (database : Database) (names : List String) (name : String) (w : World) :
    database.item.Steady (database.links names name w).1.2.item := by
  unfold links
  cases database.requireLoader with
  | error e => exact ⟨rfl, rfl⟩
  | ok l =>
    dsimp only
    rw [Engine.run_bind]
    rcases l.enter.run w with ⟨e | ⟨⟩, w'⟩ <;> exact ⟨rfl, rfl⟩

theorem call_steady (database : Database) {call : DatabaseCall}
    (neutral : (Deed.call call).isNeutral) (w : World) :
    database.item.Steady (call.run database w).1.2.item := by
  cases call with
  | disconnect => exact database.disconnect_steady w
  | setLogin username password => exact database.item.announce_steady w
  | loadObjects => exact database.loadObjects_steady w
  | loadMembers => exact ⟨rfl, rfl⟩
  | addTable name => exact database.item.announce_steady _
  | addView name => exact database.item.announce_steady _
  | addProcedure name => exact database.item.announce_steady _
  | dependencies name kind dependsOn => exact ⟨rfl, rfl⟩
  | links names name => exact database.links_steady names name w
  | invalidate asked => exact database.item.unlock_lock_steady _
  | item call => exact call.run_steady neutral database.item w

/-- Whatever is done to a database, it is locked as often afterwards. -/
theorem Deed.run_steady {deed : Deed} (neutral : deed.isNeutral) (database : Database)
    (w : World) : database.item.Steady (deed.run database w).1.item := by
  cases deed with
  | call call => exact database.call_steady neutral w
  | connect connection => exact database.connect_steady connection w
  | table name call | view name call | procedure name call => exact ⟨rfl, rfl⟩

/-! ## Locked databases -/

/-- No announcement of a locked database changes the world. -/
theorem announce_locked (locked : 0 < database.item.subject.locks) (w : World) :
    (database.announce w).2 = w := by
  unfold announce
  rw [Engine.run_bind, Item.announce_locked locked]
  rfl

/-- Two announcements, each of a locked database, differ in nothing that the world
shows. -/
theorem announce_unheard {d d' : Database} (locked : 0 < d.item.subject.locks)
    (locked' : 0 < d'.item.subject.locks) (w : World) : (d.announce w).2 = (d'.announce w).2 :=
  (announce_locked locked w).trans (announce_locked locked' w).symm

/-- What the new objects of a database are made of does not depend on more of it than its
identifier. -/
theorem withObjects_world {d d' : Database} (same : d.id = d'.id) (l : LoaderId)
    (names : List (String × Bool) × List String) (w : World) :
    (d.withObjects l names w).2 = (d'.withObjects l names w).2 := by
  unfold withObjects
  rw [same]
  rfl

theorem links_unheard (observers : List ObserverId) (w : World) (names : List String)
    (name : String) :
    ((database.observedBy observers).links names name w).2 = (database.links names name w).2 := by
  unfold links
  rw [show (database.observedBy observers).requireLoader = database.requireLoader from rfl]
  cases database.requireLoader with
  | error e => rfl
  | ok l =>
    dsimp only
    rw [Engine.run_bind, Engine.run_bind]
    rcases l.enter.run w with ⟨e | ⟨⟩, w'⟩ <;> rfl

variable (locked : 0 < database.item.subject.locks) (observers : List ObserverId) (w : World)

include locked

theorem disconnect_unheard :
    ((database.observedBy observers).disconnect w).2 = (database.disconnect w).2 := by
  unfold disconnect
  rw [show (database.observedBy observers).loader = database.loader from rfl]
  cases database.loader <;> refine announce_unheard ?_ ?_ _ <;> exact locked

theorem connect_unheard (connection : ConnectionId) :
    ((database.observedBy observers).connect connection w).2 =
      (database.connect connection w).2 := by
  have first := disconnect_unheard locked observers w
  have steady := database.disconnect_steady w
  have steady' := (database.observedBy observers).disconnect_steady w
  unfold connect
  rw [show (database.observedBy observers).connection = database.connection from rfl]
  split
  · rw [Engine.run_bind, first]
    refine announce_unheard ?_ ?_ _
    · exact Nat.lt_of_lt_of_eq locked steady'.locks.symm
    · exact Nat.lt_of_lt_of_eq locked steady.locks.symm
  · refine announce_unheard ?_ ?_ _ <;> exact locked

theorem loadObjects_unheard :
    ((database.observedBy observers).loadObjects w).2 = (database.loadObjects w).2 := by
  unfold loadObjects
  rw [show (database.observedBy observers).requireLoader = database.requireLoader from rfl]
  cases database.requireLoader with
  | error e => rfl
  | ok l =>
    have locked' : 0 < (database.item.observedBy observers).subject.locks := locked
    have fetched := (Item.fetch_locked locked' l fetchNames w).trans
      (Item.fetch_locked locked l fetchNames w).symm
    have id := (database.item.fetch_steady l fetchNames w).id
    have id' := ((database.item.observedBy observers).fetch_steady l fetchNames w).id
    dsimp only
    rw [Engine.run_bind, Engine.run_bind]
    rcases hf : database.item.fetch l fetchNames w with ⟨⟨outcome, item⟩, w'⟩
    rcases hf' : (database.item.observedBy observers).fetch l fetchNames w with
      ⟨⟨outcome', item'⟩, w''⟩
    rw [hf, hf', Prod.mk.injEq] at fetched
    obtain ⟨rfl, rfl⟩ := fetched
    rw [hf] at id
    rw [hf'] at id'
    rw [show (database.observedBy observers).item.fetch l fetchNames w = _ from hf']
    cases outcome' with
    | error e => rfl
    | ok names =>
      have same : item'.id = item.id := id'.trans id.symm
      refine withObjects_world ?_ l names _
      exact same

theorem invalidate_unheard (asked : Option FacetKind) :
    ((database.observedBy observers).invalidate asked w).2 = (database.invalidate asked w).2 := by
  have unlocked (item : Item) (locked : 0 < item.subject.locks) (w : World) :
      (item.lock.unlock w).2 = w :=
    congrArg Prod.snd (Item.run_unlock_lock (Item.settled_of_locked locked) w)
  exact (unlocked (database.item.observedBy observers) locked _).trans
    (unlocked database.item locked _).symm

theorem call_unheard {call : DatabaseCall} (neutral : (Deed.call call).isNeutral) :
    (call.run (database.observedBy observers) w).2 = (call.run database w).2 := by
  cases call with
  | disconnect => exact disconnect_unheard locked observers w
  | loadObjects => exact loadObjects_unheard locked observers w
  | loadMembers => rfl
  | setLogin username password | addTable name | addView name | addProcedure name =>
    refine announce_unheard ?_ ?_ _ <;> exact locked
  | dependencies name kind dependsOn => rfl
  | links names name => exact links_unheard observers w names name
  | invalidate asked => exact invalidate_unheard locked observers w asked
  | item call => exact call.run_unheard locked observers w neutral

theorem Deed.run_unheard {deed : Deed} (neutral : deed.isNeutral) :
    (deed.run (database.observedBy observers) w).2 = (deed.run database w).2 := by
  cases deed with
  | call call => exact call_unheard locked observers w neutral
  | connect connection => exact connect_unheard locked observers w connection
  | table name call | view name call | procedure name call => rfl

end Database

end MetaCatalog
