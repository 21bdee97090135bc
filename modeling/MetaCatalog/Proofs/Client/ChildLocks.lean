import MetaCatalog.Proofs.Client.Locks

/-!
# Locking the databases of a server

A server locks those of its databases that it has at the time, and unlocks those that it
has later. A `Scene` follows one database while it comes and goes: between the two,
`Scene.Move` is all that may happen to it and to the server, in worlds of any kind, short
of further locks and unlocks. One move leaves the database locked as often as it was
(`Scene.Move.run_steady`), and while it is locked it is not heard of
(`Scene.Move.run_unheard`). So what a lock and an unlock come to is decided by whether the
server had the database at the one and at the other (`Scene.lockChildren_unlockChildren`).
-/

namespace MetaCatalog

/-! ## Operations on lists -/

section Lists

variable {α β : Type}

/-- Each element is operated on in some world. -/
theorem mapM_getElem? (f : α → Engine β) (as : List α) (n : Nat) (w : World) :
    ∃ v, (as.mapM f w).1[n]? = as[n]?.map fun a => (f a v).1 := by
  induction as generalizing n w with
  | nil => exact ⟨w, rfl⟩
  | cons a rest ih =>
    rw [List.mapM_cons]
    cases n with
    | zero => exact ⟨w, rfl⟩
    | succ n => exact ih n _

/-- An element may be changed in a way that the operation does not show in the world. -/
theorem mapM_modify_world {f : α → Engine β} {g : α → α} {as : List α} {n : Nat}
    (same : ∀ a, as[n]? = some a → ∀ w, (f (g a) w).2 = (f a w).2) (w : World) :
    ((as.modify n g).mapM f w).2 = (as.mapM f w).2 := by
  induction as generalizing n w with
  | nil => rw [List.modify_nil]
  | cons a rest ih =>
    cases n with
    | zero =>
      rw [List.modify_zero_cons, List.mapM_cons, List.mapM_cons, Engine.run_bind,
        Engine.run_bind, same a rfl]
      rfl
    | succ n =>
      rw [List.modify_succ_cons, List.mapM_cons, List.mapM_cons]
      exact ih same _

/-- An element is left alone, or operated on in some world. -/
theorem onFirst_getElem? (p : α → Bool) (operation : α → Engine (β × α)) (as : List α)
    (n : Nat) (w : World) :
    (Database.onFirst p operation as w).1.2[n]? = as[n]? ∨
      ∃ v, (Database.onFirst p operation as w).1.2[n]? =
        as[n]?.map fun a => (operation a v).1.2 := by
  induction as generalizing n w with
  | nil => exact .inl rfl
  | cons a rest ih =>
    rw [Database.onFirst]
    split <;> cases n with
    | zero => first | exact .inr ⟨w, rfl⟩ | exact .inl rfl
    | succ n => first | exact .inl rfl | exact ih n w

theorem onFirst_modify_world {p : α → Bool} (operation : α → Engine (β × α)) {g : α → α}
    {as : List α} {n : Nat} (kept : ∀ a, p (g a) = p a)
    (same : ∀ a, as[n]? = some a → ∀ w, (operation (g a) w).2 = (operation a w).2) (w : World) :
    (Database.onFirst p operation (as.modify n g) w).2 =
      (Database.onFirst p operation as w).2 := by
  induction as generalizing n w with
  | nil => rw [List.modify_nil]
  | cons a rest ih =>
    cases n with
    | zero =>
      rw [List.modify_zero_cons, Database.onFirst, Database.onFirst, kept]
      split
      · exact same a rfl w
      · rfl
    | succ n =>
      rw [List.modify_succ_cons, Database.onFirst, Database.onFirst]
      split
      · rfl
      · exact ih same w

theorem any_modify {p : α → Bool} {g : α → α} (kept : ∀ a, p (g a) = p a) (as : List α)
    (n : Nat) : (as.modify n g).any p = as.any p := by
  induction as generalizing n with
  | nil => rw [List.modify_nil]
  | cons a rest ih =>
    cases n with
    | zero => rw [List.modify_zero_cons, List.any_cons, List.any_cons, kept]
    | succ n => rw [List.modify_succ_cons, List.any_cons, List.any_cons, ih]

/-- The first element with a property is taken out at its position. -/
theorem eraseP_of_find? {p : α → Bool} {as : List α} {a : α} (found : as.find? p = some a) :
    as.eraseP p = as.eraseIdx (as.findIdx p) := by
  rw [List.find?_eq_getElem?_findIdx] at found
  have bound : as.findIdx p < as.length := (List.getElem?_eq_some_iff.mp found).1
  rw [List.eraseP_eq_eraseIdx, List.findIdx?_eq_some_iff_findIdx_eq.mpr ⟨bound, rfl⟩]

end Lists

/-! ## Scenes -/

/-- Where a database is: with a server, at a position among its databases, or apart from
it. -/
inductive Whereabouts where
  | owned (position : Nat)
  | away (database : Database)

/-- The whereabouts after the server has given away a database from a position, if it has
given away any. -/
def Whereabouts.afterTaking (position : Nat) (taken : Option Database) :
    Whereabouts → Whereabouts
  | away database => away database
  | owned n =>
    match taken with
    | none => owned n
    | some database =>
      if n = position then away database else if position < n then owned (n - 1) else owned n

/-- A server, and a database that is followed wherever it goes. -/
structure Scene where
  server : Server
  whereabouts : Whereabouts

namespace Scene

/-- Whether the server has the database. -/
def isOwned (scene : Scene) : Bool :=
  match scene.whereabouts with
  | .owned _ => true
  | .away _ => false

/-- The database that is followed. -/
def followed? (scene : Scene) : Option Database :=
  match scene.whereabouts with
  | .owned n => scene.server.databases[n]?
  | .away database => some database

/-- The scene with other observers of the database. -/
def observedBy (scene : Scene) (observers : List ObserverId) : Scene :=
  match scene.whereabouts with
  | .owned n =>
    { scene with server := { scene.server with
        databases := scene.server.databases.modify n (·.observedBy observers) } }
  | .away database => { scene with whereabouts := .away (database.observedBy observers) }

/-- The server locks its databases. -/
def lockChildren (scene : Scene) : Scene :=
  { scene with server := scene.server.lockChildren }

/-- The server unlocks its databases. -/
def unlockChildren (scene : Scene) : Engine Scene := do
  pure { scene with server := ← scene.server.unlockChildren }

/-- What may happen in a scene. -/
inductive Move where
  /-- The server gets the database, unless it has it. -/
  | give
  | giveOther (other : Database)
  /-- The server gives away its first database with an identifier. -/
  | take (id : Uuid)
  /-- Something is done to the first database of the server with an identifier. -/
  | owned (id : Uuid) (deed : Database.Deed)
  /-- Something is done to the database, unless the server has it. -/
  | away (deed : Database.Deed)
  | server (call : ServerCall)

/-- The scene after a move. -/
def Move.run (scene : Scene) : Move → Engine Scene
  | give =>
    match scene.whereabouts with
    | .owned _ => pure scene
    | .away database => do
      pure {
        server := ← scene.server.addDatabase database
        whereabouts := .owned scene.server.databases.length }
  | giveOther other => do pure { scene with server := ← scene.server.addDatabase other }
  | take id => do
    let (taken, keeper) ← scene.server.removeDatabase id
    let position := scene.server.databases.findIdx (·.id == id)
    pure { server := keeper, whereabouts := scene.whereabouts.afterTaking position taken }
  | owned id deed => do
    let (_, keeper) ← scene.server.onDatabase id fun d => do pure ((), ← deed.run d)
    pure { scene with server := keeper }
  | away deed =>
    match scene.whereabouts with
    | .owned _ => pure scene
    | .away database => do pure { scene with whereabouts := .away (← deed.run database) }
  | server call => do pure { scene with server := (← call.run scene.server).2 }

/-- Whether the move neither locks nor unlocks databases. -/
def Move.isNeutral : Move → Bool
  | owned _ deed | away deed => deed.isNeutral
  | server .lockChildren | server .unlockChildren => false
  | _ => true

/-- The scene after a few moves, each of which starts in a world of its own. -/
def after (scene : Scene) (moves : List (Move × World)) : Scene :=
  moves.foldl (fun scene p => (p.1.run scene p.2).1) scene

/-- The database is the same one in both scenes, and is locked as often. -/
def Steady (scene scene' : Scene) : Prop :=
  ∀ database, scene.followed? = some database →
    ∃ database', scene'.followed? = some database' ∧ database.item.Steady database'.item

variable {scene scene' : Scene} {database : Database}

theorem Steady.of_same (h : scene'.followed? = scene.followed?) : scene.Steady scene' :=
  fun database there => ⟨database, h.trans there, rfl, rfl⟩

/-- The database keeps its position, and something was done to it at most. -/
theorem Steady.of_owned {server server' : Server} {n : Nat}
    (h : server'.databases[n]? = server.databases[n]? ∨
      ∃ change : Database → Database, (∀ d : Database, d.item.Steady (change d).item) ∧
        server'.databases[n]? = server.databases[n]?.map change) :
    Steady ⟨server, .owned n⟩ ⟨server', .owned n⟩ := by
  obtain same | ⟨change, steady, changed⟩ := h
  · exact .of_same same
  · intro database there
    refine ⟨change database, changed.trans ?_, steady database⟩
    rw [show server.databases[n]? = some database from there]
    rfl

end Scene

/-! ## Moves -/

namespace Scene.Move

theorem give_steady (scene : Scene) (w : World) : scene.Steady (give.run scene w).1 := by
  obtain ⟨server, n | database⟩ := scene
  · exact .of_same rfl
  · intro d there
    obtain rfl : database = d := Option.some.inj there
    exact ⟨database.withServer (some server.id), List.getElem?_concat_length, rfl, rfl⟩

theorem giveOther_steady (scene : Scene) (other : Database) (w : World) :
    scene.Steady ((giveOther other).run scene w).1 := by
  obtain ⟨server, n | database⟩ := scene
  · intro d there
    have bound := (List.getElem?_eq_some_iff.mp there).1
    exact ⟨d, (List.getElem?_append_left bound).trans there, rfl, rfl⟩
  · exact .of_same rfl

/-- What is taken may stand before the database, or behind it, or be the database. -/
theorem take_steady (scene : Scene) (id : Uuid) (w : World) :
    scene.Steady ((take id).run scene w).1 := by
  obtain ⟨server, n | database⟩ := scene
  · have ran : ((take id).run ⟨server, .owned n⟩ w).1 =
        ⟨(server.removeDatabase id w).1.2,
          (Whereabouts.owned n).afterTaking (server.databases.findIdx (·.id == id))
            (server.removeDatabase id w).1.1⟩ := rfl
    rw [ran]
    unfold Server.removeDatabase
    cases found : server.databases.find? (·.id == id) with
    | none => exact .of_same rfl
    | some taken =>
      have rest := eraseP_of_find? found
      rw [List.find?_eq_getElem?_findIdx] at found
      generalize server.databases.findIdx (·.id == id) = position at found rest
      intro d there
      have there : server.databases[n]? = some d := there
      show ∃ d', Scene.followed? ⟨_, if n = position then .away (taken.withServer none)
        else if position < n then .owned (n - 1) else .owned n⟩ = some d' ∧ _
      by_cases here : n = position
      · rw [if_pos here]
        rw [here, found] at there
        obtain rfl := Option.some.inj there
        exact ⟨taken.withServer none, rfl, rfl, rfl⟩
      · rw [if_neg here]
        refine ⟨d, ?_, rfl, rfl⟩
        split
        · next before =>
          show (server.databases.eraseP (·.id == id))[n - 1]? = some d
          rw [rest, List.getElem?_eraseIdx_of_ge (Nat.le_sub_one_of_lt before),
            Nat.sub_add_cancel (Nat.one_le_of_lt before), there]
        · next behind =>
          show (server.databases.eraseP (·.id == id))[n]? = some d
          rw [rest, List.getElem?_eraseIdx_of_lt (Nat.lt_of_le_of_ne (Nat.not_lt.mp behind) here),
            there]
  · exact .of_same rfl

theorem readAccounts_databases (server : Server) (w : World) (connector : Connector)
    (indicator : Option Indicator) :
    (server.readAccounts w connector indicator).server.databases = server.databases := by
  unfold Server.readAccounts
  dsimp only
  split <;> rfl

theorem server_steady (scene : Scene) {call : ServerCall} (neutral : (server call).isNeutral)
    (w : World) : scene.Steady ((server call).run scene w).1 := by
  obtain ⟨server, n | database⟩ := scene
  · refine .of_owned ?_
    cases call with
    | disconnectAll =>
      obtain ⟨v, changed⟩ := mapM_getElem? (·.disconnect) server.databases n w
      exact .inr ⟨_, (·.disconnect_steady v), changed⟩
    | invalidate asked =>
      obtain ⟨v, changed⟩ := mapM_getElem? (·.invalidate asked) server.databases n w
      have neutral : (Database.Deed.call (.invalidate asked)).isNeutral := rfl
      exact .inr ⟨_, (·.call_steady neutral v), changed⟩
    | readAccounts connector indicator =>
      exact .inl (congrArg (·[n]?) (readAccounts_databases server w connector indicator))
    | lockChildren | unlockChildren => cases neutral
    | _ => exact .inl rfl
  · exact .of_same rfl

/-- One case for each move. -/
theorem run_steady {move : Move} (neutral : move.isNeutral) (scene : Scene) (w : World) :
    scene.Steady (move.run scene w).1 := by
  cases move with
  | give => exact give_steady scene w
  | giveOther other => exact giveOther_steady scene other w
  | take id => exact take_steady scene id w
  | owned id deed =>
    obtain ⟨server, n | database⟩ := scene
    · refine .of_owned ?_
      obtain same | ⟨v, changed⟩ := onFirst_getElem? (·.id == id)
        (fun d => do pure ((), ← deed.run d)) server.databases n w
      · exact .inl same
      · exact .inr ⟨_, fun d => Database.Deed.run_steady neutral d v, changed⟩
    · exact .of_same rfl
  | away deed =>
    obtain ⟨server, n | database⟩ := scene
    · exact .of_same rfl
    · intro d there
      obtain rfl : database = d := Option.some.inj there
      exact ⟨(deed.run database w).1, rfl, Database.Deed.run_steady neutral database w⟩
  | server call => exact server_steady scene neutral w

/-- Whether a database is taken is all that the world shows of it. -/
theorem removeDatabase_world (server : Server) (id : Uuid) (w : World) :
    (server.removeDatabase id w).2 =
      if server.databases.any (·.id == id) then (server.item.announce w).2 else w := by
  unfold Server.removeDatabase
  cases found : server.databases.find? (·.id == id) with
  | none =>
    have missing := List.any_eq_false.mpr (List.find?_eq_none.mp found)
    rw [if_neg (Bool.eq_false_iff.mp missing)]
    rfl
  | some database =>
    have there : server.databases.any (·.id == id) = true :=
      List.any_eq_true.mpr ⟨database, List.mem_of_find?_eq_some found,
        List.find?_some (p := fun d : Database => d.id == id) found⟩
    rw [if_pos there]
    rfl

theorem server_unheard {server : Server} {n : Nat} {database : Database}
    (there : server.databases[n]? = some database) (locked : 0 < database.item.subject.locks)
    (observers : List ObserverId) {call : ServerCall} (neutral : (Move.server call).isNeutral)
    (w : World) :
    (call.run { server with
      databases := server.databases.modify n (·.observedBy observers) } w).2 =
      (call.run server w).2 := by
  have same (deed : Database.Deed) (neutral : deed.isNeutral) (d : Database)
      (hd : server.databases[n]? = some d) (w : World) :
      (deed.run (d.observedBy observers) w).2 = (deed.run d w).2 := by
    obtain rfl := Option.some.inj (there.symm.trans hd)
    exact Database.Deed.run_unheard locked observers w neutral
  cases call with
  | disconnectAll => exact mapM_modify_world (same (.call .disconnect) rfl) w
  | invalidate asked => exact mapM_modify_world (same (.call (.invalidate asked)) rfl) w
  | lockChildren | unlockChildren => cases neutral
  | _ => rfl

/-- While the database is locked, what happens in the world is the same whoever observes
it. One case for each move. -/
theorem run_unheard {move : Move} (neutral : move.isNeutral) {scene : Scene}
    {database : Database} (there : scene.followed? = some database)
    (locked : 0 < database.item.subject.locks) (observers : List ObserverId) (w : World) :
    (move.run (scene.observedBy observers) w).2 = (move.run scene w).2 := by
  obtain ⟨server, n | d⟩ := scene
  · cases move with
    | give | giveOther other | away deed => rfl
    | take id =>
      have taken := removeDatabase_world { server with
        databases := server.databases.modify n (·.observedBy observers) } id w
      have any : (server.databases.modify n (·.observedBy observers)).any (·.id == id) =
          server.databases.any (·.id == id) :=
        any_modify (by exact fun _ => rfl) _ n
      dsimp only at taken
      rw [any] at taken
      exact taken.trans (removeDatabase_world server id w).symm
    | owned id deed =>
      have same (d : Database) (hd : server.databases[n]? = some d) (w : World) :
          (deed.run (d.observedBy observers) w).2 = (deed.run d w).2 := by
        obtain rfl := Option.some.inj (there.symm.trans hd)
        exact Database.Deed.run_unheard locked observers w neutral
      exact onFirst_modify_world (p := (·.id == id)) (g := (·.observedBy observers))
        (fun d => do pure ((), ← deed.run d)) (fun _ => rfl) same w
    | server call => exact server_unheard there locked observers neutral w
  · obtain rfl : d = database := Option.some.inj there
    cases move with
    | away deed => exact Database.Deed.run_unheard locked observers w neutral
    | give | giveOther other | take id | owned id deed | server call => rfl

end Scene.Move

/-! ## Runs -/

namespace Scene

variable {scene : Scene} {moves : List (Move × World)}

theorem Steady.trans {s s' s'' : Scene} (h : s.Steady s') (h' : s'.Steady s'') :
    s.Steady s'' := by
  intro database there
  obtain ⟨database', there', steady⟩ := h database there
  obtain ⟨database'', there'', steady'⟩ := h' database' there'
  exact ⟨database'', there'', steady'.id.trans steady.id, steady'.locks.trans steady.locks⟩

/-- By induction from the first move. -/
theorem after_steady (neutral : ∀ p ∈ moves, p.1.isNeutral) (scene : Scene) :
    scene.Steady (scene.after moves) := by
  induction moves generalizing scene with
  | nil => exact .of_same rfl
  | cons p rest ih =>
    obtain ⟨head, tail⟩ := List.forall_mem_cons.mp neutral
    exact (Move.run_steady head scene p.2).trans (ih tail _)

theorem followed_lockChildren {database : Database} (there : scene.followed? = some database) :
    ∃ database', scene.lockChildren.followed? = some database' ∧
      database'.id = database.id ∧
      database'.item.subject.locks = database.item.subject.locks + scene.isOwned.toNat := by
  obtain ⟨server, n | d⟩ := scene
  · refine ⟨{ database with item := database.item.lock }, ?_, rfl, rfl⟩
    have there : server.databases[n]? = some database := there
    show (server.databases.map _)[n]? = _
    rw [List.getElem?_map, there]
    rfl
  · exact ⟨database, there, rfl, rfl⟩

theorem followed_unlockChildren {database : Database} (there : scene.followed? = some database)
    (w : World) : ∃ database', (scene.unlockChildren w).1.followed? = some database' ∧
      database'.id = database.id ∧
      database'.item.subject.locks = database.item.subject.locks - scene.isOwned.toNat := by
  obtain ⟨server, n | d⟩ := scene
  · obtain ⟨v, unlocked⟩ := mapM_getElem?
      (fun d : Database => do pure { d with item := ← d.item.unlock }) server.databases n w
    have there : server.databases[n]? = some database := there
    rw [there] at unlocked
    obtain ⟨id, locks⟩ := database.item.unlock_locks v
    exact ⟨_, unlocked, id, locks⟩
  · exact ⟨database, there, rfl, rfl⟩

/-- A lock that was taken or not, and then given back or not. -/
theorem locks_balanced_iff (locks : Nat) (taken back : Bool) :
    locks + taken.toNat - back.toNat = locks ↔ taken = back ∨ taken = false ∧ locks = 0 := by
  cases taken <;> cases back <;> simp
  omega

/-- What locking the databases of a server and unlocking them later comes to, for a
database that may come and go in between. Until it is unlocked, it is locked as often as
it was before, and once more if the server had it when it locked them; while it is locked
at all, what happens in the world is the same whoever observes it. At the end a lock is
gone if the server has it then, and if there is one. So it is locked as often as before if
and only if the server had it both times or neither time, or has got it since, without any
lock. -/
theorem lockChildren_unlockChildren {scene : Scene} {database : Database}
    (there : scene.followed? = some database) {moves : List (Move × World)}
    (neutral : ∀ p ∈ moves, p.1.isNeutral) (w : World) :
    let last := scene.lockChildren.after moves
    (∀ done move world rest, moves = done ++ (move, world) :: rest →
      let now := scene.lockChildren.after done
      ∃ database', now.followed? = some database' ∧ database'.id = database.id ∧
        database'.item.subject.locks = database.item.subject.locks + scene.isOwned.toNat ∧
        (0 < database'.item.subject.locks → ∀ observers,
          (move.run (now.observedBy observers) world).2 = (move.run now world).2)) ∧
    ∃ database', (last.unlockChildren w).1.followed? = some database' ∧
      database'.id = database.id ∧
      database'.item.subject.locks =
        database.item.subject.locks + scene.isOwned.toNat - last.isOwned.toNat ∧
      (database'.item.subject.locks = database.item.subject.locks ↔
        scene.isOwned = last.isOwned ∨
          scene.isOwned = false ∧ database.item.subject.locks = 0) := by
  intro last
  obtain ⟨held, hheld, sameHeld, locks⟩ := followed_lockChildren there
  refine ⟨fun done move world rest parts => ?_, ?_⟩
  · subst parts
    obtain ⟨before, here⟩ := List.forall_mem_append.mp neutral
    obtain ⟨now, hnow, steady⟩ := after_steady before scene.lockChildren held hheld
    refine ⟨now, hnow, steady.id.trans sameHeld, steady.locks.trans locks,
      fun locked observers => ?_⟩
    exact Move.run_unheard (List.forall_mem_cons.mp here).1 hnow locked observers world
  · obtain ⟨now, hnow, steady⟩ := after_steady neutral scene.lockChildren held hheld
    obtain ⟨final, hfinal, sameFinal, unlocked⟩ := followed_unlockChildren hnow w
    have total : final.item.subject.locks =
        database.item.subject.locks + scene.isOwned.toNat - last.isOwned.toNat :=
      unlocked.trans (congrArg (· - last.isOwned.toNat) (steady.locks.trans locks))
    refine ⟨final, hfinal, sameFinal.trans (steady.id.trans sameHeld), total, ?_⟩
    rw [total]
    exact locks_balanced_iff _ _ _

/-- A server with one database, which is followed. -/
def lone : Scene where
  server := {
    item := .free .nil .server (.ofCatalog "HOST")
    host := "localhost"
    port := "3050"
    databases := [{ item := .free .nil .database (.ofCatalog "DB"), path := "test.fdb" }] }
  whereabouts := .owned 0

/-- The database is given away and comes back, and is not locked in the end. -/
theorem lockChildren_unlockChildren_lone :
    let moves : List (Move × World) :=
      [(.owned .nil (.call (.setLogin "SYSDBA" "masterkey")), {}), (.take .nil, {}), (.give, {})]
    ∃ database', ((lone.lockChildren.after moves).unlockChildren {}).1.followed? =
        some database' ∧ database'.item.subject.locks = 0 := by
  intro moves
  have there : lone.followed? = some _ := rfl
  have neutral : ∀ p ∈ moves, p.1.isNeutral := by
    intro p hp
    simp only [moves, List.mem_cons, List.not_mem_nil, or_false] at hp
    rcases hp with rfl | rfl | rfl <;> rfl
  obtain ⟨-, database', followed, -, -, balanced⟩ :=
    lockChildren_unlockChildren there neutral {}
  exact ⟨database', followed, balanced.mpr (.inl rfl)⟩

/-- It is not so that every database is locked as often as before in the end. One that is
given away stays locked. -/
theorem children_unbalanced : ¬ ∀ (scene : Scene) (database : Database)
    (moves : List (Move × World)) (w : World), scene.followed? = some database →
      (∀ p ∈ moves, p.1.isNeutral) →
      ∀ database', ((scene.lockChildren.after moves).unlockChildren w).1.followed? =
        some database' → database'.item.subject.locks = database.item.subject.locks := by
  intro balanced
  have taken : ∀ p ∈ [((.take .nil, {}) : Move × World)], p.1.isNeutral :=
    List.forall_mem_singleton.mpr rfl
  have same := balanced lone _ _ {} rfl taken _ rfl
  cases same

end Scene

end MetaCatalog
