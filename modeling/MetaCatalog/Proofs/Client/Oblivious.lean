import MetaCatalog.Proofs.Client.Dialogues
import MetaCatalog.Proofs.Framework.Blind

/-!
# Steps that are oblivious of interleaving

A computation in a workspace is `Oblivious` if it gives the same however the scripts of the
catalogs are interleaved, and leaves workspaces that differ in no other way. Operations on
what is found under a name are oblivious if they are blind to it (`Oblivious.onNamed` and the
like), and so is every step (`Oblivious.answer`).
-/

namespace MetaCatalog

open Likeness

/-- The workspace in another world. -/
def Workspace.inWorld (s : Workspace) (world : World) : Workspace := { s with world }

/-- The workspaces are the same but for how the scripts of their catalogs are interleaved. -/
inductive Workspace.Interleaved (s : Workspace) : Workspace → Prop
  | mk {world : World} (alike : interleaved.Worlds s.world world) : Interleaved s (s.inWorld world)

/-- The computation gives the same, however the scripts are interleaved. -/
def Oblivious (m : Working α) : Prop :=
  ∀ ⦃s s' : Workspace⦄, s.Interleaved s' → (m s').1 = (m s).1 ∧ (m s).2.Interleaved (m s').2

namespace Oblivious

theorem pure (a : α) : Oblivious (Pure.pure a) := fun _ _ h => ⟨rfl, h⟩

theorem bind {m : Working α} {f : α → Working β} (hm : Oblivious m)
    (hf : ∀ a, Oblivious (f a)) : Oblivious (m >>= f) := by
  intro s s' h
  obtain ⟨first, between⟩ := hm h
  show (f (m s').1 (m s').2).1 = _ ∧ Workspace.Interleaved _ (f (m s').1 (m s').2).2
  rw [first]
  exact hf (m s).1 between

theorem map {m : Working α} (f : α → β) (hm : Oblivious m) :
    Oblivious (do Pure.pure (f (← m))) :=
  hm.bind fun _ => .pure _

/-- A computation that reads the workspace, but not the world. -/
theorem reading {f : Workspace → Working α} (hf : ∀ s world, f (s.inWorld world) = f s)
    (h : ∀ s, Oblivious (f s)) : Oblivious (do f (← get)) := by
  rintro s _ ⟨alike⟩
  show (f _ _).1 = _ ∧ Workspace.Interleaved _ (f _ _).2
  rw [hf]
  exact h s ⟨alike⟩

theorem engine {m : Engine α} (hm : Blind m) : Oblivious (Workspace.engine m) := by
  rintro s _ ⟨alike⟩
  obtain ⟨same, after⟩ := hm alike
  exact ⟨same.symm, ⟨after⟩⟩

theorem alter {f : Workspace → Workspace}
    (h : ∀ s world, interleaved.Worlds s.world world → (f s).Interleaved (f (s.inWorld world))) :
    Oblivious (modify f : Working PUnit) := by
  rintro s _ ⟨alike⟩
  exact ⟨rfl, h s _ alike⟩

/-- A change of what is not the world. -/
theorem change {f : Workspace → Workspace}
    (h : ∀ s world, f (s.inWorld world) = (f s).inWorld world) :
    Oblivious (modify f : Working PUnit) := by
  refine alter fun s world alike => ?_
  have kept : (f s).world = s.world := by
    have same := congrArg Workspace.world (h s s.world)
    exact same
  rw [h]
  exact ⟨kept ▸ alike⟩

/-! ### Named things -/

theorem withNamed {named : Workspace → Named α} {name : String} {use : α → Working (Option Error)}
    (hn : ∀ s world, named (s.inWorld world) = named s) (hu : ∀ a, Oblivious (use a)) :
    Oblivious (Step.withNamed named name use) := by
  refine reading (fun s world => by rw [hn]) fun s => ?_
  cases (named s).lookup name with
  | none => exact pure _
  | some a => exact hu a

/-- An operation on the thing under a name. `get` and `set` have to leave the world alone. -/
theorem onNamed {get : Workspace → Named σ} {set : Named σ → Workspace → Workspace}
    {operation : σ → Engine (α × σ)} (hg : ∀ s world, get (s.inWorld world) = get s)
    (hs : ∀ named s world, set named (s.inWorld world) = (set named s).inWorld world)
    (ho : ∀ a, Blind (operation a)) (name : String) :
    Oblivious (Workspace.onNamed get set name operation) := by
  unfold Workspace.onNamed
  refine reading (fun s world => by rw [hg]) fun s => ?_
  cases (get s).lookup name with
  | none => exact pure _
  | some a =>
    exact (engine (ho a)).bind fun r => (change fun s world => by rw [hg, hs]).map _

theorem onServer {operation : Server → Engine (α × Server)} (ho : ∀ s, Blind (operation s))
    (name : String) : Oblivious (Workspace.onServer name operation) :=
  onNamed (fun _ _ => rfl) (fun _ _ _ => rfl) ho name

theorem onFreeItem {operation : Item → Engine (α × Item)} (ho : ∀ i, Blind (operation i))
    (name : String) : Oblivious (Workspace.onFreeItem name operation) :=
  onNamed (fun _ _ => rfl) (fun _ _ _ => rfl) ho name

theorem onDatabase {operation : Database → Engine (α × Database)} (ho : ∀ d, Blind (operation d))
    (name : String) : Oblivious (Workspace.onDatabase name operation) := by
  refine reading (fun _ _ => rfl) fun s => ?_
  split
  · exact onNamed (fun _ _ => rfl) (fun _ _ _ => rfl) ho name
  · split
    · exact pure _
    · next owner id _ => exact (onServer (fun s => s.onDatabase_blind id ho) owner).map _

theorem onTable {operation : Table → Engine (α × Table)} (ho : ∀ t, Blind (operation t))
    (address : Address) : Oblivious (Workspace.onTable address operation) := by
  unfold Workspace.onTable
  split
  · exact pure _
  · exact (onDatabase (fun d => (Blind.onFirst _ ho d.tables).map _) _).map _
  · exact onNamed (fun _ _ => rfl) (fun _ _ _ => rfl) ho _

theorem onView {operation : View → Engine (α × View)} (ho : ∀ v, Blind (operation v))
    (address : Address) : Oblivious (Workspace.onView address operation) := by
  unfold Workspace.onView
  split
  · exact pure _
  · exact (onDatabase (fun d => (Blind.onFirst _ ho d.views).map _) _).map _
  · exact onNamed (fun _ _ => rfl) (fun _ _ _ => rfl) ho _

theorem onProcedure {operation : Procedure → Engine (α × Procedure)}
    (ho : ∀ p, Blind (operation p)) (address : Address) :
    Oblivious (Workspace.onProcedure address operation) := by
  unfold Workspace.onProcedure
  split
  · exact pure _
  · exact (onDatabase (fun d => (Blind.onFirst _ ho d.procedures).map _) _).map _
  · exact onNamed (fun _ _ => rfl) (fun _ _ _ => rfl) ho _

/-! ### Steps -/

theorem attempt {query : Query Unit} (h : interleaved.Finds query query Eq) :
    Oblivious (Step.attempt query) :=
  (engine (.query h)).map _

/-- Something new is put under a name. -/
theorem made {m : Engine α} (hm : Blind m) {f : α → Workspace → Workspace}
    (hf : ∀ a s world, f a (s.inWorld world) = (f a s).inWorld world) :
    Oblivious (do
      let a ← Workspace.engine m
      modify (f a)
      Pure.pure (none : Option Error)) :=
  (engine hm).bind fun a => (change (hf a)).map _

theorem addDatabase (name : String) (database : Database) :
    Oblivious (Workspace.addDatabase name database) :=
  change fun _ _ => rfl

theorem giveTo (owner name : String) (database : Database) :
    Oblivious (Workspace.giveTo owner name database) :=
  (onServer (fun s => (s.addDatabase_blind database).map _) owner).bind fun _ =>
    change fun _ _ => rfl

theorem takeFrom (owner : String) (id : Uuid) (name : String) :
    Oblivious (Workspace.takeFrom owner id name) := by
  refine (onServer (fun s => s.removeDatabase_blind id) owner).bind fun r => ?_
  rcases r with _ | _ | database
  · exact pure _
  · exact pure _
  · exact (addDatabase name database).map _

theorem addObserver (name : String) : Oblivious (Workspace.addObserver name) :=
  alter fun s _ alike =>
    ⟨{ alike with observers := congrArg (·.filter (some · != s.observers.lookup name) ++
        [s.observerNames.length]) alike.observers }⟩

theorem dropObserver (name : String) : Oblivious (Workspace.dropObserver name) := by
  refine reading (fun _ _ => rfl) fun s => ?_
  cases s.observers.lookup name with
  | none => exact pure _
  | some id =>
    refine Oblivious.map _ (alter fun s _ alike => ?_)
    exact ⟨{ alike with observers := congrArg (·.filter (· != id)) alike.observers }⟩

/-- One case for each step. -/
theorem answer (step : Step) : Oblivious step.answer := by
  cases step with
  | openCatalog name database user password =>
    exact (made (connect_runs ⟨[], interleaved.silent, rfl⟩) fun _ _ _ => rfl).map _
  | script catalog change =>
    refine (withNamed (fun _ _ => rfl) fun id => Oblivious.map _ ?_).map _
    exact alter fun s _ alike => ⟨alike.setCatalog id (script_same change (alike.catalog id))⟩
  | direct catalog call =>
    exact (withNamed (fun _ _ => rfl) fun id =>
      attempt (changeCatalog_finds id (direct_same call))).map _
  | newLoader name catalog =>
    exact (withNamed (fun _ _ => rfl) fun id => made (newLoader_runs id) fun _ _ _ => rfl).map _
  | keepLoader name owner =>
    refine ((onDatabase (fun _ => .pure _) owner).bind fun loader => ?_).map _
    cases loader.join with
    | none => exact pure _
    | some l => exact (change fun _ _ => rfl).map _
  | clearStatements loader =>
    exact (withNamed (fun _ _ => rfl) fun id => (engine (clearStatements_runs id)).map _).map _
  | prepare name loader sql =>
    refine (withNamed (fun _ _ => rfl) fun id => ?_).map _
    refine (engine (.query (prepare_finds id sql))).bind fun r => ?_
    cases r with
    | error e => exact pure _
    | ok handle => exact (change fun _ _ => rfl).map _
  | useHandle name call =>
    refine reading (fun _ _ => rfl) fun s => ?_
    cases s.handles.lookup name with
    | none => exact pure _
    | some handle => exact (engine (HandleCall.tell_runs handle call)).map _
  | enter loader => exact pure _
  | leave guard => exact pure _
  | newDatabase name id raw path =>
    exact ((engine ((Item.fresh_blind .database raw).map _)).bind fun _ =>
      (addDatabase name _).map _).map _
  | connect name catalog =>
    exact (withNamed (fun _ _ => rfl) fun id =>
      (onDatabase (fun d => (d.connect_blind id).map _) name).map _).map _
  | database name call => exact onDatabase call.tell_blind name
  | newTable name raw => exact (made ((Item.fresh_blind .table raw).map _) fun _ _ _ => rfl).map _
  | table address call => exact onTable call.tell_blind address
  | newView name raw => exact (made ((Item.fresh_blind .view raw).map _) fun _ _ _ => rfl).map _
  | view address call => exact onView call.tell_blind address
  | newProcedure name raw =>
    exact (made ((Item.fresh_blind .procedure raw).map _) fun _ _ _ => rfl).map _
  | procedure address call => exact onProcedure call.tell_blind address
  | newItem name id kind raw parent loader =>
    exact (made (Item.fresh_blind kind raw) fun _ _ _ => rfl).map _
  | renameItem name raw =>
    exact ((onFreeItem (fun _ => Blind.map _ (Item.announce_blind _)) name).map _).map _
  | item name call => exact ((onFreeItem (fun i => (call.run_blind i).map _) name).map _).map _
  | newServer name host port =>
    exact (made ((Item.fresh_blind .server _).map _) fun _ _ _ => rfl).map _
  | giveTo owner name =>
    exact (withNamed (fun _ _ => rfl) fun _ => withNamed (fun _ _ => rfl) fun d =>
      (giveTo owner name d).map _).map _
  | takeFrom owner name =>
    refine (reading (fun _ _ => rfl) fun s => ?_).map _
    cases s.databaseId? name with
    | none => exact pure _
    | some id => exact (takeFrom owner id name).map _
  | server name call => exact onServer call.tell_blind name
  | newObserver name => exact ((addObserver name).map _).map _
  | dropObserver name => exact ((dropObserver name).map _).map _

end Oblivious

end MetaCatalog
