import MetaCatalog.Proofs.Framework.Databases
import MetaCatalog.Workspace

/-!
# Workspaces under a discipline

A computation keeps a workspace to a discipline if the world upholds it and all
that the workspace holds fits, and if both are so afterwards (`Keeps`). What is
looked up by a name and changed is kept if its change is (`onDatabase_keeps` and
the like).
-/

namespace MetaCatalog

open World

namespace Discipline

variable {D : Discipline}

/-- A statement in the hands of someone is in no cache but that of the loader it
came from. -/
structure FitsHandle (w : World) (handle : Handle) : Prop where
  prepares : w.Prepares handle.statement
  caches : ∀ l, w.Caches l handle.statement → l = handle.loader

/-- All that a workspace holds fits. -/
structure FitsWorkspace (D : Discipline) (s : Workspace) : Prop where
  catalogs : ∀ p ∈ s.catalogs, s.world.Serves p.2
  loaders : ∀ p ∈ s.loaders, s.world.Knows p.2
  handles : ∀ p ∈ s.handles, FitsHandle s.world p.2
  databases : ∀ p ∈ s.databases, D.FitsDatabase s.world p.2
  tables : ∀ p ∈ s.tables, D.FitsTable s.world p.2
  views : ∀ p ∈ s.views, D.FitsView s.world p.2
  procedures : ∀ p ∈ s.procedures, D.FitsProcedure s.world p.2
  items : ∀ p ∈ s.items, D.Fits s.world p.2
  servers : ∀ p ∈ s.servers, D.FitsServer s.world p.2

/-- Loaders that are known stay known when the world grows. -/
theorem Fits.grows {w w' : World} {item : Item} (h : D.Fits w item) (hg : w.Grows w') :
    D.Fits w' item :=
  ⟨fun l hl => hg.knows l (h.knows l hl), h.allows⟩

theorem FitsHandle.grows {w w' : World} {handle : Handle} (h : FitsHandle w handle)
    (hg : w.Grows w') : FitsHandle w' handle :=
  ⟨hg.prepares _ h.prepares, fun l hl => h.caches l (hg.caches l _ h.prepares hl)⟩

theorem FitsDatabase.grows {w w' : World} {database : Database} (h : D.FitsDatabase w database)
    (hg : w.Grows w') : D.FitsDatabase w' database :=
  ⟨h.item.grows hg, fun t ht => Fits.grows (h.tables t ht) hg,
    fun v hv => Fits.grows (h.views v hv) hg, fun p hp => Fits.grows (h.procedures p hp) hg⟩

theorem FitsServer.grows {w w' : World} {server : Server} (h : D.FitsServer w server)
    (hg : w.Grows w') : D.FitsServer w' server :=
  ⟨h.item.grows hg, fun d hd => (h.databases d hd).grows hg⟩

theorem FitsWorkspace.grows {s : Workspace} (h : D.FitsWorkspace s) {w' : World}
    (hg : s.world.Grows w') : D.FitsWorkspace { s with world := w' } where
  catalogs p hp := hg.serves _ (h.catalogs p hp)
  loaders p hp := hg.knows _ (h.loaders p hp)
  handles p hp := (h.handles p hp).grows hg
  databases p hp := (h.databases p hp).grows hg
  tables p hp := Fits.grows (h.tables p hp) hg
  views p hp := Fits.grows (h.views p hp) hg
  procedures p hp := Fits.grows (h.procedures p hp) hg
  items p hp := (h.items p hp).grows hg
  servers p hp := (h.servers p hp).grows hg

/-- What is put under a name joins what was there. -/
theorem forall_put {P : α → Prop} {named : Named α} {name : String} {a : α}
    (h : ∀ p ∈ named, P p.2) (ha : P a) : ∀ p ∈ Named.put name a named, P p.2 := by
  intro p hp
  rcases List.mem_cons.mp hp with rfl | hp
  · exact ha
  · exact h p (List.mem_filter.mp hp).1

theorem forall_drop {P : α → Prop} {named : Named α} {name : String} (h : ∀ p ∈ named, P p.2) :
    ∀ p ∈ Named.drop name named, P p.2 :=
  fun p hp => h p (List.mem_filter.mp hp).1

/-! ## Computations in a workspace -/

/-- What a computation in a workspace does: like `Ensures`, and all that the
workspace holds fits afterwards. -/
structure Keeps (D : Discipline) (s : Workspace) (m : Working α) (Q : Workspace → α → Prop) :
    Prop where
  upholds : D.Upholds (m s).2.world
  fits : D.FitsWorkspace (m s).2
  settles : s.world.Settles (m s).2.world
  result : Q (m s).2 (m s).1

namespace Keeps

variable {s : Workspace}

theorem pure {a : α} {Q : Workspace → α → Prop} (h : D.Upholds s.world) (hf : D.FitsWorkspace s)
    (hq : Q s a) : D.Keeps s (Pure.pure a) Q :=
  ⟨h, hf, .refl _, hq⟩

theorem bind {m : Working α} {f : α → Working β} {P : Workspace → α → Prop}
    {Q : Workspace → β → Prop} (hm : D.Keeps s m P)
    (hf : ∀ s' a, D.Upholds s'.world → D.FitsWorkspace s' → s.world.Settles s'.world → P s' a →
      D.Keeps s' (f a) Q) : D.Keeps s (m >>= f) Q := by
  have h := hf _ _ hm.upholds hm.fits hm.settles hm.result
  exact ⟨h.upholds, h.fits, hm.settles.trans h.settles, h.result⟩

/-- A computation followed by something that leaves the workspace alone. -/
theorem map {m : Working α} {f : α → β} {P : Workspace → α → Prop} {Q : Workspace → β → Prop}
    (hm : D.Keeps s m P) (hf : ∀ s' a, P s' a → Q s' (f a)) :
    D.Keeps s (do Pure.pure (f (← m))) Q :=
  ⟨hm.upholds, hm.fits, hm.settles, hf _ _ hm.result⟩

theorem mono {m : Working α} {P Q : Workspace → α → Prop} (hm : D.Keeps s m P)
    (h : ∀ s' a, P s' a → Q s' a) : D.Keeps s m Q :=
  ⟨hm.upholds, hm.fits, hm.settles, h _ _ hm.result⟩

/-- A computation that runs like another one. -/
theorem congr {m m' : Working α} {Q : Workspace → α → Prop} (hm : D.Keeps s m Q)
    (h : m' s = m s) : D.Keeps s m' Q := by
  refine ⟨?_, ?_, ?_, ?_⟩ <;> rw [h]
  · exact hm.upholds
  · exact hm.fits
  · exact hm.settles
  · exact hm.result

/-- A change of the workspace that leaves the world alone. -/
theorem change {f : Workspace → Workspace} (h : D.Upholds s.world) (hw : (f s).world = s.world)
    (hf : D.FitsWorkspace (f s)) :
    D.Keeps s (modify f : Working PUnit) fun s' _ => s' = f s := by
  refine ⟨?_, hf, ?_, rfl⟩
  · show D.Upholds (f s).world
    exact hw ▸ h
  · show s.world.Settles (f s).world
    rw [hw]
    exact .refl _

theorem engine {m : Engine α} {Q : World → α → Prop} (hf : D.FitsWorkspace s)
    (hm : D.Ensures s.world m Q) :
    D.Keeps s (Workspace.engine m) fun s' a => s' = { s with world := s'.world } ∧ Q s'.world a :=
  ⟨hm.upholds, hf.grows hm.settles.toGrows, hm.settles, rfl, hm.result⟩

end Keeps

/-- A computation that reads the workspace. -/
theorem Working.run_reading (f : Workspace → Working α) (s : Workspace) :
    ((do f (← get)) : Working α) s = f s s := rfl

section Lookups

variable {s : Workspace} {R : α → Prop}

/-- A property of the result, if there is one. -/
def IfAny (R : α → Prop) (result : Option α) : Prop := ∀ a, result = some a → R a

theorem IfAny.none {R : α → Prop} : IfAny R none := fun a h =>
  absurd h (Option.some_ne_none a).symm

theorem IfAny.some {R : α → Prop} {a : α} (h : R a) : IfAny R (some a) :=
  fun _ ha => Option.some.inj ha ▸ h

theorem IfAny.join {R : α → Prop} {result : Option (Option α)} (h : IfAny (IfAny R) result) :
    IfAny R result.join := by
  cases result with
  | none => exact .none
  | some inner => exact h inner rfl

/-- What an operation ensures on any object that fits. -/
def Serving (D : Discipline) (w : World) (fits : World → σ → Prop) (R : α → Prop)
    (operation : σ → Engine (α × σ)) : Prop :=
  ∀ object, fits w object → D.Ensures w (operation object) fun w' r => fits w' r.2 ∧ R r.1

/-- An operation on the thing under a name. `get` and `set` have to read and
write things of one kind that fit. -/
theorem onNamed_keeps (fits : World → σ → Prop) {get : Workspace → Named σ}
    {set : Named σ → Workspace → Workspace} {operation : σ → Engine (α × σ)}
    (hg : ∀ s : Workspace, D.FitsWorkspace s → ∀ p ∈ get s, fits s.world p.2)
    (hw : ∀ s named, (set named s).world = s.world)
    (hs : ∀ s named, D.FitsWorkspace s → (∀ p ∈ named, fits s.world p.2) →
      D.FitsWorkspace (set named s))
    (ho : D.Serving s.world fits R operation) (name : String) (h : D.Upholds s.world)
    (hf : D.FitsWorkspace s) :
    D.Keeps s (Workspace.onNamed get set name operation) fun _ r => IfAny R r := by
  rcases hl : (get s).lookup name with _ | object
  · refine (Keeps.pure h hf .none).congr ?_
    unfold Workspace.onNamed
    rw [Working.run_reading, hl]
  · have keeps : D.Keeps s (do
        let r ← Workspace.engine (operation object)
        modify fun s => set (Named.put name r.2 (get s)) s
        Pure.pure (some r.1)) fun _ r => IfAny R r := by
      refine (Keeps.engine hf (ho _ (hg s hf _ (mem_of_lookup hl)))).bind
        fun s' r h' hf' _ hr => ?_
      have put : D.FitsWorkspace (set (Named.put name r.2 (get s')) s') :=
        hs s' _ hf' (forall_put (hg s' hf') hr.2.1)
      exact (Keeps.change (f := fun s => set (Named.put name r.2 (get s)) s) h' (hw s' _) put).map
        fun _ _ _ => IfAny.some hr.2.2
    refine keeps.congr ?_
    unfold Workspace.onNamed
    rw [Working.run_reading, hl]

theorem onServer_keeps {operation : Server → Engine (α × Server)}
    (ho : D.Serving s.world D.FitsServer R operation) (name : String) (h : D.Upholds s.world)
    (hf : D.FitsWorkspace s) :
    D.Keeps s (Workspace.onServer name operation) fun _ r => IfAny R r := by
  unfold Workspace.onServer
  refine onNamed_keeps D.FitsServer ?_ ?_ ?_ ho _ h hf
  · exact fun _ hf => hf.servers
  · exact fun _ _ => rfl
  · exact fun _ _ hf hn => { hf with servers := hn }

theorem onFreeItem_keeps {operation : Item → Engine (α × Item)}
    (ho : D.Serving s.world D.Fits R operation) (name : String) (h : D.Upholds s.world)
    (hf : D.FitsWorkspace s) :
    D.Keeps s (Workspace.onFreeItem name operation) fun _ r => IfAny R r := by
  unfold Workspace.onFreeItem
  refine onNamed_keeps D.Fits ?_ ?_ ?_ ho _ h hf
  · exact fun _ hf => hf.items
  · exact fun _ _ => rfl
  · exact fun _ _ hf hn => { hf with items := hn }

/-- An operation on a database of a server is one on the server. -/
theorem serving_database {w : World} {operation : Database → Engine (α × Database)}
    (h : D.Upholds w) (ho : D.Serving w D.FitsDatabase R operation) (id : Uuid) :
    D.Serving w D.FitsServer (IfAny R) (Server.onDatabase · id operation) := by
  intro server hf
  refine (Ensures.onFirst (P := D.FitsDatabase) FitsDatabase.settles (ho _) h server.databases
    hf.databases).map fun w' r hs hr => ?_
  exact ⟨⟨hf.item.settles hs, hr.1⟩, hr.2⟩

theorem onDatabase_keeps {operation : Database → Engine (α × Database)}
    (ho : D.Serving s.world D.FitsDatabase R operation) (name : String) (h : D.Upholds s.world)
    (hf : D.FitsWorkspace s) :
    D.Keeps s (Workspace.onDatabase name operation) fun _ r => IfAny R r := by
  have free : D.Keeps s (Workspace.onNamed (·.databases)
      (fun databases s => { s with databases }) name operation) fun _ r => IfAny R r := by
    refine onNamed_keeps D.FitsDatabase ?_ ?_ ?_ ho _ h hf
    · exact fun _ hf => hf.databases
    · exact fun _ _ => rfl
    · exact fun _ _ hf hn => { hf with databases := hn }
  have owned (owner : String) (id : Uuid) : D.Keeps s
      (do pure (← Workspace.onServer owner (·.onDatabase id operation)).join)
      fun _ r => IfAny R r :=
    (onServer_keeps (serving_database h ho id) owner h hf).map fun _ _ hr => hr.join
  by_cases hd : (s.databases.lookup name).isSome = true
  · refine free.congr ?_
    unfold Workspace.onDatabase
    rw [Working.run_reading, if_pos hd]
  · rcases ho : s.owned.lookup name with _ | ⟨owner, id⟩
    · refine (Keeps.pure h hf .none).congr ?_
      unfold Workspace.onDatabase
      rw [Working.run_reading, if_neg hd, ho]
    · refine (owned owner id).congr ?_
      unfold Workspace.onDatabase
      rw [Working.run_reading, if_neg hd, ho]

/-- An operation on an object of a database is one on the database. -/
theorem serving_table {w : World} {operation : Table → Engine (α × Table)}
    (h : D.Upholds w) (ho : D.Serving w D.FitsTable R operation) (name : String) :
    D.Serving w D.FitsDatabase (IfAny R) (Database.onTable · name operation) := by
  intro database hf
  refine (Ensures.onFirst (P := D.FitsTable) Fits.settles (ho _) h database.tables hf.tables).map
    fun w' r hs hr => ?_
  exact ⟨{ hf.settles hs with tables := hr.1 }, hr.2⟩

theorem serving_view {w : World} {operation : View → Engine (α × View)}
    (h : D.Upholds w) (ho : D.Serving w D.FitsView R operation) (name : String) :
    D.Serving w D.FitsDatabase (IfAny R) (Database.onView · name operation) := by
  intro database hf
  refine (Ensures.onFirst (P := D.FitsView) Fits.settles (ho _) h database.views hf.views).map
    fun w' r hs hr => ?_
  exact ⟨{ hf.settles hs with views := hr.1 }, hr.2⟩

theorem serving_procedure {w : World} {operation : Procedure → Engine (α × Procedure)}
    (h : D.Upholds w) (ho : D.Serving w D.FitsProcedure R operation) (name : String) :
    D.Serving w D.FitsDatabase (IfAny R) (Database.onProcedure · name operation) := by
  intro database hf
  refine (Ensures.onFirst (P := D.FitsProcedure) Fits.settles (ho _) h database.procedures
    hf.procedures).map fun w' r hs hr => ?_
  exact ⟨{ hf.settles hs with procedures := hr.1 }, hr.2⟩

theorem onTable_keeps {operation : Table → Engine (α × Table)}
    (ho : D.Serving s.world D.FitsTable R operation) (address : Address) (h : D.Upholds s.world)
    (hf : D.FitsWorkspace s) :
    D.Keeps s (Workspace.onTable address operation) fun _ r => IfAny R r := by
  unfold Workspace.onTable
  split
  · exact .pure h hf .none
  · exact (onDatabase_keeps (serving_table h ho _) _ h hf).map fun _ _ hr => hr.join
  · refine onNamed_keeps D.FitsTable ?_ ?_ ?_ ho _ h hf
    · exact fun _ hf => hf.tables
    · exact fun _ _ => rfl
    · exact fun _ _ hf hn => { hf with tables := hn }

theorem onView_keeps {operation : View → Engine (α × View)}
    (ho : D.Serving s.world D.FitsView R operation) (address : Address) (h : D.Upholds s.world)
    (hf : D.FitsWorkspace s) :
    D.Keeps s (Workspace.onView address operation) fun _ r => IfAny R r := by
  unfold Workspace.onView
  split
  · exact .pure h hf .none
  · exact (onDatabase_keeps (serving_view h ho _) _ h hf).map fun _ _ hr => hr.join
  · refine onNamed_keeps D.FitsView ?_ ?_ ?_ ho _ h hf
    · exact fun _ hf => hf.views
    · exact fun _ _ => rfl
    · exact fun _ _ hf hn => { hf with views := hn }

theorem onProcedure_keeps {operation : Procedure → Engine (α × Procedure)}
    (ho : D.Serving s.world D.FitsProcedure R operation) (address : Address) (h : D.Upholds s.world)
    (hf : D.FitsWorkspace s) :
    D.Keeps s (Workspace.onProcedure address operation) fun _ r => IfAny R r := by
  unfold Workspace.onProcedure
  split
  · exact .pure h hf .none
  · exact (onDatabase_keeps (serving_procedure h ho _) _ h hf).map fun _ _ hr => hr.join
  · refine onNamed_keeps D.FitsProcedure ?_ ?_ ?_ ho _ h hf
    · exact fun _ hf => hf.procedures
    · exact fun _ _ => rfl
    · exact fun _ _ hf hn => { hf with procedures := hn }

end Lookups

end Discipline

end MetaCatalog
