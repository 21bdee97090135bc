import MetaCatalog.Item
import MetaCatalog.Proofs.Framework.Reads

/-!
# Entering and leaving a transaction

`Entered` says that a loader has one user more than before. Whatever settles
the world in between, `leave` brings every depth back (`Entered.leave`). What an
item does when a facet is fetched is such a bracket (`Item.run_fetch`).
-/

namespace MetaCatalog

namespace World

/-- The loader has one user more, and otherwise the world has only grown. -/
structure Entered (l : LoaderId) (w w' : World) : Prop extends Grows w w' where
  depth (k : LoaderId) : (w'.loader k).depth = (w.loader k).depth + if l = k then 1 else 0

theorem Entered.settles {w w' w'' : World} {l : LoaderId} (h : w.Entered l w')
    (h' : w'.Settles w'') : w.Entered l w'' :=
  ⟨h.toGrows.trans h'.toGrows, fun k => (h'.depth k).trans (h.depth k)⟩

theorem Entered.inside {w w' : World} {l : LoaderId} (h : w.Entered l w') : w'.Inside l := by
  rw [Inside, h.depth, if_pos rfl]
  omega

/-- The world with the depth of a loader changed. -/
def changeDepth (w : World) (l : LoaderId) (f : Nat → Nat) : World :=
  w.modifyLoader l fun x => { x with depth := f x.depth }

theorem depth_changeDepth (w : World) (l k : LoaderId) (f : Nat → Nat) :
    ((w.changeDepth l f).loader k).depth =
      if l = k ∧ w.Knows k then f (w.loader k).depth else (w.loader k).depth := by
  rw [changeDepth, loader_modifyLoader]
  split <;> rfl

theorem loader_changeDepth (w : World) (l k : LoaderId) (f : Nat → Nat) :
    ((w.changeDepth k f).loader l).statements = (w.loader l).statements ∧
      ((w.changeDepth k f).loader l).connection = (w.loader l).connection := by
  rw [changeDepth, loader_modifyLoader]
  split <;> exact ⟨rfl, rfl⟩

theorem catalogOf_changeDepth (w : World) (l k : LoaderId) (f : Nat → Nat) :
    (w.changeDepth k f).catalogOf l = w.catalogOf l :=
  congrArg w.catalog (loader_changeDepth w l k f).2

theorem grows_changeDepth (w : World) (l : LoaderId) (f : Nat → Nat) :
    w.Grows (w.changeDepth l f) :=
  grows_modifyLoader w l (fun _ => rfl) fun _ => List.Subset.refl _

theorem Sound.changeDepth {w : World} (h : w.Sound) (l : LoaderId) (f : Nat → Nat) :
    (w.changeDepth l f).Sound :=
  h.modifyLoader l (fun _ => rfl) fun _ => List.Subset.refl _

@[simp] theorem knows_changeDepth (w : World) (l k : LoaderId) (f : Nat → Nat) :
    (w.changeDepth l f).Knows k ↔ w.Knows k :=
  knows_modifyLoader ..

end World

namespace LoaderId

open World

theorem run_enter (w : World) (l : LoaderId) :
    l.enter.run w =
      if (w.loader l).depth = 0 then
        match (w.catalogOf l).startTransaction with
        | .error e => (.error e, w)
        | .ok catalog =>
          (.ok (), (w.setCatalog (w.loader l).connection catalog).changeDepth l (· + 1))
      else (.ok (), w.changeDepth l (· + 1)) := by
  unfold LoaderId.enter
  rw [Query.run_bind, Query.run_get]
  dsimp only
  by_cases hd : (w.loader l).depth = 0
  · rw [if_pos hd, if_pos hd, Query.run_bind, Query.run_changeCatalog]
    show _ = match (w.catalog (w.loader l).connection).startTransaction with
      | .error e => _
      | .ok catalog => _
    cases (w.catalog (w.loader l).connection).startTransaction <;> rfl
  · rw [if_neg hd, if_neg hd]
    rfl

theorem run_leave (w : World) (l : LoaderId) :
    l.leave w =
      ((), if (w.loader l).depth = 1 then
          (w.changeDepth l (· - 1)).setCatalog (w.loader l).connection (finish (w.catalogOf l))
        else w.changeDepth l (· - 1)) := by
  unfold LoaderId.leave
  rw [Engine.run_bind, Engine.run_bind]
  show (if (w.loader l).depth = 1 then _ else _ : Engine Unit) _ = _
  split <;> rfl

/-- Entering may fail only because the connection is busy, and changes nothing
then. -/
theorem enter_error {w w' : World} {l : LoaderId} {e : Error}
    (h : l.enter.run w = (.error e, w')) :
    w' = w ∧ e = .connection "transaction already active" ∧ (w.loader l).depth = 0 ∧
      (w.catalogOf l).inTransaction = true := by
  rw [run_enter, Catalog.startTransaction] at h
  split at h
  · next hd =>
    by_cases ht : (w.catalogOf l).inTransaction = true
    · rw [if_pos ht] at h
      cases h
      exact ⟨rfl, rfl, hd, ht⟩
    · rw [if_neg ht] at h
      cases h
  · cases h

theorem enter_ok {w w' : World} {l : LoaderId} (hl : w.Knows l)
    (h : l.enter.run w = (.ok (), w')) : w.Entered l w' := by
  have entered (v : World) (hv : w.Settles v) : w.Entered l (v.changeDepth l (· + 1)) := by
    refine ⟨hv.toGrows.trans (grows_changeDepth v l _), fun k => ?_⟩
    rw [depth_changeDepth, hv.depth]
    by_cases hk : l = k
    · rw [if_pos ⟨hk, hv.knows k (hk ▸ hl)⟩, if_pos hk]
    · rw [if_neg fun hn => hk hn.1, if_neg hk]
      rfl
  rw [run_enter] at h
  split at h
  · split at h <;> cases h
    exact entered _ (settles_setCatalog ..)
  · cases h
    exact entered w (.refl w)

theorem enter_sound {w : World} (hs : w.Sound) (l : LoaderId) : (l.enter.run w).2.Sound := by
  rw [run_enter]
  split
  · split
    · exact hs
    · exact (hs.setCatalog _ _).changeDepth l _
  · exact hs.changeDepth l _

theorem leave_sound {w : World} (hs : w.Sound) (l : LoaderId) : (l.leave w).2.Sound := by
  rw [run_leave]
  dsimp only
  split
  · exact (hs.changeDepth l _).setCatalog _ _
  · exact hs.changeDepth l _

/-- Leaving takes one user away. -/
theorem leave_depth {w : World} {l : LoaderId} (hl : w.Inside l) (k : LoaderId) :
    ((l.leave w).2.loader k).depth = (w.loader k).depth - if l = k then 1 else 0 := by
  have depth : ((w.changeDepth l (· - 1)).loader k).depth =
      (w.loader k).depth - if l = k then 1 else 0 := by
    rw [depth_changeDepth]
    by_cases hk : l = k
    · rw [if_pos ⟨hk, hk ▸ hl.knows⟩, if_pos hk]
    · rw [if_neg fun hn => hk hn.1, if_neg hk]
      rfl
  rw [run_leave]
  dsimp only
  split <;> exact depth

theorem leave_grows (w : World) (l : LoaderId) : w.Grows (l.leave w).2 := by
  have grows := grows_changeDepth w l (· - 1)
  rw [run_leave]
  dsimp only
  split
  · exact grows.trans (settles_setCatalog ..).toGrows
  · exact grows

end LoaderId

/-- Who leaves what was entered has settled the world. -/
theorem World.Entered.leave {w w' : World} {l : LoaderId} (h : w.Entered l w') :
    w.Settles (l.leave w').2 := by
  refine ⟨h.toGrows.trans (l.leave_grows w'), fun k => ?_⟩
  rw [LoaderId.leave_depth h.inside, h.depth]
  omega

namespace Item

/-- What an item does between entering and leaving when a facet is fetched. -/
def readLocked (item : Item) (query : Query α) : Engine (Except Error α × Item) := do
  match ← query.run with
  | .error e => pure (.error e, ← item.lock.unlock)
  | .ok value => pure (.ok value, ← (← item.lock.announce).unlock)

theorem run_fetch (item : Item) (l : LoaderId) (fetch : LoaderId → Query α) (w : World) :
    item.fetch l fetch w =
      match l.enter.run w with
      | (.error e, w') => ((.error e, item), w')
      | (.ok (), w') =>
        ((item.readLocked (fetch l) w').1, (l.leave (item.readLocked (fetch l) w').2).2) := by
  unfold Item.fetch readLocked
  rw [Engine.run_bind]
  rcases l.enter.run w with ⟨e | ⟨⟩, w'⟩
  · rfl
  · show (_ : Engine _) w' = _
    dsimp only
    rw [Engine.run_bind, Engine.run_bind]
    rcases (fetch l).run w' with ⟨e | value, w''⟩ <;> rfl

end Item

end MetaCatalog
