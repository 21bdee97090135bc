import MetaCatalog.Proofs.Client.Loads

/-!
# What invalidation drops and announces

To invalidate an object is to drop the facets that are asked for, and to announce it once
if a value was lost by that (`Object.Drops`). Databases and servers do so with all that
they own, one object after the other, and are not heard of themselves
(`Database.Drops`, `Server.Drops`). `Client.Reachable.invalidate_exact` says it of whatever
a client has. Nothing else happens in the world, so no query is run (`OnlyDelivers`).
-/

namespace MetaCatalog

/-! ## Deliveries -/

/-- A computation makes a few deliveries, and changes nothing else in the world. The
property is one of the result and of these deliveries. -/
def OnlyDelivers (w : World) (m : Engine α) (Q : α → List Delivery → Prop) : Prop :=
  ∃ news, (m w).2 = { w with deliveries := w.deliveries ++ news } ∧ Q (m w).1 news

/-- The property holds of the elements of two lists one by one, and the deliveries for
each follow those for the one before. -/
inductive InTurn (Q : α → β → List Delivery → Prop) : List α → List β → List Delivery → Prop
  | nil : InTurn Q [] [] []
  | cons {a : α} {b : β} {as : List α} {bs : List β} {news rest : List Delivery} :
      Q a b news → InTurn Q as bs rest → InTurn Q (a :: as) (b :: bs) (news ++ rest)

namespace InTurn

variable {Q : α → β → List Delivery → Prop} {as as' : List α} {bs bs' : List β}
  {news news' : List Delivery}

theorem append (h : InTurn Q as bs news) (h' : InTurn Q as' bs' news') :
    InTurn Q (as ++ as') (bs ++ bs') (news ++ news') := by
  induction h with
  | nil => exact h'
  | cons head _ ih =>
    rw [List.append_assoc]
    exact .cons head ih

theorem map {R : γ → δ → List Delivery → Prop} {f : α → γ} {g : β → δ}
    (h : InTurn (fun a b => R (f a) (g b)) as bs news) :
    InTurn R (as.map f) (bs.map g) news := by
  induction h with
  | nil => exact .nil
  | cons head _ ih => exact .cons head ih

end InTurn

namespace OnlyDelivers

variable {w : World} {P : α → List Delivery → Prop}

theorem pure {a : α} (h : P a []) : OnlyDelivers w (Pure.pure a) P :=
  ⟨[], by rw [List.append_nil]; rfl, h⟩

theorem map {m : Engine α} {f : α → β} {Q : β → List Delivery → Prop} (hm : OnlyDelivers w m P)
    (hf : ∀ a news, P a news → Q (f a) news) : OnlyDelivers w (do Pure.pure (f (← m))) Q := by
  obtain ⟨news, world, result⟩ := hm
  exact ⟨news, world, hf _ _ result⟩

theorem mono {m : Engine α} {Q : α → List Delivery → Prop} (hm : OnlyDelivers w m P)
    (h : ∀ a news, P a news → Q a news) : OnlyDelivers w m Q :=
  hm.imp fun news hn => ⟨hn.1, h _ news hn.2⟩

/-- The observers are the same for each of two computations. -/
theorem bind {m : Engine α} {f : α → Engine β} {Q : β → List Delivery → Prop}
    (hm : OnlyDelivers w m P)
    (hf : ∀ a news, P a news → ∀ v : World, v.isAlive = w.isAlive →
      OnlyDelivers v (f a) fun b more => Q b (news ++ more)) : OnlyDelivers w (m >>= f) Q := by
  obtain ⟨news, world, result⟩ := hm
  obtain ⟨more, world', result'⟩ := hf _ _ result (m w).2 (by rw [world]; rfl)
  refine ⟨news ++ more, ?_, result'⟩
  rw [Engine.run_bind, world', world, ← List.append_assoc]

/-- An operation on the elements of a list, one after the other. -/
theorem mapM {f : α → Engine β} {Q : (ObserverId → Bool) → α → β → List Delivery → Prop}
    {as : List α} (hf : ∀ a ∈ as, ∀ w : World, OnlyDelivers w (f a) (Q w.isAlive a)) :
    OnlyDelivers w (as.mapM f) (InTurn (Q w.isAlive) as) := by
  induction as generalizing w with
  | nil => exact .pure .nil
  | cons a rest ih =>
    obtain ⟨head, tail⟩ := List.forall_mem_cons.mp hf
    rw [List.mapM_cons]
    refine (head w).bind fun b news here v alive => ?_
    refine (ih tail).map fun bs more there => .cons here ?_
    rw [← alive]
    exact there

end OnlyDelivers

/-! ## Items -/

/-- The item was announced once, and nothing else came of it: if it is locked the
announcement is pending, else it was delivered to the observers that are alive. -/
structure Item.Tells (alive : ObserverId → Bool) (item item' : Item) (news : List Delivery) :
    Prop where
  locked : 0 < item.subject.locks →
    item' = { item with subject := { item.subject with pending := true } } ∧ news = []
  unlocked : item.subject.locks = 0 →
    item' = { item with subject := item.subject.prune alive } ∧
      news = [⟨item.id, item.subject.observers.filter alive⟩]

namespace Item

variable {item : Item}

/-- A locked item only remembers that it was announced. -/
theorem announce_locked (locked : 0 < item.subject.locks) (w : World) : item.announce w =
    ({ item with subject := { item.subject with pending := true } }, w) := by
  have held : item.subject.announce = (false, { item.subject with pending := true }) :=
    if_pos (decide_eq_true locked)
  unfold announce World.announce
  rw [held]
  rfl

theorem announce_unlocked (free : item.subject.locks = 0) (w : World) : item.announce w =
    ({ item with subject := item.subject.prune w.isAlive }, { w with
      deliveries := w.deliveries ++ [⟨item.id, item.subject.observers.filter w.isAlive⟩] }) := by
  have due : item.subject.announce = (true, item.subject) :=
    if_neg fun held => Nat.ne_of_gt (of_decide_eq_true held) free
  unfold announce World.announce
  rw [due]
  rfl

theorem announce_tells (item : Item) (w : World) :
    OnlyDelivers w item.announce (item.Tells w.isAlive) := by
  rcases Nat.eq_zero_or_pos item.subject.locks with free | locked
  · refine ⟨[⟨item.id, item.subject.observers.filter w.isAlive⟩], ?_, ?_, ?_⟩ <;>
      rw [announce_unlocked free]
    · exact fun locked => absurd free (Nat.ne_of_gt locked)
    · exact fun _ => ⟨rfl, rfl⟩
  · refine ⟨[], ?_, ?_, ?_⟩ <;> rw [announce_locked locked]
    · rw [List.append_nil]
    · exact fun _ => ⟨rfl, rfl⟩
    · exact fun free => absurd free (Nat.ne_of_gt locked)

end Item

/-! ## Facets -/

/-- A kind of facet is asked for by its name, or without any name. -/
def FacetKind.Asked (asked : Option FacetKind) (kind : FacetKind) : Prop :=
  asked = none ∨ asked = some kind

instance (asked : Option FacetKind) : DecidablePred (FacetKind.Asked asked) :=
  fun _ => inferInstanceAs (Decidable (_ ∨ _))

theorem FacetKind.exists_iff {P : FacetKind → Prop} : (∃ kind, P kind) ↔
    P .columns ∨ P .primaryKey ∨ P .foreignKeys ∨ P .checkConstraints ∨ P .uniqueConstraints ∨
      P .indices ∨ P .externalPath ∨ P .source ∨ P .parameters ∨ P .privileges ∨
      P .description := by
  constructor
  · rintro ⟨kind, h⟩
    cases kind <;> simp only [h, true_or, or_true]
  · rintro (h | h | h | h | h | h | h | h | h | h | h) <;> exact ⟨_, h⟩

theorem Relation.covers_iff {asked : Option FacetKind} {kind : FacetKind} :
    covers asked kind = true ↔ kind.Asked asked := by
  cases asked with
  | none => simp only [covers, Option.all_none, FacetKind.Asked, true_or]
  | some a =>
    simp only [covers, Option.all_some, beq_iff_eq, FacetKind.Asked, reduceCtorEq, false_or,
      Option.some.injEq]

@[simp] theorem Facet.isLoaded_map (facet : Facet α) (see : α → β) :
    (facet.map see).isLoaded = facet.isLoaded := by
  cases facet <;> rfl

namespace Table

variable {asked : Option FacetKind} {kind : FacetKind} {facet : Facet α}

theorem dropAsked_lost :
    (dropAsked asked kind facet).1 = true ↔ kind.Asked asked ∧ facet.isLoaded = true := by
  rw [← Relation.covers_iff, dropAsked]
  split
  · next covered => exact (and_iff_right covered).symm
  · next other => exact ⟨nofun, fun h => absurd h.1 other⟩

/-- Nothing was lost by dropping what was not there. -/
theorem dropAsked_silent (settled : facet ≠ .loading) (h : (dropAsked asked kind facet).1 = false) :
    (dropAsked asked kind facet).2 = facet := by
  unfold dropAsked at h ⊢
  split at h
  · next covered =>
    rw [if_pos covered]
    cases facet with
    | unloaded => rfl
    | loading => exact absurd rfl settled
    | loaded a => cases h
  · next other => rw [if_neg other]

theorem map_dropAsked (see : α → FacetValue) :
    some ((dropAsked asked kind facet).2.map see) =
      if kind.Asked asked then (some (facet.map see)).map fun _ => .unloaded
      else some (facet.map see) := by
  simp only [← Relation.covers_iff, dropAsked]
  split <;> rfl

end Table

namespace Object

/-- Whether a facet is there. -/
def has (object : Object) (kind : FacetKind) : Bool := (object.part? kind).any (·.isLoaded)

/-- Drops one facet, or all of them, and announces it if a value was lost. -/
def invalidate (object : Object) (asked : Option FacetKind) : Engine Object := do
  match object with
  | table t => pure (table (← t.invalidate asked))
  | view v => pure (view (← v.invalidate asked))
  | procedure p => pure (procedure (← p.invalidate asked))

/-- The facets of the kinds that are covered are gone, and the others are as they were.
If a value was lost by that, the object was announced, and else nothing happened. -/
structure Drops (covered : FacetKind → Prop) (alive : ObserverId → Bool) (before after : Object)
    (news : List Delivery) : Prop where
  dropped : ∀ kind, covered kind → after.part? kind = (before.part? kind).map fun _ => .unloaded
  kept : ∀ kind, ¬ covered kind → after.part? kind = before.part? kind
  told : (∃ kind, covered kind ∧ before.has kind = true) → before.item.Tells alive after.item news
  silent : (¬ ∃ kind, covered kind ∧ before.has kind = true) → after = before ∧ news = []

variable {place : Place} {object : Object} {covered : FacetKind → Prop} [DecidablePred covered]

/-- The object is put together again without what is dropped, and with its item, which
is announced if a value was lost. -/
theorem drops_of_run {m : Engine σ} (wrap : σ → Object) (rebuild : Item → σ) (lost : Bool)
    (run : m = if lost then (do pure (rebuild (← object.item.announce)))
      else pure (rebuild object.item))
    (parts : ∀ item kind, (wrap (rebuild item)).part? kind =
      if covered kind then (object.part? kind).map fun _ => .unloaded else object.part? kind)
    (lost_iff : lost = true ↔ ∃ kind, covered kind ∧ object.has kind = true)
    (same : lost = false → wrap (rebuild object.item) = object) (w : World)
    (item : ∀ item, (wrap (rebuild item)).item = item := by exact fun _ => rfl) :
    OnlyDelivers w m fun a news => object.Drops covered w.isAlive (wrap a) news := by
  have dropped (i : Item) (kind : FacetKind) (hk : covered kind) :=
    (parts i kind).trans (if_pos hk)
  have kept (i : Item) (kind : FacetKind) (hk : ¬ covered kind) :=
    (parts i kind).trans (if_neg hk)
  cases lost with
  | true =>
    rw [run, if_pos rfl]
    refine (Item.announce_tells object.item w).map fun i news told =>
      ⟨dropped i, kept i, fun _ => ?_, fun nothing => absurd (lost_iff.mp rfl) nothing⟩
    rw [item]
    exact told
  | false =>
    rw [run, if_neg Bool.false_ne_true]
    refine .pure ?_
    exact ⟨dropped _, kept _, fun something => (nomatch lost_iff.mpr something),
      fun _ => ⟨same rfl, rfl⟩⟩

end Object

/-! ## Tables, views and procedures -/

section Objects

open Table (dropAsked dropAsked_lost dropAsked_silent map_dropAsked)

variable {place : Place}

namespace Table

/-- Each facet has its share in what is lost. -/
theorem drop_eq (t : Table) (asked : Option FacetKind) : (t.drop asked).1 =
    ((dropAsked asked .columns t.relation.columns).1 ||
      (dropAsked asked .description t.relation.description).1 ||
      (dropAsked asked .primaryKey t.primaryKey).1 ||
      (dropAsked asked .foreignKeys t.foreignKeys).1 ||
      (dropAsked asked .checkConstraints t.checkConstraints).1 ||
      (dropAsked asked .uniqueConstraints t.uniqueConstraints).1 ||
      (dropAsked asked .indices t.indices).1 ||
      (dropAsked asked .externalPath t.externalPath).1) := rfl

theorem drop_lost (t : Table) (asked : Option FacetKind) : (t.drop asked).1 = true ↔
    ∃ kind : FacetKind, kind.Asked asked ∧ (Object.table t).has kind = true := by
  simp only [drop_eq, Bool.or_eq_true, dropAsked_lost, FacetKind.exists_iff, Object.has,
    Object.part?, part?, facet?, Option.any_some, Option.any_none, Facet.isLoaded_map,
    Bool.false_eq_true, and_false, false_or]
  simp only [or_assoc, or_left_comm, or_comm]

theorem At.drop_silent {t : Table} (h : t.At place) {asked : Option FacetKind}
    (silent : (t.drop asked).1 = false) : (t.drop asked).2 = t := by
  rw [drop_eq] at silent
  simp only [Bool.or_eq_false_iff] at silent
  obtain ⟨⟨⟨⟨⟨⟨⟨columns, description⟩, primaryKey⟩, foreignKeys⟩, checkConstraints⟩,
    uniqueConstraints⟩, indices⟩, externalPath⟩ := silent
  show Table.mk
    { t.relation with
      columns := (dropAsked asked .columns t.relation.columns).2
      description := (dropAsked asked .description t.relation.description).2 }
    (dropAsked asked .primaryKey t.primaryKey).2 (dropAsked asked .foreignKeys t.foreignKeys).2
    (dropAsked asked .checkConstraints t.checkConstraints).2
    (dropAsked asked .uniqueConstraints t.uniqueConstraints).2
    (dropAsked asked .indices t.indices).2 (dropAsked asked .externalPath t.externalPath).2 = t
  rw [dropAsked_silent h.relation.columns.ne_loading columns,
    dropAsked_silent h.relation.description.ne_loading description,
    dropAsked_silent h.primaryKey.ne_loading primaryKey,
    dropAsked_silent h.foreignKeys.ne_loading foreignKeys,
    dropAsked_silent h.checkConstraints.ne_loading checkConstraints,
    dropAsked_silent h.uniqueConstraints.ne_loading uniqueConstraints,
    dropAsked_silent h.indices.ne_loading indices,
    dropAsked_silent h.externalPath.ne_loading externalPath]

theorem part_drop_eq (t : Table) (asked : Option FacetKind) (item : Item) (kind : FacetKind) :
    (Object.table ((t.drop asked).2.withItem item)).part? kind =
      if kind.Asked asked then ((Object.table t).part? kind).map fun _ => .unloaded
      else (Object.table t).part? kind := by
  cases kind with
  | source | parameters | privileges => exact (ite_self none).symm
  | _ => exact map_dropAsked _

theorem invalidate_eq (t : Table) (asked : Option FacetKind) : t.invalidate asked =
    if (t.drop asked).1 then (do pure ((t.drop asked).2.withItem (← t.item.announce)))
    else pure ((t.drop asked).2.withItem t.item) := by
  have item : (t.drop asked).2.item = t.item := rfl
  unfold invalidate
  rcases ht : t.drop asked with ⟨_ | _, t'⟩ <;> rw [ht] at item <;> rw [← item] <;> rfl

theorem At.invalidate_drops {t : Table} (h : t.At place) (asked : Option FacetKind) (w : World) :
    OnlyDelivers w (t.invalidate asked) fun t' news =>
      (Object.table t).Drops (·.Asked asked) w.isAlive (.table t') news :=
  Object.drops_of_run .table (t.drop asked).2.withItem (t.drop asked).1 (t.invalidate_eq asked)
    (t.part_drop_eq asked) (t.drop_lost asked) (fun silent => congrArg _ (h.drop_silent silent)) w

end Table

namespace View

theorem drop_eq (v : View) (asked : Option FacetKind) : (v.drop asked).1 =
    ((dropAsked asked .columns v.relation.columns).1 ||
      (dropAsked asked .description v.relation.description).1 ||
      (dropAsked asked .source v.source).1) := rfl

theorem drop_lost (v : View) (asked : Option FacetKind) : (v.drop asked).1 = true ↔
    ∃ kind : FacetKind, kind.Asked asked ∧ (Object.view v).has kind = true := by
  simp only [drop_eq, Bool.or_eq_true, dropAsked_lost, FacetKind.exists_iff, Object.has,
    Object.part?, part?, facet?, Option.any_some, Option.any_none, Facet.isLoaded_map,
    Bool.false_eq_true, and_false, false_or]
  simp only [or_assoc, or_comm]

theorem At.drop_silent {v : View} (h : v.At place) {asked : Option FacetKind}
    (silent : (v.drop asked).1 = false) : (v.drop asked).2 = v := by
  rw [drop_eq] at silent
  simp only [Bool.or_eq_false_iff] at silent
  obtain ⟨⟨columns, description⟩, source⟩ := silent
  show View.mk
    { v.relation with
      columns := (dropAsked asked .columns v.relation.columns).2
      description := (dropAsked asked .description v.relation.description).2 }
    (dropAsked asked .source v.source).2 = v
  rw [dropAsked_silent h.relation.columns.ne_loading columns,
    dropAsked_silent h.relation.description.ne_loading description,
    dropAsked_silent h.source.ne_loading source]

theorem part_drop_eq (v : View) (asked : Option FacetKind) (item : Item) (kind : FacetKind) :
    (Object.view ((v.drop asked).2.withItem item)).part? kind =
      if kind.Asked asked then ((Object.view v).part? kind).map fun _ => .unloaded
      else (Object.view v).part? kind := by
  cases kind with
  | columns | description | source => exact map_dropAsked _
  | _ => exact (ite_self none).symm

theorem invalidate_eq (v : View) (asked : Option FacetKind) : v.invalidate asked =
    if (v.drop asked).1 then (do pure ((v.drop asked).2.withItem (← v.item.announce)))
    else pure ((v.drop asked).2.withItem v.item) := by
  have item : (v.drop asked).2.item = v.item := rfl
  unfold invalidate
  rcases hv : v.drop asked with ⟨_ | _, v'⟩ <;> rw [hv] at item <;> rw [← item] <;> rfl

theorem At.invalidate_drops {v : View} (h : v.At place) (asked : Option FacetKind) (w : World) :
    OnlyDelivers w (v.invalidate asked) fun v' news =>
      (Object.view v).Drops (·.Asked asked) w.isAlive (.view v') news :=
  Object.drops_of_run .view (v.drop asked).2.withItem (v.drop asked).1 (v.invalidate_eq asked)
    (v.part_drop_eq asked) (v.drop_lost asked) (fun silent => congrArg _ (h.drop_silent silent)) w

end View

namespace Procedure

theorem drop_eq (p : Procedure) (asked : Option FacetKind) : (p.drop asked).1 =
    ((Table.dropAsked asked .parameters p.parameters).1 ||
      (Table.dropAsked asked .source p.source).1 ||
      (Table.dropAsked asked .privileges p.privileges).1 ||
      (Table.dropAsked asked .description p.description).1) := rfl

theorem drop_lost (p : Procedure) (asked : Option FacetKind) : (p.drop asked).1 = true ↔
    ∃ kind : FacetKind, kind.Asked asked ∧ (Object.procedure p).has kind = true := by
  simp only [drop_eq, Bool.or_eq_true, dropAsked_lost, FacetKind.exists_iff, Object.has,
    Object.part?, part?, facet?, Option.any_some, Option.any_none, Facet.isLoaded_map,
    Bool.false_eq_true, and_false, false_or]
  simp only [or_assoc, or_left_comm, or_comm]

theorem At.drop_silent {p : Procedure} (h : p.At place) {asked : Option FacetKind}
    (silent : (p.drop asked).1 = false) : (p.drop asked).2 = p := by
  rw [drop_eq] at silent
  simp only [Bool.or_eq_false_iff] at silent
  obtain ⟨⟨⟨parameters, source⟩, privileges⟩, description⟩ := silent
  show Procedure.mk p.item (Table.dropAsked asked .parameters p.parameters).2
    (Table.dropAsked asked .source p.source).2 (Table.dropAsked asked .privileges p.privileges).2
    (Table.dropAsked asked .description p.description).2 = p
  rw [dropAsked_silent h.parameters.ne_loading parameters,
    dropAsked_silent h.source.ne_loading source,
    dropAsked_silent h.privileges.ne_loading privileges,
    dropAsked_silent h.description.ne_loading description]

theorem part_drop_eq (p : Procedure) (asked : Option FacetKind) (item : Item)
    (kind : FacetKind) :
    (Object.procedure ((p.drop asked).2.withItem item)).part? kind =
      if kind.Asked asked then ((Object.procedure p).part? kind).map fun _ => .unloaded
      else (Object.procedure p).part? kind := by
  cases kind with
  | parameters | source | privileges | description => exact map_dropAsked _
  | _ => exact (ite_self none).symm

theorem invalidate_eq (p : Procedure) (asked : Option FacetKind) : p.invalidate asked =
    if (p.drop asked).1 then (do pure ((p.drop asked).2.withItem (← p.item.announce)))
    else pure ((p.drop asked).2.withItem p.item) := by
  have item : (p.drop asked).2.item = p.item := rfl
  unfold invalidate
  rcases hp : p.drop asked with ⟨_ | _, p'⟩ <;> rw [hp] at item <;> rw [← item] <;> rfl

theorem At.invalidate_drops {p : Procedure} (h : p.At place) (asked : Option FacetKind)
    (w : World) : OnlyDelivers w (p.invalidate asked) fun p' news =>
      (Object.procedure p).Drops (·.Asked asked) w.isAlive (.procedure p') news :=
  Object.drops_of_run .procedure (p.drop asked).2.withItem (p.drop asked).1
    (p.invalidate_eq asked) (p.part_drop_eq asked) (p.drop_lost asked)
    (fun silent => congrArg _ (h.drop_silent silent)) w

end Procedure

end Objects

theorem Object.At.invalidate_drops {place : Place} {object : Object} (h : object.At place)
    (asked : Option FacetKind) (w : World) :
    OnlyDelivers w (object.invalidate asked) (object.Drops (·.Asked asked) w.isAlive) := by
  cases object with
  | table t => exact (Table.At.invalidate_drops h asked w).map fun _ _ drops => drops
  | view v => exact (View.At.invalidate_drops h asked w).map fun _ _ drops => drops
  | procedure p => exact (Procedure.At.invalidate_drops h asked w).map fun _ _ drops => drops

/-! ## The indices of a table -/

/-- The indices of a table are there, and one of them has the name, or there is no
name. -/
def Table.Affected (t : Table) (name : Option String) : Prop :=
  ∃ indices, t.indices = .loaded indices ∧
    (name = none ∨ ∃ index ∈ indices, name = some index.name)

theorem Table.invalidateIndices_drops {t : Table} {name : Option String}
    (h : t.Affected name) (w : World) :
    OnlyDelivers w (t.invalidateIndices name) fun t' news =>
      (Object.table t).Drops (· = .indices) w.isAlive (.table t') news := by
  obtain ⟨indices, there, named⟩ := h
  have covered : (name.all fun n => indices.any (·.name == n)) = true := by
    rcases named with rfl | ⟨index, member, rfl⟩
    · rfl
    · exact List.any_eq_true.mpr ⟨index, member, beq_self_eq_true _⟩
  have run : t.invalidateIndices name = (do
      pure ({ t with indices := .unloaded : Table }.withItem (← t.item.announce))) := by
    unfold invalidateIndices
    rw [there]
    exact if_pos covered
  have lost : (Object.table t).has .indices = true := by
    simp only [Object.has, Object.part?, part?, facet?, there]
    rfl
  refine Object.drops_of_run .table ({ t with indices := .unloaded : Table }.withItem) true run
    (fun item kind => ?_) ?_ nofun w
  · cases kind <;> rfl
  · exact iff_of_true rfl ⟨.indices, rfl, lost⟩

theorem Table.invalidateIndices_same {t : Table} {name : Option String}
    (h : ¬ t.Affected name) (w : World) : t.invalidateIndices name w = (t, w) := by
  unfold invalidateIndices
  cases there : t.indices with
  | unloaded | loading => rfl
  | loaded indices =>
    have other : ¬ (name.all fun n => indices.any (·.name == n)) = true := fun covered => by
      refine h ⟨indices, there, ?_⟩
      cases name with
      | none => exact .inl rfl
      | some n =>
        obtain ⟨index, member, same⟩ := List.any_eq_true.mp covered
        exact .inr ⟨index, member, congrArg some (eq_of_beq same).symm⟩
    dsimp only
    rw [if_neg other]
    rfl

/-! ## Databases and servers -/

/-- All objects of a database have dropped facets, one after the other, and nothing else
has changed. -/
structure Database.Drops (covered : FacetKind → Prop) (alive : ObserverId → Bool)
    (before after : Database) (news : List Delivery) : Prop where
  objects : InTurn (Object.Drops covered alive) before.objects after.objects news
  rest : after = { before with
    tables := after.tables
    views := after.views
    procedures := after.procedures }

/-- All databases of a server have dropped facets, one after the other, and nothing else
has changed. -/
structure Server.Drops (covered : FacetKind → Prop) (alive : ObserverId → Bool)
    (before after : Server) (news : List Delivery) : Prop where
  databases : InTurn (Database.Drops covered alive) before.databases after.databases news
  rest : after = { before with databases := after.databases }

/-- Objects of one kind that drop facets, one after the other. -/
theorem Object.drops_mapM (wrap : σ → Object) {operation : σ → Engine σ} {as : List σ}
    {covered : FacetKind → Prop} (w : World)
    (ha : ∀ a ∈ as, ∀ w : World, OnlyDelivers w (operation a) fun a' news =>
      (wrap a).Drops covered w.isAlive (wrap a') news) :
    OnlyDelivers w (as.mapM operation) fun bs news =>
      InTurn (Object.Drops covered w.isAlive) (as.map wrap) (bs.map wrap) news :=
  (OnlyDelivers.mapM (Q := fun alive a a' news => (wrap a).Drops covered alive (wrap a') news)
    ha).mono fun _ _ drops => drops.map

/-- The lock that is taken meanwhile holds nothing back, because only objects are
announced. -/
theorem Database.At.invalidate_drops {place : Place} {database : Database}
    (h : database.At place) (asked : Option FacetKind) (w : World) :
    OnlyDelivers w (database.invalidate asked) (database.Drops (·.Asked asked) w.isAlive) := by
  have tables := Object.drops_mapM .table w fun t ht w =>
    (h.tables t ht).elim fun _ place => place.invalidate_drops asked w
  have views (w : World) := Object.drops_mapM .view w fun v hv w =>
    (h.views v hv).elim fun _ place => place.invalidate_drops asked w
  have procedures (w : World) := Object.drops_mapM .procedure w fun p hp w =>
    (h.procedures p hp).elim fun _ place => place.invalidate_drops asked w
  unfold Database.invalidate
  refine tables.bind fun tables news ht w₁ alive₁ => ?_
  refine (views w₁).bind fun views news' hv w₂ alive₂ => ?_
  refine (procedures w₂).bind fun procedures news'' hp w₃ _ => ?_
  rw [alive₁] at hv
  rw [alive₂, alive₁] at hp
  have unlocked := Item.run_unlock_lock h.item.settled w₃
  refine ⟨[], ?_, ?_⟩
  · rw [Engine.run_bind, unlocked, List.append_nil]
    rfl
  · rw [Engine.run_bind, unlocked]
    refine ⟨?_, rfl⟩
    rw [List.append_nil, ← List.append_assoc]
    exact (ht.append hv).append hp

theorem Server.At.invalidate_drops {place : Place} {server : Server} (h : server.At place)
    (asked : Option FacetKind) (w : World) :
    OnlyDelivers w (server.invalidate asked) (server.Drops (·.Asked asked) w.isAlive) :=
  (OnlyDelivers.mapM (Q := fun alive => Database.Drops (·.Asked asked) alive)
    fun d hd w => (h.databases d hd).elim fun _ ⟨_, place⟩ => place.invalidate_drops asked w).map
    fun _ _ databases => ⟨databases, rfl⟩

/-! ## Clients -/

namespace Client

/-- What is asked for is dropped, and what is lost is announced, whatever a client has
and whatever it has done. A table, view or procedure loses the facets that are asked for
and no others, and is announced once if one of them was there. All objects of a database
or of a server do so, and the database and the server stay as they are. The indices of a
table are dropped and announced if they are there and among them is one with the name, or
without a name; else nothing happens. No query is run by any of it. -/
theorem Reachable.invalidate_exact {permits : Client → Step → Prop} {client : Client}
    (h : Reachable permits client) (asked : Option FacetKind) :
    (∀ object ∈ client.workspace.everyObject,
      OnlyDelivers client.world (object.invalidate asked)
        (object.Drops (·.Asked asked) client.world.isAlive)) ∧
    (∀ database ∈ client.workspace.everyDatabase,
      OnlyDelivers client.world (database.invalidate asked)
        (database.Drops (·.Asked asked) client.world.isAlive)) ∧
    (∀ p ∈ client.workspace.servers,
      OnlyDelivers client.world (p.2.invalidate asked)
        (p.2.Drops (·.Asked asked) client.world.isAlive)) ∧
    ∀ t, .table t ∈ client.workspace.everyObject → ∀ name,
      (t.Affected name → OnlyDelivers client.world (t.invalidateIndices name) fun t' news =>
        (Object.table t).Drops (· = .indices) client.world.isAlive (.table t') news) ∧
      (¬ t.Affected name → t.invalidateIndices name client.world = (t, client.world)) := by
  refine ⟨fun object ho => ?_, fun database hd => ?_, fun p hp => ?_, fun t _ name => ⟨?_, ?_⟩⟩
  · obtain ⟨_, place⟩ := h.inPlace.everyObject ho
    exact place.invalidate_drops asked _
  · obtain ⟨_, _, place⟩ | ⟨_, _, _, _, _, place⟩ := h.inPlace.everyDatabase hd <;>
      exact place.invalidate_drops asked _
  · exact (h.inPlace.servers p hp).invalidate_drops asked _
  · exact fun affected => t.invalidateIndices_drops affected _
  · exact fun other => t.invalidateIndices_same other _

/-- A client with a table whose primary key and description are there, and that an
observer is attached to. -/
def informed : Client := watching.after
  [.table { database := some "db", table := some "T" } (.load .primaryKey),
    .table { database := some "db", table := some "T" } (.load .description)]

/-- The description of the table is dropped, the observer hears of it once, and the
primary key stays. -/
theorem Reachable.invalidate_exact_informed :
    ∃ object ∈ informed.workspace.everyObject, object.has .description = true ∧
      OnlyDelivers informed.world (object.invalidate (some .description)) fun after news =>
        after.part? .description = some .unloaded ∧
        after.part? .primaryKey = object.part? .primaryKey ∧ after.has .primaryKey = true ∧
        news = [⟨object.item.id, [0]⟩] := by
  have reachable : Reachable (fun _ _ => True) informed :=
    Reachable.after (Reachable.after (.start 0) fun _ _ _ => trivial) fun _ _ _ => trivial
  have one : (informed.workspace.everyObject.head?.any fun object =>
      object.has .description && object.has .primaryKey && object.item.subject.locks == 0 &&
      object.item.subject.observers.filter informed.world.isAlive == [0]) = true := by
    decide +kernel
  -- What follows is no matter of what the client did.
  generalize informed = client at reachable one ⊢
  obtain ⟨object, first, facts⟩ := (Option.any_eq_true _ _).mp one
  simp only [Bool.and_eq_true, beq_iff_eq] at facts
  obtain ⟨⟨⟨description, primaryKey⟩, free⟩, observers⟩ := facts
  have member := List.mem_of_mem_head? first
  obtain ⟨objects, -⟩ := Reachable.invalidate_exact reachable (some .description)
  refine ⟨object, member, description, (objects object member).mono fun after news drops => ?_⟩
  have other : ¬ FacetKind.Asked (some .description) .primaryKey := by decide
  have kept := drops.kept .primaryKey other
  have told := (drops.told ⟨.description, .inr rfl, description⟩).unlocked free
  rw [observers] at told
  refine ⟨?_, kept, ?_, told.2⟩
  · obtain ⟨facet, there, -⟩ := (Option.any_eq_true _ _).mp description
    rw [drops.dropped .description (.inr rfl), there]
    rfl
  · rw [Object.has, kept]
    exact primaryKey

end Client

end MetaCatalog
