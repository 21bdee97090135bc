import MetaCatalog.Proofs.Framework.Calls
import MetaCatalog.Proofs.Framework.Likeness

/-!
# Items that are alike

Items are alike if they are the same but for their identifiers and those of their
parents (`Items`). What is done to items that are alike runs alike, and they are alike
afterwards: what is fetched for them is the same if the queries find the same
(`Items.fetch`, `Items.load`).
-/

namespace MetaCatalog

/-- The facets are in the same state, with related values. -/
inductive SameFacet (R : α → β → Prop) : Facet α → Facet β → Prop
  | unloaded : SameFacet R .unloaded .unloaded
  | loading : SameFacet R .loading .loading
  | loaded {a : α} {b : β} : R a b → SameFacet R (.loaded a) (.loaded b)

namespace SameFacet

variable {R : α → β → Prop} {facet : Facet α} {facet' : Facet β}

theorem refl (facet : Facet α) : SameFacet Eq facet facet := by
  cases facet with
  | unloaded => exact .unloaded
  | loading => exact .loading
  | loaded a => exact .loaded rfl

theorem eq {facet facet' : Facet α} (h : SameFacet Eq facet facet') : facet' = facet := by
  cases h with
  | unloaded | loading => rfl
  | loaded same => rw [same]

theorem isLoaded (h : SameFacet R facet facet') : facet'.isLoaded = facet.isLoaded := by
  cases h <;> rfl

theorem items {facet : Facet (List α)} {facet' : Facet (List β)}
    (h : SameFacet (List.Forall₂ R) facet facet') : List.Forall₂ R facet.items facet'.items := by
  cases h with
  | unloaded | loading => exact .nil
  | loaded same => exact same

/-- A facet that is dropped if it is asked for. -/
theorem dropIf (h : SameFacet R facet facet') (asked : Bool) :
    SameAnswer (SameFacet R) (if asked then facet.drop else (false, facet))
      (if asked then facet'.drop else (false, facet')) := by
  cases asked with
  | true => exact ⟨h.isLoaded, .unloaded⟩
  | false => exact ⟨rfl, h⟩

end SameFacet

namespace Likeness

/-! ## Items -/

section

variable (L : Likeness)

/-- The subjects are the same but for their identifiers. -/
inductive Subjects (subject : Subject) : Subject → Prop
  | mk {id : Uuid} (same : L.ids subject.id id) : Subjects subject { subject with id }

/-- The items are the same but for their identifiers and those of their parents. -/
inductive Items (item : Item) : Item → Prop
  | mk {subject : Subject} {parent : Option Uuid} (same : L.Subjects item.subject subject)
      (above : Option.Rel L.ids item.parent parent) : Items item { item with subject, parent }

/-- What came of loading a facet. -/
structure Loads (R : α → β → Prop) (loaded : Item.Loaded α) (loaded' : Item.Loaded β) : Prop where
  outcome : loaded'.outcome = loaded.outcome
  item : L.Items loaded.item loaded'.item
  facet : SameFacet R loaded.facet loaded'.facet

end

variable {L : Likeness}

theorem deliverIf_runs (due : Bool) {subject subject' : Subject} (h : L.Subjects subject subject') :
    L.Runs (World.deliverIf (due, subject)) (World.deliverIf (due, subject')) L.Subjects := by
  obtain ⟨same⟩ := h
  cases due with
  | false => exact .pure ⟨same⟩
  | true =>
    intro w w' alike
    have alive : w'.isAlive = w.isAlive := by
      unfold World.isAlive
      rw [alike.observers]
    refine ⟨?_, { alike with deliveries := ?_ }⟩
    · show L.Subjects (subject.prune w.isAlive) (Subject.prune _ w'.isAlive)
      rw [alive]
      exact ⟨same⟩
    · refine List.rel_append alike.deliveries (.cons ⟨same, ?_⟩ .nil)
      show (Subject.prune _ w'.isAlive).observers = (subject.prune w.isAlive).observers
      rw [alive]
      rfl

namespace Items

variable {item item' : Item}

theorem lock (h : L.Items item item') : L.Items item.lock item'.lock := by
  obtain ⟨⟨same⟩, above⟩ := h
  exact ⟨⟨same⟩, above⟩

theorem failed (h : L.Items item item') (e : Error) : L.Items (item.failed e) (item'.failed e) := by
  obtain ⟨same, above⟩ := h
  exact ⟨same, above⟩

theorem requireLoader (h : L.Items item item') : item'.requireLoader = item.requireLoader := by
  obtain ⟨-, -⟩ := h
  rfl

theorem hasParent (h : L.Items item item') : item'.parent.isSome = item.parent.isSome := by
  obtain ⟨-, above⟩ := h
  generalize item.parent = parent at above ⊢
  cases above with
  | none | some => rfl

theorem withLoader (h : L.Items item item') (loader : Option LoaderId) :
    L.Items { item with loader } { item' with loader } := by
  obtain ⟨same, above⟩ := h
  exact ⟨same, above⟩

theorem announce (h : L.Items item item') : L.Runs item.announce item'.announce L.Items := by
  obtain ⟨⟨same⟩, above⟩ := h
  refine Runs.map (R := L.Subjects) ?_ fun _ _ same => ⟨same, above⟩
  unfold World.announce Subject.announce Subject.isLocked
  split
  · exact deliverIf_runs false ⟨same⟩
  · exact deliverIf_runs true ⟨same⟩

theorem unlock (h : L.Items item item') : L.Runs item.unlock item'.unlock L.Items := by
  obtain ⟨⟨same⟩, above⟩ := h
  refine Runs.map (R := L.Subjects) ?_ fun _ _ same => ⟨same, above⟩
  unfold World.unlock Subject.unlock
  dsimp only
  split
  · exact deliverIf_runs true ⟨same⟩
  · exact deliverIf_runs false ⟨same⟩

/-- What is fetched for items that are alike is related if what the fetches find is. -/
theorem fetch (h : L.Items item item') {l : LoaderId} {fetch : LoaderId → Query α}
    {fetch' : LoaderId → Query β} {R : α → β → Prop} (found : L.Finds (fetch l) (fetch' l) R) :
    L.Runs (item.fetch l fetch) (item'.fetch l fetch') fun r r' =>
      SameOutcome R r.1 r'.1 ∧ L.Items r.2 r'.2 := by
  refine Runs.bind (L.enter_finds l) fun _ _ entered => ?_
  cases entered with
  | error e => exact .pure ⟨.error e, h⟩
  | ok _ =>
    refine Runs.bind found fun _ _ found => ?_
    cases found with
    | error e =>
      exact h.lock.unlock.bind fun _ _ h => (L.leave_runs l).bind fun _ _ _ => .pure ⟨.error e, h⟩
    | ok same =>
      exact h.lock.announce.bind fun _ _ h => h.unlock.bind fun _ _ h =>
        (L.leave_runs l).bind fun _ _ _ => .pure ⟨.ok same, h⟩

theorem load (h : L.Items item item') {facet : Facet α} {facet' : Facet β}
    {fetch : LoaderId → Query α} {fetch' : LoaderId → Query β} {R : α → β → Prop}
    (same : SameFacet R facet facet') (found : ∀ l, L.Finds (fetch l) (fetch' l) R) :
    L.Runs (item.load facet fetch) (item'.load facet' fetch') (L.Loads R) := by
  unfold Item.load
  rw [same.isLoaded, h.requireLoader]
  split
  · exact .pure ⟨rfl, h, same⟩
  · split
    · next e _ => exact .pure ⟨rfl, h.failed e, .unloaded⟩
    · next l _ =>
      refine (h.fetch (found l)).bind fun r r' fetched => ?_
      obtain ⟨_, item⟩ := r
      obtain ⟨_, item'⟩ := r'
      obtain ⟨outcome, h⟩ := fetched
      cases outcome with
      | ok value => exact .pure ⟨rfl, h, .loaded value⟩
      | error e => exact .pure ⟨rfl, h.failed e, .unloaded⟩

/-- An attempt to load a facet whose values are fetched without regard to identifiers. -/
theorem attempt (h : L.Items item item') (facet : Facet α) {sqls : List String}
    {fetch : LoaderId → Query α} (fetches : Fetches sqls fetch) {R : σ → τ → Prop}
    {rebuild : Item.Loaded α → σ} {rebuild' : Item.Loaded α → τ}
    (rebuilt : ∀ outcome item item' facet, L.Items item item' →
      R (rebuild ⟨outcome, item, facet⟩) (rebuild' ⟨outcome, item', facet⟩)) :
    L.Runs
      (do
        let loaded ← item.load facet fetch
        pure (loaded.outcome, rebuild loaded))
      (do
        let loaded ← item'.load facet fetch
        pure (loaded.outcome, rebuild' loaded))
      (SameAnswer R) := by
  refine (h.load (.refl facet) fetches.finds).map fun loaded loaded' alike => ?_
  obtain ⟨outcome, item, facet⟩ := loaded
  obtain ⟨_, item', _⟩ := loaded'
  obtain ⟨rfl, same, values⟩ := alike
  cases values.eq
  exact ⟨rfl, rebuilt _ item item' facet same⟩

theorem fresh (kind : ItemKind) (name : Identifier) :
    L.Runs (Item.fresh kind name) (Item.fresh kind name) L.Items :=
  newId_runs.map fun _ _ same => ⟨⟨same⟩, .none⟩

theorem within (kind : ItemKind) (name : Identifier) {owner owner' : Uuid}
    (above : L.ids owner owner') (loader : Option LoaderId) :
    L.Runs (Item.within kind name owner loader) (Item.within kind name owner' loader) L.Items :=
  (fresh kind name).map fun _ _ h => by
    obtain ⟨same, -⟩ := h
    exact ⟨same, .some above⟩

theorem call (h : L.Items item item') (call : ItemCall) :
    L.Runs (call.run item) (call.run item') L.Items := by
  cases call with
  | announce => exact h.announce
  | lock => exact .pure h.lock
  | unlock => exact h.unlock
  | attach observer =>
    obtain ⟨⟨same⟩, above⟩ := h
    refine .pure ⟨?_, above⟩
    unfold Subject.attach
    split <;> exact ⟨same⟩
  | detach observer =>
    obtain ⟨⟨same⟩, above⟩ := h
    exact .pure ⟨⟨same⟩, above⟩

end Items

end Likeness

end MetaCatalog
