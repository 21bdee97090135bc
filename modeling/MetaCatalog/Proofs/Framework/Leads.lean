import MetaCatalog.Proofs.Framework.Bracket
import MetaCatalog.Proofs.Framework.Fetch

/-!
# What computations lead to

`Leads` says what comes of a computation in whatever world it starts: how the
world changes, and a property of the result. How the world changes is said by a
relation that sequences keep (`World.Course`). There are two of them: identifiers
are handed out one after the other (`World.Issues`), and what only reads the
catalog is not heard of by any observer (`World.Hush`).
-/

namespace MetaCatalog

namespace World

/-- Identifiers are drawn from one seed, one after the other. -/
structure Issues (w w' : World) : Prop where
  seed : w'.seed = w.seed
  issued : w.issued ≤ w'.issued

/-- Moreover the observers stay, and nothing is delivered to them. -/
structure Hush (w w' : World) : Prop extends Issues w w' where
  observers : w'.observers = w.observers
  deliveries : w'.deliveries = w.deliveries

/-- What is kept by doing nothing and by sequences. -/
class Course (R : World → World → Prop) : Prop where
  refl (w : World) : R w w
  trans {w w' w'' : World} : R w w' → R w' w'' → R w w''

instance : Course Issues where
  refl _ := ⟨rfl, Nat.le_refl _⟩
  trans h h' := ⟨h'.seed.trans h.seed, Nat.le_trans h.issued h'.issued⟩

instance : Course Hush where
  refl w := ⟨Course.refl w, rfl, rfl⟩
  trans h h' := ⟨Course.trans h.toIssues h'.toIssues, h'.observers.trans h.observers,
    h'.deliveries.trans h.deliveries⟩

/-- Connections, loaders and statements are nobody's concern. -/
theorem hush_catalog (w : World) (connections : Arena Catalog) (loaders : Arena Loader)
    (statements : Arena Statement) : w.Hush { w with connections, loaders, statements } :=
  ⟨⟨rfl, Nat.le_refl _⟩, rfl, rfl⟩

/-- Observers do not matter for identifiers. -/
theorem issues_deliver (w : World) (observers : List ObserverId) (deliveries : List Delivery) :
    w.Issues { w with observers, deliveries } :=
  ⟨rfl, Nat.le_refl _⟩

end World

open World (Issues Hush Course hush_catalog issues_deliver)

/-- Whatever world a computation starts in, the world takes the course, and the
result has the property. -/
structure Leads (R : World → World → Prop) (m : Engine α) (Q : α → Prop) : Prop where
  course (w : World) : R w (m w).2
  result (w : World) : Q (m w).1

namespace Leads

variable {R : World → World → Prop} {P : α → Prop}

theorem map {m : Engine α} {f : α → β} {Q : β → Prop} (hm : Leads R m P)
    (hf : ∀ a, P a → Q (f a)) : Leads R (do Pure.pure (f (← m))) Q :=
  ⟨hm.course, fun w => hf _ (hm.result w)⟩

theorem mono {m : Engine α} {Q : α → Prop} (hm : Leads R m P) (h : ∀ a, P a → Q a) :
    Leads R m Q :=
  ⟨hm.course, fun w => h _ (hm.result w)⟩

/-- What nobody hears of takes identifiers at most. -/
theorem issues {m : Engine α} (hm : Leads Hush m P) : Leads Issues m P :=
  ⟨fun w => (hm.course w).toIssues, hm.result⟩

variable [Course R]

theorem pure {a : α} (h : P a) : Leads R (Pure.pure a) P :=
  ⟨Course.refl, fun _ => h⟩

theorem bind {m : Engine α} {f : α → Engine β} {Q : β → Prop} (hm : Leads R m P)
    (hf : ∀ a, P a → Leads R (f a) Q) : Leads R (m >>= f) Q :=
  ⟨fun w => Course.trans (hm.course w) ((hf _ (hm.result w)).course _),
    fun w => (hf _ (hm.result w)).result _⟩

theorem mapM {f : α → Engine β} {Q : β → Prop} (hf : ∀ a, P a → Leads R (f a) Q) (as : List α)
    (ha : ∀ a ∈ as, P a) : Leads R (as.mapM f) fun bs => ∀ b ∈ bs, Q b := by
  induction as with
  | nil => exact .pure fun _ hb => absurd hb List.not_mem_nil
  | cons a rest ih =>
    obtain ⟨head, tail⟩ := List.forall_mem_cons.mp ha
    rw [List.mapM_cons]
    exact (hf a head).bind fun b hb => (ih tail).map fun bs hbs =>
      List.forall_mem_cons.mpr ⟨hb, hbs⟩

/-- An operation on the first element with a property leaves the others as they
are. -/
theorem onFirst {p : α → Bool} {operation : α → Engine (β × α)}
    (hf : ∀ a, P a → Leads R (operation a) fun r => P r.2) (as : List α) (ha : ∀ a ∈ as, P a) :
    Leads R (Database.onFirst p operation as) fun r => ∀ a ∈ r.2, P a := by
  induction as with
  | nil => exact .pure fun _ hb => absurd hb List.not_mem_nil
  | cons a rest ih =>
    obtain ⟨head, tail⟩ := List.forall_mem_cons.mp ha
    rw [Database.onFirst]
    split
    · exact (hf a head).map fun r hr => List.forall_mem_cons.mpr ⟨hr, tail⟩
    · exact (ih tail).map fun r hr => List.forall_mem_cons.mpr ⟨head, hr⟩

end Leads

/-- What a query leads to, if it succeeds. -/
def Yields (R : World → World → Prop) (m : Query α) (Q : α → Prop) : Prop :=
  Leads R m.run fun outcome => ∀ a, outcome = .ok a → Q a

namespace Yields

variable {R : World → World → Prop} {P : α → Prop}

/-- A query of which only the course matters. -/
theorem of_course {m : Query α} (h : ∀ w, R w (m.run w).2) : Yields R m fun _ => True :=
  ⟨h, fun _ _ _ => trivial⟩

theorem lift {m : Engine α} (hm : Leads R m P) : Yields R (liftM m) P :=
  ⟨hm.course, fun w _ ha => Except.ok.inj ha ▸ hm.result w⟩

theorem mono {m : Query α} {Q : α → Prop} (hm : Yields R m P) (h : ∀ a, P a → Q a) :
    Yields R m Q :=
  Leads.mono hm fun _ ho a ha => h a (ho a ha)

theorem bind [Course R] {m : Query α} {f : α → Query β} {Q : β → Prop} (hm : Yields R m P)
    (hf : ∀ a, P a → Yields R (f a) Q) : Yields R (m >>= f) Q := by
  have run (w : World) : R w ((m >>= f).run w).2 ∧ ∀ b, ((m >>= f).run w).1 = .ok b → Q b := by
    have course := hm.course w
    have result := hm.result w
    rcases hr : m.run w with ⟨e | a, w'⟩
    · rw [Query.run_bind_error hr]
      rw [show m.run w = _ from hr] at course
      exact ⟨course, fun _ he => nomatch he⟩
    · rw [Query.run_bind_ok hr]
      rw [show m.run w = _ from hr] at course result
      have second := hf a (result a rfl)
      exact ⟨Course.trans course (second.course w'), second.result w'⟩
  exact ⟨fun w => (run w).1, fun w => (run w).2⟩

end Yields

/-! ## Primitives -/

theorem newId_hush : Leads Hush World.newId fun _ => True :=
  ⟨fun _ => ⟨⟨rfl, Nat.le_succ _⟩, rfl, rfl⟩, fun _ => trivial⟩

theorem clearStatements_hush (l : LoaderId) : Leads Hush l.clearStatements fun _ => True :=
  ⟨fun w => hush_catalog w .., fun _ => trivial⟩

theorem newLoader_hush (c : ConnectionId) : Leads Hush (World.newLoader c) fun _ => True :=
  ⟨fun w => hush_catalog w .., fun _ => trivial⟩

theorem enter_hush (l : LoaderId) : Leads Hush l.enter.run fun _ => True := by
  refine ⟨fun w => ?_, fun _ => trivial⟩
  rw [LoaderId.run_enter]
  split
  · split
    · exact Course.refl w
    · exact hush_catalog w ..
  · exact hush_catalog w ..

theorem leave_hush (l : LoaderId) : Leads Hush l.leave fun _ => True := by
  refine ⟨fun w => ?_, fun _ => trivial⟩
  rw [LoaderId.run_leave]
  dsimp only
  split <;> exact hush_catalog w ..

theorem prepare_hush (l : LoaderId) (sql : String) (w : World) :
    w.Hush ((l.prepare sql).run w).2 := by
  rcases LoaderId.prepare_world w l sql with same | prepared
  · rw [same]
    exact Course.refl w
  · rw [prepared]
    exact hush_catalog w ..

/-- The recursion follows the values; each is bound at the next position. -/
theorem bindFrom_hush (handle : Handle) (values : List Value) {position : Nat}
    (hp : 0 < position) (w : World) : w.Hush ((handle.bindFrom position values).run w).2 := by
  induction values generalizing position w with
  | nil => exact Course.refl w
  | cons value rest ih =>
    rw [Handle.bindFrom, Query.run_bind_ok (Handle.run_bind w handle hp value)]
    exact Course.trans (hush_catalog w ..) (ih (Nat.succ_pos position) _)

theorem execute_hush (handle : Handle) (w : World) : w.Hush (handle.execute.run w).2 := by
  rw [Handle.run_execute]
  dsimp only
  split
  · exact Course.refl w
  · split <;> exact hush_catalog w ..

theorem query_hush (l : LoaderId) (sql : String) (values : List Value) :
    Yields Hush (l.query sql values) fun _ => True :=
  (Yields.of_course (prepare_hush l sql)).bind fun handle _ =>
    (Yields.of_course (bindFrom_hush handle values Nat.one_pos)).bind fun _ _ =>
      (Yields.of_course (execute_hush handle)).bind fun _ _ => Yields.of_course Course.refl

/-- Nobody hears of a transaction in which nobody hears of anything. -/
theorem withTransaction_hush {l : LoaderId} {body : Query α} {P : α → Prop}
    (hb : Yields Hush body P) : Yields Hush (l.withTransaction body) P :=
  (Yields.of_course (enter_hush l).course).bind fun _ _ =>
    (Yields.lift hb).bind fun _ ho =>
      (Yields.lift (leave_hush l)).bind fun _ _ => ⟨Course.refl, fun _ => ho⟩

/-- A fetch takes every course that queries take, and that statements take from row to
row. -/
theorem Fetches.yields {R : World → World → Prop} [Course R] {l : LoaderId} {sqls : List String}
    {m : LoaderId → Query α} (h : Fetches sqls m)
    (query : ∀ sql values, Yields R (l.query sql values) fun _ => True)
    (advance : ∀ (w : World) (s : StatementId) (rows : List Row) (current : Option Row),
      R w (w.setStatement s { w.statement s with rows, current })) :
    Yields R (m l) fun _ => True := by
  induction h with
  | pure a => exact .of_course Course.refl
  | fold state => exact (query ..).bind fun handle _ => .of_course fun w => advance w ..
  | first =>
    refine (query ..).bind fun handle _ => .of_course fun w => ?_
    rw [Handle.run_readRow]
    split <;> exact advance w ..
  | bind _ _ ih ihf => exact ih.bind fun a _ => ihf a

/-- Nobody hears of a fetch. -/
theorem Fetches.hush {sqls : List String} {m : LoaderId → Query α} (h : Fetches sqls m)
    (l : LoaderId) : Yields Hush (m l) fun _ => True :=
  h.yields (query_hush l) fun w _ _ _ => hush_catalog w ..

/-- What an item does with a query between entering and leaving takes the course of the
query and of deliveries. -/
theorem Item.readLocked_leads {R : World → World → Prop} [Course R] {item : Item}
    {query : Query α} (hq : Yields R query fun _ => True)
    (deliver : ∀ due, Leads R (World.deliverIf due) fun _ => True) :
    Leads R (item.readLocked query) fun _ => True := by
  have unlock (item : Item) : Leads R item.unlock fun _ => True :=
    (deliver item.subject.unlock).map fun _ _ => trivial
  have announce (item : Item) : Leads R item.announce fun _ => True :=
    (deliver item.subject.announce).map fun _ _ => trivial
  refine Leads.bind hq fun outcome _ => ?_
  cases outcome with
  | error e => exact (unlock _).map fun _ _ => trivial
  | ok a =>
    exact (announce _).bind fun item _ => (unlock item).map fun _ _ => trivial

/-- A fetch takes one course, if entering and leaving make that of the other course that is
taken in between. Who cannot enter does nothing. -/
theorem Item.fetch_leads {R S : World → World → Prop} [Course R] [Course S] {item : Item}
    {l : LoaderId} {fetch : LoaderId → Query α} (hq : Yields S (fetch l) fun _ => True)
    (deliver : ∀ due, Leads S (World.deliverIf due) fun _ => True)
    (bracket : ∀ {w w' w''}, l.enter.run w = (.ok (), w') → S w' w'' → R w (l.leave w'').2) :
    Leads R (item.fetch l fetch) fun _ => True := by
  refine ⟨fun w => ?_, fun _ => trivial⟩
  rw [run_fetch]
  rcases he : l.enter.run w with ⟨e | ⟨⟩, w'⟩
  · obtain ⟨rfl, -⟩ := LoaderId.enter_error he
    exact Course.refl w'
  · exact bracket he ((readLocked_leads hq deliver).course w')

/-- A load does nothing but fetch, if it does anything. -/
theorem Item.load_leads {R : World → World → Prop} [Course R] {item : Item} {facet : Facet α}
    {fetch : LoaderId → Query α}
    (hf : ∀ l, item.loader = some l → Leads R (item.fetch l fetch) fun _ => True) :
    Leads R (item.load facet fetch) fun _ => True := by
  unfold Item.load Item.requireLoader
  split
  · exact .pure trivial
  · cases hl : item.loader with
    | none => exact .pure trivial
    | some l =>
      refine (hf l hl).bind fun r _ => ?_
      rcases r with ⟨_ | _, _⟩ <;> exact .pure trivial

end MetaCatalog
