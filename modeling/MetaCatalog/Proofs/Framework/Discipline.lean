import MetaCatalog.Proofs.Framework.Bracket
import MetaCatalog.Proofs.Framework.Fetch

/-!
# Disciplines

A `Discipline` is a property of worlds, and of the texts of errors, that the
library keeps to. It has to be checked for the few primitives that the library
is made of: a query inside a transaction, entering and leaving, a delivery, a
new loader. From these, `Ensures` is established once for everything built on
them: sequences, fetches (`Fetches.within`), and what loads a facet of an item
(`Discipline.load`).
-/

namespace MetaCatalog

open World

/-- What is kept by everything that the library does. -/
structure Discipline where
  holds : World → Prop
  /-- The texts of errors that may come up. -/
  allows : String → Prop
  query {w : World} {l : LoaderId} {sql : String} {values : List Value} : w.Sound → holds w →
    w.Inside l → values.length = parameterCount sql → holds ((l.query sql values).run w).2 ∧
      ∀ e, ((l.query sql values).run w).1 = .error e → allows e.message
  /-- A statement may move on to other rows. -/
  advance {w : World} {s : StatementId} {rows : List Row} {current : Option Row} : holds w →
    holds (w.setStatement s { w.statement s with rows, current })
  enter {w w' : World} {l : LoaderId} : w.Sound → holds w → w.Knows l →
    l.enter.run w = (.ok (), w') → holds w'
  leave {w : World} {l : LoaderId} : w.Sound → holds w → w.Inside l → holds (l.leave w).2
  /-- Who observes, what was delivered and how many identifiers are in use does
  not matter. -/
  aside {w : World} {observers : List ObserverId} {deliveries : List Delivery} {issued : Nat} :
    holds w → holds { w with observers, deliveries, issued }
  newLoader {w : World} {c : ConnectionId} : w.Sound → holds w → w.Serves c →
    holds (World.newLoader c w).2
  clearStatements {w : World} {l : LoaderId} : w.Sound → holds w → holds (l.clearStatements w).2
  busy : allows (Error.connection "transaction already active").message
  refused (reason : String) : allows (Error.prepare reason).message
  read (reason : String) : allows (Error.query reason).message
  missingContext (item : String) : allows (Error.missingContext item).message
  notConnected (database : String) : allows (Error.notConnected database).message
  notFound (object : String) : allows (Error.notFound object).message

namespace Discipline

variable (D : Discipline)

/-- The discipline holds in a world in which everything hangs together. -/
structure Upholds (w : World) : Prop where
  sound : w.Sound
  holds : D.holds w

/-- What a computation does from a world: it keeps the discipline, settles the
world, and its result has a property. -/
structure Ensures (w : World) (m : Engine α) (Q : World → α → Prop) : Prop where
  upholds : D.Upholds (m w).2
  settles : w.Settles (m w).2
  result : Q (m w).2 (m w).1

/-- An outcome has no error but those allowed. -/
def Fails (outcome : Except Error α) : Prop := ∀ e, outcome = .error e → D.allows e.message

variable {D}

theorem Fails.ok (a : α) : D.Fails (.ok a) := fun _ h => nomatch h

theorem Fails.error {e : Error} (h : D.allows e.message) : D.Fails (.error e : Except Error α) :=
  fun _ he => Except.error.inj he ▸ h

theorem Fails.ofRead {outcome : Except Error α} (h : IsRead outcome) : D.Fails outcome := by
  intro e he
  obtain ⟨reason, rfl⟩ := h.query e he
  exact D.read reason

theorem Fails.cast {e : Error} (h : D.Fails (.error e : Except Error α)) :
    D.Fails (.error e : Except Error β) :=
  .error (h e rfl)

namespace Ensures

theorem pure {w : World} {a : α} {Q : World → α → Prop} (h : D.Upholds w) (hq : Q w a) :
    D.Ensures w (Pure.pure a) Q :=
  ⟨h, .refl w, hq⟩

theorem bind {w : World} {m : Engine α} {f : α → Engine β} {P : World → α → Prop}
    {Q : World → β → Prop} (hm : D.Ensures w m P)
    (hf : ∀ w' a, D.Upholds w' → w.Settles w' → P w' a → D.Ensures w' (f a) Q) :
    D.Ensures w (m >>= f) Q := by
  have h := hf _ _ hm.upholds hm.settles hm.result
  exact ⟨h.upholds, hm.settles.trans h.settles, h.result⟩

/-- A computation followed by something that leaves the world alone. -/
theorem map {w : World} {m : Engine α} {f : α → β} {P : World → α → Prop} {Q : World → β → Prop}
    (hm : D.Ensures w m P) (hf : ∀ w' a, w.Settles w' → P w' a → Q w' (f a)) :
    D.Ensures w (do Pure.pure (f (← m))) Q :=
  ⟨hm.upholds, hm.settles, hf _ _ hm.settles hm.result⟩

theorem mono {w : World} {m : Engine α} {P Q : World → α → Prop} (hm : D.Ensures w m P)
    (h : ∀ w' a, w.Settles w' → P w' a → Q w' a) : D.Ensures w m Q :=
  ⟨hm.upholds, hm.settles, h _ _ hm.settles hm.result⟩

/-- The same, of a run whose result is known. -/
theorem run {w w' : World} {m : Engine α} {a : α} {Q : World → α → Prop} (hm : D.Ensures w m Q)
    (h : m w = (a, w')) : D.Upholds w' ∧ w.Settles w' ∧ Q w' a := by
  obtain ⟨hu, hs, hq⟩ := hm
  rw [h] at hu hs hq
  exact ⟨hu, hs, hq⟩

theorem ofRun {w w' : World} {m : Engine α} {a : α} {Q : World → α → Prop} (h : m w = (a, w'))
    (hu : D.Upholds w') (hs : w.Settles w') (hq : Q w' a) : D.Ensures w m Q := by
  refine ⟨?_, ?_, ?_⟩ <;> rw [h]
  · exact hu
  · exact hs
  · exact hq

end Ensures

/-! ## Deliveries and identifiers -/

theorem aside_upholds {w : World} (h : D.Upholds w) (observers : List ObserverId)
    (deliveries : List Delivery) (issued : Nat) :
    D.Upholds { w with observers, deliveries, issued } ∧
      w.Settles { w with observers, deliveries, issued } :=
  ⟨⟨⟨h.sound.served, h.sound.filed, h.sound.apart⟩, D.aside h.holds⟩, (reads_aside ..).toSettles⟩

theorem newId_ensures {w : World} (h : D.Upholds w) :
    D.Ensures w World.newId fun _ _ => True := by
  obtain ⟨upholds, settles⟩ := aside_upholds h w.observers w.deliveries (w.issued + 1)
  exact .ofRun rfl upholds settles trivial

theorem deliver_ensures {w : World} (h : D.Upholds w) (subject : Subject) :
    D.Ensures w (World.deliver subject) fun _ _ => True := by
  obtain ⟨upholds, settles⟩ := aside_upholds h w.observers _ w.issued
  exact .ofRun rfl upholds settles trivial

theorem deliverIf_ensures {w : World} (h : D.Upholds w) (due : Bool × Subject) :
    D.Ensures w (World.deliverIf due) fun _ _ => True := by
  rcases due with ⟨_ | _, subject⟩
  · exact .pure h trivial
  · exact deliver_ensures h subject

/-! ## Queries -/

/-- What a query does inside the transaction of a loader. -/
structure Within (D : Discipline) (l : LoaderId) (m : Query α) : Prop where
  ensures {w : World} : D.Upholds w → w.Inside l →
    D.Ensures w m.run fun _ outcome => D.Fails outcome

namespace Within

variable {l : LoaderId}

theorem pure (a : α) : D.Within l (Pure.pure a) :=
  ⟨fun h _ => .pure h (.ok a)⟩

theorem bind {m : Query α} {f : α → Query β} (hm : D.Within l m) (hf : ∀ a, D.Within l (f a)) :
    D.Within l (m >>= f) := by
  refine ⟨fun {w} h hl => ?_⟩
  rcases hr : m.run w with ⟨e | a, w'⟩
  · obtain ⟨upholds, settles, fails⟩ := (hm.ensures h hl).run hr
    exact .ofRun (Query.run_bind_error hr) upholds settles fails.cast
  · obtain ⟨upholds, settles, -⟩ := (hm.ensures h hl).run hr
    have second := (hf a).ensures upholds (settles.inside hl)
    exact .ofRun (Query.run_bind_ok hr) second.upholds (settles.trans second.settles)
      second.result

/-- A part that cannot fail. -/
theorem lift {m : Engine α} (hm : ∀ {w : World}, D.Upholds w → D.Ensures w m fun _ _ => True) :
    D.Within l (liftM m) :=
  ⟨fun h _ => ⟨(hm h).upholds, (hm h).settles, .ok _⟩⟩

theorem query {sql : String} {values : List Value} (count : values.length = parameterCount sql) :
    D.Within l (l.query sql values) := by
  refine ⟨fun {w} h hl => ?_⟩
  obtain ⟨reads, sound⟩ := LoaderId.query_reads h.sound hl sql values
  obtain ⟨holds, allowed⟩ := D.query h.sound h.holds hl count
  exact ⟨⟨sound, holds⟩, reads.toSettles, allowed⟩

/-- Moving on in the rows of a statement. -/
theorem advance {w : World} (h : D.Upholds w) (s : StatementId) (rows : List Row)
    (current : Option Row) :
    D.Upholds (w.setStatement s { w.statement s with rows, current }) ∧
      w.Settles (w.setStatement s { w.statement s with rows, current }) :=
  ⟨⟨h.sound.setStatement rfl rfl, D.advance h.holds⟩, settles_setStatement ..⟩

theorem foldRows (handle : Handle) {step : σ → Row → Except Error σ}
    (reads : ∀ state row, IsRead (step state row)) (state : σ) :
    D.Within l (handle.foldRows step state) := by
  refine ⟨fun {w} h _ => ?_⟩
  have fold (state : σ) (rows : List Row) : IsRead (Statement.foldRows step state rows).1 := by
    induction rows generalizing state with
    | nil => exact .ok state
    | cons row rest ih =>
      rw [Statement.foldRows]
      split
      · exact ih _
      · next e he =>
        obtain ⟨reason, rfl⟩ := (reads state row).query e he
        exact .error reason
  obtain ⟨upholds, settles⟩ := advance h handle.statement
    (Statement.foldRows step state (w.statement handle.statement).rows).2.2
    (Statement.foldRows step state (w.statement handle.statement).rows).2.1
  exact ⟨upholds, settles, .ofRead (fold state _)⟩

theorem readRow (handle : Handle) {read : Row → Except Error α} (reads : ∀ row, IsRead (read row)) :
    D.Within l (handle.readRow? read) := by
  refine ⟨fun {w} h _ => ?_⟩
  cases hr : (w.statement handle.statement).rows with
  | nil =>
    obtain ⟨upholds, settles⟩ := advance h handle.statement [] none
    have hw : w.setStatement handle.statement
        { w.statement handle.statement with current := none } =
        w.setStatement handle.statement
          { w.statement handle.statement with rows := [], current := none } := by
      rw [← hr]
    exact .ofRun (by rw [handle.run_readRow, hr, hw]) upholds settles (.ok none)
  | cons row rest =>
    obtain ⟨upholds, settles⟩ := advance h handle.statement rest (some row)
    exact .ofRun (by rw [handle.run_readRow, hr]) upholds settles (.ofRead ((reads row).map some))

end Within

/-- What is read between entering and leaving a transaction. -/
theorem bracket {w w' : World} {l : LoaderId} (h : D.Upholds w) (hl : w.Knows l)
    (he : l.enter.run w = (.ok (), w')) :
    D.Upholds w' ∧ w'.Inside l ∧ ∀ w'', D.Upholds w'' → w'.Settles w'' →
      D.Upholds (l.leave w'').2 ∧ w.Settles (l.leave w'').2 := by
  have entered := LoaderId.enter_ok hl he
  have sound := LoaderId.enter_sound h.sound l
  rw [he] at sound
  refine ⟨⟨sound, D.enter h.sound h.holds hl he⟩, entered.inside, fun w'' hu hs => ?_⟩
  have inside := hs.inside entered.inside
  exact ⟨⟨LoaderId.leave_sound hu.sound l, D.leave hu.sound hu.holds inside⟩,
    (entered.settles hs).leave⟩

/-- Entering fails by an error that may come up, and then changes nothing. -/
theorem enter_refused {w w' : World} {l : LoaderId} {e : Error}
    (he : l.enter.run w = (.error e, w')) : w' = w ∧ D.allows e.message := by
  obtain ⟨rfl, rfl, -⟩ := LoaderId.enter_error he
  exact ⟨rfl, D.busy⟩

theorem withTransaction_ensures {w : World} {l : LoaderId} {body : Query α} (h : D.Upholds w)
    (hl : w.Knows l) (hb : D.Within l body) :
    D.Ensures w (l.withTransaction body).run fun _ outcome => D.Fails outcome := by
  rcases he : l.enter.run w with ⟨e | ⟨⟩, w'⟩
  · obtain ⟨rfl, allowed⟩ := D.enter_refused he
    exact .ofRun (Query.run_bind_error he) h (.refl w') (.error allowed)
  · obtain ⟨upholds, inside, finish⟩ := bracket h hl he
    have read := hb.ensures upholds inside
    obtain ⟨upholds', settles⟩ := finish _ read.upholds read.settles
    exact .ofRun (Query.run_bind_ok he) upholds' settles read.result

/-! ## Items -/

/-- The loader of an item is one of the world, and its last error is one that
may come up. -/
structure Fits (D : Discipline) (w : World) (item : Item) : Prop where
  knows : ∀ l, item.loader = some l → w.Knows l
  allows : ∀ text, item.lastError = some text → D.allows text

theorem Fits.settles {w w' : World} {item : Item} (h : D.Fits w item) (hs : w.Settles w') :
    D.Fits w' item :=
  ⟨fun l hl => hs.knows l (h.knows l hl), h.allows⟩

theorem Fits.failed {w : World} {item : Item} (h : D.Fits w item) {e : Error}
    (he : D.allows e.message) : D.Fits w (item.failed e) :=
  ⟨h.knows, fun _ ht => Option.some.inj ht ▸ he⟩

theorem announce_ensures {w : World} {item : Item} (h : D.Upholds w) (hf : D.Fits w item) :
    D.Ensures w item.announce D.Fits :=
  (deliverIf_ensures h _).map fun _ _ hs _ => ⟨fun l hl => hs.knows l (hf.knows l hl), hf.allows⟩

theorem unlock_ensures {w : World} {item : Item} (h : D.Upholds w) (hf : D.Fits w item) :
    D.Ensures w item.unlock D.Fits :=
  (deliverIf_ensures h _).map fun _ _ hs _ => ⟨fun l hl => hs.knows l (hf.knows l hl), hf.allows⟩

theorem readLocked_ensures {w : World} {item : Item} {l : LoaderId} {query : Query α}
    (h : D.Upholds w) (hl : w.Inside l) (hf : D.Fits w item) (hq : D.Within l query) :
    D.Ensures w (item.readLocked query) fun w' r => D.Fits w' r.2 ∧ D.Fails r.1 := by
  refine (hq.ensures h hl).bind fun w' outcome h' hs hfails => ?_
  have locked : D.Fits w' item.lock := ⟨(hf.settles hs).knows, hf.allows⟩
  cases outcome with
  | error e =>
    exact (unlock_ensures h' locked).map fun _ _ _ hi => ⟨hi, hfails⟩
  | ok value =>
    refine (announce_ensures h' locked).bind fun w'' item' h'' _ hi => ?_
    exact (unlock_ensures h'' hi).map fun _ _ _ hi => ⟨hi, .ok value⟩

theorem fetch_ensures {w : World} {item : Item} {l : LoaderId} {fetch : LoaderId → Query α}
    (h : D.Upholds w) (hl : w.Knows l) (hf : D.Fits w item) (hq : D.Within l (fetch l)) :
    D.Ensures w (item.fetch l fetch) fun w' r => D.Fits w' r.2 ∧ D.Fails r.1 := by
  have run := item.run_fetch l fetch w
  rcases he : l.enter.run w with ⟨e | ⟨⟩, w'⟩ <;> rw [he] at run
  · obtain ⟨rfl, allowed⟩ := D.enter_refused he
    exact .ofRun run h (.refl w') ⟨hf, .error allowed⟩
  · obtain ⟨upholds, inside, finish⟩ := bracket h hl he
    have grows := (LoaderId.enter_ok hl he).toGrows
    have read := readLocked_ensures upholds inside
      ⟨fun k hk => grows.knows k (hf.knows k hk), hf.allows⟩ hq
    obtain ⟨upholds', settles⟩ := finish _ read.upholds read.settles
    refine .ofRun run upholds' settles ⟨⟨fun k hk => ?_, read.result.1.allows⟩, read.result.2⟩
    exact (l.leave_grows _).knows k (read.result.1.knows k hk)

/-- Loading a facet keeps to a discipline, whatever comes of it. -/
theorem load_ensures {w : World} {item : Item} {facet : Facet α} {fetch : LoaderId → Query α}
    (h : D.Upholds w) (hf : D.Fits w item) (hq : ∀ l, D.Within l (fetch l)) :
    D.Ensures w (item.load facet fetch) fun w' r => D.Fits w' r.item ∧ D.Fails r.outcome := by
  unfold Item.load Item.requireLoader
  split
  · exact .pure h ⟨hf, .ok ()⟩
  · cases hl : item.loader with
    | none =>
      exact .pure h ⟨hf.failed (D.missingContext item.label), .error (D.missingContext item.label)⟩
    | some l =>
      refine (fetch_ensures h (hf.knows l hl) hf (hq l)).bind fun w' r h' _ hr => ?_
      obtain ⟨outcome, item'⟩ := r
      cases outcome with
      | ok value => exact .pure h' ⟨hr.1, .ok ()⟩
      | error e => exact .pure h' ⟨hr.1.failed (hr.2 e rfl), hr.2.cast⟩

end Discipline

/-- Every fetch keeps to a discipline inside the transaction of its loader. -/
theorem Fetches.within {D : Discipline} {sqls : List String} {m : LoaderId → Query α}
    (h : Fetches sqls m) (l : LoaderId) : D.Within l (m l) := by
  induction h with
  | pure a => exact .pure a
  | fold state _ count reads =>
    exact .bind (.query count) fun handle => .foldRows handle reads state
  | first _ count reads =>
    exact .bind (.query count) fun handle => .readRow handle reads
  | bind _ _ ih ihf => exact .bind ih ihf

end MetaCatalog
