import Mathlib.Algebra.GroupWithZero.Nat
import Mathlib.Data.List.Dedup
import MetaCatalog.Proofs.Loader.Shelves

/-!
# Each statement is prepared once

A loader that alone uses its connection is asked for statements, reads facets of objects, and
is cleared from time to time; the connection may be lost and come back, and refuse queries in
between. Whatever happens, the cache has one statement for each text that was obtained since
the last clear, and the connection has prepared each text once in each period between two
clears (`LoaderRun.Caches`, `LoaderRun.caches_of_steps`). The statements that were made are
numbered in the order of `madeIn`; a statement that was handed out is the one that was made
for its text in its period, also after the cache was cleared.
-/

namespace MetaCatalog

open World

/-! ## Periods -/

/-- The statements that are made when these texts are obtained, each with its period and its
text. The last period comes first, and so do the last texts within a period. -/
def madeIn : List (List String) → List (Nat × String)
  | [] => []
  | texts :: past => madeIn past ++ texts.dedup.reverse.map (past.length, ·)

section Periods

variable {sql : String} {current : List String} {past periods : List (List String)}

@[simp] theorem madeIn_clear : madeIn ([] :: periods) = madeIn periods := by
  simp [madeIn]

theorem madeIn_again (h : sql ∈ current) :
    madeIn ((sql :: current) :: past) = madeIn (current :: past) := by
  rw [madeIn, List.dedup_cons_of_mem h, madeIn]

theorem madeIn_new (h : sql ∉ current) :
    madeIn ((sql :: current) :: past) = madeIn (current :: past) ++ [(past.length, sql)] := by
  rw [madeIn, List.dedup_cons_of_notMem h, List.reverse_cons, List.map_append, madeIn,
    List.append_assoc]
  rfl

theorem length_madeIn : (madeIn periods).length = (periods.map (·.dedup.length)).sum := by
  induction periods with
  | nil => rfl
  | cons texts past ih =>
    rw [madeIn, List.length_append, ih, List.length_map, List.length_reverse, List.map_cons,
      List.sum_cons, Nat.add_comm]

theorem mem_madeIn_lt {period : Nat} (h : (period, sql) ∈ madeIn periods) :
    period < periods.length := by
  induction periods with
  | nil => cases h
  | cons texts past ih =>
    rw [madeIn, List.mem_append, List.mem_map] at h
    rcases h with h | ⟨_, _, h⟩
    · exact Nat.lt_succ_of_lt (ih h)
    · cases h
      exact Nat.lt_succ_self _

/-- Each text is prepared once in a period. -/
theorem nodup_madeIn (periods : List (List String)) : (madeIn periods).Nodup := by
  induction periods with
  | nil => exact List.nodup_nil
  | cons texts past ih =>
    refine List.nodup_append'.mpr ⟨ih, ?_, ?_⟩
    · refine List.Nodup.map (fun a b same => (Prod.mk.inj same).2) ?_
      exact List.nodup_reverse.mpr (List.nodup_dedup texts)
    · intro made old new
      obtain ⟨_, _, rfl⟩ := List.mem_map.mp new
      exact Nat.lt_irrefl _ (mem_madeIn_lt old)

end Periods

/-! ## The shelf in a period -/

/-- The statement is the one that was made for the text in the period. -/
def MadeFor (base : Shelf) (periods : List (List String)) (period : Nat) (sql : String)
    (s : StatementId) : Prop :=
  ∃ i, s = ⟨base.texts.length + i⟩ ∧ (madeIn periods)[i]? = some (period, sql)

/-- What is on the shelf: one statement for each text of the present period is in the cache,
and all that were made since the beginning have been prepared. -/
structure Shelf.Holds (base : Shelf) (current : List String) (past : List (List String))
    (shelf : Shelf) : Prop where
  keys : shelf.cache.map (·.1) = current.dedup
  cached : ∀ {sql s}, (sql, s) ∈ shelf.cache → MadeFor base (current :: past) past.length sql s
  texts : shelf.texts = base.texts ++ (madeIn (current :: past)).map (·.2)
  prepared : shelf.prepared = base.prepared + (madeIn (current :: past)).length

/-- A statement that was made is there to stay. -/
theorem MadeFor.later {base : Shelf} {periods periods' : List (List String)} {period : Nat}
    {sql : String} {s : StatementId} (h : MadeFor base periods period sql s)
    (more : madeIn periods <+: madeIn periods') : MadeFor base periods' period sql s := by
  obtain ⟨i, rfl, there⟩ := h
  obtain ⟨rest, more⟩ := more
  refine ⟨i, rfl, ?_⟩
  rw [← more, List.getElem?_append_left (List.getElem?_eq_some_iff.mp there).1]
  exact there

/-- Statements are the same if they were made for the same text in the same period. -/
theorem MadeFor.eq_iff {base : Shelf} {periods : List (List String)} {p q : Nat} {a b : String}
    {s t : StatementId} (hs : MadeFor base periods p a s) (ht : MadeFor base periods q b t) :
    s = t ↔ p = q ∧ a = b := by
  obtain ⟨i, rfl, hi⟩ := hs
  obtain ⟨j, rfl, hj⟩ := ht
  constructor
  · intro same
    obtain rfl : i = j := Nat.add_left_cancel (StatementId.mk.inj same)
    exact Prod.mk.inj (Option.some.inj (hi.symm.trans hj))
  · rintro ⟨rfl, rfl⟩
    -- A text is made once in a period, so there is one position for both.
    obtain ⟨here, -⟩ := List.getElem?_eq_some_iff.mp hi
    rw [(List.getElem?_inj here (nodup_madeIn periods)).mp (hi.trans hj.symm)]

theorem madeIn_obtain (sql : String) (current : List String) (past : List (List String)) :
    madeIn (current :: past) <+: madeIn ((sql :: current) :: past) := by
  by_cases old : sql ∈ current
  · exact (madeIn_again old).symm ▸ List.prefix_rfl
  · rw [madeIn_new old]
    exact List.prefix_append ..

theorem madeIn_obtains (sqls current : List String) (past : List (List String)) :
    madeIn (current :: past) <+: madeIn ((sqls ++ current) :: past) := by
  induction sqls with
  | nil => exact List.prefix_rfl
  | cons sql rest ih => exact ih.trans (madeIn_obtain sql (rest ++ current) past)

namespace Shelf.Holds

variable {base shelf : Shelf} {current : List String} {past : List (List String)}

/-- The cache knows the texts of the present period, and no others. -/
theorem lookup_eq_none_iff (h : Holds base current past shelf) (sql : String) :
    shelf.cache.lookup sql = none ↔ sql ∉ current := by
  rw [List.lookup_eq_none_iff, ← List.mem_dedup, ← h.keys, List.mem_map]
  constructor
  · rintro absent ⟨entry, there, rfl⟩
    exact absurd (absent entry there) (by simp)
  · intro absent entry there
    exact bne_iff_ne.mpr fun same => absent ⟨entry, there, same.symm⟩

theorem mem_of_lookup (h : Holds base current past shelf) {sql : String} {s : StatementId}
    (found : shelf.cache.lookup sql = some s) : sql ∈ current := by
  refine Classical.not_not.mp fun absent => ?_
  rw [(h.lookup_eq_none_iff sql).mpr absent] at found
  cases found

/-- One more text is obtained. -/
theorem obtain_text (h : Holds base current past shelf) (sql : String) :
    Holds base (sql :: current) past (shelf.obtain sql) := by
  have old {text : String} {s : StatementId} (there : (text, s) ∈ shelf.cache) :
      MadeFor base ((sql :: current) :: past) past.length text s :=
    (h.cached there).later (madeIn_obtain sql current past)
  unfold Shelf.obtain
  split
  · next s found =>
    have again : sql ∈ current := h.mem_of_lookup found
    refine ⟨?_, old, ?_, ?_⟩
    · rw [h.keys, List.dedup_cons_of_mem again]
    · rw [madeIn_again again, h.texts]
    · rw [madeIn_again again, h.prepared]
  · next missing =>
    have new : sql ∉ current := (h.lookup_eq_none_iff sql).mp missing
    refine ⟨?_, fun {text s} there => ?_, ?_, ?_⟩
    · rw [List.map_cons, h.keys, List.dedup_cons_of_notMem new]
    · rcases List.mem_cons.mp there with made | there
      · cases made
        -- The statement takes the next index, which is where `madeIn` puts the new text.
        refine ⟨(madeIn (current :: past)).length, ?_, ?_⟩
        · rw [h.texts, List.length_append, List.length_map]
        · rw [madeIn_new new, List.getElem?_concat_length]
      · exact old there
    · rw [madeIn_new new, h.texts, List.map_append, List.append_assoc]
      rfl
    · rw [madeIn_new new, h.prepared, List.length_append]
      rfl

/-- A few texts are obtained, one after the other. -/
theorem obtain_texts (h : Holds base current past shelf) (sqls : List String) :
    Holds base (sqls.reverse ++ current) past (sqls.foldl Shelf.obtain shelf) := by
  induction sqls generalizing current shelf with
  | nil => exact h
  | cons sql rest ih =>
    rw [List.reverse_cons, List.append_assoc]
    exact ih (h.obtain_text sql)

/-- A period ends with an empty cache. -/
theorem clear (h : Holds base current past shelf) :
    Holds base [] (current :: past) { shelf with cache := [] } := by
  refine ⟨rfl, fun there => absurd there List.not_mem_nil, ?_, ?_⟩
  · rw [madeIn_clear]
    exact h.texts
  · rw [madeIn_clear]
    exact h.prepared

end Shelf.Holds

/-! ## Runs -/

/-- Running a query prepares none. -/
theorem Catalog.execute_prepared (catalog : Catalog) (sql : String) (parameters : Parameters) :
    (catalog.execute sql parameters).2.prepared = catalog.prepared := by
  unfold execute
  split
  · dsimp only
    split <;> rfl
  · rfl

/-- What can be done with a loader that alone uses its connection. -/
inductive LoaderStep where
  | prepare (sql : String)
  | clear
  | load (object : Object) (facet : FacetKind)
  /-- The connection is lost or comes back, and answers and refuses other queries. -/
  | script (connected : Bool) (replies : List Reply)
      (prepareRefusals executeRefusals : List Refusal)
  | use (handle : Handle) (call : HandleCall)
  | enter
  | leave

/-- Objects are read with this loader only. -/
def LoaderStep.Uses (l : LoaderId) : LoaderStep → Prop
  | load object _ => object.item.ReadWith l
  | _ => True

/-- A statement that was handed out for a text in a period. -/
structure Handed where
  period : Nat
  text : String
  handle : Handle

/-- How far a loader has come: the texts whose statements were obtained in the present period,
and in the periods before, the newest first, and the statements that were handed out. -/
structure LoaderRun where
  world : World
  current : List String := []
  past : List (List String) := []
  handed : List Handed := []

namespace LoaderRun

/-- A step of a run. Every statement that a load obtains is run at once, so the texts that a
load obtains are those that are new in the journal. -/
def step (l : LoaderId) (run : LoaderRun) : LoaderStep → LoaderRun
  | .prepare sql =>
    match (l.prepare sql).run run.world with
    | (.ok handle, world) => { run with
        world
        current := sql :: run.current
        handed := ⟨run.past.length, sql, handle⟩ :: run.handed }
    | (.error _, world) => { run with world }
  | .clear => { run with
      world := (l.clearStatements run.world).2
      current := []
      past := run.current :: run.past }
  | .load object facet =>
    let world := (object.load facet run.world).2
    { run with
      world
      current := ((world.asked l).drop (run.world.asked l).length).reverse ++ run.current }
  | .script connected replies prepareRefusals executeRefusals => { run with
      world := run.world.setCatalog (run.world.loader l).connection
        { run.world.catalogOf l with connected, replies, prepareRefusals, executeRefusals } }
  | .use handle call => { run with world := ((call.run handle).run run.world).2 }
  | .enter => { run with world := (l.enter.run run.world).2 }
  | .leave => { run with world := (l.leave run.world).2 }

/-- The run of a few steps. -/
def after (l : LoaderId) (run : LoaderRun) (steps : List LoaderStep) : LoaderRun :=
  steps.foldl (step l) run

/-- What every step keeps. -/
structure Keeps (l : LoaderId) (base : Shelf) (run : LoaderRun) : Prop where
  dependable : run.world.Dependable l
  shelf : Shelf.Holds base run.current run.past (run.world.shelf l)
  handed : ∀ x ∈ run.handed, x.handle.loader = l ∧
    MadeFor base (run.current :: run.past) x.period x.text x.handle.statement

variable {l : LoaderId} {base : Shelf} {run : LoaderRun}

/-- The world changes, but nothing is obtained. -/
theorem Keeps.stays (h : Keeps l base run) {w : World} (dependable : w.Dependable l)
    (shelf : w.shelf l = run.world.shelf l) : Keeps l base { run with world := w } :=
  ⟨dependable, shelf ▸ h.shelf, h.handed⟩

theorem Keeps.prepare (h : Keeps l base run) (sql : String) :
    Keeps l base (run.step l (.prepare sql)) := by
  have reads := LoaderId.prepare_reads run.world l sql
  have sound := LoaderId.prepare_sound h.dependable.sound l sql
  rw [step]
  rcases hr : (l.prepare sql).run run.world with ⟨e | handle, w⟩ <;> rw [hr] at reads sound
  · obtain rfl := LoaderId.prepare_error hr
    exact h.stays h.dependable rfl
  · obtain ⟨shelf, -⟩ := LoaderId.prepare_obtain h.dependable hr
    obtain ⟨loader, filed⟩ := LoaderId.prepare_ok h.dependable.knows hr
    have holds : Shelf.Holds base (sql :: run.current) run.past (w.shelf l) := by
      rw [shelf]
      exact h.shelf.obtain_text sql
    refine ⟨h.dependable.reads reads sound, holds, List.forall_mem_cons.mpr ⟨?_, fun x hx => ?_⟩⟩
    · exact ⟨loader, holds.cached filed⟩
    · obtain ⟨loader, made⟩ := h.handed x hx
      exact ⟨loader, made.later (madeIn_obtain sql run.current run.past)⟩

theorem Keeps.clear (h : Keeps l base run) : Keeps l base (run.step l .clear) := by
  have cleared : (l.clearStatements run.world).2.loader l =
      { run.world.loader l with statements := [] } := by
    show (run.world.modifyLoader l _).loader l = _
    rw [loader_modifyLoader, if_pos ⟨rfl, h.dependable.knows⟩]
  have catalog : (l.clearStatements run.world).2.catalogOf l = run.world.catalogOf l := by
    rw [catalogOf, cleared]
    rfl
  have settles := settles_clearStatements run.world l
  refine ⟨⟨h.dependable.sound.clearStatements l, settles.knows l h.dependable.knows, ?_⟩, ?_, ?_⟩
  · intro inside
    have inside : (l.clearStatements run.world).2.Inside l := inside
    rw [Inside, settles.depth] at inside
    show ((l.clearStatements run.world).2.catalogOf l).inTransaction = true
    rw [catalog]
    exact h.dependable.active inside
  · have shelf : (l.clearStatements run.world).2.shelf l =
        { run.world.shelf l with cache := [] } := by
      rw [World.shelf, cleared, catalog]
      rfl
    show Shelf.Holds base [] (run.current :: run.past) ((l.clearStatements run.world).2.shelf l)
    rw [shelf]
    exact h.shelf.clear
  · intro x hx
    obtain ⟨loader, made⟩ := h.handed x hx
    exact ⟨loader, made.later (madeIn_clear ▸ List.prefix_rfl)⟩

theorem Keeps.load (h : Keeps l base run) {object : Object} (own : object.item.ReadWith l)
    (facet : FacetKind) : Keeps l base (run.step l (.load object facet)) := by
  obtain ⟨dependable, sqls, obtains⟩ :=
    (Object.load_stocks own facet).course run.world h.dependable
  have new :
      ((object.load facet run.world).2.asked l).drop (run.world.asked l).length = sqls := by
    rw [obtains.asked, List.drop_left]
  rw [step, new]
  refine ⟨dependable, ?_, fun x hx => ?_⟩
  · show Shelf.Holds base _ run.past ((object.load facet run.world).2.shelf l)
    rw [obtains.shelf]
    exact h.shelf.obtain_texts sqls
  · obtain ⟨loader, made⟩ := h.handed x hx
    exact ⟨loader, made.later (madeIn_obtains sqls.reverse run.current run.past)⟩

theorem Keeps.script (h : Keeps l base run) (connected : Bool) (replies : List Reply)
    (prepareRefusals executeRefusals : List Refusal) :
    Keeps l base (run.step l (.script connected replies prepareRefusals executeRefusals)) := by
  refine h.stays ⟨h.dependable.sound.setCatalog _ _, h.dependable.knows, fun inside => ?_⟩
    (shelf_setCatalog l rfl)
  rw [catalogOf_setCatalog, if_pos ⟨rfl, h.dependable.served⟩]
  exact h.dependable.active inside

/-- What is done with a statement by hand is no matter of any shelf. -/
theorem shelf_handleCall (l : LoaderId) (w : World) (handle : Handle) (call : HandleCall) :
    ((call.run handle).run w).2.shelf l = w.shelf l := by
  cases call with
  | bind position value =>
    cases position with
    | zero => rfl
    | succ position =>
      rw [HandleCall.run, Handle.run_bind w handle (Nat.succ_pos position) value]
      exact shelf_setStatement l rfl
  | execute =>
    have counted := Catalog.execute_prepared (w.catalog (w.statement handle.statement).connection)
      (w.statement handle.statement).sql (w.statement handle.statement).parameters
    rw [HandleCall.run, Handle.run_execute]
    dsimp only
    split
    · rfl
    · split
      · next he =>
        rw [he] at counted
        exact shelf_setCatalog l counted
      · next he =>
        rw [he] at counted
        refine Eq.trans (shelf_setStatement l ?_) (shelf_setCatalog l counted)
        rfl
  | fetch =>
    have text :
        (w.statement handle.statement).fetch.2.sql = (w.statement handle.statement).sql := by
      unfold Statement.fetch
      split <;> rfl
    exact shelf_setStatement l text
  | row =>
    rw [HandleCall.run, Query.run_bind, Handle.row, Query.run_bind, Query.run_get]
    dsimp only
    rw [Query.run_ofExcept]
    cases (w.statement handle.statement).row <;> rfl

theorem Keeps.use (h : Keeps l base run) (handle : Handle) (call : HandleCall) :
    Keeps l base (run.step l (.use handle call)) := by
  obtain ⟨sound, reads⟩ := Discipline.handleCall_reads h.dependable.sound handle call
  exact h.stays (h.dependable.reads reads sound) (shelf_handleCall ..)

theorem Keeps.enter (h : Keeps l base run) : Keeps l base (run.step l .enter) := by
  rw [step]
  rcases he : l.enter.run run.world with ⟨e | ⟨⟩, w⟩
  · obtain ⟨rfl, -⟩ := LoaderId.enter_error he
    exact h.stays h.dependable rfl
  · obtain ⟨engaged, obtains⟩ := LoaderId.enter_stocks h.dependable he
    exact h.stays engaged.toDependable obtains.shelf

theorem Keeps.leave (h : Keeps l base run) : Keeps l base (run.step l .leave) := by
  obtain ⟨dependable, obtains⟩ := LoaderId.leave_stocks h.dependable
  exact h.stays dependable obtains.shelf

theorem Keeps.step (h : Keeps l base run) {step : LoaderStep} (uses : step.Uses l) :
    Keeps l base (run.step l step) := by
  cases step with
  | prepare sql => exact h.prepare sql
  | clear => exact h.clear
  | load object facet => exact h.load uses facet
  | script connected replies prepareRefusals executeRefusals => exact h.script ..
  | use handle call => exact h.use handle call
  | enter => exact h.enter
  | leave => exact h.leave

theorem Keeps.after (h : Keeps l base run) (steps : List LoaderStep)
    (uses : ∀ step ∈ steps, step.Uses l) : Keeps l base (run.after l steps) := by
  induction steps generalizing run with
  | nil => exact h
  | cons step rest ih =>
    obtain ⟨first, others⟩ := List.forall_mem_cons.mp uses
    exact ih (h.step first) others

/-! ## What a run comes to -/

/-- What holds after a run, in terms of the texts that were obtained in each period. -/
structure Caches (l : LoaderId) (start : World) (run : LoaderRun) : Prop where
  /-- The cache has one statement for each text of the present period. -/
  cached : (run.world.loader l).statements.length = run.current.dedup.length
  prepared : (run.world.catalogOf l).prepared =
    (start.catalogOf l).prepared + ((run.current :: run.past).map (·.dedup.length)).sum
  /-- The statements that were made: one for each text of each period. -/
  made : (madeIn (run.current :: run.past)).Nodup ∧ (run.world.shelf l).texts =
    (start.shelf l).texts ++ (madeIn (run.current :: run.past)).map (·.2)
  /-- Statements are shared by those who asked for the same text in the same period. -/
  shared : ∀ x ∈ run.handed, ∀ y ∈ run.handed,
    x.handle.statement = y.handle.statement ↔ x.period = y.period ∧ x.text = y.text
  /-- A statement stays what it was asked for, also when the cache is cleared. -/
  text : ∀ x ∈ run.handed, x.handle.loader = l ∧
    (run.world.statement x.handle.statement).sql = x.text
  /-- Nobody else's statement is touched by what is done with one by hand. -/
  apart : ∀ x ∈ run.handed, ∀ y ∈ run.handed, ¬(x.period = y.period ∧ x.text = y.text) →
    ∀ call : HandleCall, ((call.run x.handle).run run.world).2.statement y.handle.statement =
      run.world.statement y.handle.statement
  /-- Whether a statement can be had does not depend on earlier failures. -/
  answers : ∀ sql, ((l.prepare sql).run run.world).1.isOk = true ↔
    (run.world.catalogOf l).connected = true ∧ (sql ∈ run.current ∨
      Catalog.refusal? (run.world.catalogOf l).prepareRefusals sql = none)
  /-- A statement that cannot be had changes nothing. -/
  failing : ∀ sql e, ((l.prepare sql).run run.world).1 = .error e →
    ((l.prepare sql).run run.world).2 = run.world

theorem Keeps.text (h : Keeps l base run) {x : Handed} (hx : x ∈ run.handed) :
    (run.world.statement x.handle.statement).sql = x.text := by
  obtain ⟨-, i, place, there⟩ := h.handed x hx
  have texts : (run.world.shelf l).texts[base.texts.length + i]? = some x.text := by
    rw [h.shelf.texts, List.getElem?_append_right (Nat.le_add_right ..), Nat.add_sub_cancel_left,
      List.getElem?_map, there]
    rfl
  rw [World.shelf, List.getElem?_map, Array.getElem?_toList] at texts
  obtain ⟨statement, found, text⟩ := Option.map_eq_some_iff.mp texts
  rw [place, World.statement, Arena.get, Array.getD_eq_getD_getElem?, found]
  exact text

theorem Keeps.answers (h : Keeps l base run) (sql : String) :
    ((l.prepare sql).run run.world).1.isOk = true ↔
      (run.world.catalogOf l).connected = true ∧ (sql ∈ run.current ∨
        Catalog.refusal? (run.world.catalogOf l).prepareRefusals sql = none) := by
  rw [LoaderId.run_prepare]
  split
  · next connected =>
    rw [and_iff_right connected]
    split
    · next found =>
      exact iff_of_true rfl (.inl (h.shelf.mem_of_lookup found))
    · next missing =>
      have new : sql ∉ run.current := (h.shelf.lookup_eq_none_iff sql).mp missing
      rw [or_iff_right new]
      split
      · next refused =>
        rw [refused]
        exact ⟨nofun, nofun⟩
      · next free => exact iff_of_true rfl free
  · next lost => exact ⟨nofun, fun reached => absurd reached.1 lost⟩

theorem Keeps.caches {start : World} (h : Keeps l (start.shelf l) run) : run.Caches l start where
  cached := by
    rw [← h.shelf.keys, List.length_map]
    rfl
  prepared := by
    rw [← length_madeIn]
    exact h.shelf.prepared
  made := ⟨nodup_madeIn _, h.shelf.texts⟩
  shared x hx y hy := (h.handed x hx).2.eq_iff (h.handed y hy).2
  text x hx := ⟨(h.handed x hx).1, h.text hx⟩
  apart x hx y hy differ call := by
    obtain ⟨catalog, statement, run', -, -, -⟩ :=
      Discipline.handleCall_touches run.world x.handle call
    rw [run', statement_setStatement, if_neg]
    · rfl
    · rintro ⟨same, -⟩
      exact differ (((h.handed x hx).2.eq_iff (h.handed y hy).2).mp same)
  answers := h.answers
  failing sql e failed := LoaderId.prepare_error (Prod.ext failed rfl)

/-- A loader that alone uses its connection, from the time when it was new: whatever is done
with it, and whatever becomes of the connection, each text is prepared once in each period
between two clears. -/
theorem caches_of_steps {w : World} (hs : w.Sound) {c : ConnectionId} (hc : w.Serves c)
    (steps : List LoaderStep) (uses : ∀ step ∈ steps, step.Uses (World.newLoader c w).1) :
    (after (World.newLoader c w).1 { world := (World.newLoader c w).2 } steps).Caches
      (World.newLoader c w).1 (World.newLoader c w).2 := by
  have knows : (World.newLoader c w).2.Knows (World.newLoader c w).1 :=
    (knows_newLoader w c _).mpr (.inl rfl)
  have new : (World.newLoader c w).2.loader (World.newLoader c w).1 = { connection := c } := by
    rw [loader_newLoader]
    exact if_pos rfl
  have fresh : Keeps (World.newLoader c w).1
      ((World.newLoader c w).2.shelf (World.newLoader c w).1)
      { world := (World.newLoader c w).2 } := by
    refine ⟨⟨hs.newLoader hc, knows, fun inside => ?_⟩, ⟨?_, fun there => ?_, ?_, rfl⟩,
      List.forall_mem_nil _⟩
    · have inside : 0 < ((World.newLoader c w).2.loader (World.newLoader c w).1).depth := inside
      rw [new] at inside
      exact absurd inside (Nat.lt_irrefl 0)
    · rw [World.shelf, new]
      rfl
    · rw [World.shelf, new] at there
      exact absurd there List.not_mem_nil
    · exact (List.append_nil _).symm
  exact (fresh.after steps uses).caches

/-- A world with a single connection. -/
def oneConnection : World := (World.connect { database := "test.fdb" } {}).2

theorem oneConnection_sound : oneConnection.Sound :=
  ⟨fun _ hl => absurd hl (Nat.not_lt_zero _), fun hs => absurd hs List.not_mem_nil,
    fun ⟨_, hs⟩ _ => absurd hs List.not_mem_nil⟩

/-- A table that is read with the only loader. -/
def readTable : Table :=
  { relation := { item := { Item.free default .table (.ofCatalog "T") with loader := some ⟨0⟩ } } }

/-- Texts that are asked for again, by hand and by a load, in two periods, and one that is
asked for while the connection is lost and while it is refused. -/
def errands : List LoaderStep :=
  [.prepare "select 1", .load (.table readTable) .description, .prepare "select 1",
    .script false [] [] [], .prepare "select 2", .script true [] [⟨"select 2", "later"⟩] [],
    .prepare "select 2", .clear, .script true [] [] [], .prepare "select 2", .prepare "select 1"]

theorem errands_use : ∀ step ∈ errands, step.Uses ⟨0⟩ := by
  have own : readTable.item.ReadWith ⟨0⟩ := fun _ same => (Option.some.inj same).symm
  simp only [errands, List.forall_mem_cons]
  refine ⟨trivial, own, trivial, trivial, trivial, trivial, trivial, trivial, trivial, trivial,
    trivial, List.forall_mem_nil _⟩

/-- The loader after the errands. -/
def seasoned : LoaderRun := after ⟨0⟩ { world := (World.newLoader ⟨0⟩ oneConnection).2 } errands

/-- Four statements have been prepared for four texts, of which two were asked for again, and
the last two are in the cache. -/
theorem caches_of_steps_errands :
    oneConnection.Sound ∧ oneConnection.Serves ⟨0⟩ ∧ (∀ step ∈ errands, step.Uses ⟨0⟩) ∧
      seasoned.handed.map (·.handle.statement.index) = [3, 2, 0, 0] ∧
      (seasoned.world.catalogOf ⟨0⟩).prepared = 4 ∧
      (seasoned.world.loader ⟨0⟩).statements.length = 2 := by
  have served : oneConnection.Serves ⟨0⟩ := by decide
  have caches : seasoned.Caches ⟨0⟩ (World.newLoader ⟨0⟩ oneConnection).2 :=
    caches_of_steps oneConnection_sound served errands errands_use
  have current : seasoned.current = ["select 1", "select 2"] := by decide +kernel
  have past : seasoned.past = [["select 1", Relation.descriptionSql, "select 1"]] := by
    decide +kernel
  have handed : seasoned.handed.map (·.handle.statement.index) = [3, 2, 0, 0] := by
    decide +kernel
  refine ⟨oneConnection_sound, served, errands_use, handed, ?_, ?_⟩
  · rw [caches.prepared, current, past]
    decide +kernel
  · rw [caches.cached, current]
    decide +kernel

end LoaderRun

end MetaCatalog
