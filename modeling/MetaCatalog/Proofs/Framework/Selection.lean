import MetaCatalog.Proofs.Framework.Likeness

/-!
# Which reply a query gets

A catalog that is asked goes through the replies that name a value and only then through
the others (`Catalog.reply?_eq_chosen`). So it is no matter how the two kinds are
interleaved in its script: scripts with the same replies of each kind, in the same order,
answer alike (`Likeness.interleaved`). A statement that was executed hands out all rows of
the reply that was chosen, each once, in their order, whatever it had handed out before
(`Handle.execute_handsOut`).
-/

namespace MetaCatalog

/-! ## Replies -/

namespace Reply

/-- The replies that name a value, in their order. -/
def filtered (replies : List Reply) : List Reply := replies.filter (·.first.isSome)

/-- The replies that take any parameter, in their order. -/
def unfiltered (replies : List Reply) : List Reply := replies.filter (·.first.isNone)

/-- The reply to a query with the given first parameter: the first one that names this
value, or else the first one that takes any parameter. -/
def chosen? (replies : List Reply) (sql : String) (first : Option Value) : Option Reply :=
  ((filtered replies).find? fun r =>
      Text.includes sql r.fragment && Catalog.Reply.wants r first).or
    ((unfiltered replies).find? fun r => Text.includes sql r.fragment)

/-- The same replies name a value, in the same order, and the same ones take any parameter. -/
structure SameByKind (replies replies' : List Reply) : Prop where
  filtered : filtered replies' = filtered replies
  unfiltered : unfiltered replies' = unfiltered replies

/-- A reply that is wanted names a value. -/
theorem isSome_of_wants {reply : Reply} {first : Option Value}
    (h : Catalog.Reply.wants reply first = true) : reply.first.isSome = true := by
  cases named : reply.first with
  | some wanted => rfl
  | none => simp only [Catalog.Reply.wants, named, Bool.false_eq_true] at h

namespace SameByKind

variable {replies replies' : List Reply}

theorem chosen (h : SameByKind replies replies') (sql : String) (first : Option Value) :
    chosen? replies' sql first = chosen? replies sql first := by
  rw [chosen?, chosen?, h.filtered, h.unfiltered]

theorem append (h : SameByKind replies replies') (before after : List Reply) :
    SameByKind (before ++ replies ++ after) (before ++ replies' ++ after) := by
  obtain ⟨filtered, unfiltered⟩ := h
  unfold Reply.filtered at filtered
  unfold Reply.unfiltered at unfiltered
  constructor
  · simp only [Reply.filtered, List.filter_append, filtered]
  · simp only [Reply.unfiltered, List.filter_append, unfiltered]

end SameByKind

end Reply

/-- What the catalog does is to choose by kind: a search among all replies for a fragment is
one among the replies of the kind. -/
theorem Catalog.reply?_eq_chosen (catalog : Catalog) (sql : String) (first : Option Value) :
    catalog.reply? sql first = Reply.chosen? catalog.replies sql first := by
  unfold Catalog.reply? Reply.chosen? Reply.filtered Reply.unfiltered
  dsimp only
  simp only [List.find?_filter]
  congr 2
  · funext r
    cases wanted : Catalog.Reply.wants r first with
    | false => simp only [Bool.false_eq_true, and_false, Bool.and_false]
    | true => simp only [Reply.isSome_of_wants wanted, and_true, Bool.and_true, true_and]
  · funext r
    simp only [and_comm]

/-- A query that is run gets the rows of the reply that is chosen, if there is one. -/
theorem Catalog.execute_rows {catalog catalog' : Catalog} {sql : String} {parameters : Parameters}
    {rows : List Row} (h : catalog.execute sql parameters = (.ok rows, catalog')) :
    rows = (Reply.chosen? catalog.replies sql parameters.first?).elim [] (·.rows) := by
  unfold Catalog.execute at h
  split at h
  · dsimp only at h
    split at h
    · exact absurd (Prod.mk.inj h).1 nofun
    · rw [← Catalog.reply?_eq_chosen]
      exact (Except.ok.inj (Prod.mk.inj h).1).symm
  · exact absurd (Prod.mk.inj h).1 nofun

/-- Worlds whose catalogs have the same replies of each kind, and that are the same
otherwise. -/
def Likeness.interleaved : Likeness where
  ids := Eq
  supplies := Eq
  replies := Reply.SameByKind
  draw {s s' n n'} h := by
    obtain ⟨rfl, rfl⟩ := Prod.mk.inj h
    exact ⟨rfl, rfl⟩
  reply {catalog others} h sql first := by
    rw [Catalog.reply?_eq_chosen, Catalog.reply?_eq_chosen]
    exact h.chosen sql first
  silent := ⟨rfl, rfl⟩
  extend {some others} reply h := h.append [] [reply]

/-! ## Rows -/

/-- A computation that does not touch a statement. -/
def Avoids (s : StatementId) (m : Engine Unit) : Prop :=
  ∀ w : World, w.Prepares s → (m w).2.Prepares s ∧ (m w).2.statement s = w.statement s

/-- Fetches a row after each of several computations. -/
def Handle.fetchAfter (handle : Handle) : List (Engine Unit) → Query (List (Option Row))
  | [] => pure []
  | other :: rest => do
    let _ ← liftM other
    let row ← handle.readRow? .ok
    pure (row :: (← handle.fetchAfter rest))

/-- Whoever fetches from the statement of a handle gets the rows, each once, in their order,
and no row after them. -/
structure World.HandsOut (w : World) (handle : Handle) (rows : List Row) : Prop where
  /-- Row by row, whatever is done to other things in between. -/
  fetched (others : List (Engine Unit)) : (∀ m ∈ others, Avoids handle.statement m) →
    ((handle.fetchAfter others).run w).1 = .ok ((rows.map some).takeD others.length none)
  /-- All at once. -/
  folded {σ : Type} (step : σ → Row → Except Error σ) (state : σ) :
    ((handle.foldRows step state).run w).1 = rows.foldlM step state

namespace Handle

open World

/-- By induction on the fetches: the statement still has the rows that were not fetched. -/
theorem fetchAfter_rows {w : World} {handle : Handle} (h : w.Prepares handle.statement)
    (others : List (Engine Unit)) (spare : ∀ m ∈ others, Avoids handle.statement m) :
    ((handle.fetchAfter others).run w).1 =
      .ok (((w.statement handle.statement).rows.map some).takeD others.length none) := by
  induction others generalizing w with
  | nil => rfl
  | cons other rest ih =>
    obtain ⟨there, same⟩ := spare other List.mem_cons_self w h
    have spared : ∀ m ∈ rest, Avoids handle.statement m :=
      fun m hm => spare m (List.mem_cons_of_mem other hm)
    rw [fetchAfter, Query.run_bind_ok (Query.run_lift other w), Query.run_bind, run_readRow, same]
    generalize (other w).2 = between at there
    -- The row that was fetched, and a world whose statement has the rest.
    have next {row : Option Row} {statement : Statement} (left : List Row)
        (hl : statement.rows = left) :
        ((do pure (row :: (← handle.fetchAfter rest)) : Query (List (Option Row))).run
          (between.setStatement handle.statement statement)).1 =
          .ok (row :: (left.map some).takeD rest.length none) := by
      have stays : (between.setStatement handle.statement statement).Prepares handle.statement :=
        (prepares_setStatement ..).mpr there
      have fetched := ih stays spared
      rw [statement_setStatement_self there, hl] at fetched
      rw [Query.run_bind]
      generalize (handle.fetchAfter rest).run _ = run at fetched
      obtain ⟨outcome, last⟩ := run
      obtain rfl : outcome = _ := fetched
      rfl
    cases rows : (w.statement handle.statement).rows with
    | nil => exact next [] rows
    | cons row more => exact next more rfl

/-- A statement that was executed has the rows of the reply that was chosen, and no others. -/
theorem execute_handsOut {w w' : World} {handle : Handle} (h : w.Prepares handle.statement)
    (executed : handle.execute.run w = (.ok (), w')) :
    let statement := w.statement handle.statement
    let catalog := w.catalog statement.connection
    w'.HandsOut handle
      ((Reply.chosen? catalog.replies statement.sql statement.parameters.first?).elim []
        (·.rows)) := by
  intro statement catalog
  rw [run_execute] at executed
  dsimp only at executed
  split at executed
  · exact absurd (Prod.mk.inj executed).1 nofun
  · rcases ran : catalog.execute statement.sql statement.parameters with ⟨_ | rows, after⟩
    · rw [ran] at executed
      exact absurd (Prod.mk.inj executed).1 nofun
    · rw [ran] at executed
      rw [← Catalog.execute_rows ran, ← (Prod.mk.inj executed).2]
      have there : ((w.setCatalog statement.connection after).setStatement handle.statement
          (statement.withRows rows)).Prepares handle.statement :=
        (prepares_setStatement ..).mpr ((prepares_setCatalog ..).mpr h)
      have holds : (World.statement ((w.setCatalog statement.connection after).setStatement
          handle.statement (statement.withRows rows)) handle.statement).rows = rows :=
        congrArg Statement.rows
          (statement_setStatement_self ((prepares_setCatalog ..).mpr h) _)
      refine ⟨fun others spare => ?_, fun step state => ?_⟩
      · rw [fetchAfter_rows there others spare, holds]
      · rw [run_foldRows, Statement.drain, holds]
        exact Statement.foldRows_eq_foldlM step state rows

end Handle

end MetaCatalog
