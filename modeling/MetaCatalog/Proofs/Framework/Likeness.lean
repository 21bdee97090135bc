import Mathlib.Data.List.Forall2
import MetaCatalog.Proofs.Framework.Bracket
import MetaCatalog.Proofs.Framework.Fetch

/-!
# Two runs that are alike

A `Likeness` says how two worlds may differ: in the identifiers of items and in where
new ones come from, and in the scripts of their catalogs as far as these give the same
replies. Everything else is the same in worlds that are alike (`Worlds`). Computations
run alike if they lead from worlds that are alike to worlds that are alike again
(`Runs`, and `Finds` for queries). What is put together from computations that run
alike does so too, and so it is enough to look at the primitives; among them every fetch
finds the same (`Fetches.finds`).
-/

namespace MetaCatalog

/-- What two runs need not have in common. -/
structure Likeness where
  /-- The identifiers of what is the same item. -/
  ids : Uuid → Uuid → Prop
  /-- The seed and the number of the next identifier. -/
  supplies : BitVec 64 × Nat → BitVec 64 × Nat → Prop
  /-- The replies that a catalog has. -/
  replies : List Reply → List Reply → Prop
  draw {s s' : BitVec 64} {n n' : Nat} : supplies (s, n) (s', n') →
    ids (Uuid.numbered s n) (Uuid.numbered s' n') ∧ supplies (s, n + 1) (s', n' + 1)
  reply {catalog : Catalog} {others : List Reply} : replies catalog.replies others →
    ∀ sql first, { catalog with replies := others }.reply? sql first = catalog.reply? sql first
  silent : replies [] []
  extend {some others : List Reply} (reply : Reply) : replies some others →
    replies (some ++ [reply]) (others ++ [reply])

/-- The outcomes are the same error, or values that are related. -/
inductive SameOutcome (R : α → β → Prop) : Except Error α → Except Error β → Prop
  | ok {a : α} {b : β} : R a b → SameOutcome R (.ok a) (.ok b)
  | error (e : Error) : SameOutcome R (.error e) (.error e)

theorem SameOutcome.refl (outcome : Except Error α) : SameOutcome Eq outcome outcome := by
  cases outcome with
  | ok a => exact .ok rfl
  | error e => exact .error e

/-- The answers are the same, and the objects that come with them are related. -/
structure SameAnswer (R : σ → τ → Prop) (r : α × σ) (r' : α × τ) : Prop where
  answer : r'.1 = r.1
  object : R r.2 r'.2

/-- Answers of yes or no. -/
theorem SameAnswer.cases {R : σ → τ → Prop} {r : Bool × σ} {r' : Bool × τ}
    (h : SameAnswer R r r') :
    (∃ s t, r = (true, s) ∧ r' = (true, t) ∧ R s t) ∨
      ∃ s t, r = (false, s) ∧ r' = (false, t) ∧ R s t := by
  obtain ⟨answer, s⟩ := r
  obtain ⟨answer', t⟩ := r'
  obtain ⟨rfl : answer' = answer, same⟩ := h
  cases answer' with
  | true => exact .inl ⟨s, t, rfl, rfl, same⟩
  | false => exact .inr ⟨s, t, rfl, rfl, same⟩

theorem SameAnswer.attempted {R : σ → τ → Prop} {r : Attempted σ} {r' : Attempted τ}
    (h : SameAnswer R r r') :
    (∃ e s t, r = (.error e, s) ∧ r' = (.error e, t) ∧ R s t) ∨
      ∃ s t, r = (.ok (), s) ∧ r' = (.ok (), t) ∧ R s t := by
  obtain ⟨outcome, s⟩ := r
  obtain ⟨outcome', t⟩ := r'
  obtain ⟨rfl : outcome' = outcome, same⟩ := h
  cases outcome' with
  | error e => exact .inl ⟨e, s, t, rfl, rfl, same⟩
  | ok _ => exact .inr ⟨s, t, rfl, rfl, same⟩

namespace Likeness

variable {L : Likeness} {w w' : World}

/-! ## Worlds -/

/-- The catalogs are the same but for their replies. -/
def Catalogs (L : Likeness) (catalog catalog' : Catalog) : Prop :=
  ∃ replies, L.replies catalog.replies replies ∧ catalog' = { catalog with replies }

/-- The same observers have heard of the same item. -/
structure Deliveries (L : Likeness) (delivery delivery' : Delivery) : Prop where
  subject : L.ids delivery.subject delivery'.subject
  receivers : delivery'.receivers = delivery.receivers

/-- The worlds are alike. -/
structure Worlds (L : Likeness) (w w' : World) : Prop where
  catalog (c : ConnectionId) : L.Catalogs (w.catalog c) (w'.catalog c)
  connections : w'.connections.next = w.connections.next
  loaders : w'.loaders = w.loaders
  statements : w'.statements = w.statements
  observers : w'.observers = w.observers
  deliveries : List.Forall₂ L.Deliveries w.deliveries w'.deliveries
  supply : L.supplies (w.seed, w.issued) (w'.seed, w'.issued)

namespace Worlds

theorem loader (h : L.Worlds w w') (l : LoaderId) : w'.loader l = w.loader l := by
  rw [World.loader, h.loaders]
  rfl

theorem statement (h : L.Worlds w w') (s : StatementId) : w'.statement s = w.statement s := by
  rw [World.statement, h.statements]
  rfl

theorem catalogOf (h : L.Worlds w w') (l : LoaderId) :
    L.Catalogs (w.catalogOf l) (w'.catalogOf l) := by
  rw [World.catalogOf, World.catalogOf, h.loader]
  exact h.catalog _

theorem setCatalog (h : L.Worlds w w') (c : ConnectionId) {catalog catalog' : Catalog}
    (same : L.Catalogs catalog catalog') :
    L.Worlds (w.setCatalog c catalog) (w'.setCatalog c catalog') := by
  refine { h with catalog := fun d => ?_, connections := ?_ }
  · have serves : w'.Serves d ↔ w.Serves d := by rw [World.Serves, World.Serves, h.connections]
    rw [World.catalog_setCatalog, World.catalog_setCatalog]
    by_cases changed : c = d ∧ w.Serves d
    · rw [if_pos changed, if_pos ⟨changed.1, serves.mpr changed.2⟩]
      exact same
    · rw [if_neg changed, if_neg fun there => changed ⟨there.1, serves.mp there.2⟩]
      exact h.catalog d
  · simpa only [World.setCatalog, Arena.next_modify] using h.connections

theorem modifyLoader (h : L.Worlds w w') (l : LoaderId) (f : Loader → Loader) :
    L.Worlds (w.modifyLoader l f) (w'.modifyLoader l f) :=
  { h with loaders := congrArg (Arena.modify · l.index f) h.loaders }

theorem setStatement (h : L.Worlds w w') (s : StatementId) (statement : Statement) :
    L.Worlds (w.setStatement s statement) (w'.setStatement s statement) :=
  { h with statements := congrArg (Arena.modify · s.index fun _ => statement) h.statements }

theorem newStatement (h : L.Worlds w w') (statement : Statement) :
    L.Worlds { w with statements := w.statements.push statement }
      { w' with statements := w'.statements.push statement } :=
  { h with statements := congrArg (Arena.push · statement) h.statements }

theorem prepared (h : L.Worlds w w') (l : LoaderId) (sql : String) :
    L.Worlds (w.prepared l sql) (w'.prepared l sql) := by
  obtain ⟨replies, same, catalog⟩ := h.catalog (w.loader l).connection
  have counted : L.Catalogs
      { w.catalog (w.loader l).connection with
        prepared := (w.catalog (w.loader l).connection).prepared + 1 }
      { w'.catalog (w.loader l).connection with
        prepared := (w'.catalog (w.loader l).connection).prepared + 1 } := by
    rw [catalog]
    exact ⟨replies, same, rfl⟩
  have extended := (h.setCatalog (w.loader l).connection counted).newStatement
    { connection := (w.loader l).connection, sql }
  have cached := extended.modifyLoader l fun x =>
    { x with statements := (sql, ⟨w.statements.next⟩) :: x.statements }
  rw [← h.statements] at cached
  rw [World.prepared, World.prepared, h.loader, ← h.statements]
  exact cached

end Worlds

/-! ## Computations -/

/-- From worlds that are alike the computations lead to worlds that are alike, with
results that are related. -/
def Runs (L : Likeness) (m : Engine α) (m' : Engine β) (R : α → β → Prop) : Prop :=
  ∀ ⦃w w' : World⦄, L.Worlds w w' → R (m w).1 (m' w').1 ∧ L.Worlds (m w).2 (m' w').2

/-- The queries run alike, with the same outcome. -/
def Finds (L : Likeness) (m : Query α) (m' : Query β) (R : α → β → Prop) : Prop :=
  L.Runs m.run m'.run (SameOutcome R)

namespace Runs

variable {R : α → β → Prop}

theorem pure {a : α} {b : β} (h : R a b) : L.Runs (Pure.pure a) (Pure.pure b) R :=
  fun _ _ alike => ⟨h, alike⟩

theorem bind {m : Engine α} {m' : Engine β} {f : α → Engine γ} {f' : β → Engine δ}
    {S : γ → δ → Prop} (hm : L.Runs m m' R) (hf : ∀ a b, R a b → L.Runs (f a) (f' b) S) :
    L.Runs (m >>= f) (m' >>= f') S := fun _ _ alike =>
  let ⟨first, between⟩ := hm alike
  hf _ _ first between

theorem map {m : Engine α} {m' : Engine β} {f : α → γ} {f' : β → δ} {S : γ → δ → Prop}
    (hm : L.Runs m m' R) (hf : ∀ a b, R a b → S (f a) (f' b)) :
    L.Runs (do Pure.pure (f (← m))) (do Pure.pure (f' (← m'))) S :=
  hm.bind fun a b h => .pure (hf a b h)

theorem mono {m : Engine α} {m' : Engine β} {S : α → β → Prop} (hm : L.Runs m m' R)
    (h : ∀ a b, R a b → S a b) : L.Runs m m' S :=
  fun _ _ alike => ⟨h _ _ (hm alike).1, (hm alike).2⟩

/-- Lists are traversed alike if their elements are. -/
theorem mapM {f : α → Engine γ} {f' : β → Engine δ} {S : γ → δ → Prop}
    (hf : ∀ a b, R a b → L.Runs (f a) (f' b) S) {as : List α} {bs : List β}
    (h : List.Forall₂ R as bs) : L.Runs (as.mapM f) (bs.mapM f') (List.Forall₂ S) := by
  induction h with
  | nil => exact .pure .nil
  | cons head _ ih =>
    rw [List.mapM_cons, List.mapM_cons]
    exact (hf _ _ head).bind fun _ _ first => ih.map fun _ _ rest => .cons first rest

/-- An operation on the first element with a property, if it is the same one in both
lists. -/
theorem onFirst {p : α → Bool} {p' : β → Bool} {operation : α → Engine (γ × α)}
    {operation' : β → Engine (γ × β)} (hp : ∀ a b, R a b → p' b = p a)
    (ho : ∀ a b, R a b → L.Runs (operation a) (operation' b) (SameAnswer R))
    {as : List α} {bs : List β} (h : List.Forall₂ R as bs) :
    L.Runs (Database.onFirst p operation as) (Database.onFirst p' operation' bs)
      (SameAnswer (List.Forall₂ R)) := by
  induction h with
  | nil => exact .pure ⟨rfl, .nil⟩
  | cons head tail ih =>
    rw [Database.onFirst, Database.onFirst, hp _ _ head]
    split
    · exact (ho _ _ head).map fun _ _ first =>
        ⟨congrArg some first.answer, .cons first.object tail⟩
    · exact ih.map fun _ _ rest => ⟨rest.answer, .cons head rest.object⟩

end Runs

namespace Finds

variable {R : α → β → Prop}

theorem pure {a : α} {b : β} (h : R a b) : L.Finds (Pure.pure a) (Pure.pure b) R :=
  Runs.pure (.ok h)

theorem ofExcept (outcome : Except Error α) :
    L.Finds (Query.ofExcept outcome) (Query.ofExcept outcome) Eq :=
  Runs.pure (.refl outcome)

theorem ofSame {outcome : Except Error α} {outcome' : Except Error β}
    (h : SameOutcome R outcome outcome') :
    L.Finds (Query.ofExcept outcome) (Query.ofExcept outcome') R :=
  Runs.pure h

theorem lift {m : Engine α} {m' : Engine β} (hm : L.Runs m m' R) :
    L.Finds (liftM m) (liftM m') R :=
  hm.map fun _ _ h => .ok h

theorem bind {m : Query α} {m' : Query β} {f : α → Query γ} {f' : β → Query δ}
    {S : γ → δ → Prop} (hm : L.Finds m m' R) (hf : ∀ a b, R a b → L.Finds (f a) (f' b) S) :
    L.Finds (m >>= f) (m' >>= f') S := by
  intro w w' alike
  obtain ⟨outcome, between⟩ := hm alike
  rw [Query.run_bind, Query.run_bind]
  rcases hr : m.run w with ⟨x, v⟩
  rcases hr' : m'.run w' with ⟨x', v'⟩
  rw [show m.run w = _ from hr, show m'.run w' = _ from hr'] at outcome between
  cases outcome with
  | ok first => exact hf _ _ first between
  | error e => exact ⟨.error e, between⟩

end Finds

/-! ## Primitives -/

theorem newId_runs : L.Runs World.newId World.newId L.ids := fun _ _ alike =>
  let ⟨id, supply⟩ := L.draw alike.supply
  ⟨id, { alike with supply }⟩

theorem newLoader_runs (c : ConnectionId) : L.Runs (World.newLoader c) (World.newLoader c) Eq :=
  fun _ _ alike => ⟨congrArg (fun loaders => LoaderId.mk loaders.next) alike.loaders.symm,
    { alike with
      loaders := congrArg (fun loaders => loaders.push { connection := c }) alike.loaders }⟩

theorem clearStatements_runs (l : LoaderId) : L.Runs l.clearStatements l.clearStatements Eq :=
  fun _ _ alike => ⟨rfl, alike.modifyLoader l _⟩

theorem connect_runs {catalog catalog' : Catalog} (same : L.Catalogs catalog catalog') :
    L.Runs (World.connect catalog) (World.connect catalog') Eq := by
  intro w w' alike
  refine ⟨congrArg ConnectionId.mk alike.connections.symm, { alike with
    catalog := fun c => ?_
    connections := ?_ }⟩
  · rw [World.catalog_connect, World.catalog_connect, alike.connections]
    split
    · exact same
    · exact alike.catalog c
  · show (w'.connections.push catalog').next = (w.connections.push catalog).next
    rw [Arena.next_push, Arena.next_push, alike.connections]

theorem start_same {catalog catalog' : Catalog} (h : L.Catalogs catalog catalog') :
    SameOutcome L.Catalogs catalog.startTransaction catalog'.startTransaction := by
  obtain ⟨replies, same, rfl⟩ := h
  unfold Catalog.startTransaction
  by_cases active : catalog.inTransaction = true
  · rw [if_pos active, if_pos active]
    exact .error _
  · rw [if_neg active, if_neg active]
    exact .ok ⟨replies, same, rfl⟩

theorem commit_same {catalog catalog' : Catalog} (h : L.Catalogs catalog catalog') :
    SameOutcome L.Catalogs catalog.commit catalog'.commit := by
  obtain ⟨replies, same, rfl⟩ := h
  unfold Catalog.commit
  by_cases active : catalog.inTransaction = true
  · rw [if_pos active, if_pos active]
    exact .ok ⟨replies, same, rfl⟩
  · rw [if_neg active, if_neg active]
    exact .error _

theorem rollback_same {catalog catalog' : Catalog} (h : L.Catalogs catalog catalog') :
    L.Catalogs catalog.rollback catalog'.rollback := by
  obtain ⟨replies, same, rfl⟩ := h
  exact ⟨replies, same, rfl⟩

theorem finish_same {catalog catalog' : Catalog} (h : L.Catalogs catalog catalog') :
    L.Catalogs (LoaderId.finish catalog) (LoaderId.finish catalog') := by
  have committed := commit_same h
  unfold LoaderId.finish
  generalize catalog.commit = outcome at committed ⊢
  generalize catalog'.commit = outcome' at committed ⊢
  cases committed with
  | ok same => exact same
  | error e => exact rollback_same h

/-- Running a query is where the replies matter. -/
theorem execute_same {catalog catalog' : Catalog} (h : L.Catalogs catalog catalog') (sql : String)
    (parameters : Parameters) :
    (catalog'.execute sql parameters).1 = (catalog.execute sql parameters).1 ∧
      L.Catalogs (catalog.execute sql parameters).2 (catalog'.execute sql parameters).2 := by
  obtain ⟨replies, same, rfl⟩ := h
  unfold Catalog.execute
  by_cases active : catalog.inTransaction = true
  · rw [if_pos active, if_pos active]
    dsimp only
    cases Catalog.refusal? catalog.executeRefusals sql with
    | some reason => exact ⟨rfl, replies, same, rfl⟩
    | none =>
      exact ⟨congrArg (fun reply => Except.ok (reply.elim [] Reply.rows))
        (L.reply same sql parameters.first?), replies, same, rfl⟩
  · rw [if_neg active, if_neg active]
    exact ⟨rfl, replies, same, rfl⟩

theorem enter_finds (l : LoaderId) : L.Finds l.enter l.enter Eq := by
  intro w w' alike
  rw [LoaderId.run_enter, LoaderId.run_enter, alike.loader]
  have deeper {w w' : World} (alike : L.Worlds w w') :
      SameOutcome Eq (.ok () : Except Error Unit) (.ok ()) ∧
        L.Worlds (w.changeDepth l (· + 1)) (w'.changeDepth l (· + 1)) :=
    ⟨.ok rfl, alike.modifyLoader l _⟩
  split
  · have started := start_same (alike.catalogOf l)
    generalize (w.catalogOf l).startTransaction = start at started ⊢
    generalize (w'.catalogOf l).startTransaction = start' at started ⊢
    cases started with
    | ok same => exact deeper (alike.setCatalog _ same)
    | error e => exact ⟨.error e, alike⟩
  · exact deeper alike

theorem leave_runs (l : LoaderId) : L.Runs l.leave l.leave Eq := by
  intro w w' alike
  rw [LoaderId.run_leave, LoaderId.run_leave, alike.loader]
  refine ⟨rfl, ?_⟩
  dsimp only
  split
  · exact (alike.modifyLoader l _).setCatalog _ (finish_same (alike.catalogOf l))
  · exact alike.modifyLoader l _

theorem prepare_finds (l : LoaderId) (sql : String) :
    L.Finds (l.prepare sql) (l.prepare sql) Eq := by
  intro w w' alike
  obtain ⟨replies, same, catalog⟩ := alike.catalogOf l
  rw [LoaderId.run_prepare, LoaderId.run_prepare, alike.loader, catalog, alike.statements]
  dsimp only
  split
  · split
    · exact ⟨.ok rfl, alike⟩
    · split
      · exact ⟨.error _, alike⟩
      · exact ⟨.ok rfl, alike.prepared l sql⟩
  · exact ⟨.error _, alike⟩

theorem bind_finds (handle : Handle) (position : Nat) (value : Value) :
    L.Finds (handle.bind position value) (handle.bind position value) Eq := by
  cases position with
  | zero => exact fun _ _ alike => ⟨.error _, alike⟩
  | succ position =>
    intro w w' alike
    rw [Handle.run_bind w handle (Nat.succ_pos position),
      Handle.run_bind w' handle (Nat.succ_pos position), alike.statement]
    exact ⟨.ok rfl, alike.setStatement _ _⟩

theorem bindFrom_finds (handle : Handle) (values : List Value) (position : Nat) :
    L.Finds (handle.bindFrom position values) (handle.bindFrom position values) Eq := by
  induction values generalizing position with
  | nil => exact .pure rfl
  | cons value rest ih =>
    exact (bind_finds handle position value).bind fun _ _ _ => ih (position + 1)

theorem execute_finds (handle : Handle) : L.Finds handle.execute handle.execute Eq := by
  intro w w' alike
  rw [Handle.run_execute, Handle.run_execute, alike.statement, alike.loader]
  dsimp only
  split
  · exact ⟨.error _, alike⟩
  · generalize w.statement handle.statement = statement
    have executed := execute_same (alike.catalog statement.connection) statement.sql
      statement.parameters
    generalize (w.catalog statement.connection).execute _ _ = run at executed ⊢
    generalize (w'.catalog statement.connection).execute _ _ = run' at executed ⊢
    obtain ⟨_, _⟩ := run
    obtain ⟨outcome, _⟩ := run'
    obtain ⟨rfl, catalog⟩ := executed
    cases outcome with
    | error e => exact ⟨.error e, alike.setCatalog _ catalog⟩
    | ok rows => exact ⟨.ok rfl, (alike.setCatalog _ catalog).setStatement _ _⟩

theorem query_finds (l : LoaderId) (sql : String) (values : List Value) :
    L.Finds (l.query sql values) (l.query sql values) Eq :=
  (prepare_finds l sql).bind fun handle _ same => same ▸
    (bindFrom_finds handle values 1).bind fun _ _ _ =>
      (execute_finds handle).bind fun _ _ _ => .pure rfl

theorem withTransaction_finds (l : LoaderId) {body : Query α} (h : L.Finds body body Eq) :
    L.Finds (l.withTransaction body) (l.withTransaction body) Eq :=
  (enter_finds l).bind fun _ _ _ => (Finds.lift h).bind fun _ _ same =>
    (Finds.lift (leave_runs l)).bind fun _ _ _ => .ofSame same

theorem foldRows_finds (handle : Handle) (step : σ → Row → Except Error σ) (state : σ) :
    L.Finds (handle.foldRows step state) (handle.foldRows step state) Eq := by
  intro w w' alike
  rw [Handle.run_foldRows, Handle.run_foldRows, alike.statement]
  exact ⟨.refl _, alike.setStatement _ _⟩

theorem readRow_finds (handle : Handle) (read : Row → Except Error α) :
    L.Finds (handle.readRow? read) (handle.readRow? read) Eq := by
  intro w w' alike
  rw [Handle.run_readRow, Handle.run_readRow, alike.statement]
  split
  · exact ⟨.ok rfl, alike.setStatement _ _⟩
  · exact ⟨.refl _, alike.setStatement _ _⟩

end Likeness

/-- Every fetch finds the same in both worlds. -/
theorem Fetches.finds {L : Likeness} {sqls : List String} {m : LoaderId → Query α}
    (h : Fetches sqls m) (l : LoaderId) : L.Finds (m l) (m l) Eq := by
  induction h with
  | pure a => exact .pure rfl
  | fold state =>
    exact (L.query_finds l _ _).bind fun handle _ same =>
      same ▸ L.foldRows_finds handle _ state
  | first => exact (L.query_finds l _ _).bind fun handle _ same => same ▸ L.readRow_finds handle _
  | bind _ _ ih ihf => exact ih.bind fun a _ same => same ▸ ihf a

end MetaCatalog
