import MetaCatalog.Proofs.Framework.Engine

/-!
# What a read of the catalog does

`World.Sound` says how loaders, connections and cached statements hang
together. Every primitive of a loader keeps it, whoever uses the primitive.
`run_prepare`, `run_execute` and `run_query` say all that preparing and running
a statement can do, and `query_reads` that a query inside a transaction is a
mere read (`World.Reads`).
-/

namespace MetaCatalog

/-- A catalog without what a read leaves in it. -/
def Catalog.still (catalog : Catalog) : Catalog := { catalog with prepared := 0, journal := [] }

namespace World

/-- What a read does to the world: loaders settle, and the catalogs change only
by what reads leave in them. -/
structure Reads (w w' : World) : Prop extends Settles w w' where
  still (c : ConnectionId) : (w'.catalog c).still = (w.catalog c).still

theorem Reads.refl (w : World) : w.Reads w := ⟨.refl w, fun _ => rfl⟩

theorem Reads.trans {w w' w'' : World} (h : w.Reads w') (h' : w'.Reads w'') : w.Reads w'' :=
  ⟨h.toSettles.trans h'.toSettles, fun c => (h'.still c).trans (h.still c)⟩

theorem reads_setStatement (w : World) (s : StatementId) (statement : Statement) :
    w.Reads (w.setStatement s statement) :=
  ⟨settles_setStatement w s statement, fun _ => rfl⟩

theorem reads_setCatalog (w : World) (c : ConnectionId) {catalog : Catalog}
    (h : catalog.still = (w.catalog c).still) : w.Reads (w.setCatalog c catalog) := by
  refine ⟨settles_setCatalog w c catalog, fun d => ?_⟩
  rw [catalog_setCatalog]
  split
  · next hd => rw [h, hd.1]
  · rfl

/-- Who observes, what was delivered and which identifiers are in use is no
matter of the catalog. -/
theorem reads_aside (w : World) (observers : List ObserverId) (deliveries : List Delivery)
    (issued : Nat) : w.Reads { w with observers, deliveries, issued } :=
  ⟨⟨⟨fun _ _ => rfl, fun _ => id, fun _ => id, fun _ => id, fun _ _ _ => id⟩, fun _ => rfl⟩,
    fun _ => rfl⟩

/-- The loaders there are work on connections there are. A cached statement is
one of the loader's own connection, for the text it is filed under, and belongs
to one loader only. -/
structure Sound (w : World) : Prop where
  served (l : LoaderId) : w.Knows l → w.Serves (w.loader l).connection
  filed {l : LoaderId} {sql : String} {s : StatementId} :
    (sql, s) ∈ (w.loader l).statements →
      w.Prepares s ∧ (w.statement s).connection = (w.loader l).connection ∧
        (w.statement s).sql = sql
  apart {l k : LoaderId} {s : StatementId} : w.Caches l s → w.Caches k s → l = k

/-- Only a loader of the world has statements. -/
theorem Caches.knows {w : World} {l : LoaderId} {s : StatementId} (h : w.Caches l s) :
    w.Knows l := by
  obtain ⟨sql, h⟩ := h
  refine Classical.byContradiction fun hn => ?_
  rw [loader_of_not_knows hn] at h
  exact List.not_mem_nil h

theorem Sound.setCatalog {w : World} (h : w.Sound) (c : ConnectionId) (catalog : Catalog) :
    (w.setCatalog c catalog).Sound :=
  ⟨fun l hl => (serves_setCatalog ..).mpr (h.served l hl), fun hs => h.filed hs,
    fun hl hk => h.apart hl hk⟩

/-- A statement may get other parameters and rows. -/
theorem Sound.setStatement {w : World} (h : w.Sound) {s : StatementId} {statement : Statement}
    (hc : statement.connection = (w.statement s).connection)
    (hq : statement.sql = (w.statement s).sql) : (w.setStatement s statement).Sound := by
  refine ⟨h.served, fun {l sql t} ht => ?_, fun hl hk => h.apart hl hk⟩
  obtain ⟨hp, htc, htq⟩ := h.filed (l := l) ht
  refine ⟨(prepares_setStatement ..).mpr hp, ?_⟩
  rw [statement_setStatement]
  split
  · next hst => exact ⟨hc.trans (hst.1 ▸ htc), hq.trans (hst.1 ▸ htq)⟩
  · exact ⟨htc, htq⟩

/-- A loader may change its depth and lose statements. -/
theorem Sound.modifyLoader {w : World} (h : w.Sound) (l : LoaderId) {f : Loader → Loader}
    (hc : ∀ x, (f x).connection = x.connection) (hs : ∀ x, (f x).statements ⊆ x.statements) :
    (w.modifyLoader l f).Sound := by
  have connection (k : LoaderId) :
      ((w.modifyLoader l f).loader k).connection = (w.loader k).connection := by
    rw [loader_modifyLoader]
    split
    · exact hc _
    · rfl
  have statements (k : LoaderId) :
      ((w.modifyLoader l f).loader k).statements ⊆ (w.loader k).statements := by
    rw [loader_modifyLoader]
    split
    · exact hs _
    · exact List.Subset.refl _
  have caches {k : LoaderId} {s : StatementId} : (w.modifyLoader l f).Caches k s → w.Caches k s :=
    fun ⟨sql, hk⟩ => ⟨sql, statements k hk⟩
  refine ⟨fun k hk => ?_, fun {k sql s} hk => ?_, fun hk hm => h.apart (caches hk) (caches hm)⟩
  · rw [connection]
    exact h.served k ((knows_modifyLoader ..).mp hk)
  · rw [connection]
    exact h.filed (statements k hk)

/-! ## New loaders and cleared caches -/

theorem loader_newLoader (w : World) (c : ConnectionId) (k : LoaderId) :
    (World.newLoader c w).2.loader k =
      if k = ⟨w.loaders.next⟩ then { connection := c } else w.loader k := by
  rcases k with ⟨i⟩
  simp only [World.newLoader, World.loader, Arena.get_push, LoaderId.mk.injEq]

theorem knows_newLoader (w : World) (c : ConnectionId) (k : LoaderId) :
    (World.newLoader c w).2.Knows k ↔ k = ⟨w.loaders.next⟩ ∨ w.Knows k := by
  rcases k with ⟨i⟩
  show i < (w.loaders.push _).next ↔ _
  rw [Arena.next_push, LoaderId.mk.injEq]
  show _ ↔ i = w.loaders.next ∨ i < w.loaders.next
  omega

theorem not_knows_next (w : World) : ¬ w.Knows ⟨w.loaders.next⟩ := Nat.lt_irrefl _

/-- A new loader differs from none only by its connection. -/
theorem settles_newLoader (w : World) (c : ConnectionId) :
    w.Settles (World.newLoader c w).2 := by
  have new : w.loader ⟨w.loaders.next⟩ = default := loader_of_not_knows (not_knows_next w)
  refine ⟨⟨fun k hk => ?_, fun k hk => (knows_newLoader w c k).mpr (.inr hk), fun _ => id,
    fun _ => id, fun k s _ => ?_⟩, fun k => ?_⟩
  · rw [loader_newLoader, if_neg]
    rintro rfl
    exact not_knows_next w hk
  · rintro ⟨sql, hs⟩
    refine ⟨sql, ?_⟩
    rw [loader_newLoader] at hs
    split at hs
    · exact absurd hs List.not_mem_nil
    · exact hs
  · rw [loader_newLoader]
    split
    · next hk =>
      rw [hk, new]
      rfl
    · rfl

theorem Sound.newLoader {w : World} (h : w.Sound) {c : ConnectionId} (hc : w.Serves c) :
    (World.newLoader c w).2.Sound := by
  have old {k : LoaderId} {sql : String} {s : StatementId}
      (hs : (sql, s) ∈ ((World.newLoader c w).2.loader k).statements) :
      (World.newLoader c w).2.loader k = w.loader k := by
    rw [loader_newLoader] at hs ⊢
    split at hs
    · exact absurd hs List.not_mem_nil
    · next hk => rw [if_neg hk]
  refine ⟨fun k hk => ?_, fun {k sql s} hs => ?_, fun {k m s} => ?_⟩
  · rw [loader_newLoader]
    split
    · exact hc
    · next hn => exact h.served k (((knows_newLoader w c k).mp hk).resolve_left hn)
  · have same := old hs
    rw [same] at hs ⊢
    exact h.filed hs
  · rintro ⟨sql, hk⟩ ⟨sql', hm⟩
    rw [old hk] at hk
    rw [old hm] at hm
    exact h.apart ⟨sql, hk⟩ ⟨sql', hm⟩

theorem catalog_connect (w : World) (catalog : Catalog) (c : ConnectionId) :
    (World.connect catalog w).2.catalog c =
      if c = ⟨w.connections.next⟩ then catalog else w.catalog c := by
  rcases c with ⟨i⟩
  simp only [World.connect, World.catalog, Arena.get_push, ConnectionId.mk.injEq]

theorem serves_connect (w : World) (catalog : Catalog) (c : ConnectionId) :
    (World.connect catalog w).2.Serves c ↔ c = ⟨w.connections.next⟩ ∨ w.Serves c := by
  rcases c with ⟨i⟩
  show i < (w.connections.push _).next ↔ _
  rw [Arena.next_push, ConnectionId.mk.injEq]
  show _ ↔ i = w.connections.next ∨ i < w.connections.next
  omega

theorem settles_connect (w : World) (catalog : Catalog) :
    w.Settles (World.connect catalog w).2 :=
  ⟨⟨fun _ _ => rfl, fun _ => id, fun c hc => (serves_connect w catalog c).mpr (.inr hc),
    fun _ => id, fun _ _ _ => id⟩, fun _ => rfl⟩

theorem Sound.connect {w : World} (h : w.Sound) (catalog : Catalog) :
    (World.connect catalog w).2.Sound :=
  ⟨fun l hl => (serves_connect w catalog _).mpr (.inr (h.served l hl)), h.filed, h.apart⟩

theorem settles_clearStatements (w : World) (l : LoaderId) :
    w.Settles (l.clearStatements w).2 :=
  settles_modifyLoader w l (fun _ => rfl) (fun _ => rfl) fun _ => List.nil_subset _

theorem Sound.clearStatements {w : World} (h : w.Sound) (l : LoaderId) :
    (l.clearStatements w).2.Sound :=
  h.modifyLoader l (fun _ => rfl) fun _ => List.nil_subset _

/-! ## Preparing -/

/-- The world after a loader has prepared a query for the first time. -/
def prepared (w : World) (l : LoaderId) (sql : String) : World :=
  let connection := (w.loader l).connection
  let catalog := w.catalog connection
  let counted := w.setCatalog connection { catalog with prepared := catalog.prepared + 1 }
  let extended := { counted with statements := counted.statements.push { connection, sql } }
  extended.modifyLoader l fun x =>
    { x with statements := (sql, ⟨w.statements.next⟩) :: x.statements }

variable {w : World} {l : LoaderId} {sql : String}

theorem loader_prepared (k : LoaderId) :
    (w.prepared l sql).loader k =
      if l = k ∧ w.Knows k then
        { w.loader k with statements := (sql, ⟨w.statements.next⟩) :: (w.loader k).statements }
      else w.loader k :=
  loader_modifyLoader ..

theorem statement_prepared (s : StatementId) :
    (w.prepared l sql).statement s =
      if s = ⟨w.statements.next⟩ then { connection := (w.loader l).connection, sql }
      else w.statement s := by
  rcases s with ⟨i⟩
  simp only [prepared, statement_modifyLoader]
  simp only [World.statement, Arena.get_push, StatementId.mk.injEq]
  rfl

theorem catalog_prepared (c : ConnectionId) :
    (w.prepared l sql).catalog c =
      if (w.loader l).connection = c ∧ w.Serves c then
        { w.catalog c with prepared := (w.catalog c).prepared + 1 }
      else w.catalog c := by
  show (w.setCatalog _ _).catalog c = _
  rw [catalog_setCatalog]
  split
  · next h => rw [h.1]
  · rfl

@[simp] theorem knows_prepared (k : LoaderId) : (w.prepared l sql).Knows k ↔ w.Knows k :=
  knows_modifyLoader ..

@[simp] theorem serves_prepared (c : ConnectionId) : (w.prepared l sql).Serves c ↔ w.Serves c :=
  serves_setCatalog w _ c _

theorem prepares_prepared (s : StatementId) :
    (w.prepared l sql).Prepares s ↔ s = ⟨w.statements.next⟩ ∨ w.Prepares s := by
  rcases s with ⟨i⟩
  show i < (w.statements.push _).next ↔ _
  rw [Arena.next_push, StatementId.mk.injEq]
  show _ ↔ i = w.statements.next ∨ i < w.statements.next
  omega

/-- The statement that was prepared is new. -/
theorem not_prepares_next (w : World) : ¬ w.Prepares ⟨w.statements.next⟩ := Nat.lt_irrefl _

theorem mem_statements_prepared {k : LoaderId} {q : String} {s : StatementId}
    (h : (q, s) ∈ ((w.prepared l sql).loader k).statements) :
    (k = l ∧ q = sql ∧ s = ⟨w.statements.next⟩) ∨ (q, s) ∈ (w.loader k).statements := by
  rw [loader_prepared] at h
  split at h
  · next hk =>
    rcases List.mem_cons.mp h with he | h
    · rw [Prod.mk.injEq] at he
      exact .inl ⟨hk.1.symm, he⟩
    · exact .inr h
  · exact .inr h

theorem settles_prepared (w : World) (l : LoaderId) (sql : String) :
    w.Settles (w.prepared l sql) where
  depth k := by
    rw [loader_prepared]
    split <;> rfl
  connection k _ := by
    rw [loader_prepared]
    split <;> rfl
  knows k := (knows_prepared k).mpr
  serves c := (serves_prepared c).mpr
  prepares s h := (prepares_prepared s).mpr (.inr h)
  caches k s hs := by
    rintro ⟨q, h⟩
    rcases mem_statements_prepared h with ⟨-, -, rfl⟩ | h
    · exact absurd hs (not_prepares_next w)
    · exact ⟨q, h⟩

theorem reads_prepared (w : World) (l : LoaderId) (sql : String) : w.Reads (w.prepared l sql) := by
  refine ⟨settles_prepared w l sql, fun c => ?_⟩
  rw [catalog_prepared]
  split <;> rfl

theorem Sound.prepared (h : w.Sound) (l : LoaderId) (sql : String) : (w.prepared l sql).Sound := by
  have settles := settles_prepared w l sql
  refine ⟨fun k hk => ?_, fun {k q s} hs => ?_, fun {k m s} => ?_⟩
  · rw [knows_prepared] at hk
    rw [settles.connection k hk, serves_prepared]
    exact h.served k hk
  · have hk : w.Knows k := (knows_prepared k).mp (Caches.knows ⟨q, hs⟩)
    rw [settles.connection k hk, statement_prepared]
    rcases mem_statements_prepared hs with ⟨rfl, rfl, rfl⟩ | hs
    · rw [if_pos rfl]
      exact ⟨(prepares_prepared _).mpr (.inl rfl), rfl, rfl⟩
    · obtain ⟨hp, hc, hq⟩ := h.filed hs
      rw [if_neg fun he : s = ⟨w.statements.next⟩ => not_prepares_next w (he ▸ hp)]
      exact ⟨(prepares_prepared s).mpr (.inr hp), hc, hq⟩
  · rintro ⟨q, hk⟩ ⟨q', hm⟩
    rcases mem_statements_prepared hk with ⟨hkl, -, hs⟩ | hk' <;>
      rcases mem_statements_prepared hm with ⟨hml, -, hs'⟩ | hm'
    · exact hkl.trans hml.symm
    · exact absurd (hs ▸ (h.filed hm').1) (not_prepares_next w)
    · exact absurd (hs' ▸ (h.filed hk').1) (not_prepares_next w)
    · exact h.apart ⟨q, hk'⟩ ⟨q', hm'⟩

end World

namespace LoaderId

open World

/-- Preparing fails without a connection or by a refusal, finds a statement in
the cache, or makes one. -/
theorem run_prepare (w : World) (l : LoaderId) (sql : String) :
    (l.prepare sql).run w =
      if (w.catalogOf l).connected then
        match (w.loader l).statements.lookup sql with
        | some s => (.ok ⟨s, l⟩, w)
        | none =>
          match Catalog.refusal? (w.catalogOf l).prepareRefusals sql with
          | some reason => (.error (.prepare reason), w)
          | none => (.ok ⟨⟨w.statements.next⟩, l⟩, w.prepared l sql)
      else (.error (.notConnected (w.catalogOf l).database), w) := by
  unfold LoaderId.prepare
  rw [Query.run_bind, Query.run_get]
  dsimp only
  by_cases hc : (w.catalogOf l).connected = true
  · rw [if_pos hc, if_pos hc]
    cases (w.loader l).statements.lookup sql with
    | some s => rfl
    | none =>
      dsimp only
      have hp : (w.catalog (w.loader l).connection).prepare sql =
          match Catalog.refusal? (w.catalogOf l).prepareRefusals sql with
          | some reason => .error (.prepare reason)
          | none => .ok { w.catalogOf l with prepared := (w.catalogOf l).prepared + 1 } := by
        show Catalog.prepare (w.catalogOf l) sql = _
        unfold Catalog.prepare
        refine (if_pos hc).trans ?_
        cases Catalog.refusal? (w.catalogOf l).prepareRefusals sql <;> rfl
      rw [Query.run_bind, Query.run_changeCatalog, hp]
      cases Catalog.refusal? (w.catalogOf l).prepareRefusals sql <;> rfl
  · rw [if_neg hc, if_neg hc]
    rfl

/-- Preparing leaves the world alone, unless the statement is new. -/
theorem prepare_world (w : World) (l : LoaderId) (sql : String) :
    ((l.prepare sql).run w).2 = w ∨ ((l.prepare sql).run w).2 = w.prepared l sql := by
  rw [run_prepare]
  repeat' split
  all_goals first | exact .inl rfl | exact .inr rfl

theorem prepare_reads (w : World) (l : LoaderId) (sql : String) :
    w.Reads ((l.prepare sql).run w).2 := by
  rcases prepare_world w l sql with h | h <;> rw [h]
  · exact .refl w
  · exact reads_prepared w l sql

theorem prepare_sound {w : World} (h : w.Sound) (l : LoaderId) (sql : String) :
    ((l.prepare sql).run w).2.Sound := by
  rcases prepare_world w l sql with hw | hw <;> rw [hw]
  · exact h
  · exact h.prepared l sql

/-- A prepared statement is in the cache. -/
theorem prepare_ok {w w' : World} {l : LoaderId} {sql : String} {h : Handle} (hl : w.Knows l)
    (hr : (l.prepare sql).run w = (.ok h, w')) :
    h.loader = l ∧ (sql, h.statement) ∈ (w'.loader l).statements := by
  rw [run_prepare] at hr
  split at hr
  · split at hr
    · next hs =>
      cases hr
      exact ⟨rfl, mem_of_lookup hs⟩
    · split at hr
      · cases hr
      · cases hr
        rw [loader_prepared, if_pos ⟨rfl, hl⟩]
        exact ⟨rfl, List.mem_cons_self⟩
  · cases hr

end LoaderId

/-! ## Binding -/

namespace Parameters

/-- The entries with values put at the positions from one on. -/
def insertFrom (position : Nat) : List Value → List (Nat × Value) → List (Nat × Value)
  | [], entries => entries
  | value :: rest, entries => insertFrom (position + 1) rest (insert position value entries)

end Parameters

/-- The statement with values bound to the positions from one on. -/
def Statement.bound (statement : Statement) (position : Nat) (values : List Value) : Statement :=
  { statement with
    parameters := ⟨Parameters.insertFrom position values statement.parameters.entries⟩ }

theorem Catalog.execute_still (catalog : Catalog) (sql : String) (parameters : Parameters) :
    (catalog.execute sql parameters).2.still = catalog.still := by
  unfold Catalog.execute
  split
  · dsimp only
    split <;> rfl
  · rfl

/-- Reading all rows is a fold over them. -/
theorem Statement.foldRows_eq_foldlM (step : σ → Row → Except Error σ) (state : σ)
    (rows : List Row) : (foldRows step state rows).1 = rows.foldlM step state := by
  induction rows generalizing state with
  | nil => rfl
  | cons row rest ih =>
    rw [foldRows, List.foldlM_cons]
    cases step state row with
    | error e => rfl
    | ok state' => exact ih state'

namespace Handle

open World

theorem run_bind (w : World) (h : Handle) {position : Nat} (hp : 0 < position) (value : Value) :
    (h.bind position value).run w =
      (.ok (), w.setStatement h.statement
        { w.statement h.statement with
          parameters := ⟨Parameters.insert position value
            (w.statement h.statement).parameters.entries⟩ }) := by
  unfold Handle.bind
  rw [Query.run_bind, Query.run_get]
  dsimp only
  rw [Query.run_bind, Query.run_ofExcept, Parameters.bind, if_neg (Nat.ne_of_gt hp)]
  rfl

theorem run_bindFrom (h : Handle) {w : World} (hs : w.Prepares h.statement) (values : List Value)
    {position : Nat} (hp : 0 < position) :
    (h.bindFrom position values).run w =
      (.ok (), w.setStatement h.statement
        ((w.statement h.statement).bound position values)) := by
  induction values generalizing w position with
  | nil =>
    rw [Statement.bound, Parameters.insertFrom, setStatement_statement]
    rfl
  | cons value rest ih =>
    rw [bindFrom, Query.run_bind_ok (run_bind w h hp value),
      ih ((prepares_setStatement ..).mpr hs) (Nat.succ_pos position),
      statement_setStatement_self hs, setStatement_setStatement]
    rfl

/-! ## Running -/

theorem run_execute (w : World) (h : Handle) :
    h.execute.run w =
      let statement := w.statement h.statement
      if (w.loader h.loader).depth = 0 then
        (.error (.connection "catalog query executed outside a metadata transaction"), w)
      else
        match (w.catalog statement.connection).execute statement.sql statement.parameters with
        | (.error e, catalog) => (.error e, w.setCatalog statement.connection catalog)
        | (.ok rows, catalog) =>
          (.ok (), (w.setCatalog statement.connection catalog).setStatement h.statement
            (statement.withRows rows)) := by
  unfold Handle.execute
  rw [Query.run_bind, Query.run_get]
  dsimp only
  by_cases hd : (w.loader h.loader).depth = 0
  · rw [if_pos hd, if_pos hd]
    rfl
  · rw [if_neg hd, if_neg hd]
    rcases (w.catalog (w.statement h.statement).connection).execute
      (w.statement h.statement).sql (w.statement h.statement).parameters with
      ⟨_ | rows, catalog⟩ <;> rfl

theorem run_foldRows (w : World) (h : Handle) (step : σ → Row → Except Error σ) (state : σ) :
    (h.foldRows step state).run w =
      (((w.statement h.statement).drain step state).1,
        w.setStatement h.statement ((w.statement h.statement).drain step state).2) := rfl

theorem run_fetch (w : World) (h : Handle) :
    h.fetch w =
      ((w.statement h.statement).fetch.1,
        w.setStatement h.statement (w.statement h.statement).fetch.2) := rfl

/-- Reading a row moves on first. If there is a row, it becomes the current one
whether it can be read or not. -/
theorem run_readRow (w : World) (h : Handle) (read : Row → Except Error α) :
    (h.readRow? read).run w =
      match (w.statement h.statement).rows with
      | [] =>
        (.ok none, w.setStatement h.statement { w.statement h.statement with current := none })
      | row :: rest =>
        ((read row).map some,
          w.setStatement h.statement
            { w.statement h.statement with rows := rest, current := some row }) := by
  unfold Handle.readRow?
  rw [Query.run_bind, Query.run_lift, run_fetch, Statement.fetch]
  dsimp only
  cases hr : (w.statement h.statement).rows with
  | nil => rfl
  | cons row rest =>
    have hp : w.Prepares h.statement := by
      refine Classical.byContradiction fun hn => ?_
      rw [World.statement, w.statements.get_of_next_le (Nat.le_of_not_lt hn)] at hr
      cases hr
    dsimp only
    rw [if_pos rfl, Query.run_bind, Handle.row, Query.run_bind, Query.run_get]
    dsimp only
    rw [statement_setStatement_self hp]
    show (some <$> Query.ofExcept (read row) : Query (Option α)).run _ = _
    cases read row <;> rfl

end Handle

namespace LoaderId

open World

/-- What a query does once its statement is prepared. -/
theorem run_query {w w' : World} {l : LoaderId} {sql : String} {h : Handle} (hs : w'.Sound)
    (hl : w'.Inside l) (hh : h.loader = l) (hf : (sql, h.statement) ∈ (w'.loader l).statements)
    (hr : (l.prepare sql).run w = (.ok h, w')) (values : List Value) :
    (l.query sql values).run w =
      match (w'.catalogOf l).execute sql
          ((w'.statement h.statement).bound 1 values).parameters with
      | (.error e, catalog) =>
        (.error e, (w'.setCatalog (w'.loader l).connection catalog).setStatement h.statement
          ((w'.statement h.statement).bound 1 values))
      | (.ok rows, catalog) =>
        (.ok h, (w'.setCatalog (w'.loader l).connection catalog).setStatement h.statement
          (((w'.statement h.statement).bound 1 values).withRows rows)) := by
  obtain ⟨hp, hc, hq⟩ := hs.filed hf
  have hxc : ((w'.statement h.statement).bound 1 values).connection = _ := hc
  have hxq : ((w'.statement h.statement).bound 1 values).sql = _ := hq
  unfold LoaderId.query
  rw [Query.run_bind_ok hr, Query.run_bind_ok (h.run_bindFrom hp values Nat.one_pos)]
  generalize (w'.statement h.statement).bound 1 values = x at hxc hxq
  rw [Query.run_bind, Handle.run_execute, statement_setStatement_self hp]
  have hd : ((w'.setStatement h.statement x).loader h.loader).depth ≠ 0 := by
    rw [loader_setStatement, hh]
    exact Nat.ne_of_gt hl
  dsimp only
  rw [if_neg hd, catalog_setStatement, hxc, hxq, catalogOf]
  rcases (w'.catalog (w'.loader l).connection).execute sql x.parameters with ⟨_ | rows, catalog⟩
  · rfl
  · dsimp only
    rw [Query.run_pure]
    show (_, ((w'.setCatalog _ catalog).setStatement _ x).setStatement _ _) = _
    rw [setStatement_setStatement]

/-- A query whose statement cannot be prepared changes nothing. -/
theorem run_query_error {w w' : World} {l : LoaderId} {sql : String} {e : Error}
    (hr : (l.prepare sql).run w = (.error e, w')) (values : List Value) :
    (l.query sql values).run w = (.error e, w') :=
  Query.run_bind_error hr

theorem query_reads {w : World} (hs : w.Sound) {l : LoaderId} (hl : w.Inside l) (sql : String)
    (values : List Value) :
    w.Reads ((l.query sql values).run w).2 ∧ ((l.query sql values).run w).2.Sound := by
  have reads := prepare_reads w l sql
  have sound := prepare_sound hs l sql
  rcases hr : (l.prepare sql).run w with ⟨e | h, w'⟩ <;>
    (rw [hr] at reads sound; dsimp only at reads sound)
  · rw [run_query_error hr]
    exact ⟨reads, sound⟩
  · obtain ⟨hh, hf⟩ := prepare_ok hl.knows hr
    rw [run_query sound (reads.inside hl) hh hf hr]
    have hx := (w'.catalogOf l).execute_still sql
      ((w'.statement h.statement).bound 1 values).parameters
    rcases he : (w'.catalogOf l).execute sql _ with ⟨e | rows, catalog⟩ <;> rw [he] at hx
    all_goals
      have written := reads_setCatalog w' (w'.loader l).connection hx
      exact ⟨reads.trans (written.trans (reads_setStatement ..)),
        (sound.setCatalog _ _).setStatement rfl rfl⟩

end LoaderId

end MetaCatalog
