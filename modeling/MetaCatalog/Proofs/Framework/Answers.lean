import MetaCatalog.Proofs.Framework.Objects
import MetaCatalog.Proofs.Framework.Tidy

/-!
# What a fetch finds

Inside a transaction, and with a tidy cache, what a fetch finds and which
queries it runs depend on the script of the catalog alone, and neither on the
loader nor on what its statements were used for before (`Fetches.computes`).
Loading a facet of an item is such a fetch (`Item.load_finds`).
-/

namespace MetaCatalog

open World

/-- A catalog without its history, as it is inside a transaction. -/
def Catalog.script (catalog : Catalog) : Catalog :=
  { catalog with
    inTransaction := true, started := 0, commits := 0, rollbacks := 0, prepared := 0,
    journal := [] }

theorem Catalog.script_still (catalog : Catalog) : catalog.still.script = catalog.script := rfl

/-- What a catalog answers to a query. -/
def Catalog.answer (catalog : Catalog) (sql : String) (values : List Value) :
    Except Error (List Row) :=
  if catalog.connected then
    match refusal? catalog.executeRefusals sql with
    | some reason => .error (.query reason)
    | none => .ok ((catalog.reply? sql values.head?).elim [] (·.rows))
  else .error (.notConnected catalog.database)

/-- A reply or a refusal without a fragment is for every query. -/
theorem Text.includes_empty (text : String) : includes text "" = true := by
  rw [includes]
  cases text.toList <;> rfl

/-- What the journal of a catalog says about a query. -/
def Catalog.trace (catalog : Catalog) (sql : String) (values : List Value) : List Execution :=
  if catalog.connected then [⟨sql, values⟩] else []

theorem Catalog.answer_script (catalog : Catalog) (sql : String) (values : List Value) :
    catalog.script.answer sql values = catalog.answer sql values := rfl

theorem Catalog.trace_script (catalog : Catalog) (sql : String) (values : List Value) :
    catalog.script.trace sql values = catalog.trace sql values := rfl

/-- A loader can run queries with the given texts: it is inside its transaction,
its cache is tidy, and preparing the texts is not refused. -/
structure Ready (sqls : List String) (w : World) (l : LoaderId) : Prop where
  upholds : (tidiness l).Upholds w
  inside : w.Inside l
  prepares : ∀ sql ∈ sqls, Catalog.refusal? (w.catalogOf l).prepareRefusals sql = none

variable {sqls : List String} {w w' : World} {l : LoaderId}

theorem World.Reads.script (h : w.Reads w') (hl : w.Knows l) :
    (w'.catalogOf l).script = (w.catalogOf l).script := by
  rw [catalogOf, h.connection l hl, ← Catalog.script_still, h.still, Catalog.script_still]
  rfl

/-- A read leaves a loader ready. -/
theorem Ready.reads (h : Ready sqls w l) (hu : (tidiness l).Upholds w') (hr : w.Reads w') :
    Ready sqls w' l := by
  refine ⟨hu, hr.inside h.inside, fun sql hs => ?_⟩
  have refusals := congrArg Catalog.prepareRefusals (hr.script h.inside.knows)
  exact (congrArg (Catalog.refusal? · sql) refusals).trans (h.prepares sql hs)

theorem Ready.active (h : Ready sqls w l) : (w.catalogOf l).inTransaction = true :=
  (h.upholds.holds.1.held _).mpr ⟨l, h.inside, rfl⟩

/-! ## Queries -/

/-- Inside a transaction a connection that is there runs a query. -/
theorem Catalog.execute_answer {catalog : Catalog} (ht : catalog.inTransaction = true)
    (hc : catalog.connected = true) {parameters : Parameters} {values : List Value}
    (hv : parameters.values = values) (hf : parameters.first? = values.head?) (sql : String) :
    catalog.execute sql parameters = (catalog.answer sql values,
      { catalog with journal := catalog.journal ++ catalog.trace sql values }) := by
  rw [Catalog.execute, if_pos ht, Catalog.answer, if_pos hc, Catalog.trace, if_pos hc, hv, hf]
  dsimp only
  cases Catalog.refusal? catalog.executeRefusals sql <;> rfl

theorem LoaderId.prepare_journal (w : World) (l : LoaderId) (sql : String) (c : ConnectionId) :
    (((l.prepare sql).run w).2.catalog c).journal = (w.catalog c).journal := by
  rcases LoaderId.prepare_world w l sql with h | h <;> rw [h]
  rw [catalog_prepared]
  split <;> rfl

/-- A statement is there or can be prepared, as long as the connection is
there. -/
theorem Ready.prepare (h : Ready sqls w l) {sql : String} (hm : sql ∈ sqls)
    (hc : (w.catalogOf l).connected = true) :
    ∃ handle w', (l.prepare sql).run w = (.ok handle, w') := by
  rw [LoaderId.run_prepare, if_pos hc]
  cases (w.loader l).statements.lookup sql with
  | some s => exact ⟨_, _, rfl⟩
  | none =>
    dsimp only
    rw [h.prepares sql hm]
    exact ⟨_, _, rfl⟩

/-- Once a statement is prepared, the loader is still ready and the catalog has
been told nothing. -/
theorem Ready.prepared (h : Ready sqls w l) {sql : String} {handle : Handle}
    (hr : (l.prepare sql).run w = (.ok handle, w')) :
    Ready sqls w' l ∧ (w'.catalogOf l).script = (w.catalogOf l).script ∧
      (w'.catalogOf l).journal = (w.catalogOf l).journal := by
  have reads := LoaderId.prepare_reads w l sql
  have sound := LoaderId.prepare_sound h.upholds.sound l sql
  have tidy := h.upholds.holds.2.prepare l sql
  have journal := LoaderId.prepare_journal w l sql (w.loader l).connection
  rw [hr] at reads sound tidy journal
  refine ⟨h.reads ⟨sound, h.upholds.holds.1.reads reads, tidy⟩ reads,
    reads.script h.inside.knows, ?_⟩
  rw [catalogOf, reads.connection l h.inside.knows]
  exact journal

/-- The outcome of a query is the catalog's answer. Its handle stands before the
rows. -/
theorem Ready.query (h : Ready sqls w l) {sql : String} {values : List Value} (hm : sql ∈ sqls)
    (hn : values.length = parameterCount sql) :
    (match (w.catalogOf l).answer sql values with
      | .error e => ((l.query sql values).run w).1 = .error e
      | .ok rows => ∃ handle, ((l.query sql values).run w).1 = .ok handle ∧
          (((l.query sql values).run w).2.statement handle.statement).rows = rows) ∧
    (((l.query sql values).run w).2.catalogOf l).journal =
      (w.catalogOf l).journal ++ (w.catalogOf l).trace sql values := by
  by_cases hc : (w.catalogOf l).connected = true
  · obtain ⟨handle, w', hr⟩ := h.prepare hm hc
    obtain ⟨ready, script, journal⟩ := h.prepared hr
    obtain ⟨hh, hf⟩ := LoaderId.prepare_ok h.inside.knows hr
    have sound := ready.upholds.sound
    have filed := sound.filed hf
    have count : values.length = parameterCount (w'.statement handle.statement).sql :=
      hn.trans (congrArg parameterCount filed.2.2.symm)
    have tidy := ready.upholds.holds.2 _ ⟨sql, hf⟩
    have answer : (w'.catalogOf l).answer sql values = (w.catalogOf l).answer sql values := by
      rw [← Catalog.answer_script, script, Catalog.answer_script]
    have trace : (w'.catalogOf l).trace sql values = (w.catalogOf l).trace sql values := by
      rw [← Catalog.trace_script, script, Catalog.trace_script]
    have run := (w'.catalogOf l).execute_answer ready.active
      ((congrArg Catalog.connected script).trans hc) (tidy.bound_values count)
      (tidy.bound_first count) sql
    rw [answer, trace, journal] at run
    have written (x : Statement) :
        (((w'.setCatalog (w'.loader l).connection { w'.catalogOf l with
          journal := (w.catalogOf l).journal ++ (w.catalogOf l).trace sql values }).setStatement
            handle.statement x).catalogOf l).journal =
        (w.catalogOf l).journal ++ (w.catalogOf l).trace sql values := by
      show ((w'.setCatalog _ _).catalog (w'.loader l).connection).journal = _
      rw [catalog_setCatalogOf sound ready.inside.knows, if_pos rfl]
    rw [LoaderId.run_query sound ready.inside hh hf hr, run]
    cases (w.catalogOf l).answer sql values with
    | error e => exact ⟨rfl, written _⟩
    | ok rows =>
      refine ⟨⟨handle, rfl, ?_⟩, written _⟩
      dsimp only
      rw [statement_setStatement_self ((prepares_setCatalog ..).mpr filed.1)]
      rfl
  · have hr : (l.prepare sql).run w = (.error (.notConnected (w.catalogOf l).database), w) := by
      rw [LoaderId.run_prepare, if_neg hc]
    rw [LoaderId.run_query_error hr, Catalog.answer, if_neg hc, Catalog.trace, if_neg hc,
      List.append_nil]
    exact ⟨rfl, rfl⟩

/-! ## Fetches -/

/-- What is found, and which queries are run for it, in a catalog with a
script. -/
abbrev Finding (α : Type) := Catalog → Except Error α × List Execution

/-- A run from a world found what was to be found: it read the catalog and
changed nothing else, and its outcome and what it added to the journal are
given. -/
structure Found (w : World) (l : LoaderId) (run : Except Error α × World)
    (found : Except Error α × List Execution) : Prop where
  reads : w.Reads run.2
  outcome : run.1 = found.1
  journal : (run.2.catalogOf l).journal = (w.catalogOf l).journal ++ found.2

/-- A way to read the rows of a statement, and what comes of it. -/
structure ReadsRows (read : Handle → Query α) (result : List Row → Except Error α) : Prop where
  run (w : World) (handle : Handle) : ∃ statement,
    (read handle).run w = (result (w.statement handle.statement).rows,
      w.setStatement handle.statement statement)

theorem ReadsRows.foldRows (step : σ → Row → Except Error σ) (state : σ) :
    ReadsRows (·.foldRows step state) fun rows => (Statement.foldRows step state rows).1 :=
  ⟨fun w handle => ⟨_, handle.run_foldRows w step state⟩⟩

theorem ReadsRows.readRow (read : Row → Except Error α) :
    ReadsRows (·.readRow? read) fun
      | [] => .ok none
      | row :: _ => (read row).map some := by
  refine ⟨fun w handle => ?_⟩
  rw [handle.run_readRow]
  cases (w.statement handle.statement).rows <;> exact ⟨_, rfl⟩

/-- The rows of a query are read from its answer. -/
theorem Ready.found (h : Ready sqls w l) {sql : String} {values : List Value} (hm : sql ∈ sqls)
    (hn : values.length = parameterCount sql) {read : Handle → Query α}
    {result : List Row → Except Error α} (hr : ReadsRows read result) :
    Found w l ((do read (← l.query sql values)).run w)
      (((w.catalogOf l).script.answer sql values).bind result,
        (w.catalogOf l).script.trace sql values) := by
  obtain ⟨answered, journal⟩ := h.query hm hn
  obtain ⟨reads, -⟩ := LoaderId.query_reads h.upholds.sound h.inside sql values
  rw [Catalog.answer_script, Catalog.trace_script]
  rcases hq : (l.query sql values).run w with ⟨e | handle, w'⟩ <;> rw [hq] at answered journal reads
  · rw [Query.run_bind_error hq]
    refine ⟨reads, ?_, journal⟩
    cases ha : (w.catalogOf l).answer sql values with
    | error e' =>
      rw [ha] at answered
      cases answered
      rfl
    | ok rows =>
      rw [ha] at answered
      obtain ⟨_, hn, -⟩ := answered
      cases hn
  · obtain ⟨statement, hs⟩ := hr.run w' handle
    rw [Query.run_bind_ok hq, hs]
    refine ⟨reads.trans (reads_setStatement ..), ?_, journal⟩
    cases ha : (w.catalogOf l).answer sql values with
    | error e' =>
      rw [ha] at answered
      cases answered
    | ok rows =>
      rw [ha] at answered
      obtain ⟨_, hn, rfl⟩ := answered
      cases hn
      rfl

/-- What a sequence finds, from what its parts find. -/
def findBoth (first : Except Error α × List Execution)
    (second : α → Except Error β × List Execution) : Except Error β × List Execution :=
  match first.1 with
  | .error e => (.error e, first.2)
  | .ok a => ((second a).1, first.2 ++ (second a).2)

theorem Found.bind {m : Query α} {f : α → Query β} {first : Except Error α × List Execution}
    {second : α → Except Error β × List Execution} (hm : Found w l (m.run w) first)
    (hf : ∀ a w', m.run w = (.ok a, w') → Found w' l ((f a).run w') (second a)) :
    Found w l ((m >>= f).run w) (findBoth first second) := by
  obtain ⟨reads, outcome, journal⟩ := hm
  rcases hr : m.run w with ⟨e | a, w'⟩ <;> rw [hr] at reads outcome journal
  · rw [Query.run_bind_error hr, findBoth, ← outcome]
    exact ⟨reads, rfl, journal⟩
  · obtain ⟨reads', outcome', journal'⟩ := hf a w' hr
    rw [Query.run_bind_ok hr, findBoth, ← outcome]
    refine ⟨reads.trans reads', outcome', ?_⟩
    rw [journal', journal, List.append_assoc]

/-- What a fetch finds depends on the script of the catalog alone. -/
theorem Fetches.computes {m : LoaderId → Query α} (h : Fetches sqls m) :
    ∃ find : Finding α, ∀ {w : World} {l : LoaderId},
      Ready sqls w l → Found w l ((m l).run w) (find (w.catalogOf l).script) := by
  induction h with
  | pure a =>
    exact ⟨fun _ => (.ok a, []), fun h => ⟨.refl _, rfl, (List.append_nil _).symm⟩⟩
  | @fold σ sql values step state hm hn =>
    refine ⟨fun catalog => ((catalog.answer sql values).bind fun rows =>
      (Statement.foldRows step state rows).1, catalog.trace sql values), fun h => ?_⟩
    exact h.found hm hn (.foldRows step state)
  | @first α sql values read hm hn =>
    refine ⟨fun catalog => ((catalog.answer sql values).bind fun
      | [] => .ok none
      | row :: _ => (read row).map some, catalog.trace sql values), fun h => ?_⟩
    exact h.found hm hn (.readRow read)
  | @bind α β m f hm _ ihm ihf =>
    obtain ⟨first, found⟩ := ihm
    -- What the second part finds depends on the value that the first part gives it.
    obtain ⟨second, continued⟩ := Classical.axiomOfChoice ihf
    refine ⟨fun catalog => findBoth (first catalog) (second · catalog), fun {w l} h => ?_⟩
    refine (found h).bind fun a w' hr => ?_
    have reads := (found h).reads
    have upholds := ((hm.within l).ensures h.upholds h.inside).run hr
    rw [hr] at reads
    have next := continued a (h.reads upholds.1 reads)
    rw [reads.script h.inside.knows] at next
    exact next

/-- What a fetch finds, as far as `see` tells, is a function of the script of the
catalog. -/
structure Computes {α β : Type} (sqls : List String) (see : α → β) (m : LoaderId → Query α)
    (find : Finding β) : Prop where
  within (l : LoaderId) : (tidiness l).Within l (m l)
  found {w : World} {l : LoaderId} : Ready sqls w l →
    Found w l (((m l).run w).1.map see, ((m l).run w).2) (find (w.catalogOf l).script)

theorem Found.map {run : Except Error α × World} {found : Except Error α × List Execution}
    (h : Found w l run found) (see : α → β) :
    Found w l (run.1.map see, run.2) (found.1.map see, found.2) :=
  ⟨h.reads, congrArg (Except.map see) h.outcome, h.journal⟩

theorem Fetches.computes_map {m : LoaderId → Query α} (h : Fetches sqls m) (see : α → β) :
    ∃ find, Computes sqls see m find := by
  obtain ⟨find, found⟩ := h.computes
  exact ⟨fun catalog => ((find catalog).1.map see, (find catalog).2), fun l => h.within l,
    fun hr => (found hr).map see⟩

theorem Computes.map {see : α → β} {m : LoaderId → Query α}
    {find : Finding β} (h : Computes sqls see m find) (f : β → γ) :
    Computes sqls (f ∘ see) m fun catalog => ((find catalog).1.map f, (find catalog).2) := by
  refine ⟨h.within, fun {w l} hr => ?_⟩
  have found := (h.found hr).map f
  rcases hq : (m l).run w with ⟨_ | _, _⟩ <;> rw [hq] at found <;> exact found

/-! ## Columns and parameters -/

/-- The item without what is made up for it: its identifier, that of the item it
belongs to, and the loader. -/
def Item.bare (item : Item) : Item :=
  { item with subject := { item.subject with id := .nil }, parent := none, loader := none }

/-- What members of an item are made of is all that matters about them. -/
theorem members_found {make : δ → Engine α} {see : α → β} {known : δ → β}
    (hm : ∀ d (w : World), see (make d w).1 = known d ∧
      ∃ issued, (make d w).2 = { w with issued }) (definitions : List δ) (w : World) :
    (definitions.mapM make w).1.map see = definitions.map known ∧
      ∃ issued, (definitions.mapM make w).2 = { w with issued } := by
  induction definitions generalizing w with
  | nil => exact ⟨rfl, w.issued, rfl⟩
  | cons d rest ih =>
    obtain ⟨seen, issued, hw⟩ := hm d w
    obtain ⟨seen', issued', hw'⟩ := ih (make d w).2
    rw [List.mapM_cons]
    refine ⟨?_, issued', ?_⟩
    · show see (make d w).1 :: (rest.mapM make (make d w).2).1.map see = _
      rw [seen, seen', List.map_cons]
    · refine Eq.trans hw' ?_
      rw [hw]

/-- A fetch of definitions, whose members are made afterwards. -/
theorem Fetches.members {m : LoaderId → Query (List δ)} (h : Fetches sqls m) (see : α → β)
    (known : δ → β) :
    ∃ find, ∀ make : LoaderId → δ → Engine α,
      (∀ l d (w : World), see (make l d w).1 = known d ∧
        ∃ issued, (make l d w).2 = { w with issued }) →
      Computes sqls (List.map see)
        (fun l => (do ExceptT.lift ((← m l).mapM (make l)) : Query (List α))) find := by
  obtain ⟨find, found⟩ := h.computes
  refine ⟨fun catalog => ((find catalog).1.map (List.map known), (find catalog).2),
    fun make hm => ⟨fun l => ?_, fun {w l} hr => ?_⟩⟩
  · refine .bind (h.within l) fun definitions => .lift fun {w} hu => ?_
    obtain ⟨-, issued, hw⟩ := members_found (hm l) definitions w
    obtain ⟨upholds, settles⟩ := Discipline.aside_upholds hu w.observers w.deliveries issued
    have run : definitions.mapM (make l) w =
        ((definitions.mapM (make l) w).1, { w with issued }) := Prod.ext rfl hw
    exact .ofRun run upholds settles trivial
  · obtain ⟨reads, outcome, journal⟩ := found hr
    rcases hq : (m l).run w with ⟨e | definitions, w'⟩ <;> rw [hq] at reads outcome journal
    · rw [Query.run_bind_error hq, ← outcome]
      exact ⟨reads, rfl, journal⟩
    · obtain ⟨seen, issued, hw⟩ := members_found (hm l) definitions w'
      have run : (ExceptT.lift (definitions.mapM (make l)) : Query (List α)).run w' =
          (.ok (definitions.mapM (make l) w').1, { w' with issued }) := by
        rw [← hw]
        rfl
      rw [Query.run_bind_ok hq, run, ← outcome]
      exact ⟨reads.trans (reads_aside ..), congrArg Except.ok seen, journal⟩

/-! ## Loading a facet -/

/-- A loader could run queries with the given texts, but no transaction is
open. -/
structure Idle (sqls : List String) (w : World) (l : LoaderId) : Prop where
  upholds : (tidiness l).Upholds w
  knows : w.Knows l
  closed : (w.catalogOf l).inTransaction = false
  prepares : ∀ sql ∈ sqls, Catalog.refusal? (w.catalogOf l).prepareRefusals sql = none

/-- Nobody is inside a loader whose connection is in no transaction. -/
theorem Idle.depth (h : Idle sqls w l) : (w.loader l).depth = 0 := by
  refine Nat.eq_zero_of_not_pos fun hl => ?_
  have active : (w.catalogOf l).inTransaction = true :=
    (h.upholds.holds.1.held _).mpr ⟨l, hl, rfl⟩
  rw [h.closed] at active
  cases active

/-- An idle loader can be entered, and is ready then. -/
theorem Idle.enter (h : Idle sqls w l) :
    ∃ w', l.enter.run w = (.ok (), w') ∧ Ready sqls w' l ∧
      (w'.catalogOf l).script = (w.catalogOf l).script ∧
      (w'.catalogOf l).journal = (w.catalogOf l).journal := by
  have run := LoaderId.run_enter w l
  rw [if_pos h.depth, Catalog.startTransaction, if_neg (by rw [h.closed]; exact Bool.false_ne_true)]
    at run
  obtain ⟨upholds, inside, -⟩ := Discipline.bracket h.upholds h.knows run
  have catalog (started : Catalog) :
      (((w.setCatalog (w.loader l).connection started).changeDepth l (· + 1)).catalogOf l) =
        started := by
    have connection : (((w.setCatalog (w.loader l).connection started).changeDepth l
        (· + 1)).loader l).connection = (w.loader l).connection := by
      rw [changeDepth, loader_modifyLoader]
      split <;> rfl
    rw [catalogOf, connection]
    show (w.setCatalog _ _).catalog _ = _
    rw [catalog_setCatalog, if_pos ⟨rfl, h.upholds.sound.served l h.knows⟩]
  refine ⟨_, run, ⟨upholds, inside, fun sql hs => ?_⟩, ?_, ?_⟩
  · rw [catalog]
    exact h.prepares sql hs
  · rw [catalog]
    rfl
  · rw [catalog]

theorem LoaderId.leave_journal (w : World) (l : LoaderId) (c : ConnectionId) :
    ((l.leave w).2.catalog c).journal = (w.catalog c).journal := by
  have finished (catalog : Catalog) : (finish catalog).journal = catalog.journal := by
    rw [finish, Catalog.commit]
    by_cases ht : catalog.inTransaction = true
    · rw [if_pos ht]
    · rw [if_neg ht]
      rfl
  rw [run_leave]
  dsimp only
  split
  · rw [catalog_setCatalog]
    split
    · next hc =>
      rw [← hc.1]
      exact finished _
    · rfl
  · rfl

theorem World.deliverIf_catalog (due : Bool × Subject) (w : World) (c : ConnectionId) :
    (World.deliverIf due w).2.catalog c = w.catalog c := by
  rcases due with ⟨_ | _, subject⟩ <;> rfl

/-- An item announces what it has read, and that is all it does to the
catalogs. -/
theorem Item.readLocked_outcome (item : Item) (query : Query α) (w : World) :
    (item.readLocked query w).1.1 = (query.run w).1 ∧
      ∀ c, (item.readLocked query w).2.catalog c = (query.run w).2.catalog c := by
  unfold Item.readLocked
  rw [Engine.run_bind]
  rcases query.run w with ⟨e | value, w'⟩
  · exact ⟨rfl, fun c => deliverIf_catalog item.lock.subject.unlock w' c⟩
  · refine ⟨rfl, fun c => ?_⟩
    exact (deliverIf_catalog _ _ c).trans (deliverIf_catalog item.lock.subject.announce w' c)

/-- A fetch that succeeds has entered the transaction and found the value there. -/
theorem Item.fetch_ok {item item' : Item} {fetch : LoaderId → Query α} {a : α}
    (hr : item.fetch l fetch w = ((.ok a, item'), w')) :
    ∃ entered read, l.enter.run w = (.ok (), entered) ∧ (fetch l).run entered = (.ok a, read) := by
  rw [item.run_fetch] at hr
  rcases he : l.enter.run w with ⟨e | ⟨⟩, entered⟩ <;> rw [he] at hr
  · cases hr
  have outcome := (item.readLocked_outcome (fetch l) entered).1
  rw [congrArg (·.1.1) hr] at outcome
  rcases hq : (fetch l).run entered with ⟨found, read⟩
  rw [hq] at outcome
  cases outcome
  exact ⟨entered, read, rfl, hq⟩

/-- The facet after its value was fetched. -/
def Facet.ofOutcome : Except Error α → Facet α
  | .ok value => .loaded value
  | .error _ => .unloaded

/-- The facet with its value seen in another way. -/
def Facet.map (see : α → β) : Facet α → Facet β
  | .unloaded => .unloaded
  | .loading => .loading
  | .loaded value => .loaded (see value)

/-- What loading a facet finds: how it went, the facet, and the queries that were
run. -/
structure LoadFinds (w : World) (l : LoaderId) (outcome : Except Error Unit) (facet : Facet α)
    (after : World) (found : Except Error α × List Execution) : Prop where
  outcome : outcome = found.1.map fun _ => ()
  facet : facet = .ofOutcome found.1
  journal : (after.catalog (w.loader l).connection).journal =
    (w.catalogOf l).journal ++ found.2

theorem Item.readLocked_reads (item : Item) (query : Query α) (w : World) :
    (query.run w).2.Reads (item.readLocked query w).2 := by
  have delivered (due : Bool × Subject) (w : World) : w.Reads (World.deliverIf due w).2 := by
    rcases due with ⟨_ | _, subject⟩
    · exact .refl w
    · exact reads_aside w w.observers _ w.issued
  unfold Item.readLocked
  rw [Engine.run_bind]
  rcases query.run w with ⟨e | value, w'⟩
  · exact delivered item.lock.subject.unlock w'
  · exact (delivered item.lock.subject.announce w').trans (delivered _ _)

/-- Loading a facet that is not there is a fetch between entering and leaving. -/
theorem Item.run_load {item : Item} {facet : Facet α} (fetch : LoaderId → Query α)
    (hl : item.loader = some l) (hf : facet.isLoaded = false)
    (he : l.enter.run w = (.ok (), w')) :
    (item.load facet fetch w).1.outcome = ((fetch l).run w').1.map (fun _ => ()) ∧
      (item.load facet fetch w).1.facet = .ofOutcome ((fetch l).run w').1 ∧
      (item.load facet fetch w).2 = (l.leave (item.readLocked (fetch l) w').2).2 := by
  have fetched := item.run_fetch l fetch w
  rw [he] at fetched
  rw [← (item.readLocked_outcome (fetch l) w').1]
  unfold Item.load
  rw [if_neg (by rw [hf]; exact Bool.false_ne_true), Item.requireLoader, hl]
  dsimp only
  rw [Engine.run_bind, fetched]
  dsimp only
  rcases (item.readLocked (fetch l) w').1 with ⟨_ | _, _⟩ <;> exact ⟨rfl, rfl, rfl⟩

/-- A load finds the facet in place, or fails and leaves none, or has fetched it. -/
theorem Item.load_cases (item : Item) (facet : Facet α) (fetch : LoaderId → Query α) (w : World) :
    (facet.isLoaded = true ∧ item.load facet fetch w = (⟨.ok (), item, facet⟩, w)) ∨
    (facet.isLoaded = false ∧ (item.load facet fetch w).1.facet = .unloaded ∧
      ∃ e, (item.load facet fetch w).1.outcome = .error e) ∨
    (facet.isLoaded = false ∧ ∃ l entered value read, item.loader = some l ∧
      l.enter.run w = (.ok (), entered) ∧ (fetch l).run entered = (.ok value, read) ∧
      (item.load facet fetch w).1.outcome = .ok () ∧
      (item.load facet fetch w).1.facet = .loaded value ∧
      (item.load facet fetch w).2 = (l.leave (item.readLocked (fetch l) entered).2).2) := by
  cases hf : facet.isLoaded with
  | true =>
    refine .inl ⟨rfl, ?_⟩
    unfold load
    rw [if_pos hf]
    rfl
  | false =>
    have absent : ¬ facet.isLoaded = true := Bool.eq_false_iff.mp hf
    refine .inr ?_
    cases hl : item.loader with
    | none =>
      refine .inl ⟨rfl, ?_⟩
      unfold load
      rw [if_neg absent, requireLoader, hl]
      exact ⟨rfl, _, rfl⟩
    | some l =>
      rcases he : l.enter.run w with ⟨e | ⟨⟩, entered⟩
      · refine .inl ⟨rfl, ?_⟩
        have fetched := item.run_fetch l fetch w
        rw [he] at fetched
        unfold load
        rw [if_neg absent, requireLoader, hl]
        dsimp only
        rw [Engine.run_bind, fetched]
        exact ⟨rfl, e, rfl⟩
      · obtain ⟨outcome, loaded, after⟩ := item.run_load fetch hl hf he
        rcases hr : (fetch l).run entered with ⟨e | value, read⟩ <;> rw [hr] at outcome loaded
        · exact .inl ⟨rfl, loaded, e, outcome⟩
        · exact .inr ⟨rfl, l, entered, value, read, rfl, he, hr, outcome, loaded, after⟩

/-- A load that fails leaves nothing there. -/
theorem Item.load_error {item : Item} {facet : Facet α} {fetch : LoaderId → Query α} {e : Error}
    (failed : (item.load facet fetch w).1.outcome = .error e) :
    (item.load facet fetch w).1.facet = .unloaded := by
  obtain ⟨-, same⟩ | ⟨-, dropped, -⟩ | ⟨-, l, entered, value, read, -, -, -, ok, -⟩ :=
    item.load_cases facet fetch w
  · rw [same] at failed
    cases failed
  · exact dropped
  · rw [ok] at failed
    cases failed

/-- Loading a facet with an idle loader finds what its fetch finds. -/
theorem Item.load_finds {item : Item} {facet : Facet α} {fetch : LoaderId → Query α}
    {see : α → β} {find : Finding β}
    (hc : Computes sqls see fetch find) (h : Idle sqls w l) (hl : item.loader = some l)
    (hf : facet.isLoaded = false) :
    LoadFinds w l (item.load facet fetch w).1.outcome ((item.load facet fetch w).1.facet.map see)
      (item.load facet fetch w).2 (find (w.catalogOf l).script) := by
  obtain ⟨w', entered, ready, script, journal⟩ := h.enter
  have found := hc.found ready
  rw [script] at found
  obtain ⟨-, catalogs⟩ := Item.readLocked_outcome item (fetch l) w'
  have grows := (LoaderId.enter_ok h.knows entered).toGrows
  have connection : (((fetch l).run w').2.loader l).connection = (w.loader l).connection :=
    (found.reads.connection l ready.inside.knows).trans (grows.connection l h.knows)
  have written : (((l.leave (item.readLocked (fetch l) w').2).2).catalog
      (w.loader l).connection).journal =
      (w.catalogOf l).journal ++ (find (w.catalogOf l).script).2 := by
    rw [LoaderId.leave_journal, catalogs, ← journal, ← found.journal, catalogOf, connection]
  have seen : ((fetch l).run w').1.map see = (find (w.catalogOf l).script).1 := found.outcome
  obtain ⟨ran, loaded, after⟩ := item.run_load fetch hl hf entered
  refine ⟨?_, ?_, after ▸ written⟩
  · rw [ran, ← seen]
    cases ((fetch l).run w').1 <;> rfl
  · rw [loaded, ← seen]
    cases ((fetch l).run w').1 <;> rfl

end MetaCatalog
