import MetaCatalog.Proofs.Client.Regrouping

/-!
# Constraints of several columns

The catalog gives a constraint one row for each of its columns, and a table puts the
rows of one name together again. `Client.Reachable.constraints_reassembled` says how:
one constraint for each run of rows, nothing lost, and for foreign keys one lookup for
each key in the transaction in which the rows were read.
-/

namespace MetaCatalog

open World

/-! ## Values by hand -/

/-- Nobody gets a value bound to position zero by hand either. -/
theorem Discipline.handleCall_counted {w : World} (h : w.Counted) (handle : Handle)
    (call : HandleCall) : ((call.run handle).run w).2.Counted := by
  have kept := h handle.statement
  cases call with
  | bind position value =>
    cases position with
    | zero => exact h
    | succ position =>
      rw [HandleCall.run, Handle.run_bind w handle (Nat.succ_pos position) value]
      exact h.setStatement _ (kept.insert (Nat.succ_pos position))
  | execute =>
    rw [HandleCall.run, Handle.run_execute]
    dsimp only
    split
    · exact h
    · split
      · exact h
      · exact Counted.setStatement (w := w.setCatalog ..) h _ kept
  | fetch =>
    have moved : (w.statement handle.statement).fetch.2.parameters =
        (w.statement handle.statement).parameters := by
      rw [Statement.fetch]
      split <;> rfl
    exact h.setStatement handle.statement (moved.symm ▸ kept)
  | row =>
    rw [HandleCall.run, Query.run_bind, Handle.row, Query.run_bind, Query.run_get]
    dsimp only
    rw [Query.run_ofExcept]
    cases (w.statement handle.statement).row <;> exact h

theorem positions_admits (permits : Client → Step → Prop) : positions.Admits permits where
  start _ _ _ he := absurd he List.not_mem_nil
  openCatalog h _ _ _ := h.holds
  script h _ _ := h.holds
  direct h _ _ _ _ := h.upholds.holds
  prepare h l _ sql := h.holds.prepare l sql
  useHandle h _ _ := Discipline.handleCall_counted h.upholds.holds _ _

/-! ## Constraints and their rows -/

/-- Constraints that were put together from rows. There is one for each run of rows with
one name, no column is lost or moved, and the names differ if the rows of each name stand
together. -/
structure Reassembled (Made : γ → List Row → Prop) (name : γ → String)
    (columns : γ → List String) (constraints : List γ) (rows : List Row) : Prop where
  made : List.Forall₂ Made constraints (runsBy Row.name rows)
  complete : constraints.flatMap columns = rows.map (·.text 2)
  distinct : Adjacent Row.name rows → (constraints.map name).Nodup

section Reassembled

variable {rows : List Row}

theorem UniqueConstraint.reassembled {constraints : List UniqueConstraint}
    (made : List.Forall₂ MadeOf constraints (runsBy Row.name rows)) :
    Reassembled MadeOf (·.name) (·.columns) constraints rows :=
  ⟨made, flatMap_of_runsBy made fun _ _ made => made.columns,
    fun adjacent => adjacent.nodup_map made fun _ _ made => made.name⟩

theorem ForeignKey.reassembled {keys : List ForeignKey}
    (made : List.Forall₂ MadeOf keys (runsBy Row.name rows)) :
    Reassembled MadeOf (·.name) (·.columns) keys rows :=
  ⟨made, flatMap_of_runsBy made fun _ _ made => made.columns,
    fun adjacent => adjacent.nodup_map made fun _ _ made => made.name⟩

end Reassembled

namespace Client

variable {permits : Client → Step → Prop} {client : Client}

/-- Constraints are put together from their rows. After a load of unique constraints or
foreign keys that succeeds there is one for each run of rows with one name, and if none
were loaded before, the rows are those that the catalog answers with. Then each key
refers to what one lookup has found, for the constraint that the first row of its run
names; the lookups are run once for each key, in one transaction with the query for the
rows. If a lookup fails, or the load does for any other reason, no keys are there. -/
theorem Reachable.constraints_reassembled (h : Reachable permits client) {table : Table}
    (ht : .table table ∈ client.workspace.everyObject) :
    let world := client.world
    let unique := table.loadUniqueConstraints world
    let foreign := table.loadForeignKeys world
    (unique.1.1 = .ok () → ∃ rows constraints,
      unique.1.2.uniqueConstraints = .loaded constraints ∧
      Reassembled UniqueConstraint.MadeOf (·.name) (·.columns) constraints rows ∧
      (table.uniqueConstraints.isLoaded = false → ∃ l, table.item.loader = some l ∧
        (world.catalogOf l).answer Table.uniqueSql [.text table.name.raw] = .ok rows)) ∧
    (foreign.1.1 = .ok () → ∃ rows keys,
      foreign.1.2.foreignKeys = .loaded keys ∧
      Reassembled ForeignKey.MadeOf (·.name) (·.columns) keys rows ∧
      (table.foreignKeys.isLoaded = false → ∃ l main asked, table.item.loader = some l ∧
        Table.Lookups (world.catalogOf l) table.name.raw rows main asked ∧
        keys = asked.map Prod.fst ∧ world.Ran l (main :: asked.map Prod.snd) foreign.2 ∧
        world.UsesTransaction l foreign.2)) ∧
    (∀ e, foreign.1.1 = .error e → foreign.1.2.foreignKeys = .unloaded) ∧
    ∀ l rows, table.item.loader = some l → table.foreignKeys.isLoaded = false →
      (world.catalogOf l).answer Table.foreignKeySql [.text table.name.raw] = .ok rows →
      ∀ run ∈ runsBy Row.name rows, ∀ first ∈ run.head?, ∀ e,
        (world.catalogOf l).referenced (first.text 5) = .error e →
          foreign.1.2.foreignKeys = .unloaded := by
  intro world unique foreign
  have upheld := h.upheld (positions_admits permits)
  have knows := (upheld.fits.everyObject _ ht).knows
  have regrouped := h.table_regrouped ht
  have fresh (absent : table.foreignKeys.isLoaded = false) (ok : foreign.1.1 = .ok ()) :=
    Table.load_lookups upheld.upholds knows absent ok
  refine ⟨fun ok => ?_, fun ok => ?_, fun e failed => Item.load_error failed,
    fun l rows hl absent answer run hr first hf e he => ?_⟩
  · obtain ⟨rows, constraints, loaded, made, answer⟩ :=
      (UniqueConstraint.reader_makes.regroups ..).load_ok upheld.upholds.sound knows
        regrouped.uniqueConstraints ok
    exact ⟨rows, constraints, loaded, UniqueConstraint.reassembled made, answer⟩
  · cases absent : table.foreignKeys.isLoaded with
    | true =>
      obtain ⟨rows, keys, loaded, made, -⟩ :=
        (Table.fetchForeignKeys_regroups table.item).load_ok upheld.upholds.sound knows
          regrouped.foreignKeys ok
      exact ⟨rows, keys, loaded, ForeignKey.reassembled made, nofun⟩
    | false =>
      obtain ⟨l, rows, main, asked, hl, lookups, loaded, ran, transaction⟩ := fresh absent ok
      refine ⟨rows, asked.map Prod.fst, loaded, ForeignKey.reassembled ?_,
        fun _ => ⟨l, main, asked, hl, lookups, rfl, ran, transaction⟩⟩
      exact List.forall₂_map_left_iff.mpr (lookups.looked.imp fun _ _ looked => looked.made)
  · cases outcome : foreign.1.1 with
    | error e => exact Item.load_error outcome
    | ok =>
      obtain ⟨l', rows', main, asked, hl', lookups, -⟩ := fresh absent outcome
      cases hl.symm.trans hl'
      cases answer.symm.trans lookups.answer
      obtain ⟨asked, -, looked⟩ := exists_of_mem_left lookups.looked.flip hr
      obtain ⟨first', hf', found⟩ := looked.refers
      cases Option.mem_unique hf hf'
      rw [found] at he
      cases he

end Client

/-! ## A catalog of orders -/

/-- The columns of two unique constraints. -/
def uniqueRows : List Row :=
  [["ORDER_NO  ", "REGION", "U1"].map .text, ["ORDER_NO", "NUMBER", "U2"].map .text,
    ["LABEL", "CODE", "U3"].map .text]

/-- Who bought something, by two columns, and who sends it. One of the names is padded. -/
def orderRows : List Row :=
  [["BOUGHT  ", "BUYER", "CASCADE", "", "BUYERS", "I1"].map .text,
    ["BOUGHT", "REGION", "SET NULL", "", "CARRIERS", "I2"].map .text,
    ["SENT", "CARRIER ", " set null ", "No Action", "CARRIERS", "I3"].map .text]

/-- What a line belongs to. The second key refers to a constraint that cannot be read. -/
def lineRows : List Row :=
  [["ORDERED", "BUYER", "", "", "BUYERS", "I4"].map .text,
    ["PART", "NUMBER", "", "", "NUMBERS", "I5"].map .text]

/-- A catalog of orders and their lines. -/
def orders : Catalog where
  database := "orders.fdb"
  replies := [
    ⟨"UNIQUE", some (.text "ORDERS"), uniqueRows⟩,
    ⟨"", some (.text "ORDERS"), orderRows⟩,
    ⟨"", some (.text "LINES"), lineRows⟩,
    ⟨"", some (.text "BUYERS"), [["CUSTOMER", "ID"].map .text, ["CUSTOMER ", "REGION "].map .text]⟩,
    ⟨"", some (.text "CARRIERS"), [["CARRIER", "CODE"].map .text]⟩,
    ⟨"", some (.text "NUMBERS"), [["PARTS"].map .text]⟩]

namespace orders

/-- Only the query for unique constraints names their kind. -/
theorem includes_unique : Text.includes Table.uniqueSql "UNIQUE" = true ∧
    Text.includes Table.foreignKeySql "UNIQUE" = false := by
  unfold Text.includes Table.uniqueSql Table.foreignKeySql
  simp only [String.toList_append]
  repeat rw [String.toList_ofList]
  decide +kernel

theorem answer_unique : orders.answer Table.uniqueSql [.text "ORDERS"] = .ok uniqueRows := by
  simp [orders, Catalog.answer, Catalog.refusal?, Catalog.reply?, includes_unique.1,
    Catalog.Reply.wants, Value.equals]

theorem answer_orders : orders.answer Table.foreignKeySql [.text "ORDERS"] = .ok orderRows := by
  simp [orders, Catalog.answer, Catalog.refusal?, Catalog.reply?, includes_unique.2,
    Text.includes_empty, Catalog.Reply.wants, Value.equals]

theorem answer_lines : orders.answer Table.foreignKeySql [.text "LINES"] = .ok lineRows := by
  simp [orders, Catalog.answer, Catalog.refusal?, Catalog.reply?, includes_unique.2,
    Text.includes_empty, Catalog.Reply.wants, Value.equals]

/-- What any query about a constraint of another table is answered. -/
theorem answer_other (sql : String) :
    orders.answer sql [.text "BUYERS"] =
        .ok [["CUSTOMER", "ID"].map .text, ["CUSTOMER ", "REGION "].map .text] ∧
      orders.answer sql [.text "CARRIERS"] = .ok [["CARRIER", "CODE"].map .text] ∧
      orders.answer sql [.text "NUMBERS"] = .ok [["PARTS"].map .text] := by
  by_cases hu : Text.includes sql "UNIQUE" <;>
    simp [orders, Catalog.answer, Catalog.refusal?, Catalog.reply?, hu, Text.includes_empty,
      Catalog.Reply.wants, Value.equals]

theorem referenced_buyers : orders.referenced "BUYERS" = .ok ("CUSTOMER", ["ID", "REGION"]) := by
  rw [Catalog.referenced, (answer_other _).1]
  rfl

theorem referenced_carriers : orders.referenced "CARRIERS" = .ok ("CARRIER", ["CODE"]) := by
  rw [Catalog.referenced, (answer_other _).2.1]
  rfl

theorem referenced_numbers :
    orders.referenced "NUMBERS" = .error (.query "column 2 out of range") := by
  have message : "column " ++ Decimal.ofNat 2 ++ " out of range" = "column 2 out of range" := by
    decide +kernel
  rw [Catalog.referenced, (answer_other _).2.2, ← message]
  rfl

/-- The number of an order, in its region. -/
def orderNo : UniqueConstraint where
  name := "ORDER_NO"
  columns := ["REGION", "NUMBER"]
  indexName := "U1"

/-- The label of an order. -/
def label : UniqueConstraint where
  name := "LABEL"
  columns := ["CODE"]
  indexName := "U3"

/-- Who bought an order. -/
def bought : ForeignKey where
  name := "BOUGHT"
  table := "ORDERS"
  columns := ["BUYER", "REGION"]
  referencedTable := "CUSTOMER"
  referencedColumns := ["ID", "REGION"]
  updateAction := .cascade
  deleteAction := .restrict
  indexName := "I1"

/-- Who sends an order. -/
def sent : ForeignKey where
  name := "SENT"
  table := "ORDERS"
  columns := ["CARRIER"]
  referencedTable := "CARRIER"
  referencedColumns := ["CODE"]
  updateAction := .setNull
  deleteAction := .noAction
  indexName := "I3"

/-- These are the constraints that the rows make. -/
theorem constraints_eq {constraints : List UniqueConstraint}
    (made : List.Forall₂ UniqueConstraint.MadeOf constraints (runsBy Row.name uniqueRows)) :
    constraints = [orderNo, label] := by
  have runs : runsBy Row.name uniqueRows = [uniqueRows.take 2, uniqueRows.drop 2] := rfl
  have first : orderNo.MadeOf (uniqueRows.take 2) :=
    ⟨by decide +kernel, by decide +kernel, _, rfl, by decide +kernel⟩
  have second : label.MadeOf (uniqueRows.drop 2) :=
    ⟨by decide +kernel, by decide +kernel, _, rfl, by decide +kernel⟩
  have one : Relator.LeftUnique UniqueConstraint.MadeOf :=
    fun _ _ _ => UniqueConstraint.MadeOf.unique
  rw [runs] at made
  exact List.left_unique_forall₂' one made (.cons first (.cons second .nil))

/-- These are the keys that the rows and their lookups make, and the constraints that are
looked up. -/
theorem asked_eq {asked : List (ForeignKey × Execution)}
    (looked : List.Forall₂ (ForeignKey.Looked orders "ORDERS") asked
      (runsBy Row.name orderRows)) :
    ∃ first second, asked = [(bought, first), (sent, second)] ∧
      first.Asks Table.referencedKeySql (.text "BUYERS") ∧
      second.Asks Table.referencedKeySql (.text "CARRIERS") := by
  have runs : runsBy Row.name orderRows = [orderRows.take 2, orderRows.drop 2] := rfl
  have firstMade : bought.MadeOf (orderRows.take 2) := by
    refine ⟨by decide +kernel, by decide +kernel, _, rfl, .cascade ?_, .restrict ?_, ?_⟩ <;>
      decide +kernel
  have secondMade : sent.MadeOf (orderRows.drop 2) := by
    refine ⟨by decide +kernel, by decide +kernel, _, rfl, .setNull ?_, .noAction ?_, ?_⟩ <;>
      decide +kernel
  rw [runs] at looked
  match asked, looked with
  | [(key, first), (key', second)], .cons looked (.cons looked' .nil) =>
    obtain rfl := looked.unique ⟨rfl, firstMade, ⟨_, rfl, referenced_buyers⟩, looked.asks⟩
    obtain rfl := looked'.unique ⟨rfl, secondMade, ⟨_, rfl, referenced_carriers⟩, looked'.asks⟩
    obtain ⟨_, ⟨⟩, asks⟩ := looked.asks
    obtain ⟨_, ⟨⟩, asks'⟩ := looked'.asks
    exact ⟨first, second, rfl, asks, asks'⟩

/-- Every constraint that a row of the orders names can be looked up. -/
theorem exists_foreignKeys : ∃ keys, orders.foreignKeys "ORDERS" = .ok keys := by
  have read : orderRows.mapM ForeignKeyRow.read = .ok (orderRows.map Row.foreignKey) := rfl
  refine Catalog.foreignKeys_ok answer_orders read fun row member => ?_
  have named : row.uniqueConstraint = "BUYERS" ∨ row.uniqueConstraint = "CARRIERS" := by
    revert row
    decide +kernel
  rcases named with named | named <;> rw [named]
  · exact ⟨_, referenced_buyers⟩
  · exact ⟨_, referenced_carriers⟩

end orders

namespace Client

/-- A client that has opened the catalog of orders, and owns these and the lines. -/
def ordering : Client := (Client.start 0).after
  ([.openCatalog "main" "orders.fdb" "SYSDBA" "masterkey"] ++
    orders.replies.map (fun reply => .script "main" (.reply reply)) ++
    [.newDatabase "db" none (.ofCatalog "DB") "orders.fdb", .connect "db" "main",
      .database "db" (.addTable (.ofCatalog "ORDERS")),
      .database "db" (.addTable (.ofCatalog "LINES"))])

/-- The orders get two unique constraints and two keys, each with its lookup. The lines get no
keys, because the second lookup fails. -/
theorem Reachable.constraints_reassembled_orders :
    let world := ordering.world
    (∃ table, .table table ∈ ordering.workspace.everyObject ∧ table.name.raw = "ORDERS" ∧
      (table.loadUniqueConstraints world).1.2.uniqueConstraints =
        .loaded [orders.orderNo, orders.label] ∧
      (table.loadForeignKeys world).1.2.foreignKeys = .loaded [orders.bought, orders.sent] ∧
      ∃ main first second, main.Asks Table.foreignKeySql (.text "ORDERS") ∧
        first.Asks Table.referencedKeySql (.text "BUYERS") ∧
        second.Asks Table.referencedKeySql (.text "CARRIERS") ∧
        world.Ran ⟨0⟩ [main, first, second] (table.loadForeignKeys world).2 ∧
        world.UsesTransaction ⟨0⟩ (table.loadForeignKeys world).2) ∧
    ∃ table, .table table ∈ ordering.workspace.everyObject ∧ table.name.raw = "LINES" ∧
      (table.loadForeignKeys world).1.2.foreignKeys = .unloaded := by
  have reachable : Reachable (Spares ⟨0⟩) ordering := .of_steps ⟨0⟩ 0 (by decide)
  have catalog : ordering.world.catalogOf ⟨0⟩ = orders := rfl
  have newOrders : ordering.hasNewTable "ORDERS" = true := by decide +kernel
  have newLines : ordering.hasNewTable "LINES" = true := by decide +kernel
  have known : ordering.world.Knows ⟨0⟩ := by decide +kernel
  -- From here on only what the catalog answers matters.
  generalize ordering = client at *
  intro world
  have idle (sqls : List String) : Idle sqls client.world ⟨0⟩ :=
    reachable.idle known (by rw [catalog]; rfl) (by rw [catalog]; rfl) sqls
  refine ⟨?_, ?_⟩
  · obtain ⟨t, member, name, loader, noConstraints, noKeys, -⟩ := exists_newTable newOrders
    obtain ⟨constraints, keys, -, -⟩ := Reachable.constraints_reassembled reachable member
    have answerUnique : (client.world.catalogOf ⟨0⟩).answer Table.uniqueSql [.text t.name.raw] =
        .ok uniqueRows := by rw [catalog, name, orders.answer_unique]
    have answerOrders : (client.world.catalogOf ⟨0⟩).answer Table.foreignKeySql
        [.text t.name.raw] = .ok orderRows := by rw [catalog, name, orders.answer_orders]
    obtain ⟨newest, grouped⟩ : ∃ newest, uniqueRows.foldlM UniqueConstraint.reader.step [] =
        .ok newest := exists_of_isOk (by decide +kernel)
    obtain ⟨described, found⟩ := orders.exists_foreignKeys
    rw [← name, ← catalog] at found
    have unique : (t.loadUniqueConstraints client.world).1.1 = .ok () :=
      (RunReader.load_idle .uniqueConstraints (idle _) loader noConstraints
        ((Catalog.readRows_ok answerUnique _ _).trans grouped)).1
    obtain ⟨_, made, loaded, reassembled, fresh⟩ := constraints unique
    obtain ⟨l, hl, answered⟩ := fresh noConstraints
    cases loader.symm.trans hl
    cases answerUnique.symm.trans answered
    obtain rfl := orders.constraints_eq reassembled.made
    obtain ⟨_, _, loadedKeys, -, fresh⟩ := keys (Table.load_idle (idle _) loader noKeys found)
    obtain ⟨l, main, asked, hl, lookups, rfl, ran, transaction⟩ := fresh noKeys
    cases loader.symm.trans hl
    cases answerOrders.symm.trans lookups.answer
    have looked := lookups.looked
    have asks := lookups.main
    rw [name, catalog] at looked
    rw [name] at asks
    obtain ⟨first, second, rfl, asksFirst, asksSecond⟩ := orders.asked_eq looked
    exact ⟨t, member, name, loaded, loadedKeys, main, first, second, asks, asksFirst, asksSecond,
      ran, transaction⟩
  · obtain ⟨t, member, name, loader, -, noKeys, -⟩ := exists_newTable newLines
    obtain ⟨-, -, -, failing⟩ := Reachable.constraints_reassembled reachable member
    refine ⟨t, member, name, ?_⟩
    have answer : (client.world.catalogOf ⟨0⟩).answer Table.foreignKeySql [.text t.name.raw] =
        .ok lineRows := by rw [catalog, name, orders.answer_lines]
    have runs : runsBy Row.name lineRows = [lineRows.take 1, lineRows.drop 1] := rfl
    refine failing ⟨0⟩ lineRows loader noKeys answer (lineRows.drop 1) ?_ _ rfl
      (.query "column 2 out of range") ?_
    · rw [runs]
      exact List.mem_cons_of_mem _ List.mem_cons_self
    · rw [catalog]
      exact orders.referenced_numbers

end Client

end MetaCatalog
