import MetaCatalog.World

/-!
# Loaders

Every read of the catalog goes through a loader. It keeps one prepared
statement for each query text, and all reads happen inside its transaction:
`enter` starts a transaction for the first user and `leave` ends it after the
last one, by a commit, or by a rollback if the commit fails. `withTransaction`
brackets a computation between the two, whether the computation fails or not.
-/

namespace MetaCatalog

/-- A prepared statement in the hands of someone, and the loader it came
from. -/
structure Handle where
  statement : StatementId
  loader : LoaderId
  deriving DecidableEq, Inhabited

namespace Query

/-- The outcome of a pure computation. -/
def ofExcept (outcome : Except Error α) : Query α := ExceptT.mk (pure outcome)

/-- Changes a catalog by an operation that may be refused. -/
def changeCatalog (id : ConnectionId) (f : Catalog → Except Error Catalog) : Query Unit := do
  let world ← get
  let catalog ← ofExcept (f (world.catalog id))
  set (world.setCatalog id catalog)

end Query

namespace LoaderId

/-- The prepared statement for a query text. It is prepared on first use. -/
def prepare (id : LoaderId) (sql : String) : Query Handle := do
  let world ← get
  let loader := world.loader id
  let catalog := world.catalogOf id
  if catalog.connected then
    match loader.statements.lookup sql with
    | some statement => pure ⟨statement, id⟩
    | none =>
      Query.changeCatalog loader.connection (·.prepare sql)
      let statement ← World.newStatement { connection := loader.connection, sql }
      modify (·.modifyLoader id fun l => { l with statements := (sql, statement) :: l.statements })
      pure ⟨statement, id⟩
  else throw (.notConnected catalog.database)

/-- Forgets every prepared statement. Handles to them stay usable. -/
def clearStatements (id : LoaderId) : Engine Unit :=
  modify (·.modifyLoader id fun l => { l with statements := [] })

/-- Takes part in the loader's transaction, which starts if nobody did. -/
def enter (id : LoaderId) : Query Unit := do
  let loader := (← get).loader id
  if loader.depth = 0 then Query.changeCatalog loader.connection (·.startTransaction)
  modify (·.modifyLoader id fun l => { l with depth := l.depth + 1 })

/-- The catalog after its transaction has ended. -/
def finish (catalog : Catalog) : Catalog :=
  match catalog.commit with
  | .ok catalog => catalog
  | .error _ => catalog.rollback

/-- Stops taking part in the loader's transaction, which ends with the last
one. -/
def leave (id : LoaderId) : Engine Unit := do
  let loader := (← get).loader id
  modify (·.modifyLoader id fun l => { l with depth := l.depth - 1 })
  if loader.depth = 1 then
    modify fun world =>
      world.setCatalog loader.connection (finish (world.catalog loader.connection))

/-- Runs a computation inside the loader's transaction. -/
def withTransaction (id : LoaderId) (body : Query α) : Query α := do
  id.enter
  let outcome ← ExceptT.lift body.run
  ExceptT.lift id.leave
  Query.ofExcept outcome

end LoaderId

namespace Handle

/-- Binds a value to a parameter. -/
def bind (handle : Handle) (position : Nat) (value : Value) : Query Unit := do
  let world ← get
  let statement := world.statement handle.statement
  let parameters ← Query.ofExcept (statement.parameters.bind position value)
  set (world.setStatement handle.statement { statement with parameters })

/-- Binds values to the parameters from a position on. -/
def bindFrom (handle : Handle) (position : Nat) : List Value → Query Unit
  | [] => pure ()
  | value :: rest => do
    handle.bind position value
    handle.bindFrom (position + 1) rest

/-- Runs the statement, which is refused outside the loader's transaction. -/
def execute (handle : Handle) : Query Unit := do
  let world ← get
  let statement := world.statement handle.statement
  if (world.loader handle.loader).depth = 0 then
    throw (.connection "catalog query executed outside a metadata transaction")
  let (outcome, catalog) :=
    (world.catalog statement.connection).execute statement.sql statement.parameters
  set (world.setCatalog statement.connection catalog)
  let rows ← Query.ofExcept outcome
  modify (·.setStatement handle.statement (statement.withRows rows))

/-- Moves to the next row and says whether there is one. -/
def fetch (handle : Handle) : Engine Bool := fun world =>
  let (more, statement) := (world.statement handle.statement).fetch
  (more, world.setStatement handle.statement statement)

/-- The row the statement stands on. -/
def row (handle : Handle) : Query Row := do
  Query.ofExcept ((← get).statement handle.statement).row

/-- Reads all rows that are left, one step of a computation for each. -/
def foldRows (handle : Handle) (step : σ → Row → Except Error σ) (state : σ) : Query σ := do
  let world ← get
  let (outcome, statement) := (world.statement handle.statement).drain step state
  set (world.setStatement handle.statement statement)
  Query.ofExcept outcome

/-- Reads the next row, if there is one. -/
def readRow? (handle : Handle) (read : Row → Except Error α) : Query (Option α) := do
  if ← handle.fetch then
    some <$> Query.ofExcept (read (← handle.row))
  else pure none

/-- The handle in a diagnostic. -/
def diagnostic (handle : Handle) : Engine String := do
  let depth := ((← get).loader handle.loader).depth
  pure ("StatementHandle \x7b transaction_depth: " ++ Decimal.ofNat depth ++ ", .. \x7d")

end Handle

namespace LoaderId

/-- Runs a query with the given parameters. -/
def query (id : LoaderId) (sql : String) (parameters : List Value) : Query Handle := do
  let handle ← id.prepare sql
  handle.bindFrom 1 parameters
  handle.execute
  pure handle

/-- The result of a query, read by one step of a computation for each row. -/
def fold (id : LoaderId) (sql : String) (parameters : List Value)
    (step : σ → Row → Except Error σ) (state : σ) : Query σ := do
  (← id.query sql parameters).foldRows step state

/-- The result of a query with every row read on its own. -/
def list (id : LoaderId) (sql : String) (parameters : List Value)
    (read : Row → Except Error α) : Query (List α) :=
  id.fold sql parameters (fun rows row => (read row).map (rows ++ [·])) []

/-- The first row of a query's result, if there is one. -/
def first? (id : LoaderId) (sql : String) (parameters : List Value)
    (read : Row → Except Error α) : Query (Option α) := do
  (← id.query sql parameters).readRow? read

end LoaderId

end MetaCatalog
