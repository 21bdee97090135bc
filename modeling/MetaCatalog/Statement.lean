import MetaCatalog.Catalog

/-!
# Prepared statements

A prepared statement keeps its parameters, the rows it has not handed out and
the row it stands on from one use to the next. `drain` reads all rows that are
left, one step of a computation for each; if a step fails, the statement stays
on that row.
-/

namespace MetaCatalog

/-- Names a connection of the world. -/
structure ConnectionId where
  index : Nat
  deriving DecidableEq, Inhabited

/-- Names a loader of the world. -/
structure LoaderId where
  index : Nat
  deriving DecidableEq, Inhabited

/-- Names a statement of the world. -/
structure StatementId where
  index : Nat
  deriving DecidableEq, Inhabited

/-- A prepared query of a connection. -/
structure Statement where
  connection : ConnectionId
  sql : String
  parameters : Parameters := {}
  rows : List Row := []
  current : Option Row := none
  deriving Inhabited

namespace Statement

/-- The statement with a new result to hand out. -/
def withRows (statement : Statement) (rows : List Row) : Statement :=
  { statement with rows, current := none }

/-- Moves to the next row and says whether there is one. -/
def fetch (statement : Statement) : Bool × Statement :=
  match statement.rows with
  | [] => (false, { statement with current := none })
  | row :: rest => (true, { statement with rows := rest, current := some row })

/-- The row the statement stands on. -/
def row (statement : Statement) : Except Error Row :=
  match statement.current with
  | some row => .ok row
  | none => .error (.query "no current row")

/-- Takes one step of a computation for each row, and stops at the first that
fails. The result is followed by that row, if any, and the rows after it. -/
def foldRows (step : σ → Row → Except Error σ) : σ → List Row →
    Except Error σ × Option Row × List Row
  | state, [] => (.ok state, none, [])
  | state, row :: rest =>
    match step state row with
    | .ok state => foldRows step state rest
    | .error e => (.error e, some row, rest)

/-- Reads all rows that are left. -/
def drain (statement : Statement) (step : σ → Row → Except Error σ) (state : σ) :
    Except Error σ × Statement :=
  let (result, current, rows) := foldRows step state statement.rows
  (result, { statement with rows, current })

end Statement

end MetaCatalog
