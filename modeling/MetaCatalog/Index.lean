import MetaCatalog.Row.Runs
import MetaCatalog.Text.Search

/-!
# Indices of a table

An index takes one row for each of its segments, which are columns of the
table; an index over an expression has no segments.
-/

namespace MetaCatalog

/-- The order in which an index lists its entries. -/
inductive IndexDirection where
  | ascending
  | descending
  deriving DecidableEq, Inhabited

/-- The direction in a document. -/
def IndexDirection.label : IndexDirection → String
  | ascending => "Ascending"
  | descending => "Descending"

/-- An index. -/
structure Index where
  name : String
  unique : Bool
  active : Bool
  direction : IndexDirection
  /-- The selectivity; minus one if it was never computed. -/
  statistics : Binary64
  /-- Whether the server made the index to enforce a constraint. -/
  isSystem : Bool
  /-- The source of an index over an expression, empty for any other. -/
  expression : String
  segments : List String
  deriving DecidableEq, Inhabited

namespace Index

/-- Whether the index lists its entries in ascending order. -/
def isAscending (index : Index) : Bool := index.direction = .ascending

/-- Whether the index is over an expression. -/
def isExpression (index : Index) : Bool := !index.expression.isEmpty

/-- The expression, or else the segments, as text. -/
def columnText (index : Index) : String :=
  if index.isExpression then index.expression else Text.joinWith ", " index.segments

/-- The index and the segment that a row names. -/
def readKey (row : Row) : Except Error (String × String) := do
  pure (← row.trimmed 1, ← row.trimmed 6)

/-- Reads the index that starts with a row. A blank segment is none. -/
def readFirst (key : String × String) (row : Row) : Except Error Index := do
  let statistics ←
    if ← row.isNull 5 then pure Binary64.minusOne
    else pure ((← row.cell 5).number?.getD Binary64.minusOne)
  pure {
    name := key.1
    unique := (← row.integer 2 0) == 1
    active := (← row.integer 3 0) == 0
    direction := if (← row.integer 4 0) = 0 then .ascending else .descending
    statistics
    isSystem := !(← row.isNull 7)
    expression := Text.trim (← row.blob 8)
    segments := if key.2.isEmpty then [] else [key.2] }

/-- Indices take one row for each segment. -/
def reader : RunReader (String × String) Index where
  key := readKey
  continues index key := index.name == key.1
  extend index key := { index with segments := index.segments ++ [key.2] }
  start := readFirst

end Index

end MetaCatalog
