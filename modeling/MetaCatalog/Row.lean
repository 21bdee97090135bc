import MetaCatalog.Error
import MetaCatalog.Value

/-!
# Reading the columns of a row

Columns are counted from one. Every read fails in the same way if the row is
too short; apart from that an absent value reads as an empty text or as the
default given.
-/

namespace MetaCatalog

/-- The values of one row of a query's result. -/
abbrev Row := List Value

namespace Row

/-- The value in a column. -/
def cell (row : Row) (position : Nat) : Except Error Value :=
  match position with
  | 0 => .error (.query "column 0 out of range")
  | index + 1 =>
    match row[index]? with
    | some value => .ok value
    | none => .error (.query ("column " ++ Decimal.ofNat (index + 1) ++ " out of range"))

/-- Whether a column is absent. -/
def isNull (row : Row) (position : Nat) : Except Error Bool :=
  (row.cell position).map Value.isNull

/-- A large text column as it stands. -/
def blob (row : Row) (position : Nat) : Except Error String :=
  (row.cell position).map Value.toText

/-- A text column of fixed width without its padding. -/
def trimmed (row : Row) (position : Nat) : Except Error String :=
  (row.cell position).map fun value => Text.trimPadding value.toText

/-- An integer column, or the default if it holds no integer. -/
def integer (row : Row) (position : Nat) (default : Int64) : Except Error Int64 :=
  (row.cell position).map fun value => value.integer?.getD default

/-- A text, unless it is empty. -/
def nonEmpty? (text : String) : Option String := if text.isEmpty then none else some text

/-- A text column of fixed width, unless it is blank. -/
def optional (row : Row) (position : Nat) : Except Error (Option String) :=
  (row.trimmed position).map nonEmpty?

/-- A large text column without white space around it, unless it is blank. -/
def blobText (row : Row) (position : Nat) : Except Error (Option String) :=
  (row.blob position).map fun text => nonEmpty? (Text.trim text)

end Row

end MetaCatalog
