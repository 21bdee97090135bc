import MetaCatalog.Number.Binary64.Reader
import MetaCatalog.Number.Binary64.Shortest
import MetaCatalog.Text.Blank
import MetaCatalog.Text.Utf8

/-!
# Catalog values

What a catalog query is given and what it answers. `text` is the form in which
a column is read as text, `integer?` and `number?` are its numeric views, and
`equals` compares two values as the catalog does: kinds are kept apart, and a
floating-point number that is no number equals nothing.
-/

namespace MetaCatalog

/-- A value of a catalog column or parameter. -/
inductive Value where
  | null
  | bool (flag : Bool)
  | int16 (n : Int16)
  | int32 (n : Int32)
  | int64 (n : Int64)
  | float (x : Binary64)
  | text (s : String)
  | bytes (content : List UInt8)
  deriving Inhabited

namespace Value

/-- Whether the value is absent. -/
def isNull : Value → Bool
  | null => true
  | _ => false

/-- The text of a value that is one. -/
def text? : Value → Option String
  | text s => some s
  | _ => none

/-- The integer a value stands for. Text counts if it writes one. -/
def integer? : Value → Option Int64
  | bool flag => some (if flag then 1 else 0)
  | int16 n => some n.toInt64
  | int32 n => some n.toInt64
  | int64 n => some n
  | text s => Decimal.readInt64? (Text.trim s)
  | _ => none

/-- The number a value stands for, rounded if it has to be. -/
def number? : Value → Option Binary64
  | float x => some x
  | text s => Binary64.read? (Text.trim s)
  | value => value.integer?.map fun n => Binary64.ofInt n.toInt

/-- A value read as text; an absent one is empty. -/
def toText : Value → String
  | null => ""
  | bool flag => if flag then "true" else "false"
  | int16 n => Decimal.ofInt n.toInt
  | int32 n => Decimal.ofInt n.toInt
  | int64 n => Decimal.ofInt n.toInt
  | float x => x.text
  | text s => s
  | bytes content => Utf8.decodeLossy content

/-- Whether two values are of one kind and equal. -/
def equals : Value → Value → Bool
  | null, null => true
  | bool a, bool b => a == b
  | int16 a, int16 b => a == b
  | int32 a, int32 b => a == b
  | int64 a, int64 b => a == b
  | float x, float y => x.equals y
  | text a, text b => a == b
  | bytes a, bytes b => a == b
  | _, _ => false

end Value

end MetaCatalog
