import MetaCatalog.Number.Decimal

/-!
# JSON values

A JSON document as it was written: numbers keep their literal, objects keep
every member in order, and a text whose escapes spell half a surrogate pair is
`none`, because it stands for no text. A reader of a document decides which of
these matter to it.
-/

namespace MetaCatalog

/-- A JSON value. -/
inductive Json where
  | null
  | bool (value : Bool)
  | number (literal : String)
  | text (value : Option String)
  | array (values : List Json)
  | object (entries : List (Option String × Json))
  deriving Inhabited

namespace Json

/-- The last value an object has under a key. -/
def field? (key : String) : Json → Option Json
  | object members => (members.reverse.find? (·.1 == some key)).map (·.2)
  | _ => none

/-- The text of a value that is one. -/
def text? : Json → Option String
  | text value => value
  | _ => none

/-- The truth value of a value that is one. -/
def bool? : Json → Option Bool
  | bool value => some value
  | _ => none

/-! ## Documents -/

/-- A text. -/
def str (value : String) : Json := text (some value)

/-- An integer. -/
def int (value : Int) : Json := number (Decimal.ofInt value)

/-- A natural number. -/
def nat (value : Nat) : Json := number (Decimal.ofNat value)

/-- A signed 64-bit number. -/
def ofInt64 (value : Int64) : Json := int value.toInt

/-- A value that may be absent. -/
def opt (encode : α → Json) : Option α → Json
  | some value => encode value
  | none => null

/-- An array. -/
def list (encode : α → Json) (items : List α) : Json := array (items.map encode)

/-- An object. -/
def fields (members : List (String × Json)) : Json :=
  object (members.map fun member => (some member.1, member.2))

/-- The members of an object, without those whose key is no text. -/
def members : Json → List (String × Json)
  | object members => members.filterMap fun member => member.1.map (·, member.2)
  | _ => []

/-- The items of an array. -/
def items : Json → List Json
  | array items => items
  | _ => []

/-- A label: a text, or the only key of an object with nothing under it. -/
def label? : Json → Option String
  | text label => label
  | object [(label, null)] => label
  | _ => none

end Json

end MetaCatalog
