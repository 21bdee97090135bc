import MetaCatalog.Json.Reader
import MetaCatalog.Row

/-!
# Catalog values in documents

Truth values and texts stand for themselves. A value of another kind is an
object with one member, whose key names the kind. Floating-point numbers are
written by their bits, so that they are exact.
-/

namespace MetaCatalog

/-- The bits of a number in hexadecimal. What is no number has one name for
all of its forms. -/
def Binary64.hex (x : Binary64) : String :=
  if x.isNaN then "nan" else String.ofList (Hex.padded 16 x.bits.toNat)

/-- The number with the given bits in hexadecimal. -/
def Binary64.ofHex (digits : String) : Binary64 :=
  ⟨((Hex.extend? 0 digits.toList).getD 0).toUInt64⟩

/-- A text, or an object that says which text to repeat, and how often. -/
def Json.repeatedText : Json → String
  | text value => value.getD ""
  | value =>
    let part := ((value.field? "rep").bind text?).getD ""
    let count := ((value.field? "n").bind index?).getD 0
    String.join (List.replicate count part)

namespace Value

/-- The document of a value. -/
def report : Value → Json
  | null => .null
  | bool flag => .bool flag
  | int16 n => .fields [("i16", .int n.toInt)]
  | int32 n => .fields [("i32", .int n.toInt)]
  | int64 n => .fields [("i64", .ofInt64 n)]
  | float x => .fields [("f64", .str x.hex)]
  | text s => .str s
  | bytes content => .fields [("b", .str (Hex.ofBytes content))]

/-- The value of a kind with the given content. -/
def ofMember (kind : String) (content : Json) : Value :=
  let integer := content.int64?.getD 0
  let text := content.text?.getD ""
  match kind with
  | "i16" => int16 integer.toInt16
  | "i32" => int32 integer.toInt32
  | "i64" => int64 integer
  | "f64" => float (.ofHex text)
  | "b" => bytes ((Hex.readBytes? text.toList).getD [])
  | _ => null

/-- The value of a document. Objects without a known member are null. -/
def ofJson : Json → Value
  | .bool flag => bool flag
  | .text (some s) => text s
  | .object entries =>
    let value := Json.object entries
    if (value.field? "rep").isSome then text value.repeatedText
    else
      match value.members.head? with
      | some (kind, content) => ofMember kind content
      | none => null
  | _ => null

end Value

/-- The row of a document. -/
def Row.ofJson (value : Json) : Row := value.items.map Value.ofJson

end MetaCatalog
