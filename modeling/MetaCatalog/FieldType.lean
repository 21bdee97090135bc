import MetaCatalog.Json.Reader
import MetaCatalog.Row

/-!
# Field types

The catalog describes the type of a column or a parameter by six numbers.
`sql` is the type as it is written in SQL.
-/

namespace MetaCatalog

/-- The type of a field in the catalog's numbers. -/
structure FieldType where
  code : Int64 := 0
  subType : Int64 := 0
  length : Int64 := 0
  precision : Int64 := 0
  scale : Int64 := 0
  /-- The length of a text type in characters, where the catalog knows it. -/
  charLength : Option Int64 := none
  deriving DecidableEq, Inhabited

namespace FieldType

/-- The columns that a query selects for a field type, in order. -/
def columns : String :=
  "f.rdb$field_type, f.rdb$field_sub_type, " ++
  "f.rdb$field_length, f.rdb$field_precision, f.rdb$field_scale, f.rdb$character_length"

/-- Reads a field type from six columns, of which `first` is the first. -/
def read (row : Row) (first : Nat) : Except Error FieldType := do
  let charLength := (← row.cell (first + 5)).integer?
  pure {
    code := ← row.integer first 0
    subType := ← row.integer (first + 1) 0
    length := ← row.integer (first + 2) 0
    precision := ← row.integer (first + 3) 0
    scale := ← row.integer (first + 4) 0
    charLength }

/-- Whether the type holds text. -/
def isText (type : FieldType) : Bool := type.code == 14 || type.code == 37 || type.code == 40

/-- Whether a whole-number type stands for decimals with a fixed number of
places. -/
def isScaled (type : FieldType) : Bool :=
  (type.code == 7 || type.code == 8 || type.code == 16) &&
    (decide (type.scale < 0) || type.subType == 1 || type.subType == 2)

/-- The precision of a scaled type; the widest one unless the catalog names
another. -/
def scaledPrecision (type : FieldType) : Int :=
  if 0 < type.precision then type.precision.toInt
  else if type.code = 7 then 4
  else if type.code = 8 then 9
  else 18

/-- A scaled type in SQL. -/
def scaledSql (type : FieldType) : String :=
  (if type.subType = 2 then "DECIMAL(" else "NUMERIC(") ++
    Decimal.ofInt type.scaledPrecision ++ "," ++ Decimal.ofInt (-type.scale.toInt) ++ ")"

/-- The length of a text type. -/
def textLength (type : FieldType) : Int64 := type.charLength.getD type.length

/-- A type with a number in parentheses. -/
def sized (name : String) (n : Int64) : String := name ++ "(" ++ Decimal.ofInt64 n ++ ")"

/-- The type in SQL. -/
def sql (type : FieldType) : String :=
  if type.isScaled then type.scaledSql
  else
    match type.code.toInt with
    | 7 => "SMALLINT"
    | 8 => "INTEGER"
    | 16 => "BIGINT"
    | 9 => "QUAD"
    | 10 => "FLOAT"
    | 27 => "DOUBLE PRECISION"
    | 12 => "DATE"
    | 13 => "TIME"
    | 35 => "TIMESTAMP"
    | 23 => "BOOLEAN"
    | 14 => sized "CHAR" type.textLength
    | 37 => sized "VARCHAR" type.textLength
    | 40 => sized "CSTRING" type.textLength
    | 261 =>
      if type.subType = 1 then "BLOB SUB_TYPE TEXT"
      else "BLOB SUB_TYPE " ++ Decimal.ofInt64 type.subType
    | 45 => "BLOB_ID"
    | _ => sized "UNKNOWN" type.code

/-- The length in characters that a JSON value stands for, if it may be
absent. -/
def optionalInt64? : Json → Option (Option Int64)
  | .null => some none
  | value => value.int64?.map some

/-- The field type that a JSON value stands for: an object with its fields by
name, or an array of them in order. -/
def ofJson? : Json → Option FieldType
  | .object members => do
    let value := Json.object members
    pure {
      code := ← (← value.field? "field_type").int64?
      subType := ← (← value.field? "sub_type").int64?
      length := ← (← value.field? "length").int64?
      precision := ← (← value.field? "precision").int64?
      scale := ← (← value.field? "scale").int64?
      charLength := ← optionalInt64? ((value.field? "char_length").getD .null) }
  | .array [code, subType, length, precision, scale, charLength] => do
    pure {
      code := ← code.int64?
      subType := ← subType.int64?
      length := ← length.int64?
      precision := ← precision.int64?
      scale := ← scale.int64?
      charLength := ← optionalInt64? charLength }
  | _ => none

end FieldType

end MetaCatalog
