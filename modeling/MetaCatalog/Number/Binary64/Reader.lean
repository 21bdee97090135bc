import MetaCatalog.Number.Binary64
import MetaCatalog.Number.Decimal
import MetaCatalog.Text.Upper

/-!
# Reading a number

`Binary64.read?` accepts a decimal with an optional sign, an optional fraction
and an optional power of ten, where one of the two groups of digits may be
empty, and the words `inf`, `infinity` and `nan` in any case. The result is the
number nearest to the decimal.
-/

namespace MetaCatalog.Binary64

/-- Whether a character is an ASCII digit. -/
def isDigit (c : Char) : Bool := (Decimal.digit? c).isSome

/-- The power of ten after the digits: nothing, or a marker and an integer. -/
def readPower? : List Char → Option Int
  | [] => some 0
  | c :: cs =>
    if c = 'e' ∨ c = 'E' then
      match cs with
      | '+' :: ds => (Decimal.readNat? ds).map fun n => (n : Int)
      | '-' :: ds => (Decimal.readNat? ds).map fun n => -(n : Int)
      | ds => (Decimal.readNat? ds).map fun n => (n : Int)
    else none

/-- The number nearest to `digits * 10 ^ power`, where `count` is the number
of digits. Powers far out of range are decided without computing them. -/
def ofDecimal (negative : Bool) (digits count : Nat) (power : Int) : Binary64 :=
  if digits = 0 ∨ power + count < -400 then ofMagnitude negative 0
  else if 400 < power + count then ofMagnitude negative infiniteMagnitude
  else ofRatio negative (digits * Nat.pow 10 power.toNat) (Nat.pow 10 (-power).toNat)

/-- The digits of a decimal before and after the point, and what follows. -/
def splitDecimal (cs : List Char) : List Char × List Char × List Char :=
  let whole := cs.takeWhile isDigit
  match cs.dropWhile isDigit with
  | '.' :: rest => (whole, rest.takeWhile isDigit, rest.dropWhile isDigit)
  | rest => (whole, [], rest)

/-- A decimal without a sign. -/
def readDecimal? (negative : Bool) (cs : List Char) : Option Binary64 :=
  let (whole, fraction, rest) := splitDecimal cs
  let written := (whole ++ fraction).dropWhile (· == '0')
  match Decimal.readNat? (whole ++ fraction), readPower? rest with
  | some digits, some power =>
    some (ofDecimal negative digits written.length (power - fraction.length))
  | _, _ => none

/-- A number without a sign. -/
def readUnsigned? (negative : Bool) (cs : List Char) : Option Binary64 :=
  match Text.upperAscii (String.ofList cs) with
  | "INF" | "INFINITY" => some (ofMagnitude negative infiniteMagnitude)
  | "NAN" => some (ofMagnitude negative (infiniteMagnitude + exponentWeight / 2))
  | _ => readDecimal? negative cs

/-- The number that a text writes. -/
def read? (text : String) : Option Binary64 :=
  match text.toList with
  | '-' :: cs => readUnsigned? true cs
  | '+' :: cs => readUnsigned? false cs
  | cs => readUnsigned? false cs

end MetaCatalog.Binary64
