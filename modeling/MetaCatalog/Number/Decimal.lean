/-!
# Decimal numerals

`ofNat` and `ofInt` write a number in decimal. Three readers accept what the
catalog and the settings may hold: `readIndex?` a list position of 64 bits,
with an optional `+`; `readInt64?` a signed number of 64 bits, with an
optional sign. Both accept leading zeros, ASCII digits only, and refuse a
number that does not fit.
-/

namespace MetaCatalog.Decimal

/-- The character of a digit below ten. -/
def digitChar (d : Nat) : Char := Char.ofNat (48 + d)

/-- The decimal digits of a number, most significant first. -/
def digits (n : Nat) : List Char :=
  if n < 10 then [digitChar n] else digits (n / 10) ++ [digitChar (n % 10)]
termination_by n

/-- A number in decimal. -/
def ofNat (n : Nat) : String := String.ofList (digits n)

/-- A number in decimal, with a minus sign if it is negative. -/
def ofInt (i : Int) : String :=
  if i < 0 then "-" ++ ofNat i.natAbs else ofNat i.natAbs

/-- The value of an ASCII digit. -/
def digit? (c : Char) : Option Nat :=
  if '0' ≤ c ∧ c ≤ '9' then some (c.toNat - 48) else none

/-- The number whose digits are those of `value` followed by the given ones. -/
def extend? (value : Nat) : List Char → Option Nat
  | [] => some value
  | c :: cs =>
    match digit? c with
    | some d => extend? (10 * value + d) cs
    | none => none

/-- The number written by at least one digit and nothing else. -/
def readNat? : List Char → Option Nat
  | [] => none
  | cs => extend? 0 cs

/-- The number below `2 ^ 64` that a text writes, a leading `+` allowed. -/
def readIndex? (text : String) : Option Nat :=
  let digits := match text.toList with
    | '+' :: cs => cs
    | cs => cs
  match readNat? digits with
  | some n => if n < UInt64.size then some n else none
  | none => none

/-- The integer that a text writes, a leading sign allowed. -/
def readInt? (text : String) : Option Int :=
  match text.toList with
  | '+' :: cs => (readNat? cs).map fun n => (n : Int)
  | '-' :: cs => (readNat? cs).map fun n => -(n : Int)
  | cs => (readNat? cs).map fun n => (n : Int)

/-- A signed number of 64 bits, if it fits. -/
def int64? (i : Int) : Option Int64 :=
  if Int64.minValue.toInt ≤ i ∧ i ≤ Int64.maxValue.toInt then some (Int64.ofInt i) else none

/-- The signed 64-bit number that a text writes. -/
def readInt64? (text : String) : Option Int64 := (readInt? text).bind int64?

/-- A signed 64-bit number in decimal. -/
def ofInt64 (i : Int64) : String := ofInt i.toInt

end MetaCatalog.Decimal
