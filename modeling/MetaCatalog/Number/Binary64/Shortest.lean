import MetaCatalog.Number.Binary64
import MetaCatalog.Number.Decimal

/-!
# The shortest decimal text of a number

`Binary64.text` writes the fewest significant digits that still read back as
the same number; of two such decimals the nearer one, and the larger one if
both are equally near. The text is positional for every magnitude, whole
numbers have no fraction, and the words `NaN` and `inf` stand for the rest.
-/

namespace MetaCatalog.Binary64

/-- A finite number with the interval of the reals that round to it, all as
multiples of `1 / den`. The ends belong to it if `closed`. -/
structure Span where
  value : Nat
  low : Nat
  high : Nat
  den : Nat
  closed : Bool

/-- The span of `significand * 2 ^ exponent`. The gap below a power of two is
half as wide as the one above it. -/
def span (significand : Nat) (exponent : Int) : Span :=
  let below := if significand = exponentWeight ∧ -1074 < exponent then 1 else 2
  let shift := (exponent - 2).toNat
  { value := (4 * significand) <<< shift
    low := (4 * significand - below) <<< shift
    high := (4 * significand + 2) <<< shift
    den := 1 <<< (2 - exponent).toNat
    closed := significand % 2 = 0 }

/-- Whether the decimal `digits * 10 ^ power` rounds to the number. -/
def Span.holds (s : Span) (digits : Nat) (power : Int) : Bool :=
  let point := digits * Nat.pow 10 power.toNat * s.den
  let scale := Nat.pow 10 (-power).toNat
  if s.closed then s.low * scale ≤ point && point ≤ s.high * scale
  else s.low * scale < point && point < s.high * scale

/-- The number `k` with `10 ^ (k - 1) ≤ value < 10 ^ k`. -/
def Span.pointPosition (s : Span) : Int :=
  if s.den ≤ s.value then (Decimal.digits (s.value / s.den)).length
  else 1 - ((Decimal.digits ((s.den - 1) / s.value)).length : Int)

/-- The multiple of `10 ^ power` at or below the number. -/
def Span.floorDigits (s : Span) (power : Int) : Nat :=
  s.value * Nat.pow 10 (-power).toNat / (s.den * Nat.pow 10 power.toNat)

/-- Whether the number is at least halfway from `digits * 10 ^ power` to the
next multiple. -/
def Span.nearerAbove (s : Span) (digits : Nat) (power : Int) : Bool :=
  (2 * digits + 1) * Nat.pow 10 power.toNat * s.den ≤ 2 * s.value * Nat.pow 10 (-power).toNat

/-- The first decimal that rounds to the number on grids ever ten times finer,
`steps` of them at most. -/
def Span.search (s : Span) : (steps : Nat) → (power : Int) → Nat × Int
  | 0, power => (s.floorDigits power, power)
  | steps + 1, power =>
    let below := s.floorDigits power
    match s.holds below power, s.holds (below + 1) power with
    | true, true => (if s.nearerAbove below power then below + 1 else below, power)
    | true, false => (below, power)
    | false, true => (below + 1, power)
    | false, false => s.search steps (power - 1)

/-- The same decimal without zeros at the end of its digits. -/
def dropZeros (digits : Nat) (power : Int) : Nat × Int :=
  if digits = 0 ∨ digits % 10 ≠ 0 then (digits, power) else dropZeros (digits / 10) (power + 1)
termination_by digits
decreasing_by omega

/-- The decimal `digits * 10 ^ power` in positional notation. -/
def positional (digits : Nat) (power : Int) : List Char :=
  let written := Decimal.digits digits
  if 0 ≤ power then written ++ List.replicate power.toNat '0'
  else
    let places := (-power).toNat
    if places < written.length then
      written.take (written.length - places) ++ '.' :: written.drop (written.length - places)
    else ['0', '.'] ++ List.replicate (places - written.length) '0' ++ written

/-- The shortest decimal of `significand * 2 ^ exponent`, in positional
notation. -/
def shortest (significand : Nat) (exponent : Int) : List Char :=
  if significand = 0 then ['0']
  else
    let s := span significand exponent
    let (digits, power) := s.search 17 (s.pointPosition - 1)
    let (digits, power) := dropZeros digits power
    positional digits power

/-- The text of a number. -/
def text (x : Binary64) : String :=
  let sign := if x.negative then ['-'] else []
  match x.kind with
  | .nan => "NaN"
  | .infinite => String.ofList (sign ++ ['i', 'n', 'f'])
  | .finite significand exponent => String.ofList (sign ++ shortest significand exponent)

end MetaCatalog.Binary64
