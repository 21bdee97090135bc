/-!
# Binary floating-point numbers of 64 bits

A `Binary64` is its bits. `kind` says what they stand for: no number, an
infinity, or a significand times a power of two. `ofRatio` rounds a quotient
of natural numbers to the nearest such number, a tie to the even significand,
so every conversion in this library goes through exact arithmetic.
-/

namespace MetaCatalog

/-- A floating-point number of 64 bits, given by its bits. -/
structure Binary64 where
  bits : UInt64
  deriving DecidableEq, Inhabited

namespace Binary64

/-- What the bits stand for, up to the sign. -/
inductive Kind where
  | nan
  | infinite
  | finite (significand : Nat) (exponent : Int)

/-- The weight of the sign bit, the highest of all. -/
def signWeight : Nat := 0x8000000000000000

/-- The weight of the lowest bit of the exponent, which stands above the 52
bits of the fraction. -/
def exponentWeight : Nat := 0x10000000000000

/-- The bits without the sign bit. -/
def magnitude (x : Binary64) : Nat := x.bits.toNat % signWeight

/-- Whether the sign bit is set. -/
def negative (x : Binary64) : Bool := signWeight ≤ x.bits.toNat

/-- The magnitude of the infinities. -/
def infiniteMagnitude : Nat := 2047 * exponentWeight

/-- What a number is, up to its sign. -/
def kind (x : Binary64) : Kind :=
  let exponent : Nat := x.magnitude / exponentWeight
  let fraction : Nat := x.magnitude % exponentWeight
  if exponent = 2047 then if fraction = 0 then .infinite else .nan
  else if exponent = 0 then .finite fraction (-1074)
  else .finite (fraction + exponentWeight) ((exponent : Int) - 1075)

/-- Whether the bits stand for no number. -/
def isNaN (x : Binary64) : Bool := infiniteMagnitude < x.magnitude

/-- Numerical equality: what is no number equals nothing, and the two zeros
are equal. -/
def equals (x y : Binary64) : Bool :=
  !x.isNaN && !y.isNaN && (x.bits == y.bits || (x.magnitude == 0 && y.magnitude == 0))

/-- The number with a sign and a magnitude. -/
def ofMagnitude (negative : Bool) (magnitude : Nat) : Binary64 :=
  ⟨(if negative then signWeight + magnitude else magnitude).toUInt64⟩

/-- A quotient rounded to the nearest natural number, a tie to the even one. -/
def roundQuotient (num den : Nat) : Nat :=
  let quotient := num / den
  let twice := 2 * (num % den)
  if den < twice ∨ (twice = den ∧ quotient % 2 = 1) then quotient + 1 else quotient

/-- The exponent of the largest power of two that is at most `num / den`. -/
def floorLog (num den : Nat) : Int :=
  let estimate : Int := (num.log2 : Int) - den.log2
  let reached :=
    if 0 ≤ estimate then den <<< estimate.toNat ≤ num
    else den ≤ num <<< (-estimate).toNat
  if reached then estimate else estimate - 1

/-- The number nearest to `num / den`, a tie to the even significand; too
large a quotient becomes an infinity. -/
def ofRatio (negative : Bool) (num den : Nat) : Binary64 :=
  if num = 0 then ofMagnitude negative 0
  else
    let exponent := max (-1074) (floorLog num den - 52)
    let significand :=
      if 0 ≤ exponent then roundQuotient num (den <<< exponent.toNat)
      else roundQuotient (num <<< (-exponent).toNat) den
    ofMagnitude negative
      (min infiniteMagnitude ((exponent + 1074).toNat * exponentWeight + significand))

/-- The number nearest to an integer. -/
def ofInt (i : Int) : Binary64 := ofRatio (decide (i < 0)) i.natAbs 1

/-- Minus one. -/
def minusOne : Binary64 := ofInt (-1)

end Binary64

end MetaCatalog
