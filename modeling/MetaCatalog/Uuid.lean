import MetaCatalog.Number.Hex
import MetaCatalog.Text.Upper

/-!
# Universally unique identifiers

Identifiers of 128 bits. The text form is lower-case and hyphenated; the
reader also takes 32 digits without hyphens and the hyphenated form in braces
or after `urn:uuid:`, with letters of either case.
-/

namespace MetaCatalog

/-- An identifier of 128 bits. -/
structure Uuid where
  bits : BitVec 128
  deriving DecidableEq, Inhabited

namespace Uuid

/-- The identifier whose bits are all zero. -/
def nil : Uuid := ⟨0⟩

/-- The upper half of an identifier with the mark of version 4. -/
def versioned (upper : BitVec 64) : BitVec 64 :=
  (upper &&& 0xFFFFFFFFFFFF0FFF#64) ||| 0x4000#64

/-- The `n`-th of the identifiers handed out to new items. They share their
upper half, which is drawn from a seed, and count in their lower half. -/
def numbered (seed : BitVec 64) (n : Nat) : Uuid :=
  ⟨versioned seed ++ BitVec.ofNat 64 (0x8000000000000000 + n)⟩

/-- The lengths of the groups of digits between the hyphens. -/
def groups : List Nat := [8, 4, 4, 4, 12]

/-- Digits cut into groups of the given lengths with a hyphen in between. -/
def hyphenate : List Nat → List Char → List Char
  | [], _ => []
  | [length], digits => digits.take length
  | length :: rest, digits => digits.take length ++ '-' :: hyphenate rest (digits.drop length)

/-- The hyphenated text of an identifier. -/
def text (id : Uuid) : String :=
  String.ofList (hyphenate groups (Hex.padded 32 id.bits.toNat))

/-- The digits of a hyphenated text whose groups have the given lengths. -/
def dehyphenate? : List Nat → List Char → Option (List Char)
  | [], [] => some []
  | [], _ :: _ => none
  | [length], cs => if cs.length = length then some cs else none
  | length :: rest, cs =>
    match cs.drop length with
    | '-' :: tail => (dehyphenate? rest tail).map (cs.take length ++ ·)
    | _ => none

/-- The identifier with the given 32 digits. -/
def ofDigits? (digits : List Char) : Option Uuid :=
  if digits.length = 32 then (Hex.extend? 0 digits).map fun n => ⟨BitVec.ofNat 128 n⟩ else none

/-- What stands before the hyphenated part of a name in the `uuid` namespace,
in upper case. -/
def urnOpening : List Char := "URN:UUID:".toList

/-- The hyphenated part of a text, taken out of its braces or its opening. -/
def unwrap (cs : List Char) : List Char :=
  if cs.length = 38 ∧ cs.head? = some '\x7b' ∧ cs.getLast? = some '\x7d' then
    (cs.drop 1).dropLast
  else if cs.length = 45 ∧ (cs.take urnOpening.length).map Text.upperAsciiChar = urnOpening then
    cs.drop urnOpening.length
  else cs

/-- The identifier that a text stands for. -/
def read? (text : String) : Option Uuid :=
  let cs := text.toList
  if cs.length = 32 then ofDigits? cs
  else (dehyphenate? groups (unwrap cs)).bind ofDigits?

end Uuid

end MetaCatalog
