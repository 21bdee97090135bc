import MetaCatalog.Json
import MetaCatalog.Number.Decimal
import MetaCatalog.Number.Hex

/-!
# Reading JSON

`Json.read?` reads one JSON document and refuses anything else around it but
white space, which is space, tab, carriage return and line feed. Control
characters inside a text, a leading zero and a comma before a closing bracket
are refused.
-/

namespace MetaCatalog.Json

/-- White space between the parts of a document. -/
def isSpace (c : Char) : Bool := c == ' ' || c == '\t' || c == '\n' || c == '\r'

/-- A text without the white space before it. -/
def skipSpace (cs : List Char) : List Char := cs.dropWhile isSpace

/-- The number written by four hexadecimal digits. -/
def readUnit? (a b c d : Char) : Option Nat := Hex.extend? 0 [a, b, c, d]

/-- Whether a code unit opens a surrogate pair. -/
def isHighSurrogate (unit : Nat) : Bool := 0xD800 ≤ unit && unit < 0xDC00

/-- Whether a code unit closes a surrogate pair. -/
def isLowSurrogate (unit : Nat) : Bool := 0xDC00 ≤ unit && unit < 0xE000

/-- The character of a surrogate pair. -/
def pairChar (high low : Nat) : Char :=
  Char.ofNat (0x10000 + (high - 0xD800) * 0x400 + (low - 0xDC00))

/-- The character an escape letter stands for. -/
def escapeChar? (c : Char) : Option Char :=
  if c = '"' ∨ c = '\\' ∨ c = '/' then some c
  else if c = 'b' then some '\x08'
  else if c = 'f' then some '\x0c'
  else if c = 'n' then some '\n'
  else if c = 'r' then some '\r'
  else if c = 't' then some '\t'
  else none

/-- A part of a text as it is written: a character, or a code unit given by
its number. -/
inductive Piece where
  | char (c : Char)
  | unit (n : Nat)

/-- Reads the pieces of a text up to its closing quote. -/
def readPieces : List Char → Option (List Piece × List Char)
  | [] => none
  | '"' :: rest => some ([], rest)
  | '\\' :: 'u' :: a :: b :: c :: d :: rest =>
    match readUnit? a b c d with
    | some unit => (readPieces rest).map fun (pieces, tail) => (.unit unit :: pieces, tail)
    | none => none
  | '\\' :: c :: rest =>
    match escapeChar? c with
    | some char => (readPieces rest).map fun (pieces, tail) => (.char char :: pieces, tail)
    | none => none
  | c :: rest =>
    if c.toNat < 0x20 then none
    else (readPieces rest).map fun (pieces, tail) => (.char c :: pieces, tail)

/-- The characters that the pieces spell, unless half a surrogate pair is
among them. -/
def assemble? : List Piece → Option (List Char)
  | [] => some []
  | .char c :: rest => (assemble? rest).map (c :: ·)
  | .unit high :: .unit low :: rest =>
    if isHighSurrogate high then
      if isLowSurrogate low then (assemble? rest).map (pairChar high low :: ·) else none
    else if isLowSurrogate high then none
    else (assemble? (.unit low :: rest)).map (Char.ofNat high :: ·)
  | .unit n :: rest =>
    if isHighSurrogate n || isLowSurrogate n then none
    else (assemble? rest).map (Char.ofNat n :: ·)

/-- Reads a text after its opening quote. -/
def readText (cs : List Char) : Option (Option String × List Char) :=
  (readPieces cs).map fun (pieces, tail) => ((assemble? pieces).map String.ofList, tail)

/-- Whether a character is an ASCII digit. -/
def isDigit (c : Char) : Bool := (Decimal.digit? c).isSome

/-- Reads at least one digit. -/
def readDigits (cs : List Char) : Option (List Char × List Char) :=
  match cs.takeWhile isDigit with
  | [] => none
  | digits => some (digits, cs.dropWhile isDigit)

/-- Reads the digits before the point; a zero stands alone. -/
def readWhole : List Char → Option (List Char × List Char)
  | '0' :: rest =>
    match rest with
    | c :: _ => if isDigit c then none else some (['0'], rest)
    | [] => some (['0'], [])
  | cs => readDigits cs

/-- Reads the point and the digits after it, if there is a point. -/
def readFraction : List Char → Option (List Char × List Char)
  | '.' :: rest => (readDigits rest).map fun (digits, tail) => ('.' :: digits, tail)
  | cs => some ([], cs)

/-- Reads the power of ten, if there is one. -/
def readPower : List Char → Option (List Char × List Char)
  | [] => some ([], [])
  | c :: rest =>
    if c = 'e' ∨ c = 'E' then
      match rest with
      | '+' :: tail => (readDigits tail).map fun (digits, tail) => (c :: '+' :: digits, tail)
      | '-' :: tail => (readDigits tail).map fun (digits, tail) => (c :: '-' :: digits, tail)
      | _ => (readDigits rest).map fun (digits, tail) => (c :: digits, tail)
    else some ([], c :: rest)

/-- Reads a number without its sign. -/
def readUnsigned (cs : List Char) : Option (List Char × List Char) := do
  let (whole, cs) ← readWhole cs
  let (fraction, cs) ← readFraction cs
  let (power, cs) ← readPower cs
  pure (whole ++ fraction ++ power, cs)

/-- Reads a number. -/
def readNumber : List Char → Option (Json × List Char)
  | '-' :: rest =>
    (readUnsigned rest).map fun (literal, tail) => (.number (String.ofList ('-' :: literal)), tail)
  | cs => (readUnsigned cs).map fun (literal, tail) => (.number (String.ofList literal), tail)

mutual

/-- Reads one value, nested at most `depth` steps deep. -/
def readValue : (depth : Nat) → List Char → Option (Json × List Char)
  | 0, _ => none
  | depth + 1, cs =>
    match skipSpace cs with
    | '"' :: rest => (readText rest).map fun (value, tail) => (.text value, tail)
    | '[' :: rest =>
      match skipSpace rest with
      | ']' :: tail => some (.array [], tail)
      | rest => (readItems depth rest).map fun (items, tail) => (.array items, tail)
    | '\x7b' :: rest =>
      match skipSpace rest with
      | '\x7d' :: tail => some (.object [], tail)
      | rest => (readMembers depth rest).map fun (members, tail) => (.object members, tail)
    | 'n' :: 'u' :: 'l' :: 'l' :: tail => some (.null, tail)
    | 't' :: 'r' :: 'u' :: 'e' :: tail => some (.bool true, tail)
    | 'f' :: 'a' :: 'l' :: 's' :: 'e' :: tail => some (.bool false, tail)
    | cs => readNumber cs

/-- Reads the items of an array up to its closing bracket. -/
def readItems : (depth : Nat) → List Char → Option (List Json × List Char)
  | 0, _ => none
  | depth + 1, cs =>
    match readValue depth cs with
    | none => none
    | some (item, rest) =>
      match skipSpace rest with
      | ',' :: rest => (readItems depth rest).map fun (items, tail) => (item :: items, tail)
      | ']' :: tail => some ([item], tail)
      | _ => none

/-- Reads the members of an object up to its closing brace. -/
def readMembers : (depth : Nat) → List Char → Option (List (Option String × Json) × List Char)
  | 0, _ => none
  | depth + 1, cs =>
    match skipSpace cs with
    | '"' :: rest =>
      match readText rest with
      | none => none
      | some (key, rest) =>
        match skipSpace rest with
        | ':' :: rest =>
          match readValue depth rest with
          | none => none
          | some (value, rest) =>
            match skipSpace rest with
            | ',' :: rest =>
              (readMembers depth rest).map fun (members, tail) => ((key, value) :: members, tail)
            | '\x7d' :: tail => some ([(key, value)], tail)
            | _ => none
        | _ => none
    | _ => none

end

/-- Reads a document. Every step into a value consumes a character, so twice
the length of the document bounds the depth. -/
def readDocument (cs : List Char) : Option Json :=
  match readValue (2 * cs.length + 2) cs with
  | some (value, rest) => if (skipSpace rest).isEmpty then some value else none
  | none => none

/-- The document that a text is. -/
def read? (text : String) : Option Json := readDocument text.toList

/-- The signed 64-bit number of a literal without fraction or power of ten.
Minus zero is no integer. -/
def int64? : Json → Option Int64
  | number literal => if literal = "-0" then none else Decimal.readInt64? literal
  | _ => none

/-- The natural number below `2 ^ 64` of a literal without fraction or power of
ten. -/
def index? : Json → Option Nat
  | number literal => Decimal.readIndex? literal
  | _ => none

end MetaCatalog.Json
