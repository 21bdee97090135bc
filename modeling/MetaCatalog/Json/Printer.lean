import MetaCatalog.Json
import MetaCatalog.Number.Hex

/-!
# Writing JSON text

`Json.quote` writes a text as a JSON string: quotes and backslashes get a
backslash, the usual control characters their letter, and the other ones
below U+0020 their code point. All else stands for itself. `Json.print` writes
a document on one line, without blanks.
-/

namespace MetaCatalog.Json

/-- A character inside a JSON string. -/
def escape (c : Char) : List Char :=
  if c = '"' then ['\\', '"']
  else if c = '\\' then ['\\', '\\']
  else if c = '\x08' then ['\\', 'b']
  else if c = '\t' then ['\\', 't']
  else if c = '\n' then ['\\', 'n']
  else if c = '\x0c' then ['\\', 'f']
  else if c = '\r' then ['\\', 'r']
  else if c.toNat < 0x20 then ['\\', 'u'] ++ Hex.padded 4 c.toNat
  else [c]

/-- A text as a JSON string. -/
def quote (text : String) : List Char := '"' :: text.toList.flatMap escape ++ ['"']

mutual

/-- The characters of a document. A text that is none is written as null. -/
def chars : Json → List Char
  | null => "null".toList
  | bool true => "true".toList
  | bool false => "false".toList
  | number literal => literal.toList
  | text (some value) => quote value
  | text none => "null".toList
  | array values => '[' :: itemChars values ++ [']']
  | object entries => '\x7b' :: memberChars entries ++ ['\x7d']

/-- Items with a comma between any two. -/
def itemChars : List Json → List Char
  | [] => []
  | [item] => item.chars
  | item :: next :: rest => item.chars ++ ',' :: itemChars (next :: rest)

/-- Members with a comma between any two. -/
def memberChars : List (Option String × Json) → List Char
  | [] => []
  | [(key, value)] => quote (key.getD "") ++ ':' :: value.chars
  | (key, value) :: next :: rest =>
    quote (key.getD "") ++ ':' :: value.chars ++ ',' :: memberChars (next :: rest)

end

/-- A document on one line. -/
def print (value : Json) : String := String.ofList value.chars

end MetaCatalog.Json
