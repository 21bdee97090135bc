import MetaCatalog.Identifier.Reserved
import MetaCatalog.Text.Blank
import MetaCatalog.Text.Diagnostic
import MetaCatalog.Text.Search

/-!
# Object names

The catalog keeps a name in upper case, padded with spaces to the width of its
column. A name has to be quoted in SQL exactly if it would be read back as
another name: if it is no regular word, or a reserved one.

An `Identifier` is the raw name. `ofCatalog` takes it from a catalog column,
`ofUserText` from what a person typed, and `quoted` is the name as SQL text.
-/

namespace MetaCatalog

/-- The characters of a regular name after the first one. -/
def isNameChar (c : Char) : Bool :=
  ('A' ≤ c && c ≤ 'Z') || ('0' ≤ c && c ≤ '9') || c == '_' || c == '$'

/-- Whether a raw name is a letter `A` to `Z` followed by name characters. -/
def isRegularName (raw : String) : Bool :=
  match raw.toList with
  | [] => false
  | c :: cs => 'A' ≤ c && c ≤ 'Z' && cs.all isNameChar

/-- Whether a raw name has to be quoted in SQL. -/
def needsQuoting (raw : String) : Bool := !isRegularName raw || isReserved raw

/-- Characters with every double quote written twice. -/
def doubleQuotes (cs : List Char) : List Char :=
  cs.flatMap fun c => if c = '"' then ['"', '"'] else [c]

/-- Characters with every pair of double quotes written once. -/
def collapseQuotes : List Char → List Char
  | [] => []
  | '"' :: '"' :: rest => '"' :: collapseQuotes rest
  | c :: rest => c :: collapseQuotes rest

/-- A raw name as it appears in SQL. -/
def quoteName (raw : String) : String :=
  if needsQuoting raw then String.ofList ('"' :: doubleQuotes raw.toList ++ ['"']) else raw

/-- The quoted names with a comma between any two. -/
def quotedList (names : List String) : String := Text.joinWith ", " (names.map quoteName)

/-- The name of an object, in the form the catalog keeps. -/
structure Identifier where
  raw : String
  deriving DecidableEq, Inhabited

namespace Identifier

/-- A name read from the catalog, without its padding. -/
def ofCatalog (text : String) : Identifier := ⟨Text.trimPadding text⟩

/-- The raw name that typed text stands for: a quoted name keeps its letters,
any other is in upper case. -/
def rawOfUserText (text : List Char) : List Char :=
  if 2 ≤ text.length ∧ text.head? = some '"' ∧ text.getLast? = some '"' then
    collapseQuotes (text.drop 1).dropLast
  else text.flatMap Text.upperChar

/-- A name typed by a person. -/
def ofUserText (text : String) : Identifier :=
  ⟨String.ofList (rawOfUserText (Text.trim text).toList)⟩

/-- The name as it appears in SQL. -/
def quoted (name : Identifier) : String := quoteName name.raw

/-- Whether the name has no characters. -/
def isEmpty (name : Identifier) : Bool := name.raw.isEmpty

/-- Whether the name belongs to the server's own objects. -/
def isSystem (name : Identifier) : Bool :=
  Text.startsWith name.raw "RDB$" || Text.startsWith name.raw "MON$"

/-- Names in ascending order of their characters. -/
def sort (names : List Identifier) : List Identifier :=
  names.mergeSort fun a b => decide (a.raw ≤ b.raw)

/-- The name in a diagnostic. -/
def diagnostic (name : Identifier) : String :=
  "Identifier \x7b raw: " ++ Text.quoted name.raw ++ " \x7d"

end Identifier

end MetaCatalog
