import MetaCatalog.Number.Hex
import MetaCatalog.Text.HiddenTable

/-!
# Quoted text in diagnostics

A diagnostic shows a text between double quotes. Quotes, backslashes, the
usual control characters and every character without a visible form of its own
are spelled out, so that the quoted form is one printable line.
-/

namespace MetaCatalog.Text

/-- Whether a character is spelled out by number. -/
def isHidden (c : Char) : Bool :=
  let n := c.toNat
  if n < 0x7F then n < 0x20
  else hiddenRanges.any fun range => range.1 ≤ n && n ≤ range.2

/-- A character spelled out by its code point. -/
def spellCode (c : Char) : List Char :=
  ['\\', 'u', '\x7b'] ++ Hex.digits c.toNat ++ ['\x7d']

/-- A character as it stands between the quotes. -/
def spellChar (c : Char) : List Char :=
  if c = '"' then ['\\', '"']
  else if c = '\\' then ['\\', '\\']
  else if c = '\n' then ['\\', 'n']
  else if c = '\r' then ['\\', 'r']
  else if c = '\t' then ['\\', 't']
  else if c = '\x00' then ['\\', '0']
  else if isHidden c then spellCode c
  else [c]

/-- A text between double quotes. -/
def quoted (text : String) : String :=
  String.ofList (['"'] ++ text.toList.flatMap spellChar ++ ['"'])

end MetaCatalog.Text
