/-!
# White space and padding

`trim` drops white space in the sense of the Unicode property `White_Space`
from both ends of a text. `trimPadding` drops only the spaces that fill up a
fixed-width catalog column, at the end and nowhere else.
-/

namespace MetaCatalog.Text

/-- The characters with the Unicode property `White_Space`. -/
def isBlank (c : Char) : Bool :=
  let n := c.toNat
  (9 ≤ n && n ≤ 13) || n == 0x20 || n == 0x85 || n == 0xA0 || n == 0x1680 ||
    (0x2000 ≤ n && n ≤ 0x200A) || n == 0x2028 || n == 0x2029 || n == 0x202F ||
    n == 0x205F || n == 0x3000

/-- A list without its longest end made of elements with `p`. -/
def dropTrailing (p : α → Bool) (xs : List α) : List α :=
  (xs.reverse.dropWhile p).reverse

/-- A text without the white space at its two ends. -/
def trim (text : String) : String :=
  String.ofList (dropTrailing isBlank (text.toList.dropWhile isBlank))

/-- A text without the spaces at its end. -/
def trimPadding (text : String) : String :=
  String.ofList (dropTrailing (· == ' ') text.toList)

end MetaCatalog.Text
