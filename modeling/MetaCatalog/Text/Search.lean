/-!
# Fragments and lists of text

`includes` says whether a fragment occurs in a text, `startsWith` whether it
opens the text, and `joinWith` writes texts one after the other with a
separator between neighbours.
-/

namespace MetaCatalog.Text

/-- Whether `fragment` occurs in a list as consecutive elements. -/
def occursIn [BEq α] (fragment : List α) : List α → Bool
  | [] => fragment.isEmpty
  | x :: xs => fragment.isPrefixOf (x :: xs) || occursIn fragment xs

/-- Whether `fragment` occurs in `text`; the empty fragment always does. -/
def includes (text fragment : String) : Bool :=
  occursIn fragment.toList text.toList

/-- Whether `text` begins with `opening`. -/
def startsWith (text opening : String) : Bool :=
  opening.toList.isPrefixOf text.toList

/-- The texts in order with `separator` between any two neighbours. -/
def joinWith (separator : String) : List String → String
  | [] => ""
  | [text] => text
  | text :: next :: rest => text ++ separator ++ joinWith separator (next :: rest)

end MetaCatalog.Text
