import MetaCatalog.Text.CaseTable

/-!
# Upper case

`upper` is the full upper-case form of a text: every letter is replaced by
its Unicode mapping, which may be several characters long. `upperAscii`
changes the letters `a` to `z` only.
-/

namespace MetaCatalog.Text

/-- The upper-case form of an ASCII letter; any other character is itself. -/
def upperAsciiChar (c : Char) : Char :=
  if 'a' ≤ c ∧ c ≤ 'z' then Char.ofNat (c.toNat - 32) else c

/-- A text with the letters `a` to `z` in upper case. -/
def upperAscii (text : String) : String :=
  String.ofList (text.toList.map upperAsciiChar)

/-- Whether the letter with code point `n` belongs to the run. -/
def CaseRun.covers (run : CaseRun) (n : Nat) : Bool :=
  run.first ≤ n && n ≤ run.last && (n - run.first) % run.stride == 0

/-- The upper-case form of a character beyond ASCII. -/
def upperBeyondAscii (n : Nat) : List Nat :=
  match caseExpansions.lookup n with
  | some expansion => expansion
  | none =>
    match caseRuns.find? (·.covers n) with
    | some run => [((n : Int) + run.shift).toNat]
    | none => [n]

/-- The upper-case form of a character. -/
def upperChar (c : Char) : List Char :=
  if c.toNat < 128 then [upperAsciiChar c]
  else (upperBeyondAscii c.toNat).map Char.ofNat

/-- A text in upper case. -/
def upper (text : String) : String :=
  String.ofList (text.toList.flatMap upperChar)

end MetaCatalog.Text
