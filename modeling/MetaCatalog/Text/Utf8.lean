/-!
# UTF-8

`pieces` cuts a byte sequence into characters and ill-formed pieces; an
ill-formed piece is the longest start of a character that the next byte cannot
continue, or one byte that starts no character. `decodeLossy` puts U+FFFD in
the place of each ill-formed piece, and `decode?` refuses a sequence that has
one.
-/

namespace MetaCatalog.Utf8

/-- What a first byte promises: the number of further bytes, the range of the
next of them, and the bits of the character it contributes. -/
structure Lead where
  more : Nat
  low : UInt8
  high : UInt8
  bits : Nat

/-- The promise of a first byte, unless no character starts with it. -/
def lead? (b : UInt8) : Option Lead :=
  if b < 0x80 then some ⟨0, 0x80, 0xBF, b.toNat⟩
  else if b < 0xC2 then none
  else if b < 0xE0 then some ⟨1, 0x80, 0xBF, b.toNat - 0xC0⟩
  else if b = 0xE0 then some ⟨2, 0xA0, 0xBF, 0⟩
  else if b = 0xED then some ⟨2, 0x80, 0x9F, 0xD⟩
  else if b < 0xF0 then some ⟨2, 0x80, 0xBF, b.toNat - 0xE0⟩
  else if b = 0xF0 then some ⟨3, 0x90, 0xBF, 0⟩
  else if b < 0xF4 then some ⟨3, 0x80, 0xBF, b.toNat - 0xF0⟩
  else if b = 0xF4 then some ⟨3, 0x80, 0x8F, 4⟩
  else none

/-- Reads `more` continuation bytes, the first of them between `low` and
`high`, and returns the code point, if all are there, and the bytes left. -/
def continue? (more : Nat) (low high : UInt8) (bits : Nat) : List UInt8 → Option Nat × List UInt8
  | [] => (if more = 0 then some bits else none, [])
  | b :: rest =>
    match more with
    | 0 => (some bits, b :: rest)
    | more + 1 =>
      if low ≤ b ∧ b ≤ high then
        continue? more 0x80 0xBF (bits * 64 + b.toNat % 64) rest
      else (none, b :: rest)

theorem length_continue_le (more : Nat) (low high : UInt8) (bits : Nat) (bytes : List UInt8) :
    (continue? more low high bits bytes).2.length ≤ bytes.length := by
  induction bytes generalizing more low high bits with
  | nil => simp [continue?]
  | cons b rest ih =>
    cases more with
    | zero => simp [continue?]
    | succ more =>
      simp only [continue?]
      split
      · exact Nat.le_succ_of_le (ih ..)
      · simp

/-- The characters of a byte sequence, with `none` for an ill-formed piece. -/
def pieces : List UInt8 → List (Option Char)
  | [] => []
  | b :: rest =>
    match lead? b with
    | none => none :: pieces rest
    | some lead =>
      (continue? lead.more lead.low lead.high lead.bits rest).1.map Char.ofNat ::
        pieces (continue? lead.more lead.low lead.high lead.bits rest).2
termination_by bytes => bytes.length
decreasing_by
  · simp
  · have := length_continue_le lead.more lead.low lead.high lead.bits rest
    simp only [List.length_cons]
    omega

/-- The text of a byte sequence, U+FFFD standing for each ill-formed piece. -/
def decodeLossy (bytes : List UInt8) : String :=
  String.ofList ((pieces bytes).map (·.getD '\uFFFD'))

/-- The text of a well-formed byte sequence. -/
def decode? (bytes : List UInt8) : Option String :=
  ((pieces bytes).mapM id).map String.ofList

/-- The bytes of a text. -/
def encode (text : String) : List UInt8 := text.toUTF8.toList

end MetaCatalog.Utf8
