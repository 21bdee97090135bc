import MetaCatalog.Text.Utf8

/-!
# Texts come back from their bytes

Every character is written as one well-formed piece (`Utf8.pieces_char`), so what
is decoded from the bytes of a text is the text (`Utf8.decode?_encode`).
-/

namespace MetaCatalog.Utf8

/-! ## Bytes -/

theorem toList_loop_eq (bytes : ByteArray) (i : Nat) (reversed : List UInt8) :
    ByteArray.toList.loop bytes i reversed = reversed.reverse ++ bytes.data.toList.drop i := by
  fun_induction ByteArray.toList.loop bytes i reversed with
  | case1 i reversed h ih =>
    have here : i < bytes.data.toList.length := h
    rw [ih, List.drop_eq_getElem_cons here, List.reverse_cons, List.append_assoc,
      List.singleton_append]
    congr 2
    exact getElem!_pos bytes.data i h
  | case2 i reversed h =>
    rw [List.drop_eq_nil_of_le (Nat.le_of_not_lt h), List.append_nil]

/-- The bytes of a text are those of its characters. -/
theorem encode_eq (text : String) : encode text = text.toList.flatMap String.utf8EncodeChar := by
  have bytes : text.toUTF8 = (text.toList.flatMap String.utf8EncodeChar).toByteArray :=
    String.utf8Encode_toList.symm
  rw [encode, bytes, ByteArray.toList, toList_loop_eq, List.toList_data_toByteArray]
  rfl

/-! ## Pieces -/

deriving instance DecidableEq for Lead

theorem lead?_one : ∀ n < 128, lead? (.ofNat n) = some ⟨0, 0x80, 0xBF, n⟩ := by decide

theorem lead?_two : ∀ n < 32, 2 ≤ n → lead? (.ofNat (n + 192)) = some ⟨1, 0x80, 0xBF, n⟩ := by
  decide

/-- Neither a longer form of a shorter character nor half a surrogate pair may follow. -/
theorem lead?_three : ∀ n < 16, lead? (.ofNat (n + 224)) =
    some ⟨2, if n = 0 then 0xA0 else 0x80, if n = 13 then 0x9F else 0xBF, n⟩ := by
  decide

/-- Neither a longer form of a shorter character nor a number beyond all may follow. -/
theorem lead?_four : ∀ n < 5, lead? (.ofNat (n + 240)) =
    some ⟨3, if n = 0 then 0x90 else 0x80, if n = 4 then 0x8F else 0xBF, n⟩ := by
  decide

theorem continue?_zero (low high : UInt8) (bits : Nat) (rest : List UInt8) :
    continue? 0 low high bits rest = (some bits, rest) := by
  cases rest <;> rfl

/-- A continuation byte adds six bits. -/
theorem continue?_byte (more : Nat) {low high : UInt8} (bits : Nat) {n : Nat} (rest : List UInt8)
    (hn : n < 64) (hl : low.toNat ≤ n + 128) (hh : n + 128 ≤ high.toNat) :
    continue? (more + 1) low high bits (.ofNat (n + 128) :: rest) =
      continue? more 0x80 0xBF (bits * 64 + n) rest := by
  have value : (UInt8.ofNat (n + 128)).toNat = n + 128 := by
    rw [UInt8.toNat_ofNat']
    omega
  have within : low ≤ .ofNat (n + 128) ∧ .ofNat (n + 128) ≤ high := by
    rw [UInt8.le_iff_toNat_le, UInt8.le_iff_toNat_le, value]
    exact ⟨hl, hh⟩
  rw [continue?, if_pos within, value]
  congr 2
  omega

/-- After the second byte there is no other limit. -/
theorem continue?_next (more bits : Nat) {n : Nat} (rest : List UInt8) (hn : n < 64) :
    continue? (more + 1) 0x80 0xBF bits (.ofNat (n + 128) :: rest) =
      continue? more 0x80 0xBF (bits * 64 + n) rest :=
  continue?_byte more bits rest hn (by change 128 ≤ _; omega) (by change _ ≤ 191; omega)

theorem pieces_cons {b : UInt8} {lead : Lead} {rest tail : List UInt8} {c : Char}
    (hl : lead? b = some lead)
    (hc : continue? lead.more lead.low lead.high lead.bits rest = (some c.toNat, tail)) :
    pieces (b :: rest) = some c :: pieces tail := by
  rw [pieces, hl]
  dsimp only
  rw [hc, Option.map_some, Char.ofNat_toNat]

variable {c : Char} (rest : List UInt8)

theorem pieces_one (h : c.toNat ≤ 127) : pieces (.ofNat c.toNat :: rest) = some c :: pieces rest :=
  pieces_cons (lead?_one _ (by omega)) (continue?_zero ..)

theorem pieces_two (hl : 127 < c.toNat) (hh : c.toNat ≤ 2047) :
    pieces (.ofNat (c.toNat / 64 % 32 + 192) :: .ofNat (c.toNat % 64 + 128) :: rest) =
      some c :: pieces rest := by
  refine pieces_cons (lead?_two _ (by omega) (by omega)) ?_
  dsimp only
  rw [continue?_next _ _ _ (by omega), continue?_zero]
  congr 2
  omega

theorem pieces_three (hl : 2047 < c.toNat) (hh : c.toNat ≤ 65535) :
    pieces (.ofNat (c.toNat / 4096 % 16 + 224) :: .ofNat (c.toNat / 64 % 64 + 128) ::
      .ofNat (c.toNat % 64 + 128) :: rest) = some c :: pieces rest := by
  have valid : c.toNat < 0xD800 ∨ 0xDFFF < c.toNat ∧ c.toNat < 0x110000 := c.valid
  refine pieces_cons (lead?_three _ (by omega)) ?_
  dsimp only
  rw [continue?_byte _ _ _ (by omega), continue?_next _ _ _ (by omega), continue?_zero]
  · congr 2
    omega
  · split
    · change 160 ≤ _
      omega
    · change 128 ≤ _
      omega
  · split
    · change _ ≤ 159
      omega
    · change _ ≤ 191
      omega

theorem pieces_four (hl : 65535 < c.toNat) :
    pieces (.ofNat (c.toNat / 262144 % 8 + 240) :: .ofNat (c.toNat / 4096 % 64 + 128) ::
      .ofNat (c.toNat / 64 % 64 + 128) :: .ofNat (c.toNat % 64 + 128) :: rest) =
      some c :: pieces rest := by
  have valid : c.toNat < 0xD800 ∨ 0xDFFF < c.toNat ∧ c.toNat < 0x110000 := c.valid
  refine pieces_cons (lead?_four _ (by omega)) ?_
  dsimp only
  rw [continue?_byte _ _ _ (by omega), continue?_next _ _ _ (by omega),
    continue?_next _ _ _ (by omega), continue?_zero]
  · congr 2
    omega
  · split
    · change 144 ≤ _
      omega
    · change 128 ≤ _
      omega
  · split
    · change _ ≤ 143
      omega
    · change _ ≤ 191
      omega

/-- A character is one piece. There is a case for each number of bytes. -/
theorem pieces_char (c : Char) (rest : List UInt8) :
    pieces (String.utf8EncodeChar c ++ rest) = some c :: pieces rest := by
  unfold String.utf8EncodeChar
  dsimp only
  split
  · exact pieces_one rest ‹_›
  split
  · exact pieces_two rest (Nat.lt_of_not_le ‹_›) ‹_›
  split
  · exact pieces_three rest (Nat.lt_of_not_le ‹_›) ‹_›
  · exact pieces_four rest (Nat.lt_of_not_le ‹_›)

/-- What is written as UTF-8 is read as it was. -/
theorem decode?_encode (text : String) : decode? (encode text) = some text := by
  have pieces_chars (cs : List Char) :
      pieces (cs.flatMap String.utf8EncodeChar) = cs.map some := by
    induction cs with
    | nil => rw [List.flatMap_nil, pieces, List.map_nil]
    | cons c cs ih => rw [List.flatMap_cons, pieces_char, ih, List.map_cons]
  have every (cs : List Char) : (cs.map some).mapM id = some cs := by
    induction cs with
    | nil => rfl
    | cons c cs ih =>
      rw [List.map_cons, List.mapM_cons, ih]
      rfl
  rw [decode?, encode_eq, pieces_chars, every, Option.map_some, String.ofList_toList]

end MetaCatalog.Utf8
