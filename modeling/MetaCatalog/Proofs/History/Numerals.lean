import MetaCatalog.Number.Decimal
import MetaCatalog.Uuid

/-!
# Numerals as names

A number is read back from its decimal numeral (`Decimal.readIndex?_ofNat`), and
an identifier from its text (`Uuid.text_injective`). Where a text ends in a
numeral after some other character, the two come apart again in one way only
(`Decimal.split_unique`).
-/

namespace MetaCatalog

namespace Decimal

/-- All characters are digits. -/
def AreDigits (cs : List Char) : Prop := ∀ c ∈ cs, (digit? c).isSome

theorem digit?_digitChar : ∀ d < 10, digit? (digitChar d) = some d := by decide

theorem extend?_append (value : Nat) (cs ds : List Char) :
    extend? value (cs ++ ds) = (extend? value cs).bind (extend? · ds) := by
  induction cs generalizing value with
  | nil => rfl
  | cons c cs ih =>
    rw [List.cons_append, extend?, extend?]
    cases digit? c with
    | none => rfl
    | some d => exact ih _

theorem extend?_digits (n : Nat) : extend? 0 (digits n) = some n := by
  induction n using digits.induct with
  | case1 n hn =>
    rw [digits, if_pos hn, extend?, digit?_digitChar n hn]
    show some (10 * 0 + n) = some n
    rw [Nat.mul_zero, Nat.zero_add]
  | case2 n hn ih =>
    have last := digit?_digitChar (n % 10) (Nat.mod_lt n (by decide))
    rw [digits, if_neg hn, extend?_append, ih, Option.bind_some, extend?, last]
    show some (10 * (n / 10) + n % 10) = some n
    rw [Nat.div_add_mod]

theorem digits_ne_nil (n : Nat) : digits n ≠ [] := by
  rw [digits]
  split
  · exact List.cons_ne_nil _ _
  · exact List.append_ne_nil_of_right_ne_nil _ (List.cons_ne_nil _ _)

/-- What can be read as a number consists of digits. -/
theorem areDigits_of_extend? {value n : Nat} {cs : List Char} (h : extend? value cs = some n) :
    AreDigits cs := by
  induction cs generalizing value with
  | nil => exact fun _ hc => absurd hc List.not_mem_nil
  | cons c cs ih =>
    rw [extend?] at h
    cases hd : digit? c with
    | none =>
      rw [hd] at h
      cases h
    | some d =>
      rw [hd] at h
      intro x hx
      rcases List.mem_cons.mp hx with rfl | hx
      · rw [hd]
        rfl
      · exact ih h x hx

theorem areDigits_digits (n : Nat) : AreDigits (digits n) :=
  areDigits_of_extend? (extend?_digits n)

theorem digits_injective {n m : Nat} (h : digits n = digits m) : n = m := by
  have read := extend?_digits n
  rw [h, extend?_digits] at read
  exact (Option.some.inj read).symm

theorem readNat?_eq_some {cs : List Char} {n : Nat} :
    readNat? cs = some n ↔ cs ≠ [] ∧ extend? 0 cs = some n := by
  cases cs with
  | nil => exact ⟨fun h => absurd h (Option.some_ne_none n).symm, fun h => absurd rfl h.1⟩
  | cons c cs => exact ⟨fun h => ⟨List.cons_ne_nil _ _, h⟩, And.right⟩

/-- An index is read from its digits, perhaps after a sign. -/
theorem readIndex?_eq_some {text : String} {n : Nat} (h : readIndex? text = some n) :
    ∃ sign cs, text.toList = sign ++ cs ∧ (sign = [] ∨ sign = ['+']) ∧ extend? 0 cs = some n := by
  unfold readIndex? at h
  split at h <;> dsimp only at h <;> split at h
  next cs signed _ m hm =>
    rw [Option.ite_none_right_eq_some] at h
    exact ⟨['+'], cs, signed, .inr rfl, h.2 ▸ (readNat?_eq_some.mp hm).2⟩
  next => cases h
  next _ _ m hm =>
    rw [Option.ite_none_right_eq_some] at h
    exact ⟨[], text.toList, rfl, .inl rfl, h.2 ▸ (readNat?_eq_some.mp hm).2⟩
  next => cases h

/-- A numeral has no sign. -/
theorem digits_ne_signed (n : Nat) (cs : List Char) : digits n ≠ '+' :: cs := by
  intro signed
  have digit := areDigits_digits n '+' (signed ▸ List.mem_cons_self)
  exact absurd digit (by decide)

theorem readIndex?_ofNat {n : Nat} (h : n < UInt64.size) : readIndex? (ofNat n) = some n := by
  have text : (ofNat n).toList = digits n := String.toList_ofList
  have read : readNat? (digits n) = some n :=
    readNat?_eq_some.mpr ⟨digits_ne_nil n, extend?_digits n⟩
  unfold readIndex?
  rw [text]
  split
  next cs signed => exact absurd signed (digits_ne_signed n cs)
  next =>
    dsimp only
    rw [read]
    exact if_pos h

/-- A numeral is read as its number, if it is read as one at all. -/
theorem eq_of_readIndex?_ofNat {n m : Nat} (h : readIndex? (ofNat n) = some m) : m = n := by
  obtain ⟨sign, cs, split, hsign, read⟩ := readIndex?_eq_some h
  have text : (ofNat n).toList = digits n := String.toList_ofList
  rw [text] at split
  rcases hsign with rfl | rfl
  · rw [List.nil_append] at split
    rw [← split, extend?_digits] at read
    exact (Option.some.inj read).symm
  · exact absurd split (digits_ne_signed n cs)

/-- Digits at the end of a text come apart from a character that is none. -/
theorem split_unique {front front' cs cs' : List Char} {c c' : Char}
    (hc : (digit? c).isSome = false) (hc' : (digit? c').isSome = false)
    (hs : AreDigits cs) (hs' : AreDigits cs')
    (h : front ++ c :: cs = front' ++ c' :: cs') : front = front' ∧ c = c' ∧ cs = cs' := by
  have no_digit {a b : List Char} {d : Char} (hd : (digit? d).isSome = false) (ha : AreDigits a)
      {x : Char} {rest : List Char} (he : x :: a = (x :: rest) ++ d :: b) : False := by
    rw [List.cons_append, List.cons.injEq] at he
    have digit := ha d (he.2 ▸ List.mem_append_right rest List.mem_cons_self)
    rw [hd] at digit
    cases digit
  rcases List.append_eq_append_iff.mp h with ⟨mid, rfl, he⟩ | ⟨mid, rfl, he⟩
  · cases mid with
    | nil =>
      cases he
      exact ⟨(List.append_nil _).symm, rfl, rfl⟩
    | cons x rest =>
      have hx := (List.cons.inj he).1
      subst hx
      exact (no_digit hc' hs he).elim
  · cases mid with
    | nil =>
      cases he
      exact ⟨List.append_nil _, rfl, rfl⟩
    | cons x rest =>
      have hx := (List.cons.inj he).1
      subst hx
      exact (no_digit hc hs' he).elim

end Decimal

namespace Hex

theorem digit?_digitChar : ∀ d < 16, digit? (digitChar d) = some d := by decide

theorem extend?_append (value : Nat) (cs ds : List Char) :
    extend? value (cs ++ ds) = (extend? value cs).bind (extend? · ds) := by
  induction cs generalizing value with
  | nil => rfl
  | cons c cs ih =>
    rw [List.cons_append, extend?, extend?]
    cases digit? c with
    | none => rfl
    | some d => exact ih _

theorem length_padded (width n : Nat) : (padded width n).length = width := by
  induction width generalizing n with
  | zero => rfl
  | succ width ih => rw [padded, List.length_append, ih, List.length_singleton]

theorem extend?_padded (width n : Nat) :
    extend? 0 (padded width n) = some (n % Nat.pow 16 width) := by
  induction width generalizing n with
  | zero => exact congrArg some (Nat.mod_one n).symm
  | succ width ih =>
    have last := digit?_digitChar (n % 16) (Nat.mod_lt n (by decide))
    have next : Nat.pow 16 (width + 1) = 16 * Nat.pow 16 width := Nat.mul_comm _ _
    have cut : n % Nat.pow 16 (width + 1) = 16 * (n / 16 % Nat.pow 16 width) + n % 16 := by
      rw [next, Nat.mod_mul, Nat.add_comm]
    rw [padded, extend?_append, ih, Option.bind_some, extend?, last, cut]
    rfl

end Hex

namespace Uuid

/-- The groups of digits are found again between the hyphens. -/
theorem dehyphenate?_hyphenate (lengths : List Nat) (hl : lengths ≠ []) (digits : List Char)
    (h : digits.length = lengths.foldr (· + ·) 0) :
    dehyphenate? lengths (hyphenate lengths digits) = some digits := by
  induction lengths generalizing digits with
  | nil => exact absurd rfl hl
  | cons length rest ih =>
    cases rest with
    | nil =>
      have whole : digits.length = length := h
      rw [hyphenate, ← whole, List.take_length, dehyphenate?, if_pos rfl]
    | cons next rest =>
      rw [List.foldr_cons] at h
      have enough : length ≤ digits.length := by omega
      have front : (digits.take length).length = length := List.length_take_of_le enough
      have tail := ih (List.cons_ne_nil _ _) (digits.drop length) (by rw [List.length_drop]; omega)
      have cut : (hyphenate (length :: next :: rest) digits).drop length =
          '-' :: hyphenate (next :: rest) (digits.drop length) := List.drop_left' front
      have kept : (hyphenate (length :: next :: rest) digits).take length = digits.take length :=
        List.take_left' front
      rw [dehyphenate?, cut]
      · show Option.map _ (dehyphenate? (next :: rest) (hyphenate _ (digits.drop length))) = _
        rw [tail, kept, Option.map_some, List.take_append_drop]
      · exact List.cons_ne_nil _ _

/-- Two identifiers do not have the same text. -/
theorem text_injective {id id' : Uuid} (h : id.text = id'.text) : id = id' := by
  have read (id : Uuid) : (dehyphenate? groups id.text.toList).bind (Hex.extend? 0) =
      some id.bits.toNat := by
    have small : id.bits.toNat < Nat.pow 16 32 := id.bits.isLt
    rw [text, String.toList_ofList,
      dehyphenate?_hyphenate groups (by decide) _ (Hex.length_padded 32 _), Option.bind_some,
      Hex.extend?_padded, Nat.mod_eq_of_lt small]
  have bits := read id
  rw [h, read id'] at bits
  rcases id with ⟨b⟩
  rcases id' with ⟨b'⟩
  exact congrArg Uuid.mk (BitVec.eq_of_toNat_eq (Option.some.inj bits).symm)

end Uuid

end MetaCatalog
