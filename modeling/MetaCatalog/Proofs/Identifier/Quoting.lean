import Mathlib.Data.List.DropRight
import MetaCatalog.Identifier
import MetaCatalog.Proofs.Identifier.Reserved

/-!
# Names that are quoted are read back

A name that may stand bare in SQL (`Identifier.Bare`) is written as it is, and any other
one between double quotes, with its own quotes doubled (`Doubled`). Neither white space
nor the case of a letter is lost on the way: what is written is read back as the same
raw name (`Identifier.quoteName_readBack`). A reserved word is never written bare
(`Identifier.reserved_never_bare`).
-/

namespace MetaCatalog

/-- A text whose ends are not blank is trimmed already. -/
theorem Text.trim_eq_self {text : String} (first : ∀ c ∈ text.toList.head?, isBlank c = false)
    (last : ∀ c ∈ text.toList.getLast?, isBlank c = false) : trim text = text := by
  have front : text.toList.dropWhile isBlank = text.toList := by
    cases h : text.toList with
    | nil => rfl
    | cons c cs => exact List.dropWhile_cons_of_neg (by simp [first c (by rw [h]; rfl)])
  have back : dropTrailing isBlank text.toList = text.toList :=
    List.rdropWhile_eq_self_iff.mpr fun there => by
      rw [last _ (List.getLast?_eq_some_getLast there)]
      exact Bool.false_ne_true
  rw [trim, front, back, String.ofList_toList]

/-! ## The characters of a regular name -/

/-- The code points of the characters of a regular name. -/
theorem toNat_of_isNameChar {c : Char} (h : isNameChar c = true) :
    (65 ≤ c.toNat ∧ c.toNat ≤ 90) ∨ (48 ≤ c.toNat ∧ c.toNat ≤ 57) ∨ c.toNat = 95 ∨
      c.toNat = 36 := by
  simp only [isNameChar, Bool.or_eq_true, Bool.and_eq_true, decide_eq_true_eq, beq_iff_eq,
    or_assoc] at h
  rcases h with letter | digit | rfl | rfl
  · exact .inl letter
  · exact .inr (.inl digit)
  · exact .inr (.inr (.inl rfl))
  · exact .inr (.inr (.inr rfl))

section

variable {c : Char} (h : isNameChar c = true)
include h

theorem isBlank_of_isNameChar : Text.isBlank c = false := by
  have code := toNat_of_isNameChar h
  simp only [Text.isBlank, Bool.or_eq_false_iff, Bool.and_eq_false_iff, decide_eq_false_iff_not,
    beq_eq_false_iff_ne]
  omega

theorem upperAsciiChar_of_isNameChar : Text.upperAsciiChar c = c := by
  have code := toNat_of_isNameChar h
  refine if_neg fun small => ?_
  have atLeast : 97 ≤ c.toNat := small.1
  omega

theorem upperChar_of_isNameChar : Text.upperChar c = [c] := by
  have code := toNat_of_isNameChar h
  rw [Text.upperChar, if_pos (by omega), upperAsciiChar_of_isNameChar h]

end

/-! ## Names that stand bare -/

namespace Identifier

/-- A letter followed by letters, digits, underscores and dollar signs. -/
def Regular (raw : String) : Prop :=
  ∃ first rest, raw.toList = first :: rest ∧ ('A' ≤ first ∧ first ≤ 'Z') ∧
    ∀ c ∈ rest, ('A' ≤ c ∧ c ≤ 'Z') ∨ ('0' ≤ c ∧ c ≤ '9') ∨ c = '_' ∨ c = '$'

/-- A name that means the same in SQL with quotes and without. -/
structure Bare (raw : String) : Prop where
  regular : Regular raw
  free : raw ∉ reservedWords

variable {raw : String}

theorem isRegularName_iff : isRegularName raw = true ↔ Regular raw := by
  unfold isRegularName Regular
  cases raw.toList with
  | nil => simp
  | cons first rest => simp [isNameChar, and_assoc, or_assoc]

/-- Every character of a regular name may stand in one. -/
theorem Regular.isNameChar (h : Regular raw) : ∀ c ∈ raw.toList, isNameChar c = true := by
  obtain ⟨first, rest, chars, letter, others⟩ := h
  rw [chars, List.forall_mem_cons]
  refine ⟨by simp [MetaCatalog.isNameChar, letter], fun c hc => ?_⟩
  simpa [MetaCatalog.isNameChar, or_assoc] using others c hc

theorem Regular.upperAscii (h : Regular raw) : Text.upperAscii raw = raw := by
  have same : raw.toList.map Text.upperAsciiChar = raw.toList :=
    (List.map_congr_left fun c hc => upperAsciiChar_of_isNameChar (h.isNameChar c hc)).trans
      (List.map_id' _)
  rw [Text.upperAscii, same, String.ofList_toList]

theorem Regular.upper (h : Regular raw) : raw.toList.flatMap Text.upperChar = raw.toList := by
  have same : raw.toList.flatMap Text.upperChar = raw.toList.flatMap fun c => [c] :=
    List.flatMap_congr fun c hc => upperChar_of_isNameChar (h.isNameChar c hc)
  rw [same, List.flatMap_singleton']

theorem Regular.trim (h : Regular raw) : Text.trim raw = raw :=
  Text.trim_eq_self
    (fun c hc => isBlank_of_isNameChar (h.isNameChar c (List.mem_of_mem_head? hc)))
    fun c hc => isBlank_of_isNameChar (h.isNameChar c (List.mem_of_mem_getLast? hc))

/-- A name is quoted unless it can stand bare. -/
theorem needsQuoting_eq_false_iff : needsQuoting raw = false ↔ Bare raw := by
  rw [needsQuoting, Bool.or_eq_false_iff, Bool.not_eq_false', isRegularName_iff,
    ← Bool.not_eq_true, isReserved_iff]
  refine ⟨fun ⟨regular, free⟩ => ⟨regular, ?_⟩, fun ⟨regular, free⟩ => ⟨regular, ?_⟩⟩
  · rwa [regular.upperAscii] at free
  · rwa [regular.upperAscii]

end Identifier

/-! ## Quotes -/

/-- The first text with every double quote written twice is the second. -/
inductive Doubled : List Char → List Char → Prop
  | nil : Doubled [] []
  | quote {cs text : List Char} : Doubled cs text → Doubled ('"' :: cs) ('"' :: '"' :: text)
  | other {c : Char} {cs text : List Char} : c ≠ '"' → Doubled cs text →
    Doubled (c :: cs) (c :: text)

theorem doubled_doubleQuotes (cs : List Char) : Doubled cs (doubleQuotes cs) := by
  induction cs with
  | nil => exact .nil
  | cons c cs ih =>
    rw [doubleQuotes, List.flatMap_cons]
    split
    case isTrue same =>
      subst same
      exact .quote ih
    case isFalse other => exact .other other ih

/-- Pairs of quotes are found where they were made: a quote always stands before its
twin. -/
theorem Doubled.collapse {cs text : List Char} (h : Doubled cs text) :
    collapseQuotes text = cs := by
  induction h with
  | nil => rfl
  | quote _ ih => rw [collapseQuotes, ih]
  | other different _ ih =>
    rw [collapseQuotes, ih]
    exact fun _ same => absurd same different

namespace Identifier

/-- How a raw name is written in SQL. -/
inductive Written (raw : String) : String → Prop
  | bare : Bare raw → Written raw raw
  | quoted {inner : List Char} : ¬Bare raw → Doubled raw.toList inner →
    Written raw (String.ofList ('"' :: inner ++ ['"']))

variable {raw : String}

theorem written_quoteName (raw : String) : Written raw (quoteName raw) := by
  rw [quoteName]
  cases needed : needsQuoting raw with
  | false => exact .bare (needsQuoting_eq_false_iff.mp needed)
  | true =>
    refine .quoted (fun bare => ?_) (doubled_doubleQuotes raw.toList)
    rw [needsQuoting_eq_false_iff.mpr bare] at needed
    cases needed

theorem Regular.read (h : Regular raw) : (ofUserText raw).raw = raw := by
  have bare : ¬(2 ≤ raw.toList.length ∧ raw.toList.head? = some '"' ∧
      raw.toList.getLast? = some '"') := by
    obtain ⟨first, rest, chars, letter, -⟩ := h
    rw [chars]
    rintro ⟨-, ⟨⟩, -⟩
    exact absurd letter.1 (by decide)
  rw [ofUserText, h.trim]
  show String.ofList (rawOfUserText raw.toList) = raw
  rw [rawOfUserText, if_neg bare, h.upper, String.ofList_toList]

theorem read_enclosed (inner : List Char) :
    (ofUserText (String.ofList ('"' :: inner ++ ['"']))).raw =
      String.ofList (collapseQuotes inner) := by
  have chars : (String.ofList ('"' :: inner ++ ['"'])).toList = '"' :: inner ++ ['"'] :=
    String.toList_ofList
  have last : ('"' :: inner ++ ['"']).getLast? = some '"' := List.getLast?_concat
  have trimmed : Text.trim (String.ofList ('"' :: inner ++ ['"'])) =
      String.ofList ('"' :: inner ++ ['"']) := by
    refine Text.trim_eq_self ?_ ?_
    · rw [chars]
      rintro _ ⟨⟩
      decide
    · rw [chars, last]
      rintro _ ⟨⟩
      decide
  have long : 2 ≤ ('"' :: inner ++ ['"']).length := by simp
  rw [ofUserText, trimmed, chars]
  show String.ofList (rawOfUserText _) = _
  rw [rawOfUserText, if_pos ⟨long, rfl, last⟩]
  show String.ofList (collapseQuotes (inner ++ ['"']).dropLast) = _
  rw [List.dropLast_concat]

theorem Written.read {text : String} (h : Written raw text) : (ofUserText text).raw = raw := by
  cases h with
  | bare bare => exact bare.regular.read
  | quoted _ doubled => rw [read_enclosed, doubled.collapse, String.ofList_toList]

/-- Every name is written bare or with doubled quotes, and read back as it was. So no
two names are written alike. -/
theorem quoteName_readBack :
    (∀ raw, Written raw (quoteName raw) ∧ (ofUserText (quoteName raw)).raw = raw) ∧
      Function.Injective quoteName := by
  have readBack (raw : String) : (ofUserText (quoteName raw)).raw = raw :=
    (written_quoteName raw).read
  refine ⟨fun raw => ⟨written_quoteName raw, readBack raw⟩, fun raw other same => ?_⟩
  rw [← readBack raw, same, readBack]

example : quoteName "a\"" = "\"a\"\"\"" := by decide +kernel

/-! ## Reserved words -/

theorem quote_not_mem_reservedWords : ∀ word ∈ reservedWords, '"' ∉ word.toList := by
  decide +kernel

/-- A text with a quote in it is no reserved word: upper case leaves the quote alone. -/
theorem isReserved_of_quote {word : String} (h : '"' ∈ word.toList) : isReserved word = false := by
  rw [← Bool.not_eq_true, isReserved_iff]
  refine fun reserved => quote_not_mem_reservedWords _ reserved ?_
  rw [Text.upperAscii, String.toList_ofList]
  exact List.mem_map.mpr ⟨'"', h, by decide⟩

theorem doubleQuotes_eq_self {cs : List Char} (h : '"' ∉ cs) : doubleQuotes cs = cs := by
  have same : doubleQuotes cs = cs.flatMap fun c => [c] :=
    List.flatMap_congr fun c hc => if_neg fun (quote : c = '"') => h (quote ▸ hc)
  rw [same, List.flatMap_singleton']

/-- A name that has to be quoted, but holds no quote itself. -/
theorem quoteName_enclosed (needed : needsQuoting raw = true) (h : '"' ∉ raw.toList) :
    quoteName raw = "\"" ++ raw ++ "\"" := by
  rw [quoteName, if_pos needed, doubleQuotes_eq_self h]
  apply String.toList_inj.mp
  rw [String.toList_ofList, String.toList_append, String.toList_append]
  rfl

theorem Written.not_reserved {text : String} (h : Written raw text) : isReserved text = false := by
  cases h with
  | bare bare =>
    rw [← Bool.not_eq_true, isReserved_iff, bare.regular.upperAscii]
    exact bare.free
  | quoted _ _ =>
    refine isReserved_of_quote ?_
    rw [String.toList_ofList]
    exact List.mem_cons_self

/-- Exactly the words of the table are found, whatever the case of their letters. Each of them
has to be quoted and is written between quotes, and nothing that is written for a name is a
reserved word. -/
theorem reserved_never_bare (word : String) :
    (isReserved word = true ↔ Text.upperAscii word ∈ reservedWords) ∧
      (isReserved word = true →
        needsQuoting word = true ∧ quoteName word = "\"" ++ word ++ "\"") ∧
      isReserved (quoteName word) = false := by
  refine ⟨isReserved_iff word, fun reserved => ?_, (written_quoteName word).not_reserved⟩
  have needed : needsQuoting word = true := by rw [needsQuoting, reserved, Bool.or_true]
  refine ⟨needed, quoteName_enclosed needed fun quote => ?_⟩
  rw [isReserved_of_quote quote] at reserved
  cases reserved

/-- A word that is the beginning of another one in the table, and no word but the beginning
of several. -/
theorem reserved_never_bare_current :
    (isReserved "Current" = true ∧ quoteName "Current" = "\"Current\"") ∧
      isReserved "CURRENT_" = false ∧ isReserved (quoteName "CURRENT_") = false := by
  have found : isReserved "Current" = true :=
    (reserved_never_bare "Current").1.mpr (by decide +kernel)
  have absent : isReserved "CURRENT_" = false :=
    Bool.eq_false_iff.mpr fun h => absurd ((reserved_never_bare "CURRENT_").1.mp h)
      (by decide +kernel)
  exact ⟨⟨found, ((reserved_never_bare "Current").2.1 found).2⟩, absent,
    (reserved_never_bare "CURRENT_").2.2⟩

end Identifier

end MetaCatalog
