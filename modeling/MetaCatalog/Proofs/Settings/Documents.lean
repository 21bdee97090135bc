import Mathlib.Data.List.DropRight
import Mathlib.Data.List.Forall2
import MetaCatalog.Proofs.History.Numerals
import MetaCatalog.Settings.File

/-!
# Settings come back from their document

A JSON string is read as the text that was quoted (`Json.readText_quote`): each
character is written as one piece that spells it. Hence the members of a printed
document are read as they are (`Settings.readMembers_lines`), and what is read from
it are the settings (`Settings.read?_print`).
-/

namespace MetaCatalog

namespace Json

/-! ## Quoted texts -/

/-- A character is spelled by itself, or by its number if it is a control character. -/
def Piece.Spells (piece : Piece) (c : Char) : Prop :=
  piece = .char c ∨ piece = .unit c.toNat ∧ c.toNat < 0x20

theorem readUnit?_padded (n : Nat) (h : n < 0x10000) :
    ∃ a b c d, Hex.padded 4 n = [a, b, c, d] ∧ readUnit? a b c d = some n := by
  refine ⟨_, _, _, _, rfl, ?_⟩
  exact (Hex.extend?_padded 4 n).trans (congrArg some (Nat.mod_eq_of_lt h))

/-- A character that needs no escape is read as it is. -/
theorem readPieces_plain {c : Char} (quote : c ≠ '"') (backslash : c ≠ '\\')
    (control : ¬ c.toNat < 0x20) (rest : List Char) :
    readPieces (c :: rest) =
      (readPieces rest).map fun (pieces, tail) => (.char c :: pieces, tail) := by
  rw [readPieces, if_neg control]
  · exact quote
  · exact fun _ _ _ _ _ h => absurd h backslash
  · exact fun _ _ h => absurd h backslash

/-- One case for each kind of escape. -/
theorem readPieces_escape (c : Char) (rest : List Char) : ∃ piece : Piece, piece.Spells c ∧
    readPieces (escape c ++ rest) =
      (readPieces rest).map fun (pieces, tail) => (piece :: pieces, tail) := by
  unfold escape
  iterate 7
    split
    · next h => exact ⟨.char _, .inl (congrArg Piece.char h.symm), rfl⟩
  next quote backslash _ _ _ _ _ =>
  split
  · next h =>
    obtain ⟨a, b, c', d, digits, unit⟩ := readUnit?_padded c.toNat (by omega)
    refine ⟨.unit c.toNat, .inr ⟨rfl, h⟩, ?_⟩
    rw [digits]
    show readPieces ('\\' :: 'u' :: a :: b :: c' :: d :: rest) = _
    rw [readPieces, unit]
  · next h => exact ⟨.char c, .inl rfl, readPieces_plain quote backslash h rest⟩

theorem assemble?_unit {n : Nat} (h : n < 0x20) (pieces : List Piece) :
    assemble? (.unit n :: pieces) = (assemble? pieces).map (Char.ofNat n :: ·) := by
  have high : isHighSurrogate n = false := by
    simp only [isHighSurrogate, Bool.and_eq_false_iff, decide_eq_false_iff_not]
    omega
  have low : isLowSurrogate n = false := by
    simp only [isLowSurrogate, Bool.and_eq_false_iff, decide_eq_false_iff_not]
    omega
  -- The reader looks at the next piece too, in case the two make a pair.
  cases pieces with
  | nil => simp [assemble?, high, low]
  | cons piece pieces => cases piece <;> simp [assemble?, high, low]

theorem assemble?_spells {pieces : List Piece} {cs : List Char}
    (h : List.Forall₂ Piece.Spells pieces cs) : assemble? pieces = some cs := by
  induction h with
  | nil => rfl
  | cons spells _ ih =>
    obtain rfl | ⟨rfl, control⟩ := spells
    · rw [assemble?, ih]
      rfl
    · rw [assemble?_unit control, ih, Char.ofNat_toNat]
      rfl

theorem readPieces_escaped (cs rest : List Char) : ∃ pieces : List Piece,
    List.Forall₂ Piece.Spells pieces cs ∧
      readPieces (cs.flatMap escape ++ '"' :: rest) = some (pieces, rest) := by
  induction cs with
  | nil => exact ⟨[], .nil, rfl⟩
  | cons c cs ih =>
    obtain ⟨pieces, spells, read⟩ := ih
    obtain ⟨piece, first, readFirst⟩ := readPieces_escape c (cs.flatMap escape ++ '"' :: rest)
    refine ⟨piece :: pieces, .cons first spells, ?_⟩
    rw [List.flatMap_cons, List.append_assoc, readFirst, read]
    rfl

/-- What is quoted is read as it was. -/
theorem readText_quote (text : String) (rest : List Char) :
    readText (text.toList.flatMap escape ++ '"' :: rest) = some (some text, rest) := by
  obtain ⟨pieces, spells, read⟩ := readPieces_escaped text.toList rest
  rw [readText, read, Option.map_some]
  dsimp only
  rw [assemble?_spells spells, Option.map_some, String.ofList_toList]

/-! ## White space -/

theorem skipSpace_skipSpace (cs : List Char) : skipSpace (skipSpace cs) = skipSpace cs :=
  List.dropWhile_idempotent isSpace cs

theorem readMembers_skipSpace (depth : Nat) (cs : List Char) :
    readMembers depth (skipSpace cs) = readMembers depth cs := by
  cases depth with
  | zero => rfl
  | succ depth => rw [readMembers, readMembers, skipSpace_skipSpace]

theorem readMembers_newline (depth : Nat) (cs : List Char) :
    readMembers depth ('\n' :: cs) = readMembers depth cs := by
  rw [← readMembers_skipSpace, ← readMembers_skipSpace depth cs]
  rfl

theorem readValue_quote (depth : Nat) {cs : List Char} {text : String} {rest : List Char}
    (h : skipSpace cs = '"' :: (text.toList.flatMap escape ++ '"' :: rest)) :
    readValue (depth + 1) cs = some (.text (some text), rest) := by
  rw [readValue, h]
  show (readText (text.toList.flatMap escape ++ '"' :: rest)).map _ = _
  rw [readText_quote]
  rfl

section

variable {depth : Nat} {cs quoted between next tail rest : List Char} {key : Option String}
  {value : Json}

/-- The last member is read once its parts are. -/
theorem readMembers_last (opens : skipSpace cs = '"' :: quoted)
    (readKey : readText quoted = some (key, between)) (colon : skipSpace between = ':' :: next)
    (read : readValue depth next = some (value, tail)) (closes : skipSpace tail = '\x7d' :: rest) :
    readMembers (depth + 1) cs = some ([(key, value)], rest) := by
  rw [readMembers, opens]
  simp only [readKey, colon, read, closes]

/-- Any other member is read once its parts and the members behind it are. -/
theorem readMembers_more (opens : skipSpace cs = '"' :: quoted)
    (readKey : readText quoted = some (key, between)) (colon : skipSpace between = ':' :: next)
    (read : readValue depth next = some (value, tail)) (comma : skipSpace tail = ',' :: rest)
    {members : List (Option String × Json)} {after : List Char}
    (others : readMembers depth rest = some (members, after)) :
    readMembers (depth + 1) cs = some ((key, value) :: members, after) := by
  rw [readMembers, opens]
  simp only [readKey, colon, read, comma, others, Option.map_some]

end

/-- An object with members is read once they are. -/
theorem readValue_object {depth : Nat} {cs rest quoted tail : List Char}
    {members : List (Option String × Json)} (opens : skipSpace cs = '\x7b' :: rest)
    (member : skipSpace rest = '"' :: quoted)
    (read : readMembers depth rest = some (members, tail)) :
    readValue (depth + 1) cs = some (.object members, tail) := by
  rw [← readMembers_skipSpace, member] at read
  rw [readValue, opens]
  simp only [member]
  show (readMembers depth ('"' :: quoted)).map _ = _
  rw [read]
  rfl

end Json

namespace Settings

open Json (escape readMembers readValue)

/-- The member of a document for an entry. -/
def member (entry : String × String) : Option String × Json :=
  (some entry.1, .text (some entry.2))

theorem memberText_eq (entry : String × String) (rest : List Char) :
    memberText entry ++ rest = ' ' :: ' ' :: '"' :: (entry.1.toList.flatMap escape ++
      '"' :: ':' :: ' ' :: '"' :: (entry.2.toList.flatMap escape ++ '"' :: rest)) := by
  have opening : "  ".toList = [' ', ' '] := rfl
  have colon : ": ".toList = [':', ' '] := rfl
  simp only [memberText, Json.quote, opening, colon, List.cons_append, List.nil_append,
    List.append_assoc]

/-- The recursion follows the lines. -/
theorem readMembers_lines {entries : List (String × String)} (there : entries ≠ []) {depth : Nat}
    (enough : entries.length ≤ depth) (tail : List Char) :
    readMembers (depth + 1) (memberLines entries ++ '\x7d' :: tail) =
      some (entries.map member, tail) := by
  fun_induction memberLines entries generalizing depth with
  | case1 => exact absurd rfl there
  | case2 entry =>
    obtain ⟨depth, rfl⟩ : ∃ d, depth = d + 1 := Nat.exists_eq_add_of_le' enough
    rw [List.append_assoc, memberText_eq]
    exact Json.readMembers_last rfl (Json.readText_quote ..) rfl (Json.readValue_quote _ rfl) rfl
  | case3 entry next rest ih =>
    obtain ⟨depth, rfl⟩ : ∃ d, depth = d + 1 :=
      Nat.exists_eq_add_of_le' (Nat.le_trans (Nat.le_add_left ..) enough)
    have others := ih (List.cons_ne_nil _ _) (Nat.le_of_succ_le_succ enough)
    rw [← Json.readMembers_newline] at others
    rw [List.append_assoc, List.append_assoc, memberText_eq]
    exact Json.readMembers_more rfl (Json.readText_quote ..) rfl (Json.readValue_quote _ rfl) rfl
      others

theorem skipSpace_lines (entry : String × String) (rest : List (String × String))
    (tail : List Char) :
    ∃ quoted, Json.skipSpace (memberLines (entry :: rest) ++ tail) = '"' :: quoted := by
  cases rest with
  | nil =>
    rw [memberLines, List.append_assoc, memberText_eq]
    exact ⟨_, rfl⟩
  | cons next rest =>
    rw [memberLines, List.append_assoc, List.append_assoc, memberText_eq]
    exact ⟨_, rfl⟩

theorem length_le_memberLines (entries : List (String × String)) :
    entries.length ≤ (memberLines entries).length := by
  fun_induction memberLines entries with
  | case1 => exact Nat.le_refl 0
  | case2 entry =>
    rw [List.length_append]
    exact Nat.le_add_left ..
  | case3 entry next rest ih =>
    simp only [List.length_append, List.length_cons] at ih ⊢
    omega

/-- A printed document is an object of the entries. -/
theorem read?_print_members (settings : Settings) :
    Json.read? settings.print = some (.object (settings.entries.map member)) := by
  obtain ⟨entries, sorted⟩ := settings
  cases entries with
  | nil =>
    have text : print ⟨[], sorted⟩ = "\x7b\x7d" := rfl
    rw [text]
    rfl
  | cons entry rest =>
    have text : (print ⟨entry :: rest, sorted⟩).toList =
        '\x7b' :: '\n' :: (memberLines (entry :: rest) ++ ['\x7d']) := String.toList_ofList
    have read {depth : Nat} (enough : (entry :: rest).length ≤ depth) : readValue (depth + 2)
        ('\x7b' :: '\n' :: (memberLines (entry :: rest) ++ ['\x7d'])) =
        some (.object ((entry :: rest).map member), []) := by
      obtain ⟨quoted, opens⟩ := skipSpace_lines entry rest ['\x7d']
      refine Json.readValue_object rfl opens ?_
      rw [Json.readMembers_newline]
      exact readMembers_lines (List.cons_ne_nil entry rest) enough []
    -- The depth is bounded by characters, of which every member has at least one.
    have length := length_le_memberLines (entry :: rest)
    rw [Json.read?, text, Json.readDocument, read]
    · rfl
    · simp only [List.length_cons, List.length_append] at length ⊢
      omega

/-! ## Entries -/

/-- A text goes behind those under lower keys. -/
theorem put_last {key : String} (value : String) {entries : List (String × String)}
    (h : ∀ entry ∈ entries, entry.1 < key) : put key value entries = entries ++ [(key, value)] := by
  induction entries with
  | nil => rfl
  | cons entry rest ih =>
    obtain ⟨first, later⟩ := List.forall_mem_cons.mp h
    obtain ⟨k, v⟩ := entry
    rw [put, if_neg (String.lt_asymm first), if_neg (String.ne_of_lt first).symm, ih later,
      List.cons_append]

/-- Texts under ascending keys are all kept, in their order. -/
theorem addMembers?_members {settings : Settings} {entries : List (String × String)}
    (h : (settings.entries ++ entries).Pairwise (fun a b => a.1 < b.1)) :
    (settings.addMembers? (entries.map member)).map (·.entries) =
      some (settings.entries ++ entries) := by
  induction entries generalizing settings with
  | nil => exact congrArg some (List.append_nil _).symm
  | cons entry rest ih =>
    have last : (settings.set entry.1 entry.2).entries = settings.entries ++ [entry] :=
      put_last entry.2 fun before member =>
        (List.pairwise_append.mp h).2.2 before member entry List.mem_cons_self
    have all : settings.entries ++ entry :: rest =
        (settings.set entry.1 entry.2).entries ++ rest := by
      rw [last, List.append_assoc, List.singleton_append]
    rw [all]
    exact ih (all ▸ h)

/-- What is printed is read as it was. -/
theorem read?_print (settings : Settings) : read? settings.print = some settings := by
  have kept : (empty.addMembers? (settings.entries.map member)).map (·.entries) =
      some settings.entries := addMembers?_members settings.sorted
  rw [read?, read?_print_members, Option.bind_some]
  show empty.addMembers? (settings.entries.map member) = some settings
  obtain ⟨found, added, same⟩ := Option.map_eq_some_iff.mp kept
  rw [added]
  obtain ⟨entries, sorted⟩ := found
  cases same
  rfl

end Settings

end MetaCatalog
