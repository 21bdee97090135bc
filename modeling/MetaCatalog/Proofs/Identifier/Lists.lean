import MetaCatalog.Proofs.Identifier.Quoting

/-!
# Lists of names are read back

A list of names is written with commas between them, and a quoted name may have commas and
quotes of its own. `pieces` cuts a text at the commas that are not between quotes, whatever
the text is. A name in SQL is never cut by it (`Identifier.Written.unbroken`), so a list is
cut into the names that it was written from (`Identifier.pieces_quotedList`) and read back
as the same list (`Identifier.quotedList_readBack`).
-/

namespace MetaCatalog

/-- The parts of a text between its commas. A comma after an odd number of quotes is part
of a name; `inside` says whether the number is odd so far. -/
def pieces (inside : Bool) : List Char → List (List Char)
  | [] => [[]]
  | c :: cs =>
    if c = '"' then (pieces (!inside) cs).modifyHead (c :: ·)
    else if c = ',' ∧ inside = false then [] :: pieces false cs
    else (pieces inside cs).modifyHead (c :: ·)

variable {inside : Bool} {c : Char} {cs rest : List Char}

theorem pieces_quote : pieces inside ('"' :: cs) = (pieces (!inside) cs).modifyHead ('"' :: ·) :=
  if_pos rfl

theorem pieces_comma : pieces false (',' :: cs) = [] :: pieces false cs := rfl

theorem pieces_other (quote : c ≠ '"') (comma : c = ',' → inside = true) :
    pieces inside (c :: cs) = (pieces inside cs).modifyHead (c :: ·) := by
  rw [pieces, if_neg quote, if_neg]
  rintro ⟨same, outside⟩
  rw [comma same] at outside
  cases outside

/-- The characters are not cut, whatever follows them. -/
def Unbroken (cs : List Char) : Prop :=
  ∀ rest, pieces false (cs ++ rest) = (pieces false rest).modifyHead (cs ++ ·)

theorem Unbroken.alone (h : Unbroken cs) : pieces false cs = [cs] := by
  have whole := h []
  rwa [List.append_nil, pieces, List.modifyHead, List.append_nil] at whole

/-- A comma after what is not cut ends the first part. -/
theorem Unbroken.comma (h : Unbroken cs) (rest : List Char) :
    pieces false (cs ++ ',' :: rest) = cs :: pieces false rest := by
  rw [h, pieces_comma, List.modifyHead, List.append_nil]

theorem Unbroken.cons (h : Unbroken cs) (quote : c ≠ '"') (comma : c ≠ ',') :
    Unbroken (c :: cs) := by
  intro rest
  rw [List.cons_append, pieces_other quote fun same => absurd same comma, h,
    List.modifyHead_modifyHead]
  rfl

/-- Between quotes every comma is part of the name. By induction on the name: a quote of
its own comes with a twin, after which the text is between quotes again. -/
theorem Doubled.pieces {cs text : List Char} (h : Doubled cs text) (rest : List Char) :
    MetaCatalog.pieces true (text ++ '"' :: rest) =
      (MetaCatalog.pieces false rest).modifyHead (text ++ '"' :: ·) := by
  induction h with
  | nil => exact pieces_quote
  | quote _ ih =>
    rw [List.cons_append, List.cons_append, pieces_quote, pieces_quote]
    show ((MetaCatalog.pieces true _).modifyHead _).modifyHead _ = _
    rw [ih, List.modifyHead_modifyHead, List.modifyHead_modifyHead]
    rfl
  | other different _ ih =>
    rw [List.cons_append, pieces_other different fun _ => rfl, ih, List.modifyHead_modifyHead]
    rfl

namespace Identifier

variable {raw : String}

/-- A regular name has neither quotes nor commas. -/
theorem unbroken_of_isNameChar {cs : List Char} (h : ∀ c ∈ cs, isNameChar c = true) :
    Unbroken cs := by
  induction cs with
  | nil => exact fun rest => (congrFun List.modifyHead_id (pieces false rest)).symm
  | cons c cs ih =>
    obtain ⟨first, others⟩ := List.forall_mem_cons.mp h
    refine (ih others).cons ?_ ?_ <;> rintro rfl <;> exact absurd first (by decide)

/-- A name in SQL is not cut. -/
theorem Written.unbroken {text : String} (h : Written raw text) : Unbroken text.toList := by
  cases h with
  | bare bare => exact unbroken_of_isNameChar bare.regular.isNameChar
  | @quoted inner _ doubled =>
    intro rest
    have chars : (String.ofList ('"' :: inner ++ ['"'])).toList ++ rest =
        '"' :: (inner ++ '"' :: rest) := by simp
    rw [chars, pieces_quote]
    show (MetaCatalog.pieces true _).modifyHead _ = _
    rw [doubled.pieces, List.modifyHead_modifyHead]
    congr 1
    funext piece
    simp

theorem Written.toList_ne_nil {text : String} (h : Written raw text) : text.toList ≠ [] := by
  cases h with
  | bare bare =>
    obtain ⟨first, rest, chars, -⟩ := bare.regular
    rw [chars]
    exact List.cons_ne_nil _ _
  | quoted => simp

/-! ## Lists of names -/

theorem quotedList_cons_cons (name next : String) (rest : List String) :
    quotedList (name :: next :: rest) = quoteName name ++ ", " ++ quotedList (next :: rest) := rfl

/-- A list of names is cut into the names, each but the first with a space before it. -/
theorem pieces_quotedList (name : String) (rest : List String) :
    pieces false (quotedList (name :: rest)).toList =
      (quoteName name).toList :: rest.map fun next => ' ' :: (quoteName next).toList := by
  have unbroken (name : String) := (written_quoteName name).unbroken
  induction rest generalizing name with
  | nil => exact (unbroken name).alone
  | cons next rest ih =>
    have chars : (quotedList (name :: next :: rest)).toList =
        (quoteName name).toList ++ ',' :: ' ' :: (quotedList (next :: rest)).toList := by
      rw [quotedList_cons_cons]
      simp
    rw [chars, (unbroken name).comma, pieces_other (by decide) (by decide), ih]
    rfl

/-- The names that are listed in a text. -/
def readNames (text : String) : List String :=
  if text.isEmpty then []
  else (pieces false text.toList).map fun piece => (ofUserText (String.ofList piece)).raw

theorem ofUserText_space (text : List Char) :
    ofUserText (String.ofList (' ' :: text)) = ofUserText (String.ofList text) := by
  have trimmed : Text.trim (String.ofList (' ' :: text)) = Text.trim (String.ofList text) := by
    unfold Text.trim
    rw [String.toList_ofList, String.toList_ofList, List.dropWhile_cons_of_pos (by decide)]
  rw [ofUserText, trimmed, ofUserText]

/-- Every list of names is written so that its text says where each name ends, and is read
back as it was. So no two lists are written alike, whatever characters the names have. -/
theorem quotedList_readBack :
    (∀ names, readNames (quotedList names) = names) ∧ Function.Injective quotedList := by
  have read (raw : String) : (ofUserText (quoteName raw)).raw = raw := (written_quoteName raw).read
  have readBack (names : List String) : readNames (quotedList names) = names := by
    cases names with
    | nil => rfl
    | cons name rest =>
      have listed : (quotedList (name :: rest)).isEmpty = false := by
        refine Bool.eq_false_iff.mpr fun empty => (written_quoteName name).toList_ne_nil ?_
        have cut := pieces_quotedList name rest
        rw [String.isEmpty_iff.mp empty] at cut
        exact (List.cons.inj cut).1.symm
      rw [readNames, listed, if_neg Bool.false_ne_true, pieces_quotedList]
      simp only [List.map_cons, List.map_map, Function.comp_def, ofUserText_space,
        String.ofList_toList, read, List.map_id']
  refine ⟨readBack, fun names others same => ?_⟩
  rw [← readBack names, same, readBack]

example : readNames (quotedList ["A", "\", \"", ""]) = ["A", "\", \"", ""] := by decide +kernel

end Identifier

end MetaCatalog
