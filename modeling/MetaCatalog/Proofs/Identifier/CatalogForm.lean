import MetaCatalog.Proofs.Identifier.Quoting

/-!
# Names in the form of the catalog

The catalog keeps a name without the spaces that fill up its column. A name that is read
from the catalog has that form, and so has one that a person typed without quotes: white
space is dropped from the ends of the text, and no other character has an upper-case form
that ends in a space (`Text.space_not_mem_upperChar`). A name typed between quotes keeps its
spaces, those before the closing quote included (`Identifier.KeepsPadding`). These are all
names that are not in the form (`Identifier.inCatalogForm_of_made`).
-/

namespace MetaCatalog

/-! ## White space and upper case -/

namespace Text

/-- A text has no padding but once. -/
theorem trimPadding_trimPadding (text : String) :
    trimPadding (trimPadding text) = trimPadding text := by
  have once : dropTrailing (· == ' ') (dropTrailing (· == ' ') text.toList) =
      dropTrailing (· == ' ') text.toList := List.rdropWhile_idempotent ..
  unfold trimPadding
  rw [String.toList_ofList, once]

theorem trimPadding_eq_self_iff {text : String} :
    trimPadding text = text ↔ text.toList.getLast? ≠ some ' ' := by
  have kept : dropTrailing (· == ' ') text.toList = text.toList ↔
      text.toList.getLast? ≠ some ' ' := by
    refine List.rdropWhile_eq_self_iff.trans ⟨fun last there => ?_, fun last there same => ?_⟩
    · obtain ⟨front, chars⟩ := List.getLast?_eq_some_iff.mp there
      refine last (by rw [chars]; simp) ?_
      simp [chars]
    · refine last ((List.getLast?_eq_some_getLast there).trans ?_)
      rw [beq_iff_eq.mp same]
  rw [trimPadding, String.ofList_eq, kept]

/-- What is left of a text does not end in white space. -/
theorem isBlank_getLast?_trim (text : String) :
    ∀ c ∈ (trim text).toList.getLast?, isBlank c = false := by
  intro c last
  rw [trim, String.toList_ofList] at last
  have filled : dropTrailing isBlank (text.toList.dropWhile isBlank) ≠ [] := by
    rintro none
    rw [none] at last
    cases last
  have bare := List.rdropWhile_last_not isBlank _ filled
  rw [List.getLast?_eq_some_getLast filled, Option.mem_some_iff] at last
  rw [← last]
  exact Bool.eq_false_iff.mpr bare

theorem caseExpansions_visible :
    ∀ e ∈ caseExpansions, e.2 ≠ [] ∧ 32 ∉ e.2 := by decide +kernel

theorem caseRuns_visible : ∀ run ∈ caseRuns, 32 < (run.first : Int) + run.shift := by
  decide +kernel

/-- The tables have no letter whose upper-case form is empty or has a space. -/
theorem upperBeyondAscii_visible {n : Nat} (h : n ≠ 32) :
    upperBeyondAscii n ≠ [] ∧ 32 ∉ upperBeyondAscii n := by
  unfold upperBeyondAscii
  split
  · next expansion found =>
    obtain ⟨_, _, entries, -⟩ := List.lookup_eq_some_iff.mp found
    refine caseExpansions_visible (n, expansion) ?_
    rw [entries]
    exact List.mem_append_right _ List.mem_cons_self
  · split
    · next run found =>
      have far := caseRuns_visible run (List.mem_of_find?_eq_some found)
      have covers := List.find?_some found
      simp only [CaseRun.covers, Bool.and_eq_true, decide_eq_true_eq] at covers
      refine ⟨List.cons_ne_nil _ _, fun there => ?_⟩
      have here := List.mem_singleton.mp there
      omega
    · exact ⟨List.cons_ne_nil _ _, fun there => h (List.mem_singleton.mp there).symm⟩

theorem upperChar_ne_nil (c : Char) : upperChar c ≠ [] := by
  unfold upperChar
  split
  · exact List.cons_ne_nil _ _
  · next beyond =>
    have visible := upperBeyondAscii_visible (n := c.toNat) (by omega)
    exact fun none => visible.1 (List.map_eq_nil_iff.mp none)

theorem ofNat_eq_space {n : Nat} (h : Char.ofNat n = ' ') : n = 32 := by
  by_cases valid : n.isValidChar
  · rw [Char.ofNat, dif_pos valid] at h
    exact congrArg Char.toNat h
  · rw [Char.ofNat, dif_neg valid] at h
    cases h

/-- A space is the upper-case form of nothing but itself. -/
theorem space_not_mem_upperChar {c : Char} (h : c ≠ ' ') : ' ' ∉ upperChar c := by
  unfold upperChar upperAsciiChar
  intro there
  split at there
  · split at there
    · next small =>
      have low : 97 ≤ c.toNat := small.1
      have code := ofNat_eq_space (List.mem_singleton.mp there).symm
      omega
    · exact h (List.mem_singleton.mp there).symm
  · next beyond =>
    obtain ⟨n, hn, made⟩ := List.mem_map.mp there
    have visible := upperBeyondAscii_visible (n := c.toNat) (by omega)
    exact visible.2 (ofNat_eq_space made ▸ hn)

/-- A text that does not end in a space has no upper-case form that does. -/
theorem getLast?_flatMap_upperChar {cs : List Char} (h : cs.getLast? ≠ some ' ') :
    (cs.flatMap upperChar).getLast? ≠ some ' ' := by
  rcases List.eq_nil_or_concat cs with rfl | ⟨front, c, rfl⟩
  · exact h
  · rw [List.concat_eq_append] at h ⊢
    have other : c ≠ ' ' := fun same => h (same ▸ List.getLast?_concat)
    rw [List.flatMap_append, List.flatMap_singleton,
      List.getLast?_append_of_ne_nil _ (upperChar_ne_nil c)]
    exact fun last => space_not_mem_upperChar other (List.mem_of_getLast? last)

end Text

/-! ## Quotes -/

/-- The last character stays when pairs of quotes are written once. -/
theorem getLast?_collapseQuotes (cs : List Char) :
    (collapseQuotes cs).getLast? = cs.getLast? := by
  fun_induction collapseQuotes cs with
  | case1 => rfl
  | case2 rest ih => simp only [List.getLast?_cons, ih, Option.getD_some]
  | case3 c rest _ ih => simp only [List.getLast?_cons, ih]

namespace Identifier

/-! ## The form of the catalog -/

/-- A name without spaces at its end. -/
def InCatalogForm (name : Identifier) : Prop := name.raw.toList.getLast? ≠ some ' '

instance (name : Identifier) : Decidable name.InCatalogForm :=
  inferInstanceAs (Decidable (_ ≠ _))

theorem inCatalogForm_iff {name : Identifier} :
    name.InCatalogForm ↔ name = ofCatalog name.raw := by
  rw [InCatalogForm, ← Text.trimPadding_eq_self_iff]
  exact ⟨fun same => congrArg mk same.symm, fun same => (congrArg raw same).symm⟩

theorem inCatalogForm_ofCatalog (text : String) : (ofCatalog text).InCatalogForm :=
  Text.trimPadding_eq_self_iff.mp (Text.trimPadding_trimPadding text)

/-- The text is a name between quotes, with a space before the closing quote. -/
def KeepsPadding (text : String) : Prop :=
  ∃ inner, (Text.trim text).toList = '"' :: inner ++ [' ', '"']

/-- Of the texts that do not end in a space, those with a space before a closing quote
stand for a name that ends in one. -/
theorem getLast?_rawOfUserText {cs : List Char} (h : cs.getLast? ≠ some ' ') :
    (rawOfUserText cs).getLast? = some ' ' ↔ ∃ inner, cs = '"' :: inner ++ [' ', '"'] := by
  unfold rawOfUserText
  split
  case isTrue enclosed =>
    obtain ⟨long, first, last⟩ := enclosed
    obtain ⟨rest, rfl⟩ := List.head?_eq_some_iff.mp first
    have filled : rest ≠ [] := fun none => by simp [none] at long
    rw [List.getLast?_cons_of_ne_nil filled] at last
    obtain ⟨mid, rfl⟩ := List.getLast?_eq_some_iff.mp last
    show (collapseQuotes (mid ++ ['"']).dropLast).getLast? = some ' ' ↔ _
    rw [List.dropLast_concat, getLast?_collapseQuotes, List.getLast?_eq_some_iff]
    refine exists_congr fun inner => ?_
    rw [List.cons_append, List.cons_inj_right, List.append_cons inner ' ' ['"'],
      List.append_cancel_right_eq]
  case isFalse bare =>
    refine iff_of_false (Text.getLast?_flatMap_upperChar h) ?_
    rintro ⟨inner, rfl⟩
    exact bare ⟨by simp, rfl, by simp [List.getLast?_cons]⟩

theorem inCatalogForm_ofUserText {text : String} :
    (ofUserText text).InCatalogForm ↔ ¬KeepsPadding text := by
  have visible : (Text.trim text).toList.getLast? ≠ some ' ' := fun last =>
    absurd (Text.isBlank_getLast?_trim text ' ' last) (by decide)
  refine Iff.trans (not_congr ?_) (not_congr (getLast?_rawOfUserText visible))
  rw [ofUserText, String.toList_ofList]

/-- A name from the catalog is in the form of the catalog. A name that was typed is too,
and is the name that the catalog gives for its text, unless it was typed between quotes
with a space before the closing one. Names in the form are the same if the catalog gives
the same name for their texts. -/
theorem inCatalogForm_of_made (stored typed : String) (a b : Identifier) :
    (ofCatalog stored).InCatalogForm ∧
      ((ofUserText typed).InCatalogForm ↔ ¬KeepsPadding typed) ∧
      (ofUserText typed = ofCatalog (ofUserText typed).raw ↔ ¬KeepsPadding typed) ∧
      (a.InCatalogForm → b.InCatalogForm → ofCatalog a.raw = ofCatalog b.raw → a = b) := by
  refine ⟨inCatalogForm_ofCatalog stored, inCatalogForm_ofUserText,
    inCatalogForm_iff.symm.trans inCatalogForm_ofUserText, fun ha hb same => ?_⟩
  rw [inCatalogForm_iff.mp ha, same, ← inCatalogForm_iff.mp hb]

/-- Two spellings of one name. -/
theorem inCatalogForm_of_made_spelled :
    (ofUserText " a").InCatalogForm ∧ (ofUserText "\"A\"").InCatalogForm ∧
      ofUserText " a" = ofUserText "\"A\"" := by
  have bare : (ofUserText " a").InCatalogForm := by decide +kernel
  have quoted : (ofUserText "\"A\"").InCatalogForm := by decide +kernel
  have catalog : ofCatalog (ofUserText " a").raw = ofCatalog (ofUserText "\"A\"").raw := by
    decide +kernel
  obtain ⟨-, -, -, same⟩ :=
    inCatalogForm_of_made "A" " a" (ofUserText " a") (ofUserText "\"A\"")
  exact ⟨bare, quoted, same bare quoted catalog⟩

/-- A typed name is not always the one that the catalog gives for its text. -/
theorem ofUserText_padded : ¬ ∀ text, ofUserText text = ofCatalog (ofUserText text).raw := by
  intro same
  have padded : ofUserText "\"A \"" ≠ ofCatalog (ofUserText "\"A \"").raw := by decide +kernel
  exact padded (same _)

end Identifier

end MetaCatalog
