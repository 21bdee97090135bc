import MetaCatalog.Proofs.History.Storage

/-!
# Where loading ends

Loading a history looks up one number after the other and stops at the first that is
missing. Nothing in that search bounds it (`History.Search`); it ends because each
look-up that succeeds finds a key of its own, of which there are finitely many. What
it ends with is what `History.load` gives (`History.load_searches`).
-/

namespace MetaCatalog.History

/-- A search that has found some texts goes on until it meets a number that is missing.
It makes so many look-ups and ends with the given texts. -/
inductive Search (settings : Settings) (name : String) : List String → Nat → List String → Prop
  | gap {found : List String} (missing : settings.get? (key name found.length) = none) :
    Search settings name found 1 found
  | next {found texts : List String} {text : String} {lookups : Nat}
    (there : settings.get? (key name found.length) = some text)
    (rest : Search settings name (found ++ [text]) lookups texts) :
    Search settings name found (lookups + 1) texts

variable {settings : Settings} {name : String} {found texts texts' : List String}

/-- A search ends in one way only. -/
theorem Search.unique {lookups lookups' : Nat} (h : Search settings name found lookups texts)
    (h' : Search settings name found lookups' texts') : lookups = lookups' ∧ texts = texts' := by
  induction h generalizing lookups' with
  | gap missing =>
    cases h' with
    | gap => exact ⟨rfl, rfl⟩
    | next there => cases missing.symm.trans there
  | next there _ ih =>
    cases h' with
    | gap missing => cases missing.symm.trans there
    | next there' rest =>
      cases there.symm.trans there'
      obtain ⟨same, texts⟩ := ih rest
      exact ⟨congrArg (· + 1) same, texts⟩

/-- A search that has found the first texts of those that are stored finds the rest of
them. The recursion follows the rest. -/
theorem IsStored.search (h : IsStored settings name (found ++ texts)) :
    Search settings name found (texts.length + 1) (found ++ texts) := by
  have here := h found.length (List.prefix_append ..).length_le
  induction texts generalizing found with
  | nil =>
    rw [List.append_nil] at here ⊢
    exact .gap (here.trans (List.getElem?_eq_none (Nat.le_refl _)))
  | cons text rest ih =>
    rw [List.getElem?_append_right (Nat.le_refl _), Nat.sub_self] at here
    rw [List.append_cons] at h ⊢
    have shorter : (found ++ [text]).length ≤ (found ++ [text] ++ rest).length :=
      (List.prefix_append ..).length_le
    exact .next here (ih h (h _ shorter))

/-- The search for the entries of a history ends, whatever the settings hold: with the
entries that loading gives, and one look-up more than there are of these. They are the
texts under the first numbers, in order, up to the least number that is missing, which
is no greater than the number of keys. Nothing under any other key plays a part. -/
theorem load_searches (settings : Settings) (name : String) :
    let entries := (load settings name).entries
    (∀ lookups texts, Search settings name [] lookups texts ↔
      lookups = entries.length + 1 ∧ texts = entries) ∧
    (∀ n, ∀ h : n < entries.length, settings.get? (key name n) = some entries[n]) ∧
    settings.get? (key name entries.length) = none ∧
    entries.length ≤ settings.size ∧
    ∀ settings' : Settings,
      (∀ n ≤ entries.length, settings'.get? (key name n) = settings.get? (key name n)) →
        (load settings' name).entries = entries := by
  intro entries
  have stored : IsStored settings name ([] ++ entries) := load_isStored settings name
  have ends : Search settings name [] (entries.length + 1) entries := stored.search
  have there (n : Nat) (h : n < entries.length) :
      settings.get? (key name n) = some entries[n] :=
    (stored n (Nat.le_of_lt h)).trans (List.getElem?_eq_getElem h)
  refine ⟨fun lookups texts => ⟨fun search => ?_, ?_⟩, there, ?_, ?_, fun settings' same => ?_⟩
  · exact search.unique ends
  · rintro ⟨rfl, rfl⟩
    exact ends
  · exact (stored _ (Nat.le_refl _)).trans (List.getElem?_eq_none (Nat.le_refl _))
  · exact le_size_of_stored fun n h => by rw [there n h]; rfl
  · exact load_eq_iff.mpr fun n h => (same n h).trans (stored n h)

end MetaCatalog.History
