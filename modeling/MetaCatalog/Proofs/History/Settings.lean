import Mathlib.Data.List.Perm.Subperm
import Mathlib.Data.List.Sort
import Mathlib.Data.List.TakeWhile
import MetaCatalog.Settings

/-!
# Settings as a map

What is under a key after a change of the settings, and which keys a search by
their opening finds (`Settings.keysFrom_exact`): all of them, because texts with
one opening stand next to each other in the order of texts.
-/

namespace MetaCatalog

/-! ## Openings and the order of texts -/

/-- A text between an opening and a text that begins with it begins with it
too. -/
theorem prefix_of_not_lt {opening cs : List Char} (rest : List Char) (hl : ¬ cs < opening)
    (hu : ¬ opening ++ rest < cs) : opening <+: cs := by
  induction opening generalizing cs with
  | nil => exact List.nil_prefix
  | cons c opening ih =>
    cases cs with
    | nil => exact absurd (List.nil_lt_cons _ _) hl
    | cons d cs =>
      rw [List.cons_lt_cons_iff, not_or] at hl
      rw [List.cons_append, List.cons_lt_cons_iff, not_or] at hu
      have same : c = d := Char.le_antisymm (Char.not_lt.mp hl.1) (Char.not_lt.mp hu.1)
      subst same
      have below : ¬ cs < opening := fun h => hl.2 ⟨rfl, h⟩
      have above : ¬ opening ++ rest < cs := fun h => hu.2 ⟨rfl, h⟩
      exact List.cons_prefix_cons.mpr ⟨rfl, ih below above⟩

namespace Text

theorem startsWith_iff {text opening : String} :
    startsWith text opening = true ↔ opening.toList <+: text.toList :=
  List.isPrefixOf_iff_prefix

theorem not_lt_of_startsWith {text opening : String} (h : startsWith text opening = true) :
    ¬ text < opening :=
  List.IsPrefix.le (startsWith_iff.mp h)

theorem startsWith_of_not_lt {text between opening : String} (hl : ¬ between < opening)
    (hu : ¬ text < between) (h : startsWith text opening = true) :
    startsWith between opening = true := by
  obtain ⟨rest, hr⟩ := startsWith_iff.mp h
  refine startsWith_iff.mpr (prefix_of_not_lt rest hl ?_)
  rw [hr]
  exact hu

end Text

/-- Among sorted texts, those with an opening come first once those below the
opening are gone. -/
theorem mem_takeWhile_startsWith {texts : List String} (hs : texts.Pairwise (· < ·))
    {opening text : String} (hl : ∀ t ∈ texts, ¬ t < opening) (ht : text ∈ texts)
    (h : Text.startsWith text opening = true) :
    text ∈ texts.takeWhile (Text.startsWith · opening) := by
  induction texts with
  | nil => exact ht
  | cons first rest ih =>
    obtain ⟨hfirst, hs⟩ := List.pairwise_cons.mp hs
    have below : ¬ text < first := by
      rcases List.mem_cons.mp ht with rfl | ht
      · exact String.lt_irrefl text
      · exact String.lt_asymm (hfirst text ht)
    have begins := Text.startsWith_of_not_lt (hl first List.mem_cons_self) below h
    rw [List.takeWhile_cons, if_pos begins]
    rcases List.mem_cons.mp ht with rfl | ht
    · exact List.mem_cons_self
    · exact List.mem_cons_of_mem _ (ih hs (fun t ht => hl t (List.mem_cons_of_mem _ ht)) ht)

theorem mem_keysFrom_of_sorted {texts : List String} (hs : texts.Pairwise (· < ·))
    {opening text : String} (ht : text ∈ texts) (h : Text.startsWith text opening = true) :
    text ∈ (texts.dropWhile (· < opening)).takeWhile (Text.startsWith · opening) := by
  induction texts with
  | nil => exact absurd ht List.not_mem_nil
  | cons first rest ih =>
    obtain ⟨hfirst, hrest⟩ := List.pairwise_cons.mp hs
    by_cases hd : first < opening
    · rw [List.dropWhile_cons, if_pos (decide_eq_true hd)]
      rcases List.mem_cons.mp ht with rfl | ht
      · exact absurd hd (Text.not_lt_of_startsWith h)
      · exact ih hrest ht
    · rw [List.dropWhile_cons, if_neg fun h => hd (of_decide_eq_true h)]
      refine mem_takeWhile_startsWith hs (fun t ht => ?_) ht h
      rcases List.mem_cons.mp ht with rfl | ht
      · exact hd
      · exact fun h => hd (String.lt_trans (hfirst t ht) h)

theorem isSome_lookup_iff [BEq α] [LawfulBEq α] {l : List (α × β)} {a : α} :
    (l.lookup a).isSome ↔ a ∈ l.map (·.1) := by
  rw [List.lookup_isSome_iff, List.mem_map]
  exact exists_congr fun entry => and_congr_right fun _ => beq_iff_eq.trans eq_comm

namespace Settings

/-! ## What is under a key -/

theorem lookup_cons (k k' v : String) (rest : List (String × String)) :
    List.lookup k ((k', v) :: rest) = if k = k' then some v else rest.lookup k := by
  rw [List.lookup_cons]
  by_cases h : k = k'
  · rw [if_pos h, beq_iff_eq.mpr h]
  · rw [if_neg h, beq_false_of_ne h]

theorem get?_set (settings : Settings) (key value k : String) :
    (settings.set key value).get? k = if k = key then some value else settings.get? k := by
  show (put key value settings.entries).lookup k = if k = key then _ else settings.entries.lookup k
  induction settings.entries with
  | nil => exact lookup_cons k key value []
  | cons entry rest ih =>
    obtain ⟨k', v⟩ := entry
    rw [put, lookup_cons]
    split
    · rw [lookup_cons, lookup_cons]
    · split
      · next heq =>
        subst heq
        rw [lookup_cons]
        split <;> rfl
      · next hne =>
        rw [lookup_cons, ih]
        by_cases h : k = k'
        · have other : k ≠ key := fun he => hne (he.symm.trans h)
          rw [if_pos h, if_neg other, if_pos h]
        · rw [if_neg h, if_neg h]

theorem get?_remove (settings : Settings) (key k : String) :
    (settings.remove key).get? k = if k = key then none else settings.get? k := by
  show (settings.entries.filter _).lookup k = if k = key then _ else settings.entries.lookup k
  induction settings.entries with
  | nil =>
    rw [List.filter_nil]
    split <;> rfl
  | cons entry rest ih =>
    obtain ⟨k', v⟩ := entry
    rw [List.filter_cons, lookup_cons]
    by_cases hk : k' = key
    · rw [if_neg fun h => bne_iff_ne.mp h hk, ih]
      by_cases h : k = key
      · rw [if_pos h, if_pos h]
      · have other : k ≠ k' := fun he => h (he.trans hk)
        rw [if_neg h, if_neg h, if_neg other]
    · rw [if_pos (bne_iff_ne.mpr hk), lookup_cons, ih]
      by_cases h : k = k'
      · have other : k ≠ key := fun he => hk (h.symm.trans he)
        rw [if_pos h, if_neg other, if_pos h]
      · rw [if_neg h, if_neg h]

theorem get?_foldl_remove (settings : Settings) (keys : List String) (k : String) :
    (keys.foldl Settings.remove settings).get? k =
      if k ∈ keys then none else settings.get? k := by
  induction keys generalizing settings with
  | nil => rw [List.foldl_nil, if_neg List.not_mem_nil]
  | cons key keys ih =>
    rw [List.foldl_cons, ih, get?_remove]
    by_cases h : k = key
    · rw [if_pos h, if_pos (List.mem_cons.mpr (.inl h))]
      split <;> rfl
    · rw [if_neg h]
      by_cases hm : k ∈ keys
      · rw [if_pos hm, if_pos (List.mem_cons_of_mem key hm)]
      · rw [if_neg hm, if_neg fun hc => (List.mem_cons.mp hc).elim h hm]

/-- The keys that are there. -/
def keys (settings : Settings) : List String := settings.entries.map (·.1)

theorem mem_keys {settings : Settings} {key : String} :
    key ∈ settings.keys ↔ (settings.get? key).isSome :=
  isSome_lookup_iff.symm

/-- A search by an opening finds the keys that begin with it, and no others. -/
theorem mem_keysFrom {settings : Settings} {opening key : String} :
    key ∈ settings.keysFrom opening ↔
      key ∈ settings.keys ∧ Text.startsWith key opening = true := by
  constructor
  · intro h
    have begins := List.mem_takeWhile_imp h
    exact ⟨(List.dropWhile_sublist _).subset ((List.takeWhile_sublist _).subset h), begins⟩
  · rintro ⟨hk, h⟩
    exact mem_keysFrom_of_sorted (List.pairwise_map.mpr settings.sorted) hk h

theorem pairwise_keys (settings : Settings) : settings.keys.Pairwise (· < ·) :=
  List.pairwise_map.mpr settings.sorted

theorem keysFrom_infix (settings : Settings) (opening : String) :
    settings.keysFrom opening <:+: settings.keys :=
  (List.takeWhile_prefix _).isInfix.trans (List.dropWhile_suffix _).isInfix

/-- Two ascending lists with the same members are the same list. -/
theorem keysFrom_eq_filter (settings : Settings) (opening : String) :
    settings.keysFrom opening = settings.keys.filter (Text.startsWith · opening) := by
  have sorted := settings.pairwise_keys
  refine (sorted.sublist (settings.keysFrom_infix opening).sublist).eq_of_mem_iff
    (sorted.filter _) fun key => ?_
  rw [mem_keysFrom, List.mem_filter]

/-- The search that starts at the first key not below a text and stops at the first key that
does not begin with it passes over no key that does: it finds what a look at every key would
find, each key once and in ascending order. These keys stand next to each other. -/
theorem keysFrom_exact (settings : Settings) (opening : String) :
    settings.keysFrom opening = settings.keys.filter (Text.startsWith · opening) ∧
      (∀ key, key ∈ settings.keysFrom opening ↔
        (settings.get? key).isSome ∧ opening.toList <+: key.toList) ∧
      (settings.keysFrom opening).Pairwise (· < ·) ∧ (settings.keysFrom opening).Nodup ∧
      settings.keysFrom opening <:+: settings.keys := by
  have block := settings.keysFrom_infix opening
  have ascending := settings.pairwise_keys.sublist block.sublist
  refine ⟨settings.keysFrom_eq_filter opening, fun key => ?_, ascending,
    ascending.imp String.ne_of_lt, block⟩
  rw [mem_keysFrom, mem_keys, Text.startsWith_iff]

/-- The key that is the opening itself comes first, and one that is above the opening without
beginning with it ends the search. -/
example : ((["B", "AB", "A", "A\uffff", ""].foldl (·.set · "") empty).keysFrom "A") =
    ["A", "AB", "A\uffff"] := by decide +kernel

/-- There are no more keys than entries. -/
theorem length_le_size {settings : Settings} {names : List String} (hn : names.Nodup)
    (hk : ∀ name ∈ names, (settings.get? name).isSome) : names.length ≤ settings.size := by
  have subset : names ⊆ settings.keys := fun name h => mem_keys.mpr (hk name h)
  have length := (List.Nodup.subperm hn subset).length_le
  rw [keys, List.length_map] at length
  exact length

end Settings

end MetaCatalog
