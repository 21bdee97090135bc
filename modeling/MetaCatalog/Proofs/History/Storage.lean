import Mathlib.Data.List.Nodup
import MetaCatalog.History.Registry
import MetaCatalog.Proofs.History.Keys

/-!
# Saving and loading histories

Loading finds the texts that are stored under consecutive numbers, and nothing
else decides what it finds (`History.load_eq_iff`). Saving a history stores its
entries that are not empty in this way, whatever was stored before
(`History.save_isStored`), and leaves all other histories as they are
(`History.save_agrees`). Flushing a registry saves each of its histories, in
whatever order they stand (`HistoryRegistry.flush_isStored`).
-/

namespace MetaCatalog

namespace History

/-- The entries of a history that are saved. -/
def kept (history : History) : List String := history.entries.filter (!·.isEmpty)

/-- Texts are stored under a name: each under its number, and nothing under
the number after the last. -/
def IsStored (settings : Settings) (name : String) (texts : List String) : Prop :=
  ∀ j ≤ texts.length, settings.get? (key name j) = texts[j]?

/-- The same entries are under the numbers of a history. -/
def Agree (name : String) (settings settings' : Settings) : Prop :=
  ∀ j, settings'.get? (key name j) = settings.get? (key name j)

variable {settings settings' settings'' : Settings} {name name' : String} {texts : List String}

theorem Agree.refl (name : String) (settings : Settings) : Agree name settings settings :=
  fun _ => rfl

theorem Agree.trans (h : Agree name settings settings') (h' : Agree name settings' settings'') :
    Agree name settings settings'' :=
  fun j => (h' j).trans (h j)

theorem IsStored.agree (h : IsStored settings name texts) (ha : Agree name settings settings') :
    IsStored settings' name texts :=
  fun j hj => (ha j).trans (h j hj)

/-! ## Loading -/

theorem storedFrom_eq {index count : Nat}
    (h : ∀ j ≤ texts.length, settings.get? (key name (index + j)) = texts[j]?)
    (hc : texts.length ≤ count) : storedFrom settings name index count = texts := by
  induction texts generalizing index count with
  | nil =>
    have missing : settings.get? (key name index) = none := h 0 (Nat.le_refl 0)
    cases count with
    | zero => rfl
    | succ count => rw [storedFrom, missing]
  | cons text rest ih =>
    have first : settings.get? (key name index) = some text := h 0 (Nat.zero_le _)
    cases count with
    | zero => exact absurd hc (Nat.not_succ_le_zero _)
    | succ count =>
      have later : ∀ j ≤ rest.length, settings.get? (key name (index + 1 + j)) = rest[j]? := by
        intro j hj
        rw [Nat.add_right_comm]
        exact h (j + 1) (Nat.succ_le_succ hj)
      rw [storedFrom, first]
      exact congrArg (text :: ·) (ih later (Nat.le_of_succ_le_succ hc))

/-- The search ends at the first number that is missing, or where it has found
as many entries as it may. -/
theorem storedFrom_spec (settings : Settings) (name : String) (index count : Nat) :
    (∀ j < (storedFrom settings name index count).length,
      settings.get? (key name (index + j)) = (storedFrom settings name index count)[j]?) ∧
    ((storedFrom settings name index count).length = count ∨
      settings.get? (key name (index + (storedFrom settings name index count).length)) = none) := by
  induction count generalizing index with
  | zero => exact ⟨fun j hj => absurd hj (Nat.not_lt_zero j), .inl rfl⟩
  | succ count ih =>
    rw [storedFrom]
    cases found : settings.get? (key name index) with
    | none => exact ⟨fun j hj => absurd hj (Nat.not_lt_zero j), .inr found⟩
    | some text =>
      obtain ⟨there, ends⟩ := ih (index + 1)
      refine ⟨fun j hj => ?_, ?_⟩
      · cases j with
        | zero => exact found
        | succ j =>
          have later := there j (Nat.lt_of_succ_lt_succ hj)
          rw [Nat.add_right_comm] at later
          exact later
      · rw [Nat.add_right_comm] at ends
        exact ends.imp (congrArg Nat.succ) id

/-- There are as many keys as entries found, so that the search does not end
too soon. -/
theorem le_size_of_stored {n : Nat} (h : ∀ j < n, (settings.get? (key name j)).isSome) :
    n ≤ settings.size := by
  have distinct : ((List.range n).map (key name)).Nodup :=
    List.Nodup.map (fun _ _ h => (key_injective h).2) List.nodup_range
  have there : ∀ k ∈ (List.range n).map (key name), (settings.get? k).isSome := by
    intro k hk
    obtain ⟨j, hj, rfl⟩ := List.mem_map.mp hk
    exact h j (List.mem_range.mp hj)
  have length := Settings.length_le_size distinct there
  rwa [List.length_map, List.length_range] at length

theorem load_isStored (settings : Settings) (name : String) :
    IsStored settings name (load settings name).entries := by
  obtain ⟨there, ends⟩ := storedFrom_spec settings name 0 settings.size
  rw [load]
  generalize storedFrom settings name 0 settings.size = texts at there ends
  simp only [Nat.zero_add] at there ends
  intro j hj
  rcases Nat.lt_or_eq_of_le hj with hj | rfl
  · exact there j hj
  · rw [List.getElem?_eq_none (Nat.le_refl _)]
    refine ends.elim (fun full => Option.not_isSome_iff_eq_none.mp fun more => ?_) id
    have found : ∀ j < texts.length + 1, (settings.get? (key name j)).isSome := by
      intro j hj
      rcases Nat.lt_or_eq_of_le (Nat.le_of_lt_succ hj) with hj | rfl
      · rw [there j hj, List.getElem?_eq_getElem hj]
        rfl
      · exact more
    have tooMany := le_size_of_stored found
    rw [full] at tooMany
    exact absurd tooMany (Nat.not_succ_le_self _)

theorem load_eq_iff :
    (load settings name).entries = texts ↔ IsStored settings name texts := by
  constructor
  · rintro rfl
    exact load_isStored settings name
  · intro h
    have count : texts.length ≤ settings.size := le_size_of_stored fun j hj => by
      rw [h j (Nat.le_of_lt hj), List.getElem?_eq_getElem hj]
      rfl
    exact storedFrom_eq (fun j hj => by rw [Nat.zero_add, h j hj]) count

theorem Agree.load_eq (h : Agree name settings settings') :
    (load settings' name).entries = (load settings name).entries :=
  load_eq_iff.mpr ((load_isStored settings name).agree h)

/-! ## Saving -/

theorem get?_writeFrom_other (texts : List String) {index : Nat} {k : String}
    (hk : ∀ j, index ≤ j → k ≠ key name j) (settings : Settings) :
    (writeFrom name index texts settings).get? k = settings.get? k := by
  induction texts generalizing index settings with
  | nil => rfl
  | cons text rest ih =>
    rw [writeFrom, ih (fun j hj => hk j (Nat.le_of_succ_le hj)), Settings.get?_set,
      if_neg (hk index (Nat.le_refl index))]

theorem get?_writeFrom (texts : List String) {index j : Nat} (hj : j < texts.length)
    (settings : Settings) :
    (writeFrom name index texts settings).get? (key name (index + j)) = texts[j]? := by
  induction texts generalizing index j settings with
  | nil => exact absurd hj (Nat.not_lt_zero j)
  | cons text rest ih =>
    rw [writeFrom]
    cases j with
    | zero =>
      have before : ∀ i, index + 1 ≤ i → key name index ≠ key name i := fun i hi h =>
        absurd (key_injective h).2 (Nat.ne_of_lt hi)
      show (writeFrom name (index + 1) rest _).get? (key name index) = some text
      rw [get?_writeFrom_other rest before, Settings.get?_set, if_pos rfl]
    | succ j =>
      have later := @ih (index + 1) j (Nat.lt_of_succ_lt_succ hj)
        (settings.set (key name index) text)
      rw [Nat.add_right_comm] at later
      exact later

theorem mem_swept {written n : Nat} :
    key name' n ∈ (settings.keysFrom (keyOpening name)).filter (isStale name written) →
      name' = name ∧ written ≤ n := by
  intro h
  obtain ⟨found, stale⟩ := List.mem_filter.mp h
  exact owner_of_isStale (Settings.mem_keysFrom.mp found).2 stale

theorem get?_removeStale_other {written n : Nat} (h : name' ≠ name ∨ n < written) :
    (removeStale name written settings).get? (key name' n) = settings.get? (key name' n) := by
  rw [removeStale, Settings.get?_foldl_remove]
  refine if_neg fun swept => ?_
  obtain ⟨rfl, le⟩ := mem_swept swept
  exact h.elim (fun ne => ne rfl) (Nat.not_lt.mpr le)

theorem get?_removeStale {written n : Nat} (hn : n < UInt64.size) (h : written ≤ n) :
    (removeStale name written settings).get? (key name n) = none := by
  rw [removeStale, Settings.get?_foldl_remove]
  split
  · rfl
  · next kept =>
    refine Option.not_isSome_iff_eq_none.mp fun there => kept (List.mem_filter.mpr ⟨?_, ?_⟩)
    · exact Settings.mem_keysFrom.mpr ⟨Settings.mem_keys.mpr there, startsWith_key name n⟩
    · exact isStale_key hn h

theorem get?_save_written {history : History} (settings : Settings) {j : Nat}
    (hj : j < history.kept.length) :
    (history.save settings).get? (key history.storageName j) = history.kept[j]? := by
  have written : (writeFrom history.storageName 0 history.kept settings).get?
      (key history.storageName (0 + j)) = history.kept[j]? :=
    get?_writeFrom history.kept hj settings
  rw [Nat.zero_add] at written
  show (removeStale _ history.kept.length (writeFrom _ 0 history.kept settings)).get? _ = _
  rw [get?_removeStale_other (.inr hj), written]

/-- What is saved is stored, whatever a longer history has left behind. -/
theorem save_isStored (history : History) (settings : Settings)
    (h : history.kept.length < UInt64.size) :
    IsStored (history.save settings) history.storageName history.kept := by
  intro j hj
  rcases Nat.lt_or_eq_of_le hj with hj | rfl
  · exact get?_save_written settings hj
  · show (removeStale _ history.kept.length (writeFrom _ 0 history.kept settings)).get? _ = _
    rw [get?_removeStale h (Nat.le_refl _), List.getElem?_eq_none (Nat.le_refl _)]

/-- Saving a history leaves those under other names as they are. -/
theorem save_agrees (history : History) (settings : Settings) (h : name ≠ history.storageName) :
    Agree name settings (history.save settings) := by
  intro j
  show (removeStale _ history.kept.length (writeFrom _ 0 history.kept settings)).get? _ = _
  have other : ∀ i, 0 ≤ i → key name j ≠ key history.storageName i := fun i _ hk =>
    h (key_injective hk).1
  rw [get?_removeStale_other (.inl h), get?_writeFrom_other _ other]

end History

/-! ## Flushing -/

namespace HistoryRegistry

open History (Agree IsStored)

theorem flush_agrees {name : String} (registry : HistoryRegistry) (settings : Settings)
    (h : ∀ entry ∈ registry.histories, name ≠ entry.2.storageName) :
    Agree name settings (registry.flush settings) := by
  obtain ⟨histories⟩ := registry
  rw [flush]
  induction histories generalizing settings with
  | nil => exact .refl name settings
  | cons entry rest ih =>
    have first := entry.2.save_agrees settings (h entry List.mem_cons_self)
    exact first.trans (ih (entry.2.save settings) fun e he => h e (List.mem_cons_of_mem _ he))

/-- When all histories are saved, each of them is stored: none of those after
it gets in its way. -/
theorem flush_isStored (registry : HistoryRegistry) (settings : Settings)
    (hd : (registry.histories.map (·.2.storageName)).Nodup) {entry : HistoryScope × History}
    (he : entry ∈ registry.histories) (hf : entry.2.kept.length < UInt64.size) :
    IsStored (registry.flush settings) entry.2.storageName entry.2.kept := by
  obtain ⟨histories⟩ := registry
  rw [flush]
  induction histories generalizing settings with
  | nil => exact absurd he List.not_mem_nil
  | cons first rest ih =>
    obtain ⟨fresh, distinct⟩ := List.nodup_cons.mp hd
    rcases List.mem_cons.mp he with rfl | he
    · have others : ∀ e ∈ rest, entry.2.storageName ≠ e.2.storageName := fun e he h =>
        fresh (List.mem_map.mpr ⟨e, he, h.symm⟩)
      exact (entry.2.save_isStored settings hf).agree (flush_agrees ⟨rest⟩ _ others)
    · exact ih (first.2.save settings) distinct he

end HistoryRegistry

end MetaCatalog
