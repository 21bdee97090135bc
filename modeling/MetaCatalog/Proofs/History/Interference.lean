import Mathlib.Data.List.Sort
import MetaCatalog.Proofs.History.Registry

/-!
# Saves that do not interfere

A save of a history is a list of changes of the settings (`History.save_eq`).
All of them are made to keys that the history owns (`History.Touches.owns`). As
no key has two owners, two saves can be made in either order
(`History.save_comm`), and a registry can save its histories in any
(`HistoryScope.saves_apart`).
-/

namespace MetaCatalog

namespace Settings

/-! ## Equal settings -/

theorem lookup_eq_some_iff {entries : List (String × String)}
    (h : entries.Pairwise (fun a b => a.1 < b.1)) {key value : String} :
    entries.lookup key = some value ↔ (key, value) ∈ entries := by
  induction entries with
  | nil => simp
  | cons entry rest ih =>
    obtain ⟨k, v⟩ := entry
    obtain ⟨first, rest⟩ := List.pairwise_cons.mp h
    rw [lookup_cons, List.mem_cons]
    by_cases same : key = k
    · subst same
      have once : (key, value) ∉ _ := fun later => String.lt_irrefl key (first _ later)
      rw [if_pos rfl, or_iff_left once]
      simp [eq_comm]
    · rw [if_neg same, ih rest]
      simp [same]

instance : Std.Irrefl fun a b : String × String => a.1 < b.1 := ⟨fun a => String.lt_irrefl a.1⟩

/-- Settings with the same texts under all keys are the same. -/
theorem ext_get? {settings settings' : Settings}
    (h : ∀ key, settings.get? key = settings'.get? key) : settings = settings' := by
  obtain ⟨entries, sorted⟩ := settings
  obtain ⟨entries', sorted'⟩ := settings'
  have same : entries = entries' := sorted.eq_of_mem_iff sorted' fun (key, value) => by
    rw [← lookup_eq_some_iff sorted, ← lookup_eq_some_iff sorted']
    exact Eq.congr_left (h key)
  subst same
  rfl

/-! ## Changes -/

/-- A change of the settings. -/
inductive Change where
  | set (key value : String)
  | remove (key : String)

namespace Change

/-- The key that is changed. -/
def key : Change → String
  | set key _ => key
  | remove key => key

/-- The settings after a change. -/
def apply : Change → Settings → Settings
  | set key value, settings => settings.set key value
  | remove key, settings => settings.remove key

end Change

/-- The settings after several changes. -/
def change (settings : Settings) (changes : List Change) : Settings :=
  changes.foldl (fun settings change => change.apply settings) settings

theorem get?_apply_other (change : Change) (settings : Settings) {k : String}
    (h : change.key ≠ k) : (change.apply settings).get? k = settings.get? k := by
  cases change with
  | set key value => exact (get?_set ..).trans (if_neg h.symm)
  | remove key => exact (get?_remove ..).trans (if_neg h.symm)

/-- Other keys are left as they are. -/
theorem get?_change_other {changes : List Change} (settings : Settings) {k : String}
    (h : ∀ change ∈ changes, change.key ≠ k) :
    (settings.change changes).get? k = settings.get? k := by
  induction changes generalizing settings with
  | nil => rfl
  | cons change rest ih =>
    obtain ⟨first, others⟩ := List.forall_mem_cons.mp h
    exact (ih (change.apply settings) others).trans (get?_apply_other change settings first)

end Settings

open Settings (Change)

namespace History

/-! ## The changes of a save -/

/-- The changes that store texts under consecutive numbers. -/
def writes (storageName : String) (index : Nat) : List String → List Change
  | [] => []
  | text :: rest => .set (key storageName index) text :: writes storageName (index + 1) rest

theorem writeFrom_eq (storageName : String) (index : Nat) (texts : List String)
    (settings : Settings) :
    writeFrom storageName index texts settings =
      settings.change (writes storageName index texts) := by
  induction texts generalizing index settings with
  | nil => rfl
  | cons text rest ih => exact ih (index + 1) _

/-- The keys that a save removes from the settings. -/
def swept (history : History) (settings : Settings) : List String :=
  (settings.keysFrom (keyOpening history.storageName)).filter
    (isStale history.storageName history.kept.length)

/-- The changes that a save makes. -/
def changes (history : History) (settings : Settings) : List Change :=
  writes history.storageName 0 history.kept ++
    (history.swept (writeFrom history.storageName 0 history.kept settings)).map .remove

theorem save_eq (history : History) (settings : Settings) :
    history.save settings = settings.change (history.changes settings) := by
  rw [Settings.change, changes, List.foldl_append, List.foldl_map]
  show removeStale _ history.kept.length (writeFrom _ 0 history.kept settings) = _
  rw [removeStale, writeFrom_eq]
  rfl

theorem mem_writes {storageName : String} {index : Nat} {texts : List String} {change : Change}
    (h : change ∈ writes storageName index texts) :
    ∃ j < texts.length, change.key = key storageName (index + j) := by
  induction texts generalizing index with
  | nil => cases h
  | cons text rest ih =>
    rcases List.mem_cons.mp h with rfl | h
    · exact ⟨0, Nat.succ_pos _, rfl⟩
    · obtain ⟨j, hj, same⟩ := ih h
      exact ⟨j + 1, Nat.succ_lt_succ hj, by rw [same, Nat.add_right_comm, Nat.add_assoc]⟩

/-! ## The keys of a save -/

/-- A save may write a key or may remove it, if it is there. -/
def Touches (history : History) (k : String) : Prop :=
  (∃ j < history.kept.length, k = key history.storageName j) ∨
    Text.startsWith k (keyOpening history.storageName) = true ∧
      isStale history.storageName history.kept.length k = true

theorem number_of_isStale {name k : String} {written : Nat}
    (begins : Text.startsWith k (keyOpening name) = true) (stale : isStale name written k = true) :
    ∃ suffix n, k = keyOpening name ++ suffix ∧ Decimal.readIndex? suffix = some n := by
  obtain ⟨rest, text⟩ := Text.startsWith_iff.mp begins
  rw [isStale_eq written text.symm] at stale
  obtain ⟨n, number, -⟩ := (Option.any_eq_true _ _).mp stale
  refine ⟨String.ofList rest, n, String.toList_inj.mp ?_, number⟩
  rw [String.toList_append, String.toList_ofList, text]

/-- What a save touches, the history owns. -/
theorem Touches.owns {history : History} {k : String} (h : history.Touches k) :
    Owns history.storageName k := by
  rcases h with ⟨j, -, rfl⟩ | ⟨begins, stale⟩
  · exact owns_key _ j
  · obtain ⟨suffix, n, rfl, number⟩ := number_of_isStale begins stale
    exact owns_of_readIndex? number (String.toList_append ..)

theorem mem_swept_iff {history : History} {settings : Settings} {k : String} :
    k ∈ history.swept settings ↔ k ∈ settings.keys ∧
      Text.startsWith k (keyOpening history.storageName) = true ∧
      isStale history.storageName history.kept.length k = true := by
  rw [swept, List.mem_filter, Settings.mem_keysFrom, and_assoc]

theorem touches_of_mem_changes {history : History} {settings : Settings} {change : Change}
    (h : change ∈ history.changes settings) : history.Touches change.key := by
  rcases List.mem_append.mp h with h | h
  · obtain ⟨j, hj, same⟩ := mem_writes h
    rw [Nat.zero_add] at same
    exact .inl ⟨j, hj, same⟩
  · obtain ⟨k, swept, rfl⟩ := List.mem_map.mp h
    exact .inr (mem_swept_iff.mp swept).2

/-- What a save does not touch stays. -/
theorem get?_save_other {history : History} (settings : Settings) {k : String}
    (h : ¬ history.Touches k) : (history.save settings).get? k = settings.get? k := by
  rw [save_eq]
  exact Settings.get?_change_other settings fun change among same =>
    h (same ▸ touches_of_mem_changes among)

theorem get?_save_stale {history : History} (settings : Settings) {k : String}
    (begins : Text.startsWith k (keyOpening history.storageName) = true)
    (stale : isStale history.storageName history.kept.length k = true) :
    (history.save settings).get? k = none := by
  show (List.foldl Settings.remove _ (history.swept _)).get? k = none
  rw [Settings.get?_foldl_remove]
  split
  · rfl
  · next kept =>
    refine Option.not_isSome_iff_eq_none.mp fun there => kept (mem_swept_iff.mpr ?_)
    exact ⟨Settings.mem_keys.mpr there, begins, stale⟩

/-- What a save touches is the same after it, whatever it was before. -/
theorem get?_save_touched {history : History} (settings settings' : Settings) {k : String}
    (h : history.Touches k) :
    (history.save settings).get? k = (history.save settings').get? k := by
  rcases h with ⟨j, hj, rfl⟩ | ⟨begins, stale⟩
  · rw [get?_save_written settings hj, get?_save_written settings' hj]
  · rw [get?_save_stale settings begins stale, get?_save_stale settings' begins stale]

/-- Two saves of histories with different names can be made in either order. -/
theorem save_comm {history history' : History} (h : history.storageName ≠ history'.storageName)
    (settings : Settings) :
    history.save (history'.save settings) = history'.save (history.save settings) := by
  refine Settings.ext_get? fun k => ?_
  by_cases touched : history.Touches k
  · have other : ¬ history'.Touches k := fun touched' => h (touched.owns.unique touched'.owns)
    rw [get?_save_other _ other]
    exact get?_save_touched _ _ touched
  · rw [get?_save_other _ touched]
    by_cases touched' : history'.Touches k
    · exact get?_save_touched _ _ touched'
    · rw [get?_save_other _ touched', get?_save_other _ touched', get?_save_other _ touched]

/-- A save of the history of a scope changes keys of this scope only. -/
structure KeepsTo (history : History) (scope : HistoryScope) (settings : Settings) : Prop where
  changed : history.save settings = settings.change (history.changes settings)
  /-- What follows the opening of a key is read as an index. There are no more
  indices than an index can count. -/
  own : history.kept.length ≤ UInt64.size → ∀ change ∈ history.changes settings,
    ∃ suffix n, change.key = keyOpening scope.storageName ++ suffix ∧
      Decimal.readIndex? suffix = some n
  others : ∀ change ∈ history.changes settings, ∀ scope' ≠ scope, ∀ i,
    change.key ≠ key scope'.storageName i
  policy : ∀ change ∈ history.changes settings, change.key ∉ HistoryPolicy.keys

theorem Touches.number {history : History} {k : String} (h : history.Touches k)
    (fits : history.kept.length ≤ UInt64.size) : ∃ suffix n,
      k = keyOpening history.storageName ++ suffix ∧ Decimal.readIndex? suffix = some n := by
  rcases h with ⟨j, hj, rfl⟩ | ⟨begins, stale⟩
  · exact ⟨Decimal.ofNat j, j, rfl, Decimal.readIndex?_ofNat (Nat.lt_of_lt_of_le hj fits)⟩
  · exact number_of_isStale begins stale

theorem keepsTo {history : History} {scope : HistoryScope}
    (named : history.storageName = scope.storageName) (settings : Settings) :
    history.KeepsTo scope settings := by
  refine ⟨history.save_eq settings, fun fits change among => ?_, fun change among => ?_,
    fun change among => ?_⟩
  · rw [← named]
    exact (touches_of_mem_changes among).number fits
  · have owned := (touches_of_mem_changes among).owns
    intro scope' other i same
    rw [same, named] at owned
    exact other (HistoryScope.storageName_injective ((owns_key _ i).unique owned))
  · exact (touches_of_mem_changes among).owns.not_mem_keys

end History

/-! ## Flushing in any order -/

/-- The order in which a registry saves its histories does not matter. -/
theorem HistoryRegistry.IsFiled.flush_perm {registry : HistoryRegistry} (h : registry.IsFiled)
    {histories : List (HistoryScope × History)} (order : histories.Perm registry.histories)
    (settings : Settings) : flush ⟨histories⟩ settings = registry.flush settings := by
  refine order.foldl_eq' (fun entry among entry' among' settings => ?_) settings
  by_cases same : entry = entry'
  · rw [same]
  · have names : entry'.2.storageName ≠ entry.2.storageName := fun names =>
      same (List.inj_on_of_nodup_map h.storageNames (order.mem_iff.mp among)
        (order.mem_iff.mp among') names.symm)
    exact History.save_comm names settings

/-- Saves of the histories of different scopes do not interfere: each changes
only keys of its own scope, they can be made in either order, and a registry can
save its histories in any order. -/
theorem HistoryScope.saves_apart {scope scope' : HistoryScope} (distinct : scope ≠ scope')
    {history history' : History} (named : history.storageName = scope.storageName)
    (named' : history'.storageName = scope'.storageName) {registry : HistoryRegistry}
    (filed : registry.IsFiled) {histories : List (HistoryScope × History)}
    (order : histories.Perm registry.histories) (settings : Settings) :
    history.KeepsTo scope settings ∧ history'.KeepsTo scope' settings ∧
      history.save (history'.save settings) = history'.save (history.save settings) ∧
      HistoryRegistry.flush ⟨histories⟩ settings = registry.flush settings := by
  have names : history.storageName ≠ history'.storageName := by
    rw [named, named']
    exact fun same => distinct (HistoryScope.storageName_injective same)
  exact ⟨History.keepsTo named settings, History.keepsTo named' settings,
    History.save_comm names settings, filed.flush_perm order settings⟩

/-- A history of a database with a short name. -/
def shortNamed : HistoryScope × History :=
  (.databaseName "A", ⟨HistoryScope.storageName (.databaseName "A"), ["select 1"]⟩)

/-- A history of a database whose name looks like the key of an entry of the
other. -/
def longNamed : HistoryScope × History :=
  (.databaseName "A_ITEM_1", ⟨HistoryScope.storageName (.databaseName "A_ITEM_1"), ["select 2"]⟩)

/-- Settings with entries that the two histories have left behind, one of them
under a number with a sign. -/
def leftBehind : Settings :=
  ((Settings.empty.set "HISTORY_DATABASENAMEA_ITEM_+01" "old").set
    "HISTORY_DATABASENAMEA_ITEM_1_ITEM_7" "old").set "statementHistorySize" "9"

theorem HistoryScope.saves_apart_hostile :
    HistoryRegistry.flush ⟨[longNamed, shortNamed]⟩ leftBehind =
        HistoryRegistry.flush ⟨[shortNamed, longNamed]⟩ leftBehind ∧
      (HistoryRegistry.flush ⟨[shortNamed, longNamed]⟩ leftBehind).keys =
        ["HISTORY_DATABASENAMEA_ITEM_0", "HISTORY_DATABASENAMEA_ITEM_1_ITEM_0",
          "statementHistorySize"] := by
  have distinct : shortNamed.1 ≠ longNamed.1 := by decide
  have filed : HistoryRegistry.IsFiled ⟨[shortNamed, longNamed]⟩ := ⟨by decide, by decide⟩
  have order : [longNamed, shortNamed].Perm [shortNamed, longNamed] := .swap ..
  obtain ⟨-, -, -, flushed⟩ :=
    HistoryScope.saves_apart distinct (rfl : shortNamed.2.storageName = _)
      (rfl : longNamed.2.storageName = _) filed order leftBehind
  exact ⟨flushed, by decide +kernel⟩

end MetaCatalog
