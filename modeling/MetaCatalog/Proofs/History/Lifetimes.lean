import MetaCatalog.Proofs.History.Registry

/-!
# Lifetimes of registries

Over one store registries are opened one after the other, each held by whoever
opened it or shared by everyone. `Lifetime` is a registry in use, `Stage` how
things stand between and during lifetimes, and `Stage.Next` what can happen
then. When a lifetime ends (`Stage.Ends`), the store holds the histories that
were used in it, and all others as they were when it began
(`Stage.Reachable.survives`).

A registry keeps its histories in no order that one can rely on, so they may
change places at any time.
-/

namespace MetaCatalog

open History (Agree)

/-! ## Stores -/

namespace Archive

/-- There is a store with this name. -/
def Has (archive : Archive) (id : StoreId) : Prop := id.index < archive.stores.next

theorem Has.setSettings {archive : Archive} {id : StoreId} (h : archive.Has id) (other : StoreId)
    (settings : Settings) : (archive.setSettings other settings).Has id := by
  rw [Has, Archive.setSettings, Arena.next_modify]
  exact h

theorem Has.settings_setSettings {archive : Archive} {id : StoreId} (h : archive.Has id)
    (settings : Settings) : (archive.setSettings id settings).settings id = settings := by
  rw [Archive.settings, store, Archive.setSettings, Arena.get_modify, if_pos ⟨rfl, h⟩]

theorem Has.close {archive : Archive} {id : StoreId} (h : archive.Has id) (opened : OpenRegistry) :
    (archive.close opened).Has id :=
  h.setSettings _ _

theorem Has.settings_close {archive : Archive} {opened : OpenRegistry}
    (h : archive.Has opened.store) : (archive.close opened).settings opened.store =
      opened.registry.flush (archive.settings opened.store) :=
  h.settings_setSettings _

theorem Has.shutdown {archive : Archive} {id : StoreId} (h : archive.Has id) :
    archive.shutdown.Has id := by
  rw [Archive.shutdown]
  split
  · exact h.close _
  · exact h

/-- The archive after the shared registry is shut down. -/
theorem shutdown_eq {archive : Archive} {opened : OpenRegistry}
    (h : archive.shared = some opened) :
    archive.shutdown = { archive.close opened with shared := none } := by
  rw [shutdown, h]

end Archive

/-! ## What happens in a lifetime -/

/-- A registry in use: the settings when its lifetime began, the scopes it has
been asked for since, and the archive and the registry as they are. -/
structure Lifetime where
  begun : Settings
  used : List HistoryScope := []
  archive : Archive
  opened : OpenRegistry

namespace Lifetime

/-- The lifetime of a new registry. -/
def begin (archive : Archive) (id : StoreId) : Lifetime :=
  { begun := archive.settings id, archive, opened := { store := id } }

/-- The settings as they are. -/
def settings (life : Lifetime) : Settings := life.archive.settings life.opened.store

/-- The lifetime with the settings replaced. -/
def setSettings (life : Lifetime) (settings : Settings) : Lifetime :=
  { life with archive := life.archive.setSettings life.opened.store settings }

/-- The lifetime after a call on the history of a scope. -/
def call (life : Lifetime) (scope : HistoryScope) (call : HistoryCall) : Lifetime :=
  let (_, opened, archive) := life.archive.useScope life.opened scope call.use
  { life with used := scope :: life.used, archive, opened }

/-- The lifetime after the registry has saved its histories. -/
def flush (life : Lifetime) : Lifetime :=
  { life with archive := life.archive.close life.opened }

/-- The lifetime with the histories in another order. -/
def reorder (life : Lifetime) (histories : List (HistoryScope × History)) : Lifetime :=
  { life with opened := { life.opened with registry := ⟨histories⟩ } }

/-- The lifetime with its registry as the shared one. -/
def share (life : Lifetime) : Lifetime :=
  { life with archive := { life.archive with shared := some life.opened } }

/-- What can happen to a registry and its settings. -/
inductive Step : Lifetime → Lifetime → Prop
  | call (life : Lifetime) (scope : HistoryScope) (call : HistoryCall) :
      Step life (life.call scope call)
  | callFor (life : Lifetime) (database : Database) (call : HistoryCall) :
      Step life (life.call (life.archive.scopeOf life.opened database) call)
  | flush (life : Lifetime) : Step life life.flush
  | write (life : Lifetime) {key : String} (hk : key ∈ HistoryPolicy.keys) (text : String) :
      Step life (life.setSettings (life.settings.set key text))
  | erase (life : Lifetime) {key : String} (hk : key ∈ HistoryPolicy.keys) :
      Step life (life.setSettings (life.settings.remove key))
  | reorder (life : Lifetime) {histories : List (HistoryScope × History)}
      (hp : histories.Perm life.opened.registry.histories) : Step life (life.reorder histories)

/-- The registry works on the store and has the histories of the scopes that
were used. What is stored of all others is as it was. -/
structure Sound (id : StoreId) (life : Lifetime) : Prop where
  has : life.archive.Has id
  store : life.opened.store = id
  filed : life.opened.registry.IsFiled
  used : ∀ scope, scope ∈ life.used ↔ scope ∈ life.opened.registry.scopes
  others : ∀ scope ∉ life.used,
    Agree scope.storageName life.begun (life.archive.settings id)

variable {id : StoreId} {life life' : Lifetime}

theorem Sound.begin {archive : Archive} (h : archive.Has id) : Sound id (begin archive id) where
  has := h
  store := rfl
  filed := .empty
  used _ := Iff.rfl
  others _ _ := .refl _ _

/-- A change of the settings that leaves alone what is not in use. -/
theorem Sound.setSettings {settings : Settings} (h : Sound id life)
    (hs : ∀ scope ∉ life.used, Agree scope.storageName (life.archive.settings id) settings) :
    Sound id (life.setSettings settings) where
  has := h.has.setSettings _ _
  store := h.store
  filed := h.filed
  used := h.used
  others scope hu := by
    have replaced : (life.setSettings settings).archive.settings id = settings := by
      rw [Lifetime.setSettings, h.store]
      exact h.has.settings_setSettings settings
    rw [replaced]
    exact (h.others scope hu).trans (hs scope hu)

theorem Sound.call (h : Sound id life) (scope : HistoryScope) (call : HistoryCall) :
    Sound id (life.call scope call) := by
  obtain ⟨has, rfl, filed, used, others⟩ := h
  have named := filed.use (life.archive.settings life.opened.store) scope
  have after := filed.onScope (life.archive.settings life.opened.store) scope
    (fun history =>
      let (result, history, settings) := call.use (life.archive.settings life.opened.store) history
      ((result, settings), history))
    (fun history => call.use_storageName _ history)
  refine ⟨has.setSettings _ _, rfl, after.1, fun s => ?_, fun s hs => ?_⟩
  · show s ∈ scope :: life.used ↔ _
    rw [List.mem_cons, used s]
    exact (after.2 s).symm
  · have other : s ≠ scope := fun h => hs (List.mem_cons.mpr (.inl h))
    have unused : s ∉ life.used := fun h => hs (List.mem_cons_of_mem _ h)
    refine (others s unused).trans ?_
    show Agree _ _ ((life.archive.setSettings life.opened.store _).settings life.opened.store)
    rw [has.settings_setSettings]
    -- A call may save its history, which is stored under the name of its own scope.
    refine call.use_agrees _ fun h => other ?_
    exact HistoryScope.storageName_injective (h.trans named.2.1)

theorem Sound.flush_agrees (h : Sound id life) {scope : HistoryScope} (hs : scope ∉ life.used)
    (settings : Settings) :
    Agree scope.storageName settings (life.opened.registry.flush settings) :=
  HistoryRegistry.flush_agrees _ settings
    (h.filed.storageName_ne fun hm => hs ((h.used scope).mpr hm))

theorem Sound.flush (h : Sound id life) : Sound id life.flush := by
  have saved : life.flush = life.setSettings (life.opened.registry.flush life.settings) := rfl
  rw [saved, Lifetime.settings, h.store]
  exact h.setSettings fun scope hu => h.flush_agrees hu _

/-- One step of a lifetime keeps the registry sound. -/
theorem Sound.step (h : Sound id life) (hs : Step life life') : Sound id life' := by
  cases hs with
  | call scope call => exact h.call scope call
  | callFor database call => exact h.call _ call
  | flush => exact h.flush
  | write hk text =>
    refine h.setSettings fun scope _ j => ?_
    rw [Settings.get?_set, if_neg (HistoryPolicy.keys_ne_key hk _ j), Lifetime.settings, h.store]
  | erase hk =>
    refine h.setSettings fun scope _ j => ?_
    rw [Settings.get?_remove, if_neg (HistoryPolicy.keys_ne_key hk _ j), Lifetime.settings, h.store]
  | reorder hp =>
    exact { h with
      filed := h.filed.perm hp
      used := fun scope => (h.used scope).trans (hp.map _).mem_iff.symm }

theorem Sound.share (h : Sound id life) : Sound id life.share := { h with }

end Lifetime

/-! ## Lifetime after lifetime -/

/-- How things stand with a store: no registry works on it, or one that
someone holds, or the shared one. -/
inductive Stage where
  | idle (archive : Archive)
  | held (life : Lifetime)
  | shared (life : Lifetime)

namespace Stage

/-- The ends of a lifetime, with the archive afterwards: the holder drops the
registry, or the shared one is replaced or shut down. -/
inductive Ends : Stage → Lifetime → Archive → Prop
  | drop (life : Lifetime) : Ends (.held life) life (life.archive.close life.opened)
  | replace (life : Lifetime) (store : StoreId) :
      Ends (.shared life) life (life.archive.install store)
  | shutdown (life : Lifetime) : Ends (.shared life) life life.archive.shutdown

/-- What can happen to the store and its registries. -/
inductive Next (id : StoreId) : Stage → Stage → Prop
  | hold (archive : Archive) : Next id (.idle archive) (.held (.begin archive id))
  | install (archive : Archive) :
      Next id (.idle archive) (.shared (.begin (archive.install id) id))
  | useHeld {life life' : Lifetime} (hs : life.Step life') : Next id (.held life) (.held life')
  | useShared {life life' : Lifetime} (hs : life.Step life') :
      Next id (.shared life) (.shared life'.share)
  | drop (life : Lifetime) : Next id (.held life) (.idle (life.archive.close life.opened))
  | replace (life : Lifetime) :
      Next id (.shared life) (.shared (.begin (life.archive.install id) id))
  /-- The new shared registry works on another store. -/
  | leave (life : Lifetime) {store : StoreId} (hs : store ≠ id) :
      Next id (.shared life) (.idle (life.archive.install store))
  | shutdown (life : Lifetime) : Next id (.shared life) (.idle life.archive.shutdown)

/-- The stages that lifetimes over a store lead to, whatever it holds at
first. -/
inductive Reachable (id : StoreId) : Stage → Prop
  | first {archive : Archive} (has : archive.Has id) : Reachable id (.idle archive)
  | next {stage stage' : Stage} (h : Reachable id stage) (hn : Next id stage stage') :
      Reachable id stage'

/-- The store is there, and a registry that works on it is sound. A shared one
is the one in the archive. -/
def Sound (id : StoreId) : Stage → Prop
  | idle archive => archive.Has id
  | held life => life.Sound id
  | shared life => life.Sound id ∧ life.archive.shared = some life.opened

variable {id : StoreId} {stage stage' : Stage}

theorem sound_install {archive : Archive} (h : archive.Has id) :
    Sound id (.shared (.begin (archive.install id) id)) :=
  ⟨.begin h.shutdown, rfl⟩

theorem Sound.next (h : Sound id stage) (hn : Next id stage stage') : Sound id stage' := by
  cases hn with
  | hold archive => exact Lifetime.Sound.begin h
  | install archive => exact sound_install h
  | useHeld hs => exact Lifetime.Sound.step h hs
  | useShared hs => exact ⟨(h.1.step hs).share, rfl⟩
  | drop life => exact (Lifetime.Sound.has h).close _
  | replace life => exact sound_install h.1.has
  | leave life _ => exact h.1.has.shutdown
  | shutdown life => exact h.1.has.shutdown

theorem Reachable.sound (h : Reachable id stage) : Sound id stage := by
  induction h with
  | first has => exact has
  | next _ hn ih => exact ih.next hn

/-- However a lifetime ends, its registry has been flushed. -/
theorem Sound.ended (h : Sound id stage) {life : Lifetime} {after : Archive}
    (he : Ends stage life after) : life.Sound id ∧
      after.settings id = life.opened.registry.flush (life.archive.settings id) := by
  cases he with
  | drop =>
    have sound : life.Sound id := h
    obtain rfl := sound.store
    exact ⟨sound, sound.has.settings_close⟩
  | replace _ store =>
    obtain ⟨sound, shared⟩ := h
    obtain rfl := sound.store
    refine ⟨sound, ?_⟩
    rw [Archive.install, Archive.shutdown_eq shared]
    exact sound.has.settings_close
  | shutdown =>
    obtain ⟨sound, shared⟩ := h
    obtain rfl := sound.store
    refine ⟨sound, ?_⟩
    rw [Archive.shutdown_eq shared]
    exact sound.has.settings_close

/-- Histories survive: when a lifetime has ended, loading gives the entries
that are not empty of each history used in it, and for each other scope what
it gave when the lifetime began. A list of entries in memory is shorter than
the number of its possible positions, which are words of 64 bits. -/
theorem Reachable.survives (h : Reachable id stage) {life : Lifetime} {after : Archive}
    (he : Ends stage life after) :
    (∀ scope ∈ life.used, ∃ history,
      life.opened.registry.histories.lookup scope = some history ∧
      (history.entries.length < UInt64.size →
        (History.load (after.settings id) scope.storageName).entries =
          history.entries.filter (!·.isEmpty))) ∧
    ∀ scope ∉ life.used, (History.load (after.settings id) scope.storageName).entries =
      (History.load life.begun scope.storageName).entries := by
  obtain ⟨sound, saved⟩ := h.sound.ended he
  rw [saved]
  refine ⟨fun scope hs => ?_, fun scope hs => ?_⟩
  · have there := isSome_lookup_iff.mpr ((sound.used scope).mp hs)
    obtain ⟨history, found⟩ := Option.isSome_iff_exists.mp there
    refine ⟨history, found, fun fits => ?_⟩
    have stored := HistoryRegistry.flush_isStored _ (life.archive.settings id)
      sound.filed.storageNames (mem_of_lookup found)
      (Nat.lt_of_le_of_lt (List.length_filter_le _ _) fits)
    have name : history.storageName = scope.storageName :=
      sound.filed.named _ (mem_of_lookup found)
    rw [name] at stored
    exact History.load_eq_iff.mpr stored
  · exact ((sound.others scope hs).trans (sound.flush_agrees hs _)).load_eq

/-- A store that earlier lifetimes have left behind. -/
def leftBehind : Archive :=
  let settings := Settings.empty.set "HISTORY__ITEM_0" "commit"
  let settings := settings.set "HISTORY__ITEM_1" "rollback"
  let settings := settings.set "HISTORY__ITEM_7" "a line of a longer history"
  let settings := settings.set "HISTORY_DATABASENAMESALES_ITEM_0" "select 1"
  { stores := ⟨#[{ settings }]⟩ }

/-- A lifetime that empties the oldest statement and adds a new one. -/
def renewed : Lifetime :=
  ((Lifetime.begin leftBehind ⟨0⟩).call .everyone (.set 0 "")).call .everyone (.add "select 2")

theorem survives_renewed :
    (History.load ((renewed.archive.close renewed.opened).settings ⟨0⟩) "").entries =
        ["rollback", "select 2"] ∧
      (History.load ((renewed.archive.close renewed.opened).settings ⟨0⟩)
        "DATABASENAMESALES").entries = ["select 1"] := by
  have there : leftBehind.Has ⟨0⟩ := Nat.zero_lt_one
  have opened : Reachable ⟨0⟩ (.held (.begin leftBehind ⟨0⟩)) :=
    .next (.first there) (.hold leftBehind)
  have used : Reachable ⟨0⟩ (.held renewed) :=
    .next (.next opened (.useHeld (.call _ _ _))) (.useHeld (.call _ _ _))
  obtain ⟨kept, others⟩ := Reachable.survives used (.drop renewed)
  obtain ⟨history, found, loaded⟩ := kept .everyone List.mem_cons_self
  have inMemory : renewed.opened.registry.histories.lookup .everyone =
      some ⟨"", ["", "rollback", "select 2"]⟩ := by decide +kernel
  rw [inMemory] at found
  cases found
  have unused : HistoryScope.databaseName "SALES" ∉ renewed.used := by decide
  have before : (History.load renewed.begun "DATABASENAMESALES").entries = ["select 1"] := by
    decide +kernel
  exact ⟨loaded (by decide), (others _ unused).trans before⟩

end Stage

end MetaCatalog
