import MetaCatalog.Proofs.History.Lifetimes
import MetaCatalog.Proofs.Settings.Files

/-!
# Restarts

A settings store that is kept in a file can be saved and loaded again between any two
calls. It answers every call as a store in memory that is given the calls alone
(`Archive.restarts_unnoticed`): what either answers is what `Settings.answers` says
(`Archive.Holds.answers`), because a restart gives a store with the same settings on a
disk that can take them again (`Archive.Holds.restart`).
-/

namespace MetaCatalog

/-! ## Calls of a store -/

/-- A call of a settings store. -/
inductive StoreCall where
  | get (key : String)
  | set (key value : String)
  | remove (key : String)
  | keysFrom (opening : String)
  | getBool (key : String) (default : Bool)
  | getInt (key : String) (default : Int64)
  | setBool (key : String) (value : Bool)
  | setInt (key : String) (value : Int64)

/-- The answer to a call. -/
inductive StoreAnswer where
  | done
  | text (value : Option String)
  | flag (value : Bool)
  | number (value : Int64)
  | keys (keys : List String)
  deriving DecidableEq

/-- The answer to a call, and the settings after it. Removing a key tells whether it was there. -/
def StoreCall.run (settings : Settings) : StoreCall → StoreAnswer × Settings
  | get key => (.text (settings.get? key), settings)
  | set key value => (.done, settings.set key value)
  | remove key => (.flag (settings.has key), settings.remove key)
  | keysFrom opening => (.keys (settings.keysFrom opening), settings)
  | getBool key default => (.flag (settings.getBool key default), settings)
  | getInt key default => (.number (settings.getInt key default), settings)
  | setBool key value => (.done, settings.setBool key value)
  | setInt key value => (.done, settings.setInt key value)

/-- What is done with a store: it is called, or it is saved and loaded again. -/
inductive StoreStep where
  | call (call : StoreCall)
  | restart

/-- The call that a step is, if it is one. -/
def StoreStep.call? : StoreStep → Option StoreCall
  | call c => some c
  | restart => none

/-- The answers of settings to one call after the other. -/
def Settings.answers (settings : Settings) : List StoreCall → List StoreAnswer
  | [] => []
  | call :: rest => (call.run settings).1 :: (call.run settings).2.answers rest

namespace Archive

/-- A store saved in its file and loaded again. A store in memory is left as it is. -/
def restart (archive : Archive) (id : StoreId) : Except SettingsFileError (StoreId × Archive) :=
  match (archive.store id).path with
  | none => .ok (id, archive)
  | some path => do
    let saved := archive.save id path
    saved.1
    saved.2.load path

/-- The answers of a store to the calls among the steps. -/
def answers (archive : Archive) (id : StoreId) :
    List StoreStep → Except SettingsFileError (List StoreAnswer)
  | [] => .ok []
  | .call call :: rest =>
    let (answer, settings) := call.run (archive.settings id)
    ((archive.setSettings id settings).answers id rest).map (answer :: ·)
  | .restart :: rest => do
    let (id, archive) ← archive.restart id
    archive.answers id rest

/-! ## What a store holds -/

/-- There is a store with this name, and this is what it holds. -/
structure Holds (archive : Archive) (id : StoreId) (store : Store) : Prop where
  has : archive.Has id
  store : archive.store id = store

variable {archive : Archive} {id : StoreId} {store : Store} {path : Path}

theorem holds_add (archive : Archive) (store : Store) :
    (archive.add store).2.Holds (archive.add store).1 store where
  has := by
    rw [Has, add, Arena.next_push]
    exact Nat.lt_succ_self _
  store := by
    rw [Archive.store, add, Arena.get_push, if_pos rfl]

theorem Holds.setSettings (h : archive.Holds id store) (settings : Settings) :
    (archive.setSettings id settings).Holds id { store with settings } where
  has := h.has.setSettings id settings
  store := by
    rw [Archive.store, Archive.setSettings, Arena.get_modify, if_pos ⟨rfl, h.has⟩]
    exact congrArg (fun store : Store => { store with settings }) h.store

/-- What is loaded is held by a new store, and nothing is written. -/
theorem load_ok (archive : Archive) {settings : Settings}
    (loaded : Settings.load archive.disk path = .ok settings) :
    ∃ id' archive', archive.load path = .ok (id', archive') ∧
      archive'.Holds id' { settings, path := some path } ∧ archive'.disk = archive.disk := by
  refine ⟨_, _, ?_, holds_add archive _, rfl⟩
  rw [load, loaded]
  rfl

theorem restart_file (hp : (archive.store id).path = some path) : archive.restart id =
    (archive.save id path).1.bind fun _ => (archive.save id path).2.load path := by
  rw [restart, hp]
  rfl

/-- After a restart a store holds what it did, and can be restarted again. -/
theorem Holds.restart (h : archive.Holds id store)
    (takes : ∀ path, store.path = some path → archive.disk.Takes path) :
    ∃ id' archive', archive.restart id = .ok (id', archive') ∧ archive'.Holds id' store ∧
      ∀ path, store.path = some path → archive'.disk.Takes path := by
  cases hp : store.path with
  | none =>
    refine ⟨id, archive, ?_, h, nofun⟩
    rw [Archive.restart, h.store, hp]
  | some path =>
    obtain ⟨disk, saved, again, loaded⟩ := (takes path hp).save store.settings
    have save : archive.save id path = (.ok (), { archive with disk }) := by
      rw [Archive.save, settings, h.store, saved]
    obtain ⟨id', archive', load, holds, same⟩ := load_ok { archive with disk } loaded
    rw [← hp] at holds
    refine ⟨id', archive', ?_, holds, fun path' hp' => ?_⟩
    · rw [restart_file (h.store ▸ hp), save]
      exact load
    · cases hp'
      rw [same]
      exact again

theorem answers_call (archive : Archive) (id : StoreId) (call : StoreCall)
    (rest : List StoreStep) : archive.answers id (.call call :: rest) =
      ((archive.setSettings id (call.run (archive.settings id)).2).answers id rest).map
        ((call.run (archive.settings id)).1 :: ·) := rfl

/-- The recursion follows the steps. -/
theorem Holds.answers (h : archive.Holds id store) {steps : List StoreStep}
    (takes : .restart ∈ steps → ∀ path, store.path = some path → archive.disk.Takes path) :
    archive.answers id steps = .ok (store.settings.answers (steps.filterMap StoreStep.call?)) := by
  induction steps generalizing archive id store with
  | nil => rfl
  | cons step rest ih =>
    cases step with
    | call call =>
      have later := ih (h.setSettings (call.run (archive.settings id)).2)
        fun restarts => takes (List.mem_cons_of_mem _ restarts)
      rw [answers_call, later, settings, h.store]
      rfl
    | restart =>
      obtain ⟨id', archive', restarted, holds, again⟩ := h.restart (takes List.mem_cons_self)
      rw [Archive.answers, restarted]
      exact ih holds fun _ => again

/-- A store in a file that is restarted and answers could be saved from the beginning. -/
theorem Holds.takes (h : archive.Holds id store) {steps : List StoreStep}
    {given : List StoreAnswer} (answered : archive.answers id steps = .ok given)
    (restarts : .restart ∈ steps) (hp : store.path = some path) : archive.disk.Takes path := by
  induction steps generalizing archive id store given with
  | nil => exact absurd restarts List.not_mem_nil
  | cons step rest ih =>
    cases step with
    | call call =>
      have later : .restart ∈ rest := by simpa using restarts
      rw [answers_call] at answered
      cases hr : (archive.setSettings id (call.run (archive.settings id)).2).answers id rest with
      | error e =>
        rw [hr] at answered
        cases answered
      | ok after =>
        -- A call leaves the disk as it is.
        have takes := ih (h.setSettings (call.run (archive.settings id)).2) hr later hp
        exact takes
    | restart =>
      have save : (archive.save id path).1 = (store.settings.save archive.disk path).1 := by
        rw [Archive.save, settings, h.store]
      rw [Archive.answers, restart_file (h.store ▸ hp)] at answered
      refine Disk.takes_iff_saved.mpr (save.symm.trans ?_)
      cases saved : (archive.save id path).1 with
      | error e =>
        rw [saved] at answered
        cases answered
      | ok => rfl

/-- A store in a file answers as a store in memory does. If there is no file at first, then
whatever the store is asked, and wherever it is saved and loaded again in between, its answers
are those of an empty store in memory that is asked the same and never restarted. The store
answers unless it is to be restarted and its file cannot be written, and that can be seen
before the first call. -/
theorem restarts_unnoticed (archive : Archive) (path : Path)
    (absent : archive.disk.entry? path = none) (steps : List StoreStep) :
    ∃ id opened answers, archive.load path = .ok (id, opened) ∧
      (archive.add {}).2.answers (archive.add {}).1 (steps.filter (·.call?.isSome)) = .ok answers ∧
      (∀ given, opened.answers id steps = .ok given → given = answers) ∧
      ((.restart ∈ steps → (Settings.empty.save archive.disk path).1 = .ok ()) →
        opened.answers id steps = .ok answers) := by
  have loaded : Settings.load archive.disk path = .ok .empty := by
    rw [Settings.load, absent]
  obtain ⟨id, opened, load, holds, same⟩ := load_ok archive loaded
  have calls : (steps.filter (·.call?.isSome)).filterMap StoreStep.call? =
      steps.filterMap StoreStep.call? := by
    rw [List.filterMap_filter]
    refine List.filterMap_congr fun step _ => ?_
    cases step <;> rfl
  have memory : (archive.add {}).2.answers (archive.add {}).1 (steps.filter (·.call?.isSome)) = _ :=
    (holds_add archive {}).answers fun _ _ inFile => by cases inFile
  rw [calls] at memory
  have file (takes : .restart ∈ steps → archive.disk.Takes path) :=
    holds.answers fun restarts path' inFile => by
      cases inFile
      exact same ▸ takes restarts
  refine ⟨id, opened, _, load, memory, fun given answered => ?_, fun writable => ?_⟩
  · have takes (restarts : .restart ∈ steps) : archive.disk.Takes path :=
      same ▸ holds.takes answered restarts rfl
    exact Except.ok.inj (answered.symm.trans (file takes))
  · exact file fun restarts => Disk.takes_iff_saved.mpr (writable restarts)

/-- A store that is asked about a text with quotes and line breaks, and restarted. -/
def restarting : List StoreStep :=
  [.call (.set "a \"key\"\n" "\\😀\t"), .restart, .call (.get "a \"key\"\n"),
    .call (.setInt "n" (-7)), .restart, .restart, .call (.getInt "n" 0),
    .call (.remove "a \"key\"\n"), .restart, .call (.keysFrom "")]

theorem restarts_unnoticed_restarting :
    ∃ id opened, ({} : Archive).load ⟨"nested/config.json"⟩ = .ok (id, opened) ∧
      opened.answers id restarting = .ok [.done, .text (some "\\😀\t"), .done,
        .number (-7), .flag true, .keys ["n"]] := by
  have absent : ({} : Archive).disk.entry? ⟨"nested/config.json"⟩ = none := by decide +kernel
  obtain ⟨id, opened, answers, load, memory, -, file⟩ := restarts_unnoticed {} _ absent restarting
  have writable : (Settings.empty.save ({} : Archive).disk ⟨"nested/config.json"⟩).1 = .ok () := rfl
  have known : (({} : Archive).add {}).2.answers (({} : Archive).add {}).1
      (restarting.filter (·.call?.isSome)) = .ok [.done, .text (some "\\😀\t"), .done,
        .number (-7), .flag true, .keys ["n"]] := by
    decide +kernel
  exact ⟨id, opened, load, (file fun _ => writable).trans (memory.symm.trans known)⟩

end Archive

end MetaCatalog
