import MetaCatalog.Arena
import MetaCatalog.History.Registry
import MetaCatalog.Settings.File

/-!
# The archive

An archive holds settings stores, in memory and in files, and the registry of
histories that everyone shares. Every registry works on one store. When it is
closed, and when the shared registry is replaced or shut down, its histories
are saved there.
-/

namespace MetaCatalog

/-- Names a settings store. -/
structure StoreId where
  index : Nat
  deriving DecidableEq, Inhabited

/-- A settings store, and the file it is kept in, if there is one. -/
structure Store where
  settings : Settings := .empty
  path : Option Path := none
  deriving Inhabited

/-- A registry and the store it works on. -/
structure OpenRegistry where
  store : StoreId
  registry : HistoryRegistry := {}
  deriving Inhabited

/-- Settings stores, the disk, and the registry that everyone shares. -/
structure Archive where
  disk : Disk := {}
  stores : Arena Store := {}
  shared : Option OpenRegistry := none
  deriving Inhabited

/-- What is done with a history. It may change the settings. -/
abbrev HistoryUse (α : Type) := Settings → History → α × History × Settings

namespace Archive

/-- The store with a name. -/
def store (archive : Archive) (id : StoreId) : Store := archive.stores.get id.index

/-- The settings in a store. -/
def settings (archive : Archive) (id : StoreId) : Settings := (archive.store id).settings

/-- The archive with the settings in a store replaced. -/
def setSettings (archive : Archive) (id : StoreId) (settings : Settings) : Archive :=
  { archive with stores := archive.stores.modify id.index fun store => { store with settings } }

/-- A new store. -/
def add (archive : Archive) (store : Store) : StoreId × Archive :=
  (⟨archive.stores.next⟩, { archive with stores := archive.stores.push store })

/-- A new store with the settings in a file. -/
def load (archive : Archive) (path : Path) : Except SettingsFileError (StoreId × Archive) :=
  (Settings.load archive.disk path).map fun settings =>
    archive.add { settings, path := some path }

/-- Saves a store in a file. -/
def save (archive : Archive) (id : StoreId) (path : Path) :
    Except SettingsFileError Unit × Archive :=
  let (saved, disk) := (archive.settings id).save archive.disk path
  (saved, { archive with disk })

/-! ## Registries -/

/-- Saves the histories of a registry. -/
def close (archive : Archive) (opened : OpenRegistry) : Archive :=
  archive.setSettings opened.store (opened.registry.flush (archive.settings opened.store))

/-- Closes the shared registry, if there is one. -/
def shutdown (archive : Archive) : Archive :=
  match archive.shared with
  | some opened => { archive.close opened with shared := none }
  | none => archive

/-- Sets up a shared registry in the place of the one before. -/
def install (archive : Archive) (store : StoreId) : Archive :=
  { archive.shutdown with shared := some { store } }

/-- The shared registry, without which nothing can be done with it. -/
def requireShared (archive : Archive) : Except Error OpenRegistry :=
  match archive.shared with
  | some opened => .ok opened
  | none => .error (.configuration "statement history registry not initialized")

/-- Uses the history of a scope. -/
def useScope (archive : Archive) (opened : OpenRegistry) (scope : HistoryScope)
    (use : HistoryUse α) : α × OpenRegistry × Archive :=
  let settings := archive.settings opened.store
  let ((result, settings), registry) := opened.registry.onScope settings scope fun history =>
    let (result, history, settings) := use settings history
    ((result, settings), history)
  (result, { opened with registry }, archive.setSettings opened.store settings)

/-- The scope for statements of a database under the present policy. -/
def scopeOf (archive : Archive) (opened : OpenRegistry) (database : Database) : HistoryScope :=
  HistoryRegistry.scopeOf (archive.settings opened.store) database

end Archive

end MetaCatalog
