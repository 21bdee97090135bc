import MetaCatalog.Facet
import MetaCatalog.Identifier
import MetaCatalog.Item.Kind
import MetaCatalog.Loader

/-!
# Items

What all objects of a catalog have in common: an identifier, a name and a
kind, the item they belong to, the loader they are read with, the message of
the last load that failed, and the subject that announces their changes.

`Item.load` reads one facet. The read happens inside the loader's transaction
and with the subject locked, so that observers hear of it once and find the
value in place. A facet that is there is not read again, and one whose read
fails is left unloaded.
-/

namespace MetaCatalog

/-- What all objects of a catalog have in common. -/
structure Item where
  subject : Subject
  name : Identifier
  kind : ItemKind
  parent : Option Uuid := none
  loader : Option LoaderId := none
  lastError : Option String := none
  deriving Inhabited

namespace Item

/-- The identifier of an item is that of its subject. -/
def id (item : Item) : Uuid := item.subject.id

/-- An item that belongs to nothing. -/
def free (id : Uuid) (kind : ItemKind) (name : Identifier) : Item :=
  { subject := { id }, name, kind }

/-- A new item that belongs to nothing. -/
def fresh (kind : ItemKind) (name : Identifier) : Engine Item := do
  pure (free (← World.newId) kind name)

/-- A new item that belongs to another one and is read with its loader. -/
def within (kind : ItemKind) (name : Identifier) (parent : Uuid) (loader : Option LoaderId) :
    Engine Item := do
  pure { ← fresh kind name with parent := some parent, loader }

/-- The item with another identifier. Its observers do not follow. -/
def withId (item : Item) (id : Uuid) : Item := { item with subject := { id } }

/-- The name of the item as it appears in SQL. -/
def quotedName (item : Item) : String := item.name.quoted

/-- The kind and the name. -/
def label (item : Item) : String := item.kind.typeName ++ " " ++ item.name.raw

/-- Announces a change of the item. -/
def announce (item : Item) : Engine Item := do
  pure { item with subject := ← World.announce item.subject }

/-- Holds the announcements of the item back. -/
def lock (item : Item) : Item := { item with subject := item.subject.lock }

/-- Releases a lock of the item. -/
def unlock (item : Item) : Engine Item := do
  pure { item with subject := ← World.unlock item.subject }

/-- Gives the item another name. -/
def rename (item : Item) (name : Identifier) : Engine Item := announce { item with name }

/-- The loader of the item, which it only has within a database. -/
def requireLoader (item : Item) : Except Error LoaderId :=
  match item.loader with
  | some loader => .ok loader
  | none => .error (.missingContext item.label)

/-- The item with the message of an operation that failed. -/
def failed (item : Item) (error : Error) : Item := { item with lastError := some error.message }

/-- Fetches a value inside the loader's transaction and with the subject
locked, and announces it. -/
def fetch (item : Item) (loader : LoaderId) (fetch : LoaderId → Query α) :
    Engine (Except Error α × Item) := do
  match ← loader.enter.run with
  | .error e => pure (.error e, item)
  | .ok () =>
    let item := item.lock
    match ← (fetch loader).run with
    | .error e =>
      let item ← item.unlock
      loader.leave
      pure (.error e, item)
    | .ok value =>
      let item ← item.announce
      let item ← item.unlock
      loader.leave
      pure (.ok value, item)

/-- The outcome of loading a facet of an item. -/
structure Loaded (α : Type) where
  outcome : Except Error Unit
  item : Item
  facet : Facet α

/-- Loads a facet of the item unless it is loaded already. -/
def load (item : Item) (facet : Facet α) (fetch : LoaderId → Query α) : Engine (Loaded α) := do
  if facet.isLoaded then pure ⟨.ok (), item, facet⟩
  else
    match item.requireLoader with
    | .error e => pure ⟨.error e, item.failed e, .unloaded⟩
    | .ok loader =>
      match ← item.fetch loader fetch with
      | (.ok value, item) => pure ⟨.ok (), item, .loaded value⟩
      | (.error e, item) => pure ⟨.error e, item.failed e, .unloaded⟩

/-- The item in a diagnostic. -/
def diagnostic (item : Item) : String :=
  "MetadataItem \x7b id: " ++ item.id.text ++ ", name: " ++ item.name.diagnostic ++
    ", kind: " ++ item.kind.label ++ ", parent: " ++
    (match item.parent with
    | some parent => "Some(" ++ parent.text ++ ")"
    | none => "None") ++ " \x7d"

end Item

end MetaCatalog
