import MetaCatalog.Arena
import MetaCatalog.Statement
import MetaCatalog.Subject

/-!
# The world

A `World` holds what outlives a single call and is shared between items: the
catalog connections, the loaders on them with their prepared statements, the
observers that are alive, the deliveries made so far, and how many identifiers
have been handed out and from which seed. Items themselves are plain values; an operation on one
runs in `Engine` and returns the changed item, and an operation that may fail
without changing an item runs in `Query`.
-/

namespace MetaCatalog

/-- A statement cache on a connection, with the number of those who use its
transaction. -/
structure Loader where
  connection : ConnectionId
  depth : Nat := 0
  statements : List (String × StatementId) := []
  deriving Inhabited

/-- What is shared between items. -/
structure World where
  connections : Arena Catalog := {}
  loaders : Arena Loader := {}
  statements : Arena Statement := {}
  observers : List ObserverId := []
  deliveries : List Delivery := []
  issued : Nat := 0
  seed : BitVec 64 := 0
  deriving Inhabited

/-- A computation in the world. -/
abbrev Engine := StateM World

/-- A computation in the world that may fail. -/
abbrev Query := ExceptT Error Engine

namespace World

/-- The catalog of a connection. -/
def catalog (world : World) (id : ConnectionId) : Catalog := world.connections.get id.index

/-- The loader with a name. -/
def loader (world : World) (id : LoaderId) : Loader := world.loaders.get id.index

/-- The statement with a name. -/
def statement (world : World) (id : StatementId) : Statement := world.statements.get id.index

/-- The catalog a loader works on. -/
def catalogOf (world : World) (id : LoaderId) : Catalog :=
  world.catalog (world.loader id).connection

/-- Whether an observer is alive. -/
def isAlive (world : World) (observer : ObserverId) : Bool := world.observers.contains observer

/-- The world with a catalog replaced. -/
def setCatalog (world : World) (id : ConnectionId) (catalog : Catalog) : World :=
  { world with connections := world.connections.modify id.index fun _ => catalog }

/-- The world with a loader changed. -/
def modifyLoader (world : World) (id : LoaderId) (f : Loader → Loader) : World :=
  { world with loaders := world.loaders.modify id.index f }

/-- The world with a statement replaced. -/
def setStatement (world : World) (id : StatementId) (statement : Statement) : World :=
  { world with statements := world.statements.modify id.index fun _ => statement }

/-- A new connection. -/
def connect (catalog : Catalog) : Engine ConnectionId := fun world =>
  (⟨world.connections.next⟩, { world with connections := world.connections.push catalog })

/-- A new loader on a connection. -/
def newLoader (connection : ConnectionId) : Engine LoaderId := fun world =>
  (⟨world.loaders.next⟩, { world with loaders := world.loaders.push { connection } })

/-- A new statement. -/
def newStatement (statement : Statement) : Engine StatementId := fun world =>
  (⟨world.statements.next⟩, { world with statements := world.statements.push statement })

/-- An identifier that no item has yet. -/
def newId : Engine Uuid := fun world =>
  (Uuid.numbered world.seed world.issued, { world with issued := world.issued + 1 })

/-- Delivers the announcements of a subject to its observers. -/
def deliver (subject : Subject) : Engine Subject := fun world =>
  let subject := subject.prune world.isAlive
  (subject, { world with deliveries := world.deliveries ++ [⟨subject.id, subject.observers⟩] })

/-- Delivers if a delivery is due. -/
def deliverIf : Bool × Subject → Engine Subject
  | (true, subject) => deliver subject
  | (false, subject) => pure subject

/-- Announces a change of the item that owns the subject. -/
def announce (subject : Subject) : Engine Subject := deliverIf subject.announce

/-- Releases a lock of a subject. -/
def unlock (subject : Subject) : Engine Subject := deliverIf subject.unlock

end World

end MetaCatalog
