/-!
# Arenas

An arena holds cells that are only ever added. The index of a cell names it
from then on.
-/

namespace MetaCatalog

/-- Cells that are only ever added, each named by its index. -/
structure Arena (α : Type) where
  cells : Array α := #[]
  deriving Inhabited

namespace Arena

variable {α : Type}

/-- The content of a cell. -/
def get [Inhabited α] (arena : Arena α) (index : Nat) : α := arena.cells.getD index default

/-- The arena with the content of a cell changed. -/
def modify (arena : Arena α) (index : Nat) (f : α → α) : Arena α :=
  ⟨arena.cells.modify index f⟩

/-- The index of the next new cell. -/
def next (arena : Arena α) : Nat := arena.cells.size

/-- The arena with a new cell. -/
def push (arena : Arena α) (content : α) : Arena α := ⟨arena.cells.push content⟩

end Arena

end MetaCatalog
