import MetaCatalog.Row

/-!
# Runs of rows

Some results describe one object by several consecutive rows. A `RunReader`
says how: the key of a row tells whether the row continues the object before
it, which it then extends, or starts another one.
-/

namespace MetaCatalog

/-- How consecutive rows make up objects. -/
structure RunReader (κ γ : Type) where
  /-- What is read from every row. -/
  key : Row → Except Error κ
  /-- Whether a row with this key continues the object. -/
  continues : γ → κ → Bool
  /-- The object with a further row. -/
  extend : γ → κ → γ
  /-- The object that starts with a row. -/
  start : κ → Row → Except Error γ

namespace RunReader

variable {κ γ : Type}

/-- Adds a row to the objects read so far, the newest of which comes first. -/
def step (reader : RunReader κ γ) (objects : List γ) (row : Row) : Except Error (List γ) := do
  let key ← reader.key row
  match objects with
  | [] => pure [← reader.start key row]
  | object :: older =>
    if reader.continues object key then pure (reader.extend object key :: older)
    else pure ((← reader.start key row) :: object :: older)

end RunReader

end MetaCatalog
