/-!
# Facets

An item is read from the catalog in parts. A `Facet` is one such part: not
read, being read, or there. `FacetKind` names the parts that items have.
-/

namespace MetaCatalog

/-- The parts of items that can be loaded and dropped on their own. -/
inductive FacetKind where
  | columns
  | primaryKey
  | foreignKeys
  | checkConstraints
  | uniqueConstraints
  | indices
  | externalPath
  | source
  | parameters
  | privileges
  | description
  deriving DecidableEq, Inhabited

namespace FacetKind

/-- The part in a document. -/
def label : FacetKind → String
  | columns => "Columns"
  | primaryKey => "PrimaryKey"
  | foreignKeys => "ForeignKeys"
  | checkConstraints => "CheckConstraints"
  | uniqueConstraints => "UniqueConstraints"
  | indices => "Indices"
  | externalPath => "ExternalPath"
  | source => "Source"
  | parameters => "Parameters"
  | privileges => "Privileges"
  | description => "Description"

/-- Every part. -/
def all : List FacetKind :=
  [columns, primaryKey, foreignKeys, checkConstraints, uniqueConstraints, indices, externalPath,
    source, parameters, privileges, description]

/-- The part with a label. -/
def ofLabel? (label : String) : Option FacetKind := all.find? (·.label == label)

end FacetKind

/-- A part of an item, with its value once it is loaded. -/
inductive Facet (α : Type) where
  | unloaded
  | loading
  | loaded (value : α)
  deriving Inhabited

namespace Facet

variable {α : Type}

/-- Whether the value is there. -/
def isLoaded : Facet α → Bool
  | loaded _ => true
  | _ => false

/-- The value, if it is there. -/
def value? : Facet α → Option α
  | loaded value => some value
  | _ => none

/-- The value of a facet that holds a list; empty while there is none. -/
def items (facet : Facet (List α)) : List α := facet.value?.getD []

/-- The text of a facet that holds one; empty while there is none. -/
def text (facet : Facet String) : String := facet.value?.getD ""

/-- The value replaced, if it is there, and the value before. -/
def replace (facet : Facet α) (value : α) : Option α × Facet α :=
  match facet with
  | loaded old => (some old, loaded value)
  | other => (none, other)

/-- The facet dropped, and whether a value was lost by it. -/
def drop (facet : Facet α) : Bool × Facet α := (facet.isLoaded, unloaded)

/-- The facet in a diagnostic, given the texts of values. -/
def diagnostic (textOf : α → String) : Facet α → String
  | unloaded => "Unloaded"
  | loading => "Loading"
  | loaded value => "Loaded(" ++ textOf value ++ ")"

end Facet

end MetaCatalog
