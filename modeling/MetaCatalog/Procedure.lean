import MetaCatalog.Relation
import MetaCatalog.Row.Runs

/-!
# Procedures

A procedure has parameters, a source, the rights that others hold on it, and a
description.
-/

namespace MetaCatalog

/-- Whether a parameter is given to a procedure or returned by it. -/
inductive ParameterDirection where
  | input
  | output
  deriving DecidableEq, Inhabited

/-- The direction of a code in the catalog: zero is input. -/
def ParameterDirection.ofCode (code : Int64) : ParameterDirection :=
  if code = 0 then .input else .output

/-- The direction in a document. -/
def ParameterDirection.label : ParameterDirection → String
  | input => "Input"
  | output => "Output"

/-- What the catalog says about a parameter. -/
structure ParameterDefinition where
  name : Identifier
  direction : ParameterDirection
  position : Int64
  domain : String
  type : FieldType
  charset : Option String
  deriving DecidableEq, Inhabited

namespace ParameterDefinition

/-- Reads a row of the parameter query. -/
def read (row : Row) : Except Error ParameterDefinition := do
  let name ← row.trimmed 1
  let domain ← row.trimmed 2
  let direction ← row.integer 3 0
  let charset ← row.optional 4
  let type ← FieldType.read row 5
  let position ← row.integer 11 0
  pure {
    name := .ofCatalog name
    direction := .ofCode direction
    position
    domain
    type
    charset }

/-- Whether the parameter is given to the procedure. -/
def isInput (parameter : ParameterDefinition) : Bool := parameter.direction = .input

/-- Whether the parameter is returned by the procedure. -/
def isOutput (parameter : ParameterDefinition) : Bool := parameter.direction = .output

/-- The name of the parameter as it appears in SQL. -/
def quotedName (parameter : ParameterDefinition) : String := parameter.name.quoted

end ParameterDefinition

/-- A parameter of a procedure. -/
structure Parameter where
  item : Item
  definition : ParameterDefinition
  deriving Inhabited

namespace Parameter

/-- A new parameter of a procedure. -/
def within (procedure : Uuid) (loader : LoaderId) (definition : ParameterDefinition) :
    Engine Parameter := do
  pure { item := ← Item.within .parameter definition.name procedure (some loader), definition }

/-- The query for the parameters of a procedure. -/
def sql : String :=
  "select p.rdb$parameter_name, p.rdb$field_source, p.rdb$parameter_type, " ++
  "c.rdb$character_set_name, " ++
  FieldType.columns ++
  ", p.rdb$parameter_number from rdb$procedure_parameters p join rdb$fields f on " ++
  "f.rdb$field_name = p.rdb$field_source left outer join rdb$character_sets c on " ++
  "c.rdb$character_set_id = f.rdb$character_set_id where p.rdb$procedure_name = ? order by " ++
  "p.rdb$parameter_type, p.rdb$parameter_number"

end Parameter

/-- The rights that one user, role or object holds on a procedure, one
character for each. -/
structure Privilege where
  grantee : String
  granteeType : Int64
  grantor : String
  grantOption : Bool
  /-- The rights, in ascending order. -/
  codes : List Char
  deriving DecidableEq, Inhabited

namespace Privilege

/-- An ascending list with an element added, unless it is there. -/
def insertCode (code : Char) : List Char → List Char
  | [] => [code]
  | c :: cs =>
    if code < c then code :: c :: cs
    else if code = c then c :: cs
    else c :: insertCode code cs

/-- The rights with the one that a row grants, if it grants one. -/
def addCode (code : Option Char) (codes : List Char) : List Char :=
  match code with
  | some code => insertCode code codes
  | none => codes

/-- Whether the right is among those held. -/
def has (privilege : Privilege) (code : Char) : Bool := privilege.codes.contains code

/-- Who holds a right, and which one. -/
structure Key where
  grantee : String
  granteeType : Int64
  code : Option Char
  deriving DecidableEq, Inhabited

/-- The holder and the right that a row names. -/
def readKey (row : Row) : Except Error Key := do
  pure {
    grantee := ← row.trimmed 1
    granteeType := ← row.integer 2 0
    code := (← row.trimmed 4).toList.head? }

/-- Rights take one row each. -/
def reader : RunReader Key Privilege where
  key := readKey
  continues privilege key :=
    privilege.grantee == key.grantee && privilege.granteeType == key.granteeType
  extend privilege key := { privilege with codes := addCode key.code privilege.codes }
  start key row := do
    pure {
      grantee := key.grantee
      granteeType := key.granteeType
      grantor := ← row.trimmed 3
      grantOption := (← row.integer 5 0) == 1
      codes := addCode key.code [] }

end Privilege

/-- A procedure with the facets that have been loaded. -/
structure Procedure where
  item : Item
  parameters : Facet (List Parameter) := .unloaded
  source : Facet String := .unloaded
  privileges : Facet (List Privilege) := .unloaded
  description : Facet (Option String) := .unloaded
  deriving Inhabited

namespace Procedure

/-- The query for the source of a procedure. -/
def sourceSql : String :=
  "select rdb$procedure_source from rdb$procedures where rdb$procedure_name = ?"

/-- The query for the description of a procedure. -/
def descriptionSql : String :=
  "select rdb$description from rdb$procedures where rdb$procedure_name = ?"

/-- The query for the rights on a procedure. -/
def privilegeSql : String :=
  "select rdb$user, rdb$user_type, rdb$grantor, rdb$privilege, rdb$grant_option, " ++
  "rdb$field_name from rdb$user_privileges where rdb$relation_name = ? and rdb$object_type " ++
  "= 5 order by rdb$user, rdb$user_type, rdb$privilege"

/-- The name of the procedure. -/
def name (procedure : Procedure) : Identifier := procedure.item.name

/-- The name of the procedure as it appears in SQL. -/
def quotedName (procedure : Procedure) : String := procedure.item.quotedName

/-- The procedure with another item. -/
def withItem (procedure : Procedure) (item : Item) : Procedure := { procedure with item }

/-- A procedure that belongs to no database. -/
def free (name : Identifier) : Engine Procedure := do
  pure { item := ← Item.fresh .procedure name }

/-- A procedure of a database. -/
def within (database : Uuid) (loader : Option LoaderId) (name : Identifier) :
    Engine Procedure := do
  pure { item := ← Item.within .procedure name database loader }

/-- The procedure with another loader. -/
def withLoader (procedure : Procedure) (loader : Option LoaderId) : Procedure :=
  { procedure with item := { procedure.item with loader } }

/-! ## Loading -/

/-- Fetches the parameters, inputs first, in the order of their numbers. -/
def fetchParameters (item : Item) (loader : LoaderId) : Query (List Parameter) := do
  let definitions ← loader.list Parameter.sql [.text item.name.raw] ParameterDefinition.read
  ExceptT.lift (definitions.mapM (Parameter.within item.id loader))

/-- Loads the parameters. -/
def loadParameters (procedure : Procedure) : Engine (Attempted Procedure) := do
  let loaded ← procedure.item.load procedure.parameters (fetchParameters procedure.item)
  pure (loaded.outcome, { procedure with item := loaded.item, parameters := loaded.facet })

/-- Fetches the source. -/
def fetchSource (item : Item) (loader : LoaderId) : Query String := do
  pure ((← loader.first? sourceSql [.text item.name.raw] (Row.blob · 1)).getD "")

/-- Loads the source. -/
def loadSource (procedure : Procedure) : Engine (Attempted Procedure) := do
  let loaded ← procedure.item.load procedure.source (fetchSource procedure.item)
  pure (loaded.outcome, { procedure with item := loaded.item, source := loaded.facet })

/-- Fetches the rights, one record for each holder. -/
def fetchPrivileges (item : Item) (loader : LoaderId) : Query (List Privilege) := do
  pure (← loader.fold privilegeSql [.text item.name.raw] Privilege.reader.step []).reverse

/-- Loads the rights. -/
def loadPrivileges (procedure : Procedure) : Engine (Attempted Procedure) := do
  let loaded ← procedure.item.load procedure.privileges (fetchPrivileges procedure.item)
  pure (loaded.outcome, { procedure with item := loaded.item, privileges := loaded.facet })

/-- Loads the description. -/
def loadDescription (procedure : Procedure) : Engine (Attempted Procedure) := do
  let loaded ← procedure.item.load procedure.description
    (Relation.fetchDescription descriptionSql procedure.item)
  pure (loaded.outcome, { procedure with item := loaded.item, description := loaded.facet })

/-! ## Reading -/

/-- The definitions of the parameters that are loaded. -/
def loadedParameters (procedure : Procedure) : List ParameterDefinition :=
  procedure.parameters.items.map (·.definition)

/-- The parameters, which are loaded first; none if they cannot be loaded. -/
def readParameters (procedure : Procedure) : Engine (List Parameter × Procedure) := do
  let (_, procedure) ← procedure.loadParameters
  pure (procedure.parameters.items, procedure)

/-- The source; empty if it cannot be loaded. -/
def readSource (procedure : Procedure) : Engine (String × Procedure) := do
  let (_, procedure) ← procedure.loadSource
  pure (procedure.source.text, procedure)

/-- The rights. -/
def readPrivileges (procedure : Procedure) : Engine (List Privilege × Procedure) := do
  let (_, procedure) ← procedure.loadPrivileges
  pure (procedure.privileges.items, procedure)

/-- The description. -/
def readDescription (procedure : Procedure) : Engine (Option String × Procedure) := do
  let (_, procedure) ← procedure.loadDescription
  pure (procedure.description.value?.join, procedure)

/-- Announces a change of the procedure. -/
def announce (procedure : Procedure) : Engine Procedure := do
  pure { procedure with item := ← procedure.item.announce }

/-- Loads the parameters if they are not there, or in any case if forced to,
and announces it. The answer is whether they are there then. -/
def checkParameters (procedure : Procedure) (force : Bool) : Engine (Bool × Procedure) := do
  if force || !procedure.parameters.isLoaded then
    let (_, procedure) ← loadParameters { procedure with parameters := .unloaded }
    let procedure ← procedure.announce
    pure (procedure.parameters.isLoaded, procedure)
  else pure (procedure.parameters.isLoaded, procedure)

/-- Whether the procedure returns rows. -/
def isSelectable (procedure : Procedure) : Engine (Bool × Procedure) := do
  let (parameters, procedure) ← procedure.readParameters
  pure (parameters.any (·.definition.isOutput), procedure)

/-! ## Dropping -/

/-- Drops one facet if it is asked for, and says whether a value was lost. -/
def dropAsked (asked : Option FacetKind) (kind : FacetKind) (facet : Facet α) : Bool × Facet α :=
  if Relation.covers asked kind then facet.drop else (false, facet)

/-- The procedure without the facets that are asked for, and whether a value
was lost. -/
def drop (procedure : Procedure) (asked : Option FacetKind) : Bool × Procedure :=
  let (lostParameters, parameters) := dropAsked asked .parameters procedure.parameters
  let (lostSource, source) := dropAsked asked .source procedure.source
  let (lostPrivileges, privileges) := dropAsked asked .privileges procedure.privileges
  let (lostDescription, description) := dropAsked asked .description procedure.description
  (lostParameters || lostSource || lostPrivileges || lostDescription,
    { procedure with parameters, source, privileges, description })

/-- Drops one facet, or all of them, and announces it if a value was lost. -/
def invalidate (procedure : Procedure) (asked : Option FacetKind) : Engine Procedure :=
  match procedure.drop asked with
  | (true, procedure) => procedure.announce
  | (false, procedure) => pure procedure

end Procedure

end MetaCatalog
