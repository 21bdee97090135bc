import MetaCatalog.Procedure

/-!
# Statements written from a procedure

The texts that call a procedure, describe it and recreate it. Each of them
lists the input parameters and the output parameters apart, in the order of
the catalog, and goes through the parameters in a way of its own: the names are
split into two lists, the lines know their indices, and the declarations are
written to two lists in one pass.
-/

namespace MetaCatalog.Procedure

/-- The input parameters. -/
def inputs (parameters : List ParameterDefinition) : List ParameterDefinition :=
  parameters.filter (·.isInput)

/-- The output parameters. -/
def outputs (parameters : List ParameterDefinition) : List ParameterDefinition :=
  parameters.filter (·.isOutput)

/-- The names of the input parameters and of the output parameters. -/
def splitNames (parameters : List ParameterDefinition) : List String × List String :=
  let (given, returned) := parameters.partition (·.isInput)
  (given.map (·.quotedName), returned.map (·.quotedName))

/-- Names in parentheses; nothing if there are none. -/
def argumentSql : List String → String
  | [] => ""
  | names => "(" ++ Text.joinWith ", " names ++ ")"

/-- A `SELECT` over a procedure, of its output parameters or of everything. -/
def selectSql (procedure : String) (parameters : List ParameterDefinition) (withColumns : Bool) :
    String :=
  let (given, returned) := splitNames parameters
  "SELECT " ++ (if withColumns then Text.joinWith ", " returned else "* ") ++
    "\nFROM " ++ procedure ++ argumentSql given

/-- A statement that executes a procedure. -/
def executeSql (procedure : String) (parameters : List ParameterDefinition) : String :=
  "EXECUTE PROCEDURE " ++ procedure ++ argumentSql (splitNames parameters).1

/-- The line of the parameter at an index, with a comma unless that is the last one. -/
def parameterLine (last index : Nat) (parameter : ParameterDefinition) : String :=
  "    " ++ parameter.quotedName ++ " " ++ parameter.type.sql ++
    (if index = last then "" else ",") ++ "\n"

/-- Parameters one to a line. -/
def parameterLines (parameters : List ParameterDefinition) : String :=
  String.join (parameters.mapIdx (parameterLine (parameters.length - 1)))

/-- The signature of a procedure for people to read. -/
def definitionText (procedure : String) (parameters : List ParameterDefinition) : String :=
  let given := parameterLines (inputs parameters)
  let returned := parameterLines (outputs parameters)
  procedure ++ (if given.isEmpty then "" else "(\n" ++ given ++ ")") ++ "\n" ++
    (if returned.isEmpty then "" else "returns:\n" ++ returned)

/-- A parameter with its type, and its character set if it has one. -/
def declarationSql (parameter : ParameterDefinition) : String :=
  parameter.quotedName ++ " " ++ parameter.type.sql ++
    match parameter.charset with
    | some charset => " CHARACTER SET " ++ charset
    | none => ""

/-- The lists of declarations, as far as they are written. -/
structure Declarations where
  given : String := ""
  returned : String := ""

/-- A list with one more declaration. The first one follows the heading. -/
def addDeclaration (heading list declaration : String) : String :=
  list ++ (if list.isEmpty then heading else ",\n    ") ++ declaration

/-- Declares a parameter in the list of its direction. -/
def declare (lists : Declarations) (parameter : ParameterDefinition) : Declarations :=
  if parameter.isInput then
    { lists with given := addDeclaration " (\n    " lists.given (declarationSql parameter) }
  else
    { lists with
      returned := addDeclaration "\nRETURNS (\n    " lists.returned (declarationSql parameter) }

/-- A list with its closing parenthesis, unless nothing is declared in it. -/
def closeList (list : String) : String := if list.isEmpty then "" else list ++ " )"

/-- A script that gives a procedure the given parameters and source. -/
def alterSql (procedure : String) (parameters : List ParameterDefinition) (source : String) :
    String :=
  let lists := parameters.foldl declare {}
  "SET TERM ^ ;\nALTER PROCEDURE " ++ procedure ++ closeList lists.given ++
    closeList lists.returned ++ "\nAS\n" ++ source ++ "^\nSET TERM ; ^"

/-- A `SELECT` over the procedure, whose parameters are loaded first. -/
def selectStatement (procedure : Procedure) (withColumns : Bool) :
    Engine (String × Procedure) := do
  let (_, procedure) ← procedure.readParameters
  pure (selectSql procedure.quotedName procedure.loadedParameters withColumns, procedure)

/-- A statement that executes the procedure, whose parameters are loaded
first. -/
def executeStatement (procedure : Procedure) : Engine (String × Procedure) := do
  let (_, procedure) ← procedure.readParameters
  pure (executeSql procedure.quotedName procedure.loadedParameters, procedure)

/-- The signature of the procedure, whose parameters are loaded first. -/
def definition (procedure : Procedure) : Engine (String × Procedure) := do
  let (_, procedure) ← procedure.checkParameters false
  pure (definitionText procedure.quotedName procedure.loadedParameters, procedure)

/-- The error of a statement that needs more than could be loaded. -/
def preconditionError (procedure : Procedure) (error : Error) : Error :=
  .preconditionNotMet (procedure.item.lastError.getD error.message)

/-- The script that recreates the procedure. It takes the parameters and the
source. -/
def alterStatement (procedure : Procedure) : Engine (Except Error String × Procedure) := do
  match ← procedure.loadParameters with
  | (.error e, procedure) => pure (.error (procedure.preconditionError e), procedure)
  | (.ok (), procedure) =>
    match ← procedure.loadSource with
    | (.error e, procedure) => pure (.error (procedure.preconditionError e), procedure)
    | (.ok (), procedure) =>
      pure
        (.ok (alterSql procedure.quotedName procedure.loadedParameters procedure.source.text),
          procedure)

/-- The outline of a statement that creates a procedure. -/
def createTemplate : String :=
  "SET TERM ^ ;\n\n" ++
  "CREATE PROCEDURE name \n" ++
  " ( input_parameter_name < datatype>, ... ) \n" ++
  "RETURNS \n" ++
  " ( output_parameter_name < datatype>, ... )\n" ++
  "AS \n" ++
  "DECLARE VARIABLE variable_name < datatype>; \n" ++
  "BEGIN\n" ++
  "  /* write your code here */ \n" ++
  "END^\n\n" ++
  "SET TERM ; ^\n"

end MetaCatalog.Procedure
