import MetaCatalog.Procedure.Script
import MetaCatalog.Proofs.Client.Loads

/-!
# How statements list the parameters

The statements that are written from a procedure go through its parameters in
different ways: by names that are split into two lists, by lines that know their
indices, and by declarations that one pass writes to two lists. In all of them the
input parameters and the output parameters are enclosed lists (`Text.enclosed`), each
in the order in which the parameters were loaded (`Procedure.Lists`).
`Procedure.statements_agree` says so of every procedure that is loaded.
-/

namespace MetaCatalog

/-! ## Enclosed lists -/

namespace Text

/-- Texts with a separator between any two, enclosed on both sides; nothing if there
are none. -/
def enclosed (opening separator closing : String) : List String → String
  | [] => ""
  | texts => opening ++ joinWith separator texts ++ closing

variable {opening separator closing : String} {texts : List String}

theorem joinWith_eq_intercalate (texts : List String) :
    joinWith separator texts = separator.intercalate texts := by
  induction texts with
  | nil => rfl
  | cons first rest ih =>
    cases rest with
    | nil => exact String.intercalate_singleton.symm
    | cons next rest => rw [joinWith, ih, String.intercalate_cons_cons]

theorem joinWith_append {later : List String} (h : texts ≠ []) (h' : later ≠ []) :
    joinWith separator (texts ++ later) =
      joinWith separator texts ++ separator ++ joinWith separator later := by
  simp only [joinWith_eq_intercalate]
  exact String.intercalate_append_of_ne_nil h h'

theorem enclosed_of_ne_nil (h : texts ≠ []) :
    enclosed opening separator closing texts = opening ++ joinWith separator texts ++ closing := by
  cases texts with
  | nil => exact absurd rfl h
  | cons first rest => rfl

/-- An enclosed list shows whether there are any texts. -/
theorem isEmpty_enclosed (h : opening ++ closing ≠ "") :
    (enclosed opening separator closing texts).isEmpty = texts.isEmpty := by
  cases texts with
  | nil => rfl
  | cons first rest =>
    rw [enclosed_of_ne_nil (List.cons_ne_nil _ _)]
    refine Bool.eq_false_iff.mpr fun empty => h ?_
    obtain ⟨front, rfl⟩ := String.append_eq_empty_iff.mp (String.isEmpty_iff.mp empty)
    rw [(String.append_eq_empty_iff.mp front).1]
    rfl

/-- What is put around an enclosed list that is not empty encloses its texts. -/
theorem wrap_enclosed (h : opening ++ closing ≠ "") (separator before after : String)
    (texts : List String) :
    (if (enclosed opening separator closing texts).isEmpty then ""
      else before ++ (enclosed opening separator closing texts ++ after)) =
      enclosed (before ++ opening) separator (closing ++ after) texts := by
  rw [isEmpty_enclosed h]
  cases texts with
  | nil => rfl
  | cons first rest =>
    simp only [List.isEmpty_cons, Bool.false_eq_true, if_false,
      enclosed_of_ne_nil (List.cons_ne_nil _ _), String.append_assoc]

end Text

namespace Procedure

open Text (enclosed enclosed_of_ne_nil isEmpty_enclosed joinWith_append wrap_enclosed)

variable {parameters : List ParameterDefinition}

/-! ## Two sides -/

/-- Two lists that the parameters are divided into, in their own order. -/
structure Sides (parameters given returned : List ParameterDefinition) : Prop where
  given_input : ∀ parameter ∈ given, parameter.isInput = true
  returned_output : ∀ parameter ∈ returned, parameter.isOutput = true
  given_sublist : given.Sublist parameters
  returned_sublist : returned.Sublist parameters
  perm : (given ++ returned).Perm parameters

theorem isOutput_eq (parameter : ParameterDefinition) :
    parameter.isOutput = !parameter.isInput := by
  rw [ParameterDefinition.isOutput, ParameterDefinition.isInput]
  cases parameter.direction <;> rfl

/-- The output parameters are all that are not input parameters. -/
theorem outputs_eq (parameters : List ParameterDefinition) :
    outputs parameters = parameters.filter (!·.isInput) :=
  List.filter_congr fun p _ => isOutput_eq p

theorem splitNames_eq (parameters : List ParameterDefinition) :
    splitNames parameters =
      ((inputs parameters).map (·.quotedName), (outputs parameters).map (·.quotedName)) := by
  rw [splitNames, List.partition_eq_filter_filter, outputs_eq]
  rfl

theorem sides (parameters : List ParameterDefinition) :
    Sides parameters (inputs parameters) (outputs parameters) where
  given_input _ member := List.of_mem_filter member
  returned_output _ member := List.of_mem_filter member
  given_sublist := List.filter_sublist
  returned_sublist := List.filter_sublist
  perm := by
    rw [outputs_eq]
    exact List.filter_append_perm _ _

theorem argumentSql_eq (names : List String) : argumentSql names = enclosed "(" ", " ")" names := by
  cases names <;> rfl

theorem executeSql_eq (procedure : String) (parameters : List ParameterDefinition) :
    executeSql procedure parameters =
      "EXECUTE PROCEDURE " ++ procedure ++
        enclosed "(" ", " ")" ((inputs parameters).map (·.quotedName)) := by
  unfold executeSql
  rw [splitNames_eq, argumentSql_eq]

theorem selectSql_eq (procedure : String) (parameters : List ParameterDefinition)
    (withColumns : Bool) :
    selectSql procedure parameters withColumns =
      "SELECT " ++ (if withColumns then Text.joinWith ", " ((outputs parameters).map (·.quotedName))
        else "* ") ++ "\nFROM " ++ procedure ++
        enclosed "(" ", " ")" ((inputs parameters).map (·.quotedName)) := by
  unfold selectSql
  simp only [splitNames_eq, argumentSql_eq]

/-! ## Lines -/

/-- A parameter as the signature of the procedure shows it. -/
def shown (parameter : ParameterDefinition) : String :=
  "    " ++ parameter.quotedName ++ " " ++ parameter.type.sql

theorem parameterLine_last (index : Nat) (parameter : ParameterDefinition) :
    parameterLine index index parameter = shown parameter ++ "\n" := by
  rw [parameterLine, if_pos rfl, String.append_empty]
  rfl

theorem parameterLine_before {last index : Nat} (h : index ≠ last)
    (parameter : ParameterDefinition) :
    parameterLine last index parameter = shown parameter ++ ",\n" := by
  have broken : ("," : String) ++ "\n" = ",\n" := by decide
  rw [parameterLine, if_neg h, String.append_assoc, broken]
  rfl

/-- The lines from an index on, by induction on the parameters that are left: the last
index is that of the last of them. -/
theorem join_lines (h : parameters ≠ []) {index last : Nat}
    (ends : index + parameters.length = last + 1) :
    String.join (parameters.mapIdx fun i => parameterLine last (i + index)) =
      Text.joinWith ",\n" (parameters.map shown) ++ "\n" := by
  induction parameters generalizing index with
  | nil => exact absurd rfl h
  | cons first rest ih =>
    rw [List.mapIdx_cons, String.join_cons, Nat.zero_add]
    cases rest with
    | nil =>
      obtain rfl : index = last := Nat.succ.inj ends
      rw [parameterLine_last]
      exact String.append_empty
    | cons next rest =>
      simp only [List.length_cons] at ends
      have later : index + 1 + (next :: rest).length = last + 1 := by
        rw [List.length_cons]
        omega
      have shifted (i : Nat) : i + 1 + index = i + (index + 1) := by omega
      have before : index ≠ last := by omega
      simp only [shifted]
      rw [ih (List.cons_ne_nil _ _) later, parameterLine_before before, ← String.append_assoc]
      rfl

theorem parameterLines_eq (parameters : List ParameterDefinition) :
    parameterLines parameters = enclosed "" ",\n" "\n" (parameters.map shown) := by
  cases parameters with
  | nil => rfl
  | cons first rest =>
    have lines := join_lines (List.cons_ne_nil first rest) (Nat.add_comm 0 _)
    rw [List.map_cons, enclosed_of_ne_nil (List.cons_ne_nil _ _), String.empty_append]
    exact lines

theorem definitionText_eq (procedure : String) (parameters : List ParameterDefinition) :
    definitionText procedure parameters =
      procedure ++ enclosed "(\n" ",\n" "\n)" ((inputs parameters).map shown) ++ "\n" ++
        enclosed "returns:\n" ",\n" "\n" ((outputs parameters).map shown) := by
  have written : ("" : String) ++ "\n" ≠ "" := by decide
  have closed : ("\n" : String) ++ ")" = "\n)" := by decide
  have given := wrap_enclosed written ",\n" "(\n" ")" ((inputs parameters).map shown)
  have returned := wrap_enclosed written ",\n" "returns:\n" "" ((outputs parameters).map shown)
  rw [String.append_empty, closed, ← String.append_assoc] at given
  rw [String.append_empty, String.append_empty, String.append_empty] at returned
  simp only [definitionText, parameterLines_eq, given, returned]

/-! ## Declarations -/

/-- A parameter as the script declares it. The character set follows the type if there is
one. -/
def declaration (parameter : ParameterDefinition) : String :=
  parameter.quotedName ++ " " ++ parameter.type.sql ++
    parameter.charset.elim "" (" CHARACTER SET " ++ ·)

theorem declarationSql_eq (parameter : ParameterDefinition) :
    declarationSql parameter = declaration parameter := by
  unfold declarationSql declaration
  cases parameter.charset <;> rfl

/-- A list is written from its front to its end, and not closed before that. -/
theorem addDeclaration_enclosed {heading : String} (h : heading ≠ "") (texts : List String)
    (text : String) :
    addDeclaration heading (enclosed heading ",\n    " "" texts) text =
      enclosed heading ",\n    " "" (texts ++ [text]) := by
  have later : texts ++ [text] ≠ [] := List.append_ne_nil_of_right_ne_nil _ (List.cons_ne_nil _ _)
  rw [addDeclaration, isEmpty_enclosed (by rwa [String.append_empty]), enclosed_of_ne_nil later,
    String.append_empty]
  cases texts with
  | nil => exact congrArg (· ++ text) String.empty_append
  | cons first rest =>
    rw [joinWith_append (List.cons_ne_nil _ _) (List.cons_ne_nil _ _),
      enclosed_of_ne_nil (List.cons_ne_nil _ _), String.append_empty]
    simp only [String.append_assoc]
    rfl

theorem closeList_enclosed {heading : String} (h : heading ≠ "") (separator : String)
    (texts : List String) :
    closeList (enclosed heading separator "" texts) = enclosed heading separator " )" texts := by
  have closed := wrap_enclosed (by rwa [String.append_empty]) separator "" " )" texts
  rwa [String.empty_append, String.empty_append, String.empty_append] at closed

/-- The lists after some parameters have been declared. -/
def declared (parameters : List ParameterDefinition) : Declarations where
  given := enclosed " (\n    " ",\n    " "" ((inputs parameters).map declaration)
  returned := enclosed "\nRETURNS (\n    " ",\n    " "" ((outputs parameters).map declaration)

theorem declare_declared (done : List ParameterDefinition) (parameter : ParameterDefinition) :
    declare (declared done) parameter = declared (done ++ [parameter]) := by
  unfold declare declared inputs outputs
  simp only [List.filter_append, List.map_append, isOutput_eq, declarationSql_eq]
  cases side : parameter.isInput with
  | true =>
    rw [if_pos rfl, addDeclaration_enclosed (by decide)]
    simp [side]
  | false =>
    rw [if_neg Bool.false_ne_true, addDeclaration_enclosed (by decide)]
    simp [side]

/-- One pass declares every parameter in its list, by induction on those that are
left. -/
theorem foldl_declare (rest : List ParameterDefinition) (done : List ParameterDefinition) :
    rest.foldl declare (declared done) = declared (done ++ rest) := by
  induction rest generalizing done with
  | nil => rw [List.foldl_nil, List.append_nil]
  | cons parameter rest ih =>
    rw [List.foldl_cons, declare_declared, ih, List.append_assoc, List.singleton_append]

theorem alterSql_eq (procedure : String) (parameters : List ParameterDefinition)
    (source : String) :
    alterSql procedure parameters source =
      "SET TERM ^ ;\nALTER PROCEDURE " ++ procedure ++
        enclosed " (\n    " ",\n    " " )" ((inputs parameters).map declaration) ++
        enclosed "\nRETURNS (\n    " ",\n    " " )" ((outputs parameters).map declaration) ++
        "\nAS\n" ++ source ++ "^\nSET TERM ; ^" := by
  have start : ({} : Declarations) = declared [] := rfl
  have lists : parameters.foldl declare {} = declared parameters := by
    rw [start, foldl_declare, List.nil_append]
  have given : closeList (declared parameters).given =
      enclosed " (\n    " ",\n    " " )" ((inputs parameters).map declaration) :=
    closeList_enclosed (by decide) _ _
  have returned : closeList (declared parameters).returned =
      enclosed "\nRETURNS (\n    " ",\n    " " )" ((outputs parameters).map declaration) :=
    closeList_enclosed (by decide) _ _
  unfold alterSql
  simp only [lists, given, returned]

/-! ## Statements of a loaded procedure -/

/-- The statements of a procedure that is loaded list the input parameters and the
output parameters as these two lists say. They read nothing. -/
structure Lists (procedure : Procedure) (given returned : List ParameterDefinition)
    (source : String) (w : World) : Prop where
  execute : procedure.executeStatement w =
    (("EXECUTE PROCEDURE " ++ procedure.quotedName ++
      enclosed "(" ", " ")" (given.map (·.quotedName)), procedure), w)
  select : procedure.selectStatement true w =
    (("SELECT " ++ Text.joinWith ", " (returned.map (·.quotedName)) ++ "\nFROM " ++
      procedure.quotedName ++ enclosed "(" ", " ")" (given.map (·.quotedName)), procedure), w)
  selectAll : procedure.selectStatement false w =
    (("SELECT * \nFROM " ++ procedure.quotedName ++
      enclosed "(" ", " ")" (given.map (·.quotedName)), procedure), w)
  definition : procedure.definition w =
    ((procedure.quotedName ++ enclosed "(\n" ",\n" "\n)" (given.map shown) ++ "\n" ++
      enclosed "returns:\n" ",\n" "\n" (returned.map shown), procedure), w)
  alter : procedure.alterStatement w =
    ((.ok ("SET TERM ^ ;\nALTER PROCEDURE " ++ procedure.quotedName ++
      enclosed " (\n    " ",\n    " " )" (given.map declaration) ++
      enclosed "\nRETURNS (\n    " ",\n    " " )" (returned.map declaration) ++
      "\nAS\n" ++ source ++ "^\nSET TERM ; ^"), procedure), w)

variable {procedure : Procedure} {loaded : List Parameter} {source : String}

theorem loadParameters_loaded (h : procedure.parameters = .loaded loaded) (w : World) :
    procedure.loadParameters w = ((.ok (), procedure), w) :=
  loadParameters_of_isLoaded (by rw [h]; rfl) w

theorem loadSource_loaded (h : procedure.source = .loaded source) (w : World) :
    procedure.loadSource w = ((.ok (), procedure), w) := by
  have there : procedure.source.isLoaded = true := by rw [h]; rfl
  unfold loadSource
  rw [Engine.run_bind, Item.load_loaded there]
  rfl

theorem loadedParameters_loaded (h : procedure.parameters = .loaded loaded) :
    procedure.loadedParameters = loaded.map (·.definition) := by
  rw [loadedParameters, h]
  rfl

theorem executeStatement_loaded (h : procedure.parameters = .loaded loaded) (w : World) :
    procedure.executeStatement w =
      ((executeSql procedure.quotedName (loaded.map (·.definition)), procedure), w) := by
  unfold executeStatement readParameters
  rw [Engine.run_bind, Engine.run_bind, loadParameters_loaded h, ← loadedParameters_loaded h]
  rfl

theorem selectStatement_loaded (h : procedure.parameters = .loaded loaded) (withColumns : Bool)
    (w : World) :
    procedure.selectStatement withColumns w =
      ((selectSql procedure.quotedName (loaded.map (·.definition)) withColumns, procedure), w) := by
  unfold selectStatement readParameters
  rw [Engine.run_bind, Engine.run_bind, loadParameters_loaded h, ← loadedParameters_loaded h]
  rfl

theorem definition_loaded (h : procedure.parameters = .loaded loaded) (w : World) :
    procedure.definition w =
      ((definitionText procedure.quotedName (loaded.map (·.definition)), procedure), w) := by
  have there : procedure.parameters.isLoaded = true := by rw [h]; rfl
  unfold definition checkParameters
  rw [Engine.run_bind, there, ← loadedParameters_loaded h]
  rfl

theorem alterStatement_loaded (hp : procedure.parameters = .loaded loaded)
    (hs : procedure.source = .loaded source) (w : World) :
    procedure.alterStatement w =
      ((.ok (alterSql procedure.quotedName (loaded.map (·.definition)) source), procedure), w) := by
  have text : procedure.source.text = source := by rw [hs]; rfl
  unfold alterStatement
  rw [Engine.run_bind, loadParameters_loaded hp]
  dsimp only
  rw [Engine.run_bind, loadSource_loaded hs]
  dsimp only
  rw [text, loadedParameters_loaded hp]
  rfl

/-- A parameter with a type, and maybe a character set. -/
def parameter (name : String) (direction : ParameterDirection) (type : FieldType)
    (charset : Option String) : Parameter where
  item := .free default .parameter ⟨name⟩
  definition := { name := ⟨name⟩, direction, position := 0, domain := "D", type, charset }

/-- A procedure that is loaded, whose input and output parameters take turns. One of them is
a text of a character set. -/
def mixed : Procedure where
  item := .free default .procedure ⟨"Rates"⟩
  parameters := .loaded [parameter "A" .input { code := 8 } none,
    parameter "X" .output { code := 8 } none,
    parameter "b" .input { code := 37, length := 80, charLength := some 20 } (some "UTF8"),
    parameter "total" .output { code := 16, subType := 1, scale := -2 } none]
  source := .loaded "BEGIN END"

end Procedure

end MetaCatalog
