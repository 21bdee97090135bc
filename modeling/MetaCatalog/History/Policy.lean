import MetaCatalog.Json.Reader
import MetaCatalog.Settings

/-!
# The policy for statement histories

Which history the statements of a database go to, how long a statement may be
and how many are kept. The policy is stored under five keys of the settings.
-/

namespace MetaCatalog

/-- Which databases share a history. -/
inductive Granularity where
  | shared
  | perDatabaseName
  | perDatabase
  deriving DecidableEq, Inhabited

namespace Granularity

/-- The granularity of a stored code; an unknown one is per database. -/
def ofCode (code : Int64) : Granularity :=
  if code = 0 then shared else if code = 1 then perDatabaseName else perDatabase

/-- The stored code. -/
def code : Granularity → Int64
  | shared => 0
  | perDatabaseName => 1
  | perDatabase => 2

/-- The granularity in a document. -/
def label : Granularity → String
  | shared => "Global"
  | perDatabaseName => "PerDatabaseName"
  | perDatabase => "PerDatabase"

/-- The granularity that a JSON value stands for. -/
def ofJson? (value : Json) : Option Granularity :=
  value.label?.bind fun text => [shared, perDatabaseName, perDatabase].find? (·.label == text)

end Granularity

/-- Which history statements go to, how long they may be and how many are
kept. -/
structure HistoryPolicy where
  granularity : Granularity := .perDatabase
  limitsItems : Bool := true
  /-- The length that a statement has to stay below, in units of 1024
  characters. -/
  itemSize : Int64 := 10
  limitsHistory : Bool := false
  /-- The number of statements kept; there is no limit if it is negative. -/
  historySize : Int64 := 50
  deriving DecidableEq, Inhabited

namespace HistoryPolicy

/-- The key of the granularity. -/
def granularityKey : String := "statementHistoryGranularity"

/-- The key of the switch for the limit on statements. -/
def limitsItemsKey : String := "limitHistoryItemSize"

/-- The key of the limit on statements. -/
def itemSizeKey : String := "statementHistoryItemSize"

/-- The key of the switch for the limit on histories. -/
def limitsHistoryKey : String := "limitHistorySize"

/-- The key of the limit on histories. -/
def historySizeKey : String := "statementHistorySize"

/-- The policy in the settings; what is missing there has its usual value. -/
def ofSettings (settings : Settings) : HistoryPolicy :=
  let usual : HistoryPolicy := {}
  { granularity := .ofCode (settings.getInt granularityKey usual.granularity.code)
    limitsItems := settings.getBool limitsItemsKey usual.limitsItems
    itemSize := settings.getInt itemSizeKey usual.itemSize
    limitsHistory := settings.getBool limitsHistoryKey usual.limitsHistory
    historySize := settings.getInt historySizeKey usual.historySize }

/-- The settings with this policy. -/
def writeTo (policy : HistoryPolicy) (settings : Settings) : Settings :=
  let settings := settings.setInt granularityKey policy.granularity.code
  let settings := settings.setBool limitsItemsKey policy.limitsItems
  let settings := settings.setInt itemSizeKey policy.itemSize
  let settings := settings.setBool limitsHistoryKey policy.limitsHistory
  settings.setInt historySizeKey policy.historySize

/-- The largest length that can be counted. -/
def lengthMax : Nat := UInt64.size - 1

/-- Whether a statement of so many characters is kept. -/
def accepts (policy : HistoryPolicy) (length : Nat) : Bool :=
  !policy.limitsItems || length < min (policy.itemSize.toInt.toNat * 1024) lengthMax

/-- The number of statements kept, if there is a limit. -/
def maxEntries? (policy : HistoryPolicy) : Option Nat :=
  if policy.limitsHistory ∧ 0 ≤ policy.historySize then some policy.historySize.toInt.toNat
  else none

/-! ## Documents -/

/-- The document of a policy. -/
def report (policy : HistoryPolicy) : Json :=
  .fields [("granularity", .str policy.granularity.label),
    ("limit_item_size", .bool policy.limitsItems), ("item_size_kib", .ofInt64 policy.itemSize),
    ("limit_history_size", .bool policy.limitsHistory),
    ("history_size", .ofInt64 policy.historySize)]

/-- The fields of a policy in a document. -/
def fields : List String :=
  ["granularity", "limit_item_size", "item_size_kib", "limit_history_size", "history_size"]

/-- What a value that may be missing stands for. -/
def orUsual (read : Json → Option α) (usual : α) : Option Json → Option α
  | some value => read value
  | none => some usual

/-- The policy whose fields have the given values; one that is missing has its
usual value. -/
def ofValues? (granularity limitsItems itemSize limitsHistory historySize : Option Json) :
    Option HistoryPolicy := do
  let usual : HistoryPolicy := {}
  pure {
    granularity := ← orUsual Granularity.ofJson? usual.granularity granularity
    limitsItems := ← orUsual Json.bool? usual.limitsItems limitsItems
    itemSize := ← orUsual Json.int64? usual.itemSize itemSize
    limitsHistory := ← orUsual Json.bool? usual.limitsHistory limitsHistory
    historySize := ← orUsual Json.int64? usual.historySize historySize }

/-- Whether the keys of an object are texts, and no field is among them
twice. -/
def wellKeyed (members : List (Option String × Json)) : Bool :=
  members.all (·.1.isSome) &&
    fields.all fun name => members.countP (·.1 == some name) ≤ 1

/-- The policy that a JSON value stands for: an object with its fields by
name, or an array of the first of them in order. -/
def ofJson? : Json → Option HistoryPolicy
  | .object members =>
    let value := Json.object members
    if wellKeyed members then
      ofValues? (value.field? "granularity") (value.field? "limit_item_size")
        (value.field? "item_size_kib") (value.field? "limit_history_size")
        (value.field? "history_size")
    else none
  | .array items =>
    if items.length ≤ fields.length then
      ofValues? items[0]? items[1]? items[2]? items[3]? items[4]?
    else none
  | _ => none

end HistoryPolicy

end MetaCatalog
