import MetaCatalog.History.Policy
import MetaCatalog.Text.Diagnostic

/-!
# Statement histories

A history holds the statements used last, oldest first. In the settings its
entries are stored under consecutive numbers, and `load` reads them up to the
first number that is missing. `save` leaves out empty entries and removes what
a longer history has left behind.

The policy is read from the settings at each change, so that a change of the
policy takes effect at once.
-/

namespace MetaCatalog

/-- The statements used last, oldest first, and the name they are stored
under. -/
structure History where
  storageName : String
  entries : List String := []
  deriving DecidableEq, Inhabited

namespace History

/-- The opening of the keys of all entries. -/
def keyOpening (storageName : String) : String := "HISTORY_" ++ storageName ++ "_ITEM_"

/-- The key of an entry. -/
def key (storageName : String) (index : Nat) : String :=
  keyOpening storageName ++ Decimal.ofNat index

/-- The entries stored from an index on, up to the first that is missing, and
at most `count` of them. -/
def storedFrom (settings : Settings) (storageName : String) (index : Nat) :
    (count : Nat) → List String
  | 0 => []
  | count + 1 =>
    match settings.get? (key storageName index) with
    | some text => text :: storedFrom settings storageName (index + 1) count
    | none => []

/-- Loads the history stored under a name. It has no more entries than there
are settings. -/
def load (settings : Settings) (storageName : String) : History :=
  ⟨storageName, storedFrom settings storageName 0 settings.size⟩

/-- The entry at a position, empty if there is none. -/
def get (history : History) (position : Nat) : String := history.entries.getD position ""

/-- The history without the oldest entries that are too many. -/
def limit (policy : HistoryPolicy) (history : History) : History :=
  match policy.maxEntries? with
  | some max => { history with entries := history.entries.drop (history.entries.length - max) }
  | none => history

/-- Replaces the entry at a position, or adds one if there is none. -/
def set (history : History) (settings : Settings) (position : Nat) (text : String) : History :=
  let entries :=
    if position < history.entries.length then history.entries.set position text
    else history.entries ++ [text]
  limit (.ofSettings settings) { history with entries }

/-- The position of the newest entry. -/
def newest? (history : History) : Option Nat :=
  if history.entries.isEmpty then none else some (history.entries.length - 1)

/-- Adds a statement, unless it is too long or repeats the newest entry. -/
def add (history : History) (settings : Settings) (text : String) : History :=
  let policy := HistoryPolicy.ofSettings settings
  if policy.accepts text.length then
    let entries :=
      if history.entries.getLast? = some text then history.entries
      else history.entries ++ [text]
    limit policy { history with entries }
  else history

/-- Stores texts under consecutive numbers. -/
def writeFrom (storageName : String) (index : Nat) : List String → Settings → Settings
  | [], settings => settings
  | text :: rest, settings =>
    writeFrom storageName (index + 1) rest (settings.set (key storageName index) text)

/-- Whether a key is an entry that a longer history has left behind. -/
def isStale (storageName : String) (written : Nat) (key : String) : Bool :=
  let suffix := String.ofList (key.toList.drop (keyOpening storageName).length)
  (Decimal.readIndex? suffix).any (written ≤ ·)

/-- The settings without the entries from a number on. -/
def removeStale (storageName : String) (written : Nat) (settings : Settings) : Settings :=
  ((settings.keysFrom (keyOpening storageName)).filter (isStale storageName written)).foldl
    Settings.remove settings

/-- Saves the history. -/
def save (history : History) (settings : Settings) : Settings :=
  let texts := history.entries.filter (!·.isEmpty)
  removeStale history.storageName texts.length (writeFrom history.storageName 0 texts settings)

/-- The history in a diagnostic. -/
def diagnostic (history : History) : String :=
  "StatementHistory \x7b storage_name: " ++ Text.quoted history.storageName ++
    ", items: [" ++ Text.joinWith ", " (history.entries.map Text.quoted) ++ "] \x7d"

end History

end MetaCatalog
