import MetaCatalog.Row
import MetaCatalog.Text.Search

/-!
# A scripted catalog

A connection to a system catalog that answers from a script: a reply belongs
to the queries that contain a fragment, and, if it names a value, only to
those whose first parameter equals it. Such a reply wins over one that takes
any parameter. Refusals to prepare or to run a query go by fragments as well.

The catalog counts what happens to its transactions, counts the queries it has
prepared, and keeps a journal of the queries it was asked to run.
-/

namespace MetaCatalog

/-- The parameters bound to a query, in ascending order of their positions. -/
structure Parameters where
  entries : List (Nat × Value) := []
  deriving Inhabited

namespace Parameters

/-- The entries with a value put at a position. -/
def insert (position : Nat) (value : Value) : List (Nat × Value) → List (Nat × Value)
  | [] => [(position, value)]
  | (p, v) :: rest =>
    if position < p then (position, value) :: (p, v) :: rest
    else if position = p then (position, value) :: rest
    else (p, v) :: insert position value rest

/-- Binds a value to a position, which is counted from one. -/
def bind (parameters : Parameters) (position : Nat) (value : Value) : Except Error Parameters :=
  if position = 0 then .error (.query "parameter positions start at 1")
  else .ok ⟨insert position value parameters.entries⟩

/-- The bound values in the order of their positions. -/
def values (parameters : Parameters) : List Value := parameters.entries.map (·.2)

/-- The value at position one. -/
def first? (parameters : Parameters) : Option Value := parameters.entries.lookup 1

end Parameters

/-- The rows that answer the queries containing `fragment`; with `first` only
those whose first parameter equals it. -/
structure Reply where
  fragment : String
  first : Option Value
  rows : List Row

/-- The reason for refusing every query that contains `fragment`. -/
structure Refusal where
  fragment : String
  reason : String

/-- A query that was run, with its parameters in the order of their
positions. -/
structure Execution where
  sql : String
  parameters : List Value

/-- A catalog connection with its script and its journal. -/
structure Catalog where
  database : String
  user : String := "SYSDBA"
  password : String := "masterkey"
  connected : Bool := true
  inTransaction : Bool := false
  started : Nat := 0
  commits : Nat := 0
  rollbacks : Nat := 0
  prepared : Nat := 0
  replies : List Reply := []
  prepareRefusals : List Refusal := []
  executeRefusals : List Refusal := []
  journal : List Execution := []
  deriving Inhabited

namespace Catalog

/-- Adds a reply to the script. -/
def addReply (catalog : Catalog) (reply : Reply) : Catalog :=
  { catalog with replies := catalog.replies ++ [reply] }

/-- Adds a refusal to prepare queries. -/
def refusePreparing (catalog : Catalog) (refusal : Refusal) : Catalog :=
  { catalog with prepareRefusals := catalog.prepareRefusals ++ [refusal] }

/-- Adds a refusal to run queries. -/
def refuseExecuting (catalog : Catalog) (refusal : Refusal) : Catalog :=
  { catalog with executeRefusals := catalog.executeRefusals ++ [refusal] }

/-- The reason of the first refusal that concerns a query. -/
def refusal? (refusals : List Refusal) (sql : String) : Option String :=
  (refusals.find? fun r => Text.includes sql r.fragment).map (·.reason)

/-- Starts a transaction. -/
def startTransaction (catalog : Catalog) : Except Error Catalog :=
  if catalog.inTransaction then .error (.connection "transaction already active")
  else .ok { catalog with inTransaction := true, started := catalog.started + 1 }

/-- Commits the active transaction. -/
def commit (catalog : Catalog) : Except Error Catalog :=
  if catalog.inTransaction then
    .ok { catalog with inTransaction := false, commits := catalog.commits + 1 }
  else .error (.connection "no active transaction")

/-- Ends the transaction, if there is one, without committing it. -/
def rollback (catalog : Catalog) : Catalog :=
  { catalog with inTransaction := false, rollbacks := catalog.rollbacks + 1 }

/-- Prepares a query. -/
def prepare (catalog : Catalog) (sql : String) : Except Error Catalog :=
  if catalog.connected then
    match refusal? catalog.prepareRefusals sql with
    | some reason => .error (.prepare reason)
    | none => .ok { catalog with prepared := catalog.prepared + 1 }
  else .error (.connection "not connected")

/-- Whether a reply asks for a first parameter and gets it. -/
def Reply.wants (reply : Reply) (first : Option Value) : Bool :=
  match reply.first, first with
  | some wanted, some bound => wanted.equals bound
  | _, _ => false

/-- The reply to a query with the given first parameter. -/
def reply? (catalog : Catalog) (sql : String) (first : Option Value) : Option Reply :=
  let candidates := catalog.replies.filter fun r => Text.includes sql r.fragment
  (candidates.find? (Reply.wants · first)).or (candidates.find? (·.first.isNone))

/-- Runs a query. A query that is run inside a transaction enters the journal
even if it is refused then. -/
def execute (catalog : Catalog) (sql : String) (parameters : Parameters) :
    Except Error (List Row) × Catalog :=
  if catalog.inTransaction then
    let catalog :=
      { catalog with journal := catalog.journal ++ [⟨sql, parameters.values⟩] }
    match refusal? catalog.executeRefusals sql with
    | some reason => (.error (.query reason), catalog)
    | none => (.ok ((catalog.reply? sql parameters.first?).elim [] (·.rows)), catalog)
  else (.error (.connection "statement executed outside a transaction"), catalog)

/-- The executions whose query contains a fragment. -/
def journalOf (catalog : Catalog) (fragment : String) : List Execution :=
  catalog.journal.filter fun e => Text.includes e.sql fragment

end Catalog

end MetaCatalog
