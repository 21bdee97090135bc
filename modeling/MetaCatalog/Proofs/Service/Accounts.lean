import Mathlib.Data.String.Basic
import MetaCatalog.Proofs.Framework.Calls

/-!
# The accounts that a server remembers

A server forgets its accounts before it reads them again. So after any run of calls it
has the accounts that its last reading brought, in the order of their names
(`Account.Ordered`), and none if that reading failed (`Server.Remembers`).
`Server.after_remembers` says so, and when these are the accounts of the last reading
that succeeded.
-/

namespace MetaCatalog

/-! ## The order of accounts -/

namespace Account

/-- The second list has the accounts of the first in ascending order of their names, and
those of one name in the order of the first. -/
structure Ordered (accounts ordered : List Account) : Prop where
  perm : ordered.Perm accounts
  ascending : ordered.Pairwise fun a b => a.username ≤ b.username
  stable : ∀ name, ordered.filter (·.username == name) = accounts.filter (·.username == name)

theorem ordered_sort (accounts : List Account) : Ordered accounts (sort accounts) := by
  have trans (a b c : Account) : decide (a.username ≤ b.username) = true →
      decide (b.username ≤ c.username) = true → decide (a.username ≤ c.username) = true := by
    simp only [decide_eq_true_eq]
    exact le_trans
  have total (a b : Account) :
      (decide (a.username ≤ b.username) || decide (b.username ≤ a.username)) = true := by
    simp only [Bool.or_eq_true, decide_eq_true_eq]
    exact le_total _ _
  have perm : (sort accounts).Perm accounts := List.mergeSort_perm ..
  refine ⟨perm, ?_, fun name => ?_⟩
  · exact (List.pairwise_mergeSort trans total accounts).imp of_decide_eq_true
  · -- Accounts of one name are in order before the sort, so it leaves them as they are.
    have named {a : Account} (ha : a ∈ accounts.filter (·.username == name)) :
        a.username = name := eq_of_beq (List.mem_filter.mp ha).2
    have same : (accounts.filter (·.username == name)).Pairwise fun a b =>
        decide (a.username ≤ b.username) = true :=
      List.pairwise_of_forall_mem_list fun a ha b hb =>
        decide_eq_true (le_of_eq ((named ha).trans (named hb).symm))
    have kept := (List.sublist_mergeSort trans total same List.filter_sublist).filter
      (·.username == name)
    rw [List.filter_filter] at kept
    simp only [Bool.and_self] at kept
    exact (kept.eq_of_length (perm.filter _).length_eq.symm).symm

end Account

namespace Server

/-! ## What happens to a server -/

/-- A call on a server, or on its databases. -/
inductive Turn where
  | call (call : ServerCall)
  | addDatabase (database : Database)
  | removeDatabase (id : Uuid)
  | onDatabase (id : Uuid) (operation : Database → Engine (Unit × Database))

/-- The server after a turn in some world. -/
def Turn.run (server : Server) (w : World) : Turn → Server
  | call c => (c.run server w).1.2
  | addDatabase database => (server.addDatabase database w).1
  | removeDatabase id => (server.removeDatabase id w).1.2
  | onDatabase id operation => (server.onDatabase id operation w).1.2

/-- The server after turns in worlds of any kind. -/
def after (server : Server) (turns : List (Turn × World)) : Server :=
  turns.foldl (fun server (turn, w) => turn.run server w) server

/-- The list that the session of a reading brings, unless there is no session or its
query fails. -/
def listing (server : Server) (w : World) (connector : Connector)
    (indicator : Option Indicator) : Except Error (List Account) :=
  (server.openSession w connector indicator true).outcome.bind (·.accounts)

/-- The listing of a turn, if that is a reading. -/
def Turn.listing? (server : Server) (w : World) : Turn → Option (Except Error (List Account))
  | call (.readAccounts connector indicator) => some (server.listing w connector indicator)
  | _ => none

/-- The listings of all readings, in their order. -/
def listings (server : Server) : List (Turn × World) → List (Except Error (List Account))
  | [] => []
  | (turn, w) :: rest =>
    (turn.listing? server w).toList ++ listings (turn.run server w) rest

/-- The accounts after a reading, whatever they were before. -/
def heard (listing : Except Error (List Account)) : List Account :=
  match listing with
  | .ok accounts => Account.sort accounts
  | .error _ => []

/-- A reading answers with its listing in order, and leaves the same accounts. -/
theorem readAccounts_listing (server : Server) (w : World) (connector : Connector)
    (indicator : Option Indicator) :
    (server.readAccounts w connector indicator).outcome =
        (server.listing w connector indicator).map Account.sort ∧
      (server.readAccounts w connector indicator).server.accounts =
        heard (server.listing w connector indicator) := by
  -- The answer of the session does not depend on the accounts.
  have listing : (openSession { server with accounts := [] } w connector indicator
      true).outcome.bind (·.accounts) = server.listing w connector indicator := rfl
  unfold readAccounts
  dsimp only
  rw [listing]
  cases server.listing w connector indicator <;> exact ⟨rfl, rfl⟩

/-- A reading leaves what it brought, and any other turn leaves the accounts alone. -/
theorem Turn.run_accounts (turn : Turn) (server : Server) (w : World) :
    (turn.run server w).accounts = ((turn.listing? server w).map heard).getD server.accounts := by
  cases turn with
  | addDatabase database => rfl
  | onDatabase id operation => rfl
  | removeDatabase id =>
    show (server.removeDatabase id w).1.2.accounts = server.accounts
    unfold Server.removeDatabase
    cases server.databases.find? (·.id == id) <;> rfl
  | call c =>
    cases c with
    | readAccounts connector indicator =>
      exact (server.readAccounts_listing w connector indicator).2
    | _ => rfl

/-- After any turns there is what the last reading left, by induction on them. -/
theorem after_accounts (server : Server) (turns : List (Turn × World)) :
    (server.after turns).accounts =
      ((server.listings turns).getLast?.map heard).getD server.accounts := by
  induction turns generalizing server with
  | nil => rfl
  | cons first rest ih =>
    obtain ⟨turn, w⟩ := first
    show ((turn.run server w).after rest).accounts = _
    rw [ih, turn.run_accounts, listings, List.getLast?_append]
    cases (listings (turn.run server w) rest).getLast? with
    | some listing => rfl
    | none => cases turn.listing? server w <;> rfl

/-! ## The last reading, and the last one that succeeded -/

/-- What a server has after readings with these listings, which it began with the accounts
`before`. -/
structure Remembers (before : List Account) (listings : List (Except Error (List Account)))
    (accounts : List Account) : Prop where
  unread : listings = [] → accounts = before
  failed : ∀ e, listings.getLast? = some (.error e) → accounts = []
  read : ∀ listed, listings.getLast? = some (.ok listed) → Account.Ordered listed accounts

/-- The accounts of the last reading that succeeded; those from before if none did. -/
def lastRead (before : List Account) (listings : List (Except Error (List Account))) :
    List Account :=
  ((listings.filterMap Except.toOption).getLast?.map Account.sort).getD before

variable {before : List Account} {earlier listings : List (Except Error (List Account))}

theorem lastRead_concat_ok (listed : List Account) :
    lastRead before (earlier ++ [.ok listed]) = Account.sort listed := by
  rw [lastRead, List.filterMap_append, List.getLast?_append]
  rfl

theorem remembers_heard :
    Remembers before listings ((listings.getLast?.map heard).getD before) := by
  refine ⟨?_, fun e last => ?_, fun listed last => ?_⟩
  · rintro rfl
    rfl
  · rw [last]
    rfl
  · rw [last]
    exact Account.ordered_sort listed

/-- Only a reading that failed last makes a difference. -/
theorem heard_eq_lastRead_iff :
    (listings.getLast?.map heard).getD before = lastRead before listings ↔
      (∀ e, listings.getLast? ≠ some (.error e)) ∨ lastRead before listings = [] := by
  obtain rfl | ⟨earlier, last, rfl⟩ := listings.eq_nil_or_concat
  · exact iff_of_true rfl (.inl nofun)
  · rw [List.concat_eq_append, List.getLast?_concat]
    cases last with
    | ok listed =>
      exact iff_of_true (lastRead_concat_ok listed).symm (.inl nofun)
    | error e =>
      exact eq_comm.trans ⟨.inr, fun either => either.resolve_left fun never => never e rfl⟩

/-- The last reading decides. If it failed, the accounts that were read before are lost,
so there are those of the last reading that succeeded only if these are none. -/
theorem after_remembers (server : Server) (turns : List (Turn × World)) :
    let listings := server.listings turns
    let accounts := (server.after turns).accounts
    Remembers server.accounts listings accounts ∧
      (accounts = lastRead server.accounts listings ↔
        (∀ e, listings.getLast? ≠ some (.error e)) ∨ lastRead server.accounts listings = []) := by
  intro listings accounts
  have left : accounts = (listings.getLast?.map heard).getD server.accounts :=
    after_accounts server turns
  rw [left]
  exact ⟨remembers_heard, heard_eq_lastRead_iff⟩

/-- A server is told its administrator's password, and its accounts are read twice. There
is one, but the second time the login is rejected. -/
def twoReadings : List (Turn × World) :=
  let session : Session := ⟨.ok [{ username := "BOB" }]⟩
  [(.call (.rememberAdministrator "masterkey"), {}),
    (.call (.readAccounts (.accepting [(administrator, "masterkey")] session) none), {}),
    (.call (.readAccounts (.accepting [] session) none), {})]

/-- It is not so that a server keeps what it has read until it reads again with success. -/
theorem accounts_forgotten : ¬ ∀ (server : Server) (turns : List (Turn × World)),
    server.accounts = [] →
      (server.after turns).accounts = lastRead [] (server.listings turns) := by
  intro kept
  have same := kept default twoReadings rfl
  have lost : (Server.after default twoReadings).accounts = [] := by decide +kernel
  have read : lastRead [] (Server.listings default twoReadings) ≠ [] := by decide +kernel
  exact read (same.symm.trans lost)

end Server

end MetaCatalog
