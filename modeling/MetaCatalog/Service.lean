import MetaCatalog.Error

/-!
# Administrative sessions

A server's user accounts are read through an administrative session, which is
opened with a login. A `Connector` decides which logins are accepted; its
answer may depend on the attempts before. An `Indicator` is shown how an
operation advances, and says when it is polled whether the user has given up.

Both see only what is done with them, which is kept as a list of
`ServiceEvent`s.
-/

namespace MetaCatalog

/-- An account of a server. -/
structure Account where
  username : String := ""
  firstName : String := ""
  middleName : String := ""
  lastName : String := ""
  userId : Int64 := 0
  groupId : Int64 := 0
  deriving DecidableEq, Inhabited

namespace Account

/-- Accounts in ascending order of their user names. Accounts of one name keep
their order. -/
def sort (accounts : List Account) : List Account :=
  accounts.mergeSort fun a b => decide (a.username ≤ b.username)

end Account

/-- An open session: the accounts it reads, unless that fails. -/
structure Session where
  accounts : Except Error (List Account)

/-- A login tried at an endpoint. -/
structure Login where
  endpoint : String
  username : String
  password : String
  deriving DecidableEq, Inhabited

/-- What comes of a login after the given attempts. -/
abbrev Connector := List Login → Login → Except Error Session

/-- A connector that accepts the listed user names and passwords, whenever
they are tried. -/
def Connector.accepting (logins : List (String × String)) (session : Session) : Connector :=
  fun _ login =>
    if logins.contains (login.username, login.password) then .ok session
    else .error (.connection ("login of " ++ login.username ++ " rejected"))

/-- A call to an indicator. -/
inductive ProgressCall where
  /-- An operation begins that takes at most so many steps. -/
  | start (message : String) (steps : Nat)
  | message (text : String)
  | step
  /-- Has the user given up? -/
  | poll
  deriving DecidableEq

/-- Whether the user has given up, given all calls up to the poll. -/
abbrev Indicator := List ProgressCall → Bool

/-- An indicator that gives up once so many steps were made, or when it is
polled more than so many times. -/
def Indicator.limited (steps polls : Option Nat) : Indicator :=
  fun calls => steps.any (· ≤ calls.count .step) || polls.any (· < calls.count .poll)

/-- What happens while a session is opened. -/
inductive ServiceEvent where
  | progress (call : ProgressCall)
  /-- The indicator was polled and answered. -/
  | polled (cancelled : Bool)
  | attempt (login : Login)
  deriving DecidableEq

namespace ServiceEvent

/-- The login of an attempt. -/
def login? : ServiceEvent → Option Login
  | attempt login => some login
  | _ => none

/-- The call that an indicator has seen. -/
def call? : ServiceEvent → Option ProgressCall
  | progress call => some call
  | polled _ => some .poll
  | attempt _ => none

/-- The logins attempted, in order. -/
def attempts (events : List ServiceEvent) : List Login := events.filterMap login?

/-- The calls to the indicator, in order. -/
def calls (events : List ServiceEvent) : List ProgressCall := events.filterMap call?

end ServiceEvent

end MetaCatalog
