import MetaCatalog.Service
import MetaCatalog.Text.Upper

/-!
# Finding a login

`Resolver.resolve` opens an administrative session with a login that is known
already. It tries the remembered password of the administrator, then the
remembered login, then the logins of connected databases, then the stored
logins of the others. A remembered login that fails is forgotten, and one of a
database that works is remembered. The user may give up between attempts.

If the session has to be the administrator's, only logins of that user are
tried.
-/

namespace MetaCatalog

/-- The name of a server's administrator. -/
def administrator : String := "SYSDBA"

/-- Whether a user name is the administrator's, in whatever case. -/
def isAdministrator (username : String) : Bool := Text.upper username == administrator

/-- Logins that have worked before. An empty user or administrator password
means there is none. -/
structure KnownLogins where
  username : String := ""
  password : String := ""
  administratorPassword : String := ""
  deriving DecidableEq, Inhabited

/-- A login of a database, which may be tried. -/
structure Candidate where
  username : String
  password : String
  /-- The name of the database. -/
  source : String
  deriving DecidableEq, Inhabited

/-- What a resolution works with. -/
structure Resolver where
  endpoint : String
  connector : Connector
  indicator : Option Indicator
  /-- Whether the session has to be the administrator's. -/
  asAdministrator : Bool

/-- How far a resolution has come. -/
structure Resolution where
  known : KnownLogins
  events : List ServiceEvent := []
  deriving Inhabited

/-- A part of a resolution, which may fail. -/
abbrev Resolving := ExceptT Error (StateM Resolution)

namespace Resolution

/-- Notes an event. -/
def record (event : ServiceEvent) (resolution : Resolution) : Resolution :=
  { resolution with events := resolution.events ++ [event] }

end Resolution

namespace Resolver

/-- Shows something to the indicator. -/
def tell (resolver : Resolver) (call : ProgressCall) : Resolving Unit :=
  if resolver.indicator.isSome then modify (Resolution.record (.progress call)) else pure ()

/-- Shows that an attempt comes next. -/
def announce (resolver : Resolver) (message : String) : Resolving Unit := do
  resolver.tell (.message message)
  resolver.tell .step

/-- Ends the resolution if the user has given up. -/
def checkCancelled (resolver : Resolver) : Resolving Unit :=
  match resolver.indicator with
  | none => pure ()
  | some indicator => do
    let cancelled := indicator (ServiceEvent.calls (← get).events ++ [.poll])
    modify (Resolution.record (.polled cancelled))
    if cancelled then throw .cancelled

/-- Tries a login. -/
def attempt (resolver : Resolver) (username password : String) :
    Resolving (Except Error Session) := do
  let login : Login := { endpoint := resolver.endpoint, username, password }
  let outcome := resolver.connector (ServiceEvent.attempts (← get).events) login
  modify (Resolution.record (.attempt login))
  pure outcome

/-- Changes what is known about logins. -/
def learn (f : KnownLogins → KnownLogins) : Resolving Unit :=
  modify fun resolution => { resolution with known := f resolution.known }

/-- Tries the remembered password of the administrator. -/
def tryAdministrator (resolver : Resolver) : Resolving (Option Session) := do
  let password := (← get).known.administratorPassword
  if password.isEmpty then pure none
  else
    resolver.announce ("Using current " ++ administrator ++ " password")
    match ← resolver.attempt administrator password with
    | .ok session => pure (some session)
    | .error _ =>
      learn fun known => { known with administratorPassword := "" }
      pure none

/-- Tries the remembered login. -/
def tryKnown (resolver : Resolver) : Resolving (Option Session) := do
  let known := (← get).known
  if resolver.asAdministrator || known.username.isEmpty then pure none
  else
    resolver.announce ("Using current " ++ known.username ++ " password")
    match ← resolver.attempt known.username known.password with
    | .ok session => pure (some session)
    | .error _ =>
      learn fun known => { known with username := "", password := "" }
      pure none

/-- What is known once the login of a candidate has worked. -/
def adopt (resolver : Resolver) (candidate : Candidate) (known : KnownLogins) : KnownLogins :=
  if resolver.asAdministrator then { known with administratorPassword := candidate.password }
  else { known with username := candidate.username, password := candidate.password }

/-- Tries the login of a candidate. -/
def tryCandidate (resolver : Resolver) (candidate : Candidate) : Resolving (Option Session) := do
  resolver.announce ("Using password of: " ++ candidate.username ++ "@" ++ candidate.source)
  match ← resolver.attempt candidate.username candidate.password with
  | .ok session =>
    learn (resolver.adopt candidate)
    pure (some session)
  | .error _ => pure none

/-- Tries candidates until one works. For a database that is passed over there
is no candidate, but the user may give up all the same. -/
def tryCandidates (resolver : Resolver) : List (Option Candidate) → Resolving (Option Session)
  | [] => pure none
  | none :: rest => do
    resolver.checkCancelled
    resolver.tryCandidates rest
  | some candidate :: rest => do
    resolver.checkCancelled
    match ← resolver.tryCandidate candidate with
    | some session => pure (some session)
    | none => resolver.tryCandidates rest

/-- Goes on to a second part if the first has opened no session. -/
def orElse (first second : Resolving (Option Session)) : Resolving (Option Session) := do
  match ← first with
  | some session => pure (some session)
  | none => second

/-- The error when no login works. -/
def noLogin (resolver : Resolver) : Error :=
  .connection (resolver.endpoint ++ ": no usable credentials for the service manager")

/-- Opens a session, trying the candidates of connected databases before those
of the others. -/
def resolve (resolver : Resolver) (connected stored : List (Option Candidate)) :
    Resolving Session := do
  resolver.tell (.start "Connecting..." (connected.length + 2))
  let session ←
    orElse resolver.tryAdministrator do
      resolver.checkCancelled
      orElse resolver.tryKnown
        (orElse (resolver.tryCandidates connected) (resolver.tryCandidates stored))
  match session with
  | some session => pure session
  | none => throw resolver.noLogin

end Resolver

end MetaCatalog
