import MetaCatalog.Server

/-!
# The order of logins

`Server.sources` lists the logins that may open an administrative session, in
the order in which they are tried. `Resolver.walk` tries logins in order until
one is accepted; it is the resolution without its indicator. It tries the first
of them and no more than it has to (`Resolver.walk_spec`).
-/

namespace MetaCatalog

/-! ## Sources -/

/-- Where a login is known from. -/
inductive Origin where
  /-- The remembered password of the administrator. -/
  | administrator
  /-- The remembered login. -/
  | remembered
  | database
  deriving DecidableEq

/-- A login that may be tried. -/
structure Source where
  origin : Origin
  username : String
  password : String
  deriving DecidableEq

namespace Source

/-- The login at an endpoint. -/
def login (endpoint : String) (source : Source) : Login :=
  { endpoint, username := source.username, password := source.password }

/-- What is known once the login has been refused. -/
def forgotten (source : Source) (known : KnownLogins) : KnownLogins :=
  match source.origin with
  | .administrator => { known with administratorPassword := "" }
  | .remembered => { known with username := "", password := "" }
  | .database => known

/-- What is known once the login has been accepted. -/
def adopted (asAdministrator : Bool) (source : Source) (known : KnownLogins) : KnownLogins :=
  match source.origin, asAdministrator with
  | .database, true => { known with administratorPassword := source.password }
  | .database, false => { known with username := source.username, password := source.password }
  | _, _ => known

/-- The login of a database's connection: the user and the password of the catalog that it
is connected to. -/
def live (world : World) (database : Database) : Source where
  origin := .database
  username := database.connection.elim "" fun connection => (world.catalog connection).user
  password := database.connection.elim "" fun connection => (world.catalog connection).password

/-- The login that is stored with a database. -/
def stored (database : Database) : Source := ⟨.database, database.username, database.password⟩

/-- If the session has to be the administrator's, only logins of that user serve, in
whatever letters the name is written. -/
def serves (asAdministrator : Bool) (source : Source) : Bool :=
  !asAdministrator || Text.upper source.username == "SYSDBA"

end Source

namespace KnownLogins

/-- The remembered password of the administrator, if there is one. -/
def ofAdministrator (known : KnownLogins) : List Source :=
  if known.administratorPassword.isEmpty then []
  else [⟨.administrator, administrator, known.administratorPassword⟩]

/-- The remembered login, unless the session has to be the administrator's. -/
def ofUser (known : KnownLogins) (asAdministrator : Bool) : List Source :=
  if asAdministrator || known.username.isEmpty then []
  else [⟨.remembered, known.username, known.password⟩]

end KnownLogins

namespace Server

/-- The logins of connected databases, then the stored ones of the others that
have a password. -/
def databaseSources (databases : List Database) (world : World) : List Source :=
  (databases.filter (·.isConnected world)).map (Source.live world) ++
    (databases.filter fun d => !d.isConnected world && !d.password.isEmpty).map Source.stored

/-- The logins that may open a session, in the order in which they are tried. Of the logins
of databases only those are among them that serve. -/
def sources (server : Server) (world : World) (asAdministrator : Bool) : List Source :=
  server.known.ofAdministrator ++ server.known.ofUser asAdministrator ++
    (databaseSources server.databases world).filter (Source.serves asAdministrator)

/-- No database has two logins to try. -/
theorem length_databaseSources (databases : List Database) (world : World) :
    (databaseSources databases world).length ≤ databases.length := by
  rw [databaseSources, List.length_append, List.length_map, List.length_map]
  induction databases with
  | nil => exact Nat.le_refl 0
  | cons database rest ih =>
    rw [List.filter_cons, List.filter_cons]
    cases database.isConnected world <;> cases database.password.isEmpty <;>
      simp only [Bool.not_false, Bool.not_true, Bool.and_true, Bool.and_false, if_true,
        Bool.false_eq_true, if_false, List.length_cons] <;>
      omega

/-- There are no more logins than the server announces steps. -/
theorem length_sources (server : Server) (world : World) (asAdministrator : Bool) :
    (server.sources world asAdministrator).length ≤ server.databases.length + 2 := by
  have ofDatabases := Nat.le_trans
    (List.length_filter_le (Source.serves asAdministrator) _)
    (length_databaseSources server.databases world)
  have ofAdministrator : server.known.ofAdministrator.length ≤ 1 := by
    rw [KnownLogins.ofAdministrator]
    split
    · exact Nat.zero_le 1
    · exact Nat.le_refl 1
  have ofUser : (server.known.ofUser asAdministrator).length ≤ 1 := by
    rw [KnownLogins.ofUser]
    split
    · exact Nat.zero_le 1
    · exact Nat.le_refl 1
  rw [sources, List.length_append, List.length_append]
  omega

end Server

/-! ## Candidates -/

/-- The login of a candidate. -/
def Candidate.toSource (candidate : Candidate) : Source :=
  ⟨.database, candidate.username, candidate.password⟩

namespace Server

theorem live_eq (world : World) (database : Database) :
    Source.live world database = ⟨.database, (database.connectedUser? world).getD "",
      (database.connectedPassword? world).getD ""⟩ := by
  unfold Source.live Database.connectedUser? Database.connectedPassword? Database.catalog?
  cases database.connection <;> rfl

/-- Candidates are the logins of some databases, without those that may not be
tried. -/
theorem candidates_eq {candidate : Database → Option Candidate} {login : Database → Source}
    {has : Database → Bool} {may : Source → Bool} (h : ∀ database,
      (candidate database).map Candidate.toSource =
        if has database && may (login database) then some (login database) else none)
    (databases : List Database) :
    (databases.map candidate).filterMap (·.map Candidate.toSource) =
      ((databases.filter has).map login).filter may := by
  induction databases with
  | nil => rfl
  | cons database rest ih =>
    rw [List.map_cons, List.filterMap_cons, h, ih, List.filter_cons]
    cases has database with
    | false => rfl
    | true =>
      rw [Bool.true_and, if_pos rfl, List.map_cons, List.filter_cons]
      cases may (login database) <;> rfl

theorem connected_eq (world : World) (asAdministrator : Bool) (databases : List Database) :
    (databases.map (connectedCandidate world asAdministrator)).filterMap
        (·.map Candidate.toSource) =
      ((databases.filter (·.isConnected world)).map (Source.live world)).filter
        (Source.serves asAdministrator) := by
  refine candidates_eq (fun database => ?_) databases
  rw [connectedCandidate, live_eq]
  exact apply_ite (Option.map Candidate.toSource) _ _ _

theorem stored_eq (world : World) (asAdministrator : Bool) (databases : List Database) :
    (databases.map (storedCandidate world asAdministrator)).filterMap
        (·.map Candidate.toSource) =
      ((databases.filter fun d => !d.isConnected world && !d.password.isEmpty).map
        Source.stored).filter (Source.serves asAdministrator) := by
  refine candidates_eq (fun database => ?_) databases
  rw [storedCandidate]
  exact apply_ite (Option.map Candidate.toSource) _ _ _

end Server

/-! ## Trying logins in order -/

namespace Resolver

/-- The logins at the endpoint. -/
def logins (resolver : Resolver) (sources : List Source) : List Login :=
  sources.map (Source.login resolver.endpoint)

/-- What comes of trying logins: those that were tried, the session, if one
is opened, and what is known then. -/
structure Trail where
  tried : List Source
  session : Option Session
  known : KnownLogins

/-- The trail with logins tried before. -/
def Trail.after (trail : Trail) (earlier : List Source) : Trail :=
  { trail with tried := earlier ++ trail.tried }

/-- Tries logins in their order until one is accepted. -/
def walk (resolver : Resolver) (past : List Login) (known : KnownLogins) : List Source → Trail
  | [] => ⟨[], none, known⟩
  | source :: rest =>
    match resolver.connector past (source.login resolver.endpoint) with
    | .ok session => ⟨[source], some session, source.adopted resolver.asAdministrator known⟩
    | .error _ =>
      (resolver.walk (past ++ resolver.logins [source]) (source.forgotten known) rest).after
        [source]

variable {resolver : Resolver} {past : List Login} {known : KnownLogins} {source : Source}
  {sources : List Source}

theorem walk_accepted {session : Session} (rest : List Source)
    (h : resolver.connector past (source.login resolver.endpoint) = .ok session) :
    resolver.walk past known (source :: rest) =
      ⟨[source], some session, source.adopted resolver.asAdministrator known⟩ := by
  simp only [walk, h]

theorem walk_refused {e : Error} (rest : List Source)
    (h : resolver.connector past (source.login resolver.endpoint) = .error e) :
    resolver.walk past known (source :: rest) =
      (resolver.walk (past ++ resolver.logins [source]) (source.forgotten known) rest).after
        [source] := by
  simp only [walk, h]

/-- Once a session is open, no further login is tried. -/
theorem walk_append_of_some {session : Session} (later : List Source)
    (h : (resolver.walk past known sources).session = some session) :
    resolver.walk past known (sources ++ later) = resolver.walk past known sources := by
  induction sources generalizing past known with
  | nil => cases h
  | cons source rest ih =>
    rw [List.cons_append]
    cases hc : resolver.connector past (source.login resolver.endpoint) with
    | ok session => rw [walk_accepted _ hc, walk_accepted _ hc]
    | error e =>
      rw [walk_refused _ hc] at h
      rw [walk_refused _ hc, walk_refused _ hc, ih h]

/-- Where no session is opened, all logins are tried, and those that follow
come next. -/
theorem walk_append_of_none (later : List Source)
    (h : (resolver.walk past known sources).session = none) :
    (resolver.walk past known sources).tried = sources ∧
    resolver.walk past known (sources ++ later) =
      (resolver.walk (past ++ resolver.logins sources)
        (resolver.walk past known sources).known later).after sources := by
  induction sources generalizing past known with
  | nil =>
    rw [logins, List.map_nil, List.append_nil]
    exact ⟨rfl, rfl⟩
  | cons source rest ih =>
    rw [List.cons_append]
    cases hc : resolver.connector past (source.login resolver.endpoint) with
    | ok session =>
      rw [walk_accepted _ hc] at h
      cases h
    | error e =>
      rw [walk_refused _ hc] at h
      obtain ⟨all, next⟩ := ih h
      have front : past ++ resolver.logins [source] ++ resolver.logins rest =
          past ++ resolver.logins (source :: rest) := List.append_assoc _ _ _
      rw [walk_refused _ hc, walk_refused _ hc, next, front]
      exact ⟨congrArg (source :: ·) all, rfl⟩

/-- Each of some logins is refused after those before it. -/
def Refuses (resolver : Resolver) (past : List Login) : List Source → Prop
  | [] => True
  | source :: rest =>
    (∃ e, resolver.connector past (source.login resolver.endpoint) = .error e) ∧
      resolver.Refuses (past ++ resolver.logins [source]) rest

/-- What is known once some logins have been refused. -/
def forget (known : KnownLogins) (refused : List Source) : KnownLogins :=
  refused.foldl (fun known source => source.forgotten known) known

/-- The reference tries the first of the logins and no more than it has to: all
are refused but one that is accepted at the end, if there is one. -/
theorem walk_spec (resolver : Resolver) (past : List Login) (known : KnownLogins)
    (sources : List Source) :
    (∃ earlier last later session, sources = earlier ++ last :: later ∧
      resolver.Refuses past earlier ∧
      resolver.connector (past ++ resolver.logins earlier) (last.login resolver.endpoint) =
        .ok session ∧
      resolver.walk past known sources = ⟨earlier ++ [last], some session,
        last.adopted resolver.asAdministrator (forget known earlier)⟩) ∨
    resolver.Refuses past sources ∧
      resolver.walk past known sources = ⟨sources, none, forget known sources⟩ := by
  induction sources generalizing past known with
  | nil => exact .inr ⟨trivial, rfl⟩
  | cons source rest ih =>
    cases hc : resolver.connector past (source.login resolver.endpoint) with
    | ok session =>
      refine .inl ⟨[], source, rest, session, rfl, trivial, ?_, walk_accepted _ hc⟩
      rw [logins, List.map_nil, List.append_nil]
      exact hc
    | error e =>
      rw [walk_refused _ hc]
      rcases ih (past ++ resolver.logins [source]) (source.forgotten known) with
        ⟨earlier, last, later, session, rfl, refused, accepted, trail⟩ | ⟨refused, trail⟩
      · refine .inl ⟨source :: earlier, last, later, session, rfl, ⟨⟨e, hc⟩, refused⟩, ?_, ?_⟩
        · rw [List.append_assoc] at accepted
          exact accepted
        · rw [trail]
          rfl
      · refine .inr ⟨⟨⟨e, hc⟩, refused⟩, ?_⟩
        rw [trail]
        rfl

end Resolver

end MetaCatalog
