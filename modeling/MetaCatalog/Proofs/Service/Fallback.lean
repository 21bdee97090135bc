import MetaCatalog.Proofs.Service.Parts

/-!
# Opening a session

A server opens a session with the first of its logins that the connector
accepts (`Server.openSession_fallsBack`). The connector is told of each login
up to that one and of no other, an indicator is told of each by one step, and
nothing of the server changes but what it remembers.
-/

namespace MetaCatalog

open ServiceEvent (attempts attempts_append marks)

namespace Server

/-- How the server opens a session. -/
def resolver (server : Server) (connector : Connector) (indicator : Option Indicator)
    (asAdministrator : Bool) : Resolver :=
  { endpoint := server.endpoint, connector, indicator, asAdministrator }

/-- A session is opened with the last of the logins tried, and those before
are refused. A remembered login that is refused is forgotten, and one of a
database that is accepted is remembered. -/
def Opens (server : Server) (resolver : Resolver) (tried : List Source)
    (run : ServiceRun Session) : Prop :=
  ∃ earlier last session, tried = earlier ++ [last] ∧ resolver.Refuses [] earlier ∧
    resolver.connector (resolver.logins earlier) (last.login resolver.endpoint) = .ok session ∧
    run.outcome = .ok session ∧
    run.server = { server with
      known := last.adopted resolver.asAdministrator (Resolver.forget server.known earlier) }

/-- All logins are refused. -/
def Fails (server : Server) (resolver : Resolver) (sources : List Source)
    (run : ServiceRun Session) : Prop :=
  resolver.Refuses [] sources ∧
    run.outcome = .error (.connection
      (server.endpoint ++ ": no usable credentials for the service manager")) ∧
    run.server = { server with known := Resolver.forget server.known sources }

/-- A session is opened with the first of some logins that is accepted. -/
structure FallsBack (server : Server) (resolver : Resolver) (sources tried : List Source)
    (run : ServiceRun Session) : Prop where
  /-- The logins tried are the first, up to one that is accepted. -/
  front : tried <+: sources
  outcome : server.Opens resolver tried run ∨ tried = sources ∧ server.Fails resolver sources run
  attempted : attempts run.events = resolver.logins tried
  /-- The indicator is told how many attempts there may be, and before each of
  them that it comes. -/
  shown : marks run.events =
    (if resolver.indicator.isSome then
      [.progress (.start "Connecting..." (server.databases.length + 2))] else []) ++
      tried.flatMap resolver.pace
  steps : run.events.count (.progress .step) =
    if resolver.indicator.isSome then tried.length else 0
  announced : run.events.count (.progress .step) ≤ server.databases.length + 2

/-- What is shown of the logins tried says which were attempted, and how many. -/
theorem FallsBack.of_shown {server : Server} {resolver : Resolver} {sources tried : List Source}
    {run : ServiceRun Session} (front : tried <+: sources)
    (outcome : server.Opens resolver tried run ∨
      tried = sources ∧ server.Fails resolver sources run)
    (shown : marks run.events =
      (if resolver.indicator.isSome then
        [.progress (.start "Connecting..." (server.databases.length + 2))] else []) ++
        tried.flatMap resolver.pace)
    (enough : sources.length ≤ server.databases.length + 2) :
    server.FallsBack resolver sources tried run := by
  have attempted : attempts run.events = resolver.logins tried := by
    rw [← ServiceEvent.attempts_marks, shown, attempts_append, Resolver.attempts_pace]
    split <;> rfl
  have steps : run.events.count (.progress .step) =
      if resolver.indicator.isSome then tried.length else 0 := by
    have counted : (marks run.events).count (.progress .step) =
      run.events.count (.progress .step) := List.count_filter rfl
    rw [← counted, shown, List.count_append, Resolver.count_pace]
    cases resolver.indicator <;> exact Nat.zero_add _
  refine ⟨front, outcome, attempted, shown, steps, ?_⟩
  rw [steps]
  split
  · exact Nat.le_trans front.length_le enough
  · exact Nat.zero_le _

variable {indicator : Option Indicator}

theorem openSession_walks (server : Server) (world : World) (connector : Connector)
    (asAdministrator : Bool) (hp : ∀ i ∈ indicator, ∀ calls, i calls = false) :
    let resolver := server.resolver connector indicator asAdministrator
    let trail := resolver.walk [] server.known (server.sources world asAdministrator)
    let run := server.openSession world connector indicator asAdministrator
    run.outcome = trail.session.elim (.error resolver.noLogin) .ok ∧
      run.server = { server with known := trail.known } ∧
      marks run.events =
        (if indicator.isSome then
          [.progress (.start "Connecting..." (server.databases.length + 2))] else []) ++
          trail.tried.flatMap resolver.pace := by
  intro resolver trail run
  have patient : resolver.IsPatient := hp
  have sources : server.known.ofAdministrator ++ (server.known.ofUser asAdministrator ++
      ((server.databases.map (connectedCandidate world asAdministrator)).filterMap
          (·.map Candidate.toSource) ++
        (server.databases.map (storedCandidate world asAdministrator)).filterMap
          (·.map Candidate.toSource))) = server.sources world asAdministrator := by
    rw [connected_eq, stored_eq, Server.sources, databaseSources, List.filter_append,
      List.append_assoc]
  obtain ⟨s, resolved, known, shown⟩ := patient.run_resolve sources
  have opened : run = ⟨trail.session.elim (.error resolver.noLogin) .ok, s.events,
      { server with known := s.known }⟩ :=
    congrArg (fun r => ServiceRun.mk r.1 r.2.events { server with known := r.2.known }) resolved
  rw [List.length_map] at shown
  rw [opened, known]
  exact ⟨rfl, rfl, shown⟩

/-- Opening a session falls back along the logins of the server, unless the
user gives up. -/
theorem openSession_fallsBack (server : Server) (world : World) (connector : Connector)
    (asAdministrator : Bool) (hp : ∀ i ∈ indicator, ∀ calls, i calls = false) :
    ∃ tried, server.FallsBack (server.resolver connector indicator asAdministrator)
      (server.sources world asAdministrator) tried
      (server.openSession world connector indicator asAdministrator) := by
  obtain ⟨outcome, after, shown⟩ := server.openSession_walks world connector asAdministrator hp
  have enough := server.length_sources world asAdministrator
  rcases Resolver.walk_spec (server.resolver connector indicator asAdministrator) [] server.known
      (server.sources world asAdministrator) with
    ⟨earlier, last, later, session, sources, refused, accepted, trail⟩ | ⟨refused, trail⟩
  · rw [trail] at outcome after shown
    refine ⟨earlier ++ [last], .of_shown ?_ (.inl ?_) shown enough⟩
    · exact ⟨later, by rw [sources, List.append_assoc, List.singleton_append]⟩
    · exact ⟨earlier, last, session, rfl, refused, accepted, outcome, after⟩
  · rw [trail] at outcome after shown
    exact ⟨_, .of_shown List.prefix_rfl (.inr ⟨rfl, refused, outcome, after⟩) shown enough⟩

/-- A server that remembers logins which do not work any more. -/
def outdated : Server :=
  { (default : Server) with
    known := { username := "BOB", password := "old", administratorPassword := "stale" }
    databases := [{ (default : Database) with username := "CAROL", password := "secret" }] }

/-- The server with two more databases: the connection of one is lost, and that of the other
is alive. -/
def connected : Server :=
  { outdated with
    databases := outdated.databases ++
      [{ (default : Database) with connection := some ⟨0⟩, username := "ERIN", password := "lost" },
        { (default : Database) with connection := some ⟨1⟩, username := "ERIN" }] }

/-- The connection that is lost, and the one that is alive. -/
def connections : World :=
  { connections := ⟨#[{ (default : Catalog) with connected := false, user := "FRANK" },
      { (default : Catalog) with connected := true, user := "DAVE", password := "live" }]⟩ }

/-- A connector that refuses the first three logins. -/
def fourthTime : Connector := fun past _ =>
  if past.length = 3 then .ok ⟨.ok []⟩ else .error (.connection "login rejected")

/-- The live login comes before the stored one, which is accepted; the stored login of the
database that has lost its connection would have been next. -/
theorem openSession_fallsBack_fourthTime :
    let run := connected.openSession connections fourthTime (some (.limited none none)) false
    ∃ tried, connected.FallsBack
        (connected.resolver fourthTime (some (.limited none none)) false)
        (connected.sources connections false) tried run ∧
      tried.map (fun source => (source.username, source.password)) =
        [("SYSDBA", "stale"), ("BOB", "old"), ("DAVE", "live"), ("CAROL", "secret")] ∧
      run.events.count (.progress .step) = 4 ∧
      run.server.known =
        { username := "CAROL", password := "secret", administratorPassword := "" } := by
  intro run
  have patient : ∀ i ∈ some (Indicator.limited none none), ∀ calls, i calls = false := by
    rintro _ ⟨⟩ calls
    rfl
  obtain ⟨tried, falls⟩ := connected.openSession_fallsBack connections fourthTime false patient
  have attempted : (attempts run.events).map (fun login => (login.username, login.password)) =
      [("SYSDBA", "stale"), ("BOB", "old"), ("DAVE", "live"), ("CAROL", "secret")] := by
    decide +kernel
  rw [falls.attempted, Resolver.logins, List.map_map] at attempted
  have length : tried.length = 4 :=
    (List.length_map _).symm.trans (congrArg List.length attempted)
  exact ⟨tried, falls, attempted, falls.steps.trans length, by decide +kernel⟩

end Server

end MetaCatalog
