import Mathlib.Data.List.Forall2
import MetaCatalog.Proofs.Service.Polls

/-!
# Sessions of the administrator

A session that has to be the administrator's does not depend on the logins of
other users. Its resolution ignores the remembered login (`Resolver.Ignores`),
and the logins of databases count only where they are the administrator's
(`Database.Alike`). Two servers that differ in nothing else open the session in
the same way and learn the same from it (`Server.openSession_isolated`).
-/

namespace MetaCatalog

open ServiceEvent (attempts)

/-! ## The remembered login -/

/-- What is known with another login remembered. -/
def KnownLogins.withLogin (username password : String) (known : KnownLogins) : KnownLogins :=
  { known with username, password }

/-- A resolution with another login remembered. -/
def Resolution.withLogin (username password : String) (resolution : Resolution) : Resolution :=
  { resolution with known := resolution.known.withLogin username password }

namespace Resolver

/-- A part of a resolution does the same whichever login is remembered, and
keeps it. -/
def Ignores (part : Resolving α) : Prop :=
  ∀ username password s, part.run (s.withLogin username password) =
    ((part.run s).1, (part.run s).2.withLogin username password)

variable {resolver : Resolver} {part : Resolving α}

/-- The remembered login is left as it is. -/
theorem Ignores.keeps (h : Ignores part) (s : Resolution) :
    (part.run s).2.known.username = s.known.username ∧
      (part.run s).2.known.password = s.known.password := by
  have same : part.run s = ((part.run s).1,
      (part.run s).2.withLogin s.known.username s.known.password) :=
    h s.known.username s.known.password s
  rw [same]
  exact ⟨rfl, rfl⟩

namespace Ignores

theorem pure (a : α) : Ignores (Pure.pure a) := fun _ _ _ => rfl

theorem throw (e : Error) : Ignores (throw e : Resolving α) := fun _ _ _ => rfl

theorem bind {f : α → Resolving β} (h : Ignores part) (hf : ∀ a, Ignores (f a)) :
    Ignores (part >>= f) := by
  intro username password s
  have same := h username password s
  rcases run : part.run s with ⟨e | a, s'⟩
  · rw [run] at same
    rw [run_bind_error run, run_bind_error same]
  · rw [run] at same
    rw [run_bind_ok run, run_bind_ok same]
    exact hf a username password s'

/-- A part that first reads the resolution, though not the remembered login. -/
theorem read {part : Resolution → Resolving α}
    (same : ∀ username password s, part (s.withLogin username password) = part s)
    (h : ∀ s, Ignores (part s)) : Ignores (do part (← get)) := by
  intro username password s
  show (part (s.withLogin username password)).run _ = _
  rw [same]
  exact h s username password s

theorem modify {f : Resolution → Resolution} (h : ∀ username password s,
    f (s.withLogin username password) = (f s).withLogin username password) :
    Ignores (modify f) := fun username password s =>
  congrArg (Prod.mk (Except.ok PUnit.unit)) (h username password s)

end Ignores

theorem tell_ignores (call : ProgressCall) : Ignores (resolver.tell call) := by
  rw [tell]
  split
  · exact .modify fun _ _ _ => rfl
  · exact .pure _

theorem announce_ignores (message : String) : Ignores (resolver.announce message) :=
  (tell_ignores _).bind fun _ => tell_ignores _

theorem checkCancelled_ignores : Ignores resolver.checkCancelled := by
  rw [checkCancelled]
  split
  · exact .pure _
  · refine .read (fun _ _ _ => rfl) fun s => .bind (.modify fun _ _ _ => rfl) fun _ => ?_
    split
    · exact .throw _
    · exact .pure _

theorem attempt_ignores (username password : String) :
    Ignores (resolver.attempt username password) :=
  .read (fun _ _ _ => rfl) fun _ => .bind (.modify fun _ _ _ => rfl) fun _ => .pure _

theorem learn_ignores {f : KnownLogins → KnownLogins} (h : ∀ username password known,
    f (known.withLogin username password) = (f known).withLogin username password) :
    Ignores (learn f) :=
  .modify fun username password s =>
    congrArg (fun known => { s with known }) (h username password s.known)

/-- An announced login is tried, and something is learned of the outcome. -/
theorem trial_ignores {message username password : String}
    {learn : Except Error Session → Resolving (Option Session)}
    (h : ∀ outcome, Ignores (learn outcome)) :
    Ignores (do
      resolver.announce message
      learn (← resolver.attempt username password)) :=
  (announce_ignores message).bind fun _ => (attempt_ignores username password).bind h

theorem tryAdministrator_ignores : Ignores resolver.tryAdministrator := by
  unfold tryAdministrator
  refine .read (fun _ _ _ => rfl) fun s => ?_
  dsimp only
  split
  · exact .pure _
  · refine trial_ignores fun outcome => ?_
    cases outcome with
    | ok session => exact .pure _
    | error e => exact (learn_ignores fun _ _ _ => rfl).bind fun _ => .pure _

/-- The remembered login is not tried where the session has to be the
administrator's. -/
theorem tryKnown_ignores (ha : resolver.asAdministrator = true) : Ignores resolver.tryKnown := by
  have unused (s : Resolution) : resolver.tryKnown.run s = (.ok none, s) := by
    unfold tryKnown
    show (if resolver.asAdministrator || s.known.username.isEmpty then _ else _ :
      Resolving (Option Session)).run s = _
    rw [ha, Bool.true_or, if_pos rfl]
    rfl
  intro username password s
  rw [unused, unused]

theorem tryCandidate_ignores (ha : resolver.asAdministrator = true) (candidate : Candidate) :
    Ignores (resolver.tryCandidate candidate) := by
  have adopted (username password : String) (known : KnownLogins) :
      resolver.adopt candidate (known.withLogin username password) =
        (resolver.adopt candidate known).withLogin username password := by
    rw [adopt, adopt, ha]
    rfl
  rw [tryCandidate]
  refine trial_ignores fun outcome => ?_
  cases outcome with
  | ok session => exact (learn_ignores adopted).bind fun _ => .pure _
  | error e => exact .pure _

theorem orElse_ignores {first second : Resolving (Option Session)} (h : Ignores first)
    (h' : Ignores second) : Ignores (Resolver.orElse first second) := by
  refine h.bind fun session => ?_
  cases session with
  | some session => exact .pure _
  | none => exact h'

theorem tryCandidates_ignores (ha : resolver.asAdministrator = true)
    (candidates : List (Option Candidate)) : Ignores (resolver.tryCandidates candidates) := by
  induction candidates with
  | nil => exact .pure _
  | cons candidate rest ih =>
    cases candidate with
    | none => exact checkCancelled_ignores.bind fun _ => ih
    | some candidate =>
      exact checkCancelled_ignores.bind fun _ =>
        orElse_ignores (tryCandidate_ignores ha candidate) ih

/-- A resolution for the administrator ignores the remembered login. -/
theorem resolve_ignores (ha : resolver.asAdministrator = true)
    (connected stored : List (Option Candidate)) :
    Ignores (resolver.resolve connected stored) := by
  rw [resolve]
  refine (tell_ignores _).bind fun _ => (orElse_ignores tryAdministrator_ignores
    (checkCancelled_ignores.bind fun _ => orElse_ignores (tryKnown_ignores ha)
      (orElse_ignores (tryCandidates_ignores ha connected)
        (tryCandidates_ignores ha stored)))).bind fun session => ?_
  cases session with
  | some session => exact .pure _
  | none => exact .throw _

end Resolver

/-! ## Logins of databases -/

/-- The login of a database that may be tried: that of its connection if there
is one, else the stored one. -/
def Source.relevant (world : World) (database : Database) : Source :=
  if database.isConnected world then .live world database else .stored database

/-- Two databases, each in a world of its own, are the same to a session of the
administrator: they differ at most in the logins of other users. -/
structure Database.Alike (world world' : World) (database database' : Database) : Prop where
  name : database.name.raw = database'.name.raw
  connected : database.isConnected world = database'.isConnected world'
  login : isAdministrator (Source.relevant world database).username = true ∨
      isAdministrator (Source.relevant world' database').username = true →
    Source.relevant world database = Source.relevant world' database'

/-- The candidate of a database with a login. -/
def Source.candidate (name : String) (source : Source) : Candidate :=
  ⟨source.username, source.password, name⟩

namespace Server

variable {world world' : World} {database database' : Database}

theorem connectedCandidate_eq (world : World) (database : Database) :
    connectedCandidate world true database =
      if database.isConnected world && isAdministrator (Source.relevant world database).username
      then some ((Source.relevant world database).candidate database.name.raw) else none := by
  rw [connectedCandidate, Source.relevant, live_eq]
  cases database.isConnected world <;> rfl

theorem storedCandidate_eq (world : World) (database : Database) :
    storedCandidate world true database =
      if !database.isConnected world && !(Source.relevant world database).password.isEmpty &&
        isAdministrator (Source.relevant world database).username
      then some ((Source.relevant world database).candidate database.name.raw) else none := by
  rw [storedCandidate, Source.relevant]
  cases database.isConnected world <;> rfl

/-- Where only logins of the administrator may be tried, databases that are the
same to its sessions have the same candidates. -/
theorem candidate_alike (h : database.Alike world world' database') (may : Bool → Source → Bool)
    (ha : ∀ connected source, may connected source = true →
      isAdministrator source.username = true) :
    (if may (database.isConnected world) (Source.relevant world database) then
        some ((Source.relevant world database).candidate database.name.raw) else none) =
      if may (database'.isConnected world') (Source.relevant world' database') then
        some ((Source.relevant world' database').candidate database'.name.raw) else none := by
  rw [h.name, h.connected]
  by_cases administrators : isAdministrator (Source.relevant world database).username = true ∨
      isAdministrator (Source.relevant world' database').username = true
  · rw [h.login administrators]
  · obtain ⟨other, other'⟩ := not_or.mp administrators
    rw [if_neg fun tried => other (ha _ _ tried), if_neg fun tried => other' (ha _ _ tried)]

theorem connectedCandidate_alike (h : database.Alike world world' database') :
    connectedCandidate world true database = connectedCandidate world' true database' := by
  rw [connectedCandidate_eq, connectedCandidate_eq]
  exact candidate_alike h (fun connected source => connected && isAdministrator source.username)
    (by simp)

theorem storedCandidate_alike (h : database.Alike world world' database') :
    storedCandidate world true database = storedCandidate world' true database' := by
  rw [storedCandidate_eq, storedCandidate_eq]
  exact candidate_alike h (fun connected source =>
    !connected && !source.password.isEmpty && isAdministrator source.username) (by simp)

/-- Two servers, each in a world of its own, are the same to a session of the
administrator: they differ at most in the remembered login and in the logins
that their databases have for other users. -/
structure Alike (world world' : World) (server server' : Server) : Prop where
  host : server.host = server'.host
  port : server.port = server'.port
  password : server.known.administratorPassword = server'.known.administratorPassword
  databases : List.Forall₂ (Database.Alike world world') server.databases server'.databases

theorem map_alike {candidate candidate' : Database → Option Candidate}
    (h : ∀ {database database' : Database}, database.Alike world world' database' →
      candidate database = candidate' database')
    {databases databases' : List Database}
    (alike : List.Forall₂ (Database.Alike world world') databases databases') :
    databases.map candidate = databases'.map candidate' := by
  induction alike with
  | nil => rfl
  | cons first _ ih => rw [List.map_cons, List.map_cons, h first, ih]

/-- Two sessions are opened in the same way, and no login but the administrator's
is remembered or forgotten. -/
structure Isolated (server server' : Server) (run run' : ServiceRun Session) : Prop where
  events : run.events = run'.events
  outcome : run.outcome = run'.outcome
  password : run.server.known.administratorPassword = run'.server.known.administratorPassword
  keeps : run.server.known.username = server.known.username ∧
    run.server.known.password = server.known.password
  keeps' : run'.server.known.username = server'.known.username ∧
    run'.server.known.password = server'.known.password

/-- A session of the administrator depends on nothing that two servers may
differ in that are the same to it. -/
theorem openSession_isolated {server server' : Server} (h : server.Alike world world' server')
    (connector : Connector) (indicator : Option Indicator) :
    server.Isolated server' (server.openSession world connector indicator true)
      (server'.openSession world' connector indicator true) := by
  let resolver := server.resolver connector indicator true
  let connected := server.databases.map (connectedCandidate world true)
  let stored := server.databases.map (storedCandidate world true)
  let resolution := (resolver.resolve connected stored).run { known := server.known }
  let resume (server : Server) (r : Except Error Session × Resolution) : ServiceRun Session :=
    ⟨r.1, r.2.events, { server with known := r.2.known }⟩
  have ignores : Resolver.Ignores (resolver.resolve connected stored) :=
    Resolver.resolve_ignores rfl connected stored
  have sameResolver : server'.resolver connector indicator true = resolver := by
    show Resolver.mk (endpointOf server'.host server'.port) .. =
      Resolver.mk (endpointOf server.host server.port) ..
    rw [h.host, h.port]
  have sameKnown : server'.known =
      server.known.withLogin server'.known.username server'.known.password := by
    rw [KnownLogins.withLogin, h.password]
  have run' : server'.openSession world' connector indicator true = resume server'
      (resolution.1, resolution.2.withLogin server'.known.username server'.known.password) := by
    have same := ignores server'.known.username server'.known.password { known := server.known }
    rw [← same]
    show resume server' (((server'.resolver connector indicator true).resolve
      (server'.databases.map (connectedCandidate world' true))
      (server'.databases.map (storedCandidate world' true))).run { known := server'.known }) = _
    rw [sameResolver, ← map_alike connectedCandidate_alike h.databases,
      ← map_alike storedCandidate_alike h.databases, sameKnown]
    rfl
  have run : server.openSession world connector indicator true = resume server resolution := rfl
  rw [run, run']
  exact ⟨rfl, rfl, rfl, ignores.keeps { known := server.known }, rfl, rfl⟩

/-- Connections of some user and of the administrator. -/
def sharedWith (user : String) : World :=
  { connections :=
      ⟨#[{ (default : Catalog) with user }, { (default : Catalog) with user := "sysdba" }]⟩ }

/-- A server that remembers a login of some user, with databases on both
connections and one with a stored login. -/
def mixed (remembered stored : String) : Server :=
  { (default : Server) with
    known := { username := remembered, password := remembered, administratorPassword := "stale" }
    databases := [{ (default : Database) with connection := some ⟨0⟩ },
      { (default : Database) with connection := some ⟨1⟩ },
      { (default : Database) with username := stored, password := stored }] }

/-- A connector that refuses the first login. -/
def secondTime : Connector := fun past _ =>
  if past.length = 1 then .ok ⟨.ok []⟩ else .error (.connection "login rejected")

theorem openSession_isolated_mixed :
    let run := (mixed "ALICE" "CAROL").openSession (sharedWith "BOB") secondTime
      (some (.limited (some 2) none)) true
    (mixed "ALICE" "CAROL").Isolated (mixed "" "DAVE") run
        ((mixed "" "DAVE").openSession (sharedWith "EVE") secondTime
          (some (.limited (some 2) none)) true) ∧
      (attempts run.events).map (·.username) = ["SYSDBA", "sysdba"] := by
  intro run
  have alike : (mixed "ALICE" "CAROL").Alike (sharedWith "BOB") (sharedWith "EVE")
      (mixed "" "DAVE") := by
    refine ⟨rfl, rfl, rfl, .cons ⟨rfl, rfl, ?_⟩ (.cons ⟨rfl, rfl, ?_⟩ (.cons ⟨rfl, rfl, ?_⟩ .nil))⟩
    all_goals decide +kernel
  exact ⟨openSession_isolated alike secondTime (some (.limited (some 2) none)), by decide +kernel⟩

end Server

end MetaCatalog
