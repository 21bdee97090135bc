import MetaCatalog.Proofs.Service.Fallback

/-!
# Opening a session again

A connector may answer each login the same way every time. A server that has
opened a session with such a connector opens another one when it is asked again
(`Server.openSession_again`). What it remembers of the login that worked is
tried first (`Login.kept`), and is mostly all that is tried. But an empty user
name or administrator's password counts as none (`Login.Usable`), and the
password of an administrator is tried under the name in capitals, which the
connector need not take for the same user.
-/

namespace MetaCatalog

open ServiceEvent (attempts attempts_append marks)

/-- A connector that answers each login the same way every time. -/
def Connector.steady (answer : Login → Except Error Session) : Connector := fun _ => answer

namespace Login

/-- Whether a login that has worked can be told from none where it is
remembered. -/
def Usable (asAdministrator : Bool) (login : Login) : Prop :=
  if asAdministrator then login.password ≠ "" else login.username ≠ ""

instance (asAdministrator : Bool) (login : Login) : Decidable (login.Usable asAdministrator) :=
  inferInstanceAs (Decidable (if asAdministrator then _ else _))

/-- What is remembered of a login that has worked. For an administrator it is
the password alone. -/
def kept (asAdministrator : Bool) (login : Login) : Login :=
  if asAdministrator then { login with username := administrator } else login

end Login

/-! ## Remembered logins -/

namespace KnownLogins

/-- The remembered logins, in the order in which they are tried. -/
def remembered (known : KnownLogins) (asAdministrator : Bool) : List Source :=
  known.ofAdministrator ++ known.ofUser asAdministrator

variable {known : KnownLogins} {asAdministrator : Bool} {source : Source}

/-- No remembered login is one of a database. -/
theorem origin_of_mem_remembered (h : source ∈ known.remembered asAdministrator) :
    source.origin ≠ .database := by
  rw [remembered, ofAdministrator, ofUser, List.mem_append] at h
  rcases h with h | h <;> split at h <;> simp at h <;> simp [h]

/-- A login that is remembered can be used, and is remembered as it is. -/
theorem usable_of_mem_remembered (endpoint : String)
    (h : source ∈ known.remembered asAdministrator) :
    (source.login endpoint).Usable asAdministrator ∧
      (source.login endpoint).kept asAdministrator = source.login endpoint := by
  rw [remembered, List.mem_append] at h
  rcases h with h | h
  · rw [ofAdministrator] at h
    split at h
    · cases h
    · rename_i given
      obtain rfl := List.mem_singleton.mp h
      have password : known.administratorPassword ≠ "" := fun none =>
        given (String.isEmpty_iff.mpr none)
      cases asAdministrator with
      | true => exact ⟨password, rfl⟩
      | false => exact ⟨show administrator ≠ "" by decide, rfl⟩
  · rw [ofUser] at h
    cases asAdministrator with
    | true => cases h
    | false =>
      split at h
      · cases h
      · rename_i given
        obtain rfl := List.mem_singleton.mp h
        exact ⟨fun none => given (String.isEmpty_iff.mpr none), rfl⟩

/-- The first login is forgotten if it is refused, and the others stay. -/
theorem remembered_forgotten {rest : List Source}
    (h : known.remembered asAdministrator = source :: rest) :
    (source.forgotten known).remembered asAdministrator = rest := by
  rw [remembered, ofAdministrator] at h
  split at h
  · rename_i none
    rw [List.nil_append, ofUser] at h
    split at h
    · cases h
    · obtain ⟨rfl, rfl⟩ := List.cons.inj h
      have noPassword : ofAdministrator { known with username := "", password := "" } = [] :=
        if_pos none
      have noUser : ofUser { known with username := "", password := "" } asAdministrator = [] :=
        if_pos (Bool.or_true _)
      exact List.append_eq_nil_iff.mpr ⟨noPassword, noUser⟩
  · obtain ⟨rfl, rfl⟩ := List.cons.inj h
    rfl

/-- Logins that are refused are forgotten, and the others stay. -/
theorem remembered_forget {earlier later : List Source}
    (h : known.remembered asAdministrator = earlier ++ later) :
    (Resolver.forget known earlier).remembered asAdministrator = later := by
  induction earlier generalizing known with
  | nil => exact h
  | cons source rest ih => exact ih (remembered_forgotten h)

theorem map_unless_empty (text : String) (source : Source) (f : Source → Login) :
    (if text.isEmpty then [] else [source]).map f = if text ≠ "" then [f source] else [] := by
  by_cases empty : text = "" <;> simp [empty]

/-- Where nothing is remembered, the login of a database that has worked is all
that is remembered then, if it can be. -/
theorem remembered_adopted (endpoint : String) (h : known.remembered asAdministrator = [])
    (database : source.origin = .database) :
    ((source.adopted asAdministrator known).remembered asAdministrator).map
        (Source.login endpoint) =
      if (source.login endpoint).Usable asAdministrator then
        [(source.login endpoint).kept asAdministrator] else [] := by
  obtain ⟨noPassword, noUser⟩ := List.append_eq_nil_iff.mp h
  obtain ⟨_, username, password⟩ := source
  obtain rfl : _ = Origin.database := database
  cases asAdministrator with
  | true =>
    have adopted : Source.adopted true ⟨.database, username, password⟩ known =
      { known with administratorPassword := password } := rfl
    rw [adopted, remembered, ofAdministrator, ofUser, Bool.true_or, if_pos rfl, List.append_nil]
    exact map_unless_empty password _ _
  | false =>
    have adopted : Source.adopted false ⟨.database, username, password⟩ known =
      { known with username, password } := rfl
    have same : ofAdministrator { known with username, password } = [] := noPassword
    rw [adopted, remembered, same, List.nil_append, ofUser, Bool.false_or]
    exact map_unless_empty username _ _

end KnownLogins

/-! ## Logins of databases -/

theorem Source.adopted_of_remembered {source : Source} (h : source.origin ≠ .database)
    (asAdministrator : Bool) (known : KnownLogins) :
    source.adopted asAdministrator known = known := by
  obtain ⟨origin, username, password⟩ := source
  cases origin with
  | database => exact absurd rfl h
  | _ => cases asAdministrator <;> rfl

/-- The login of a database is not forgotten. -/
theorem Resolver.forget_of_database {sources : List Source}
    (h : ∀ source ∈ sources, source.origin = .database) (known : KnownLogins) :
    forget known sources = known := by
  induction sources with
  | nil => rfl
  | cons source rest ih =>
    obtain ⟨first, others⟩ := List.forall_mem_cons.mp h
    have same : source.forgotten known = known := by rw [Source.forgotten, first]
    show forget (source.forgotten known) rest = known
    rw [same, ih others]

namespace Server

/-- The logins of the databases, in the order in which they are tried. -/
def offers (server : Server) (world : World) (asAdministrator : Bool) : List Source :=
  (databaseSources server.databases world).filter (Source.serves asAdministrator)

theorem origin_of_mem_offers {server : Server} {world : World} {asAdministrator : Bool}
    {source : Source} (h : source ∈ server.offers world asAdministrator) :
    source.origin = .database := by
  have among := (List.mem_filter.mp h).1
  rw [databaseSources, List.mem_append, List.mem_map, List.mem_map] at among
  obtain ⟨database, -, rfl⟩ | ⟨database, -, rfl⟩ := among <;> rfl

end Server

/-! ## Walks -/

namespace Resolver

variable {resolver : Resolver} {answer : Login → Except Error Session} {past : List Login}
  {known : KnownLogins} {last : Source} {earlier later : List Source} {session : Session}

/-- To a connector that answers a login the same way every time, what was tried
before does not matter. -/
theorem Refuses.steady (hc : resolver.connector = .steady answer)
    (h : resolver.Refuses past earlier) :
    ∀ source ∈ earlier, ∃ e, answer (source.login resolver.endpoint) = .error e := by
  induction earlier generalizing past with
  | nil => simp
  | cons source rest ih =>
    obtain ⟨⟨e, refused⟩, others⟩ := h
    rw [hc] at refused
    exact List.forall_mem_cons.mpr ⟨⟨e, refused⟩, ih others⟩

/-- The first login that is accepted is the last that is tried. -/
theorem walk_steady (hc : resolver.connector = .steady answer) (earlier : List Source)
    (refused : ∀ source ∈ earlier, ∃ e, answer (source.login resolver.endpoint) = .error e)
    (accepted : answer (last.login resolver.endpoint) = .ok session) :
    (resolver.walk past known (earlier ++ last :: later)).tried = earlier ++ [last] ∧
      (resolver.walk past known (earlier ++ last :: later)).session = some session := by
  induction earlier generalizing past known with
  | nil =>
    have first : resolver.connector past (last.login resolver.endpoint) = .ok session := by
      rw [hc]
      exact accepted
    rw [List.nil_append, walk_accepted _ first]
    exact ⟨rfl, rfl⟩
  | cons source rest ih =>
    obtain ⟨⟨e, refuses⟩, others⟩ := List.forall_mem_cons.mp refused
    have first : resolver.connector past (source.login resolver.endpoint) = .error e := by
      rw [hc]
      exact refuses
    rw [List.cons_append, walk_refused _ first]
    exact (ih others).imp (congrArg (source :: ·)) id

end Resolver

/-! ## The second session -/

/-- What is tried after a login has worked: what is remembered of it, if it is
accepted, and else the logins of databases that were tried before. -/
def Login.retried (answer : Login → Except Error Session) (asAdministrator : Bool)
    (offered : List Login) (login : Login) : List Login :=
  if login.Usable asAdministrator then
    if (answer (login.kept asAdministrator)).isOk then [login.kept asAdministrator]
    else login.kept asAdministrator :: offered
  else offered

theorem Login.length_retried {answer : Login → Except Error Session} {asAdministrator : Bool}
    {offered : List Login} {login : Login}
    (h : offered = [] → login.Usable asAdministrator ∧
      (answer (login.kept asAdministrator)).isOk = true) :
    (login.retried answer asAdministrator offered).length = 1 ↔
      login.Usable asAdministrator ∧ (answer (login.kept asAdministrator)).isOk = true ∨
        ¬ login.Usable asAdministrator ∧ offered.length = 1 := by
  by_cases usable : login.Usable asAdministrator
  · by_cases accepted : (answer (login.kept asAdministrator)).isOk = true
    · simp [retried, usable, accepted]
    · have some : offered ≠ [] := fun none => accepted (h none).2
      simp [retried, usable, accepted, some]
  · simp [retried, usable]

namespace Resolver

variable {resolver : Resolver} {answer : Login → Except Error Session} {known : KnownLogins}
  {offers : List Source} {session : Session}

/-- A second resolution, which knows what the first has learned, opens a session
if the first has. -/
structure Again (resolver : Resolver) (answer : Login → Except Error Session)
    (known : KnownLogins) (offers : List Source) (first second : Trail) (login : Login) :
    Prop where
  last : (resolver.logins first.tried).getLast? = some login
  tried : resolver.logins second.tried = login.retried answer resolver.asAdministrator
    ((resolver.logins first.tried).drop (known.remembered resolver.asAdministrator).length)
  opens : second.session.isSome = true
  /-- Where no login of a database was tried, the one that worked is tried
  again. -/
  same : (resolver.logins first.tried).drop
      (known.remembered resolver.asAdministrator).length = [] →
    login.Usable resolver.asAdministrator ∧
      (answer (login.kept resolver.asAdministrator)).isOk = true
  offered : (answer (login.kept resolver.asAdministrator)).isOk = false →
    ∃ source ∈ offers, source.login resolver.endpoint = login

/-- The resolution of a server with its remembered logins and those of its
databases. -/
def walkAll (resolver : Resolver) (known : KnownLogins) (offers : List Source) : Trail :=
  resolver.walk [] known (known.remembered resolver.asAdministrator ++ offers)

/-- A remembered login that has worked is the first to be tried again. -/
theorem again_of_remembered (hc : resolver.connector = .steady answer) {earlier rest : List Source}
    {last : Source} (h : known.remembered resolver.asAdministrator = earlier ++ last :: rest)
    (accepted : answer (last.login resolver.endpoint) = .ok session)
    (trail : resolver.walkAll known offers = ⟨earlier ++ [last], some session,
      last.adopted resolver.asAdministrator (forget known earlier)⟩) :
    resolver.Again answer known offers (resolver.walkAll known offers)
      (resolver.walkAll (resolver.walkAll known offers).known offers)
      (last.login resolver.endpoint) := by
  have among : last ∈ known.remembered resolver.asAdministrator := h ▸ by simp
  obtain ⟨usable, same⟩ := KnownLogins.usable_of_mem_remembered resolver.endpoint among
  have ok :
      (answer ((last.login resolver.endpoint).kept resolver.asAdministrator)).isOk = true := by
    rw [same, accepted]
    rfl
  have stays : (resolver.walkAll known offers).known.remembered resolver.asAdministrator =
      last :: rest := by
    rw [trail, Source.adopted_of_remembered (KnownLogins.origin_of_mem_remembered among)]
    exact KnownLogins.remembered_forget h
  have first : resolver.connector [] (last.login resolver.endpoint) = .ok session := by
    rw [hc]
    exact accepted
  have next : (resolver.walkAll (resolver.walkAll known offers).known offers).tried = [last] ∧
      (resolver.walkAll (resolver.walkAll known offers).known offers).session = some session := by
    rw [walkAll, stays, List.cons_append, walk_accepted _ first]
    exact ⟨rfl, rfl⟩
  refine ⟨?_, ?_, by rw [next.2]; rfl, fun _ => ⟨usable, ok⟩, fun refused => ?_⟩
  · rw [trail, logins, List.map_append]
    exact List.getLast?_concat
  · rw [next.1, Login.retried, if_pos usable, if_pos ok, same]
    rfl
  · rw [ok] at refused
    cases refused

/-- Where what is remembered of a login is not accepted, the login itself is, when
its turn comes. -/
theorem walk_retries (hc : resolver.connector = .steady answer) (past : List Login)
    (known : KnownLogins) {front later again : List Source} {last : Source}
    (h : offers = front ++ last :: later)
    (refused : ∀ source ∈ front, ∃ e, answer (source.login resolver.endpoint) = .error e)
    (accepted : answer (last.login resolver.endpoint) = .ok session)
    (remembered : again.map (Source.login resolver.endpoint) =
      if (last.login resolver.endpoint).Usable resolver.asAdministrator then
        [(last.login resolver.endpoint).kept resolver.asAdministrator] else []) :
    let trail := resolver.walk past known (again ++ offers)
    resolver.logins trail.tried = (last.login resolver.endpoint).retried answer
        resolver.asAdministrator (resolver.logins (front ++ [last])) ∧
      trail.session.isSome = true := by
  subst h
  intro trail
  by_cases usable : (last.login resolver.endpoint).Usable resolver.asAdministrator
  · rw [if_pos usable] at remembered
    obtain ⟨source, rfl, kept⟩ := List.map_eq_singleton_iff.mp remembered
    rw [Login.retried, if_pos usable, ← kept]
    cases answered : answer (source.login resolver.endpoint) with
    | ok session' =>
      obtain ⟨tried, opened⟩ : trail.tried = [source] ∧ trail.session = some session' :=
        walk_steady hc [] (by simp) answered
      rw [tried, opened]
      exact ⟨rfl, rfl⟩
    | error e =>
      obtain ⟨tried, opened⟩ : trail.tried = source :: front ++ [last] ∧
          trail.session = some session :=
        walk_steady hc (source :: front)
          (List.forall_mem_cons.mpr ⟨⟨e, answered⟩, refused⟩) accepted
      rw [tried, opened]
      exact ⟨rfl, rfl⟩
  · rw [if_neg usable] at remembered
    obtain rfl := List.map_eq_nil_iff.mp remembered
    obtain ⟨tried, opened⟩ : trail.tried = front ++ [last] ∧ trail.session = some session :=
      walk_steady hc front refused accepted
    rw [Login.retried, if_neg usable, tried, opened]
    exact ⟨rfl, rfl⟩

/-- The login of a database that has worked is tried again as it is remembered,
and if that fails with the others that were tried. -/
theorem again_of_offered (hc : resolver.connector = .steady answer)
    (origin : ∀ source ∈ offers, source.origin = .database) {front later : List Source}
    {last : Source} (h : offers = front ++ last :: later)
    (refused : ∀ source ∈ front, ∃ e, answer (source.login resolver.endpoint) = .error e)
    (accepted : answer (last.login resolver.endpoint) = .ok session)
    (trail : resolver.walkAll known offers =
      ⟨known.remembered resolver.asAdministrator ++ front ++ [last], some session,
        last.adopted resolver.asAdministrator
          (forget known (known.remembered resolver.asAdministrator ++ front))⟩) :
    resolver.Again answer known offers (resolver.walkAll known offers)
      (resolver.walkAll (resolver.walkAll known offers).known offers)
      (last.login resolver.endpoint) := by
  have offered : ∀ source ∈ front, source.origin = .database := fun source hs =>
    origin source (h ▸ List.mem_append_left _ hs)
  have among : last ∈ offers := h ▸ by simp
  have database : last.origin = .database := origin last among
  have forgotten : (forget known (known.remembered resolver.asAdministrator ++ front)).remembered
      resolver.asAdministrator = [] := by
    rw [forget, List.foldl_append]
    show (forget (forget known (known.remembered resolver.asAdministrator)) front).remembered _ = []
    rw [forget_of_database offered]
    exact KnownLogins.remembered_forget (List.append_nil _).symm
  have kept : ((resolver.walkAll known offers).known.remembered resolver.asAdministrator).map
      (Source.login resolver.endpoint) =
      if (last.login resolver.endpoint).Usable resolver.asAdministrator then
        [(last.login resolver.endpoint).kept resolver.asAdministrator] else [] := by
    rw [trail]
    exact KnownLogins.remembered_adopted resolver.endpoint forgotten database
  have rest : (resolver.logins (resolver.walkAll known offers).tried).drop
      (known.remembered resolver.asAdministrator).length = resolver.logins (front ++ [last]) := by
    rw [trail, logins, ← List.map_drop, List.append_assoc, List.drop_left]
    rfl
  obtain ⟨tried, opened⟩ :=
    walk_retries hc [] (resolver.walkAll known offers).known h refused accepted kept
  refine ⟨?_, by rw [rest]; exact tried, opened, fun none => ?_, fun _ => ⟨last, among, rfl⟩⟩
  · rw [trail, logins, List.map_append]
    exact List.getLast?_concat
  · rw [rest, logins, List.map_append] at none
    cases (List.append_eq_nil_iff.mp none).2

/-- A second resolution opens a session if the first has. -/
theorem walkAll_again (hc : resolver.connector = .steady answer)
    (origin : ∀ source ∈ offers, source.origin = .database)
    (h : (resolver.walkAll known offers).session = some session) :
    ∃ login, answer login = .ok session ∧
      resolver.Again answer known offers (resolver.walkAll known offers)
        (resolver.walkAll (resolver.walkAll known offers).known offers) login := by
  rcases walk_spec resolver [] known
      (known.remembered resolver.asAdministrator ++ offers) with
    ⟨earlier, last, later, opened, split, refused, accepted, trail⟩ | ⟨-, trail⟩
  · obtain rfl : opened = session := by
      rw [walkAll, trail] at h
      exact Option.some.inj h
    rw [hc] at accepted
    have refused := refused.steady hc
    refine ⟨_, accepted, ?_⟩
    -- the login that worked is one of a database or a remembered one
    rcases List.append_eq_append_iff.mp split with ⟨front, rfl, offered⟩ | ⟨rest, all, tail⟩
    · exact again_of_offered hc origin offered
        (fun source hs => refused source (List.mem_append_right _ hs)) accepted trail
    · cases rest with
      | nil =>
        rw [List.append_nil] at all
        subst all
        have offered : offers = [] ++ last :: later := tail.symm
        exact again_of_offered hc origin offered (by simp) accepted
          (by rw [List.append_nil]; exact trail)
      | cons source rest =>
        obtain ⟨rfl, -⟩ := List.cons.inj tail
        exact again_of_remembered hc all accepted trail
  · rw [walkAll, trail] at h
    cases h

end Resolver

namespace Server

/-- A second session is opened after a first with a login that worked. -/
structure Repeats (server : Server) (answer : Login → Except Error Session)
    (asAdministrator : Bool) (run again : ServiceRun Session) (login : Login) : Prop where
  /-- The login that worked is the last that was tried. -/
  last : (attempts run.events).getLast? = some login
  worked : answer login = run.outcome
  opens : again.outcome.isOk = true
  /-- Only what is remembered of an administrator whose name is not in capitals
  may be refused. -/
  refused : (answer (login.kept asAdministrator)).isOk = false → asAdministrator = true ∧
    isAdministrator login.username = true ∧ login.username ≠ administrator
  attempted : attempts again.events = login.retried answer asAdministrator
    ((attempts run.events).drop (server.known.remembered asAdministrator).length)
  /-- There is one attempt if what is remembered of the login is accepted, and
  else only if nothing is remembered of the login and it was the first of a
  database that was tried. -/
  once : (attempts again.events).length = 1 ↔
    login.Usable asAdministrator ∧ (answer (login.kept asAdministrator)).isOk = true ∨
      ¬ login.Usable asAdministrator ∧
        ((attempts run.events).drop (server.known.remembered asAdministrator).length).length = 1

theorem openSession_steady (server : Server) (world : World)
    (answer : Login → Except Error Session) (asAdministrator : Bool) :
    let resolver := server.resolver (.steady answer) none asAdministrator
    let trail := resolver.walkAll server.known (server.offers world asAdministrator)
    let run := server.openSession world (.steady answer) none asAdministrator
    (∀ session, run.outcome = .ok session ↔ trail.session = some session) ∧
      run.server = { server with known := trail.known } ∧
      attempts run.events = resolver.logins trail.tried := by
  intro resolver trail run
  have patient : ∀ i ∈ (none : Option Indicator), ∀ calls, i calls = false := by simp
  obtain ⟨outcome, after, shown⟩ :=
    server.openSession_walks world (.steady answer) asAdministrator patient
  refine ⟨fun session => ?_, after, ?_⟩
  · rw [show run.outcome = trail.session.elim _ _ from outcome]
    cases trail.session <;> simp
  · rw [← ServiceEvent.attempts_marks, shown, attempts_append, Resolver.attempts_pace]
    rfl

/-- A server that has opened a session opens another one when it is asked again,
and tries what it remembers of the login that worked first. -/
theorem openSession_again (server : Server) (world : World)
    (answer : Login → Except Error Session) (asAdministrator : Bool) {session : Session}
    (h : (server.openSession world (.steady answer) none asAdministrator).outcome = .ok session) :
    let run := server.openSession world (.steady answer) none asAdministrator
    ∃ login, server.Repeats answer asAdministrator run
      (run.server.openSession world (.steady answer) none asAdministrator) login := by
  intro run
  let resolver := server.resolver (.steady answer) none asAdministrator
  let trail := resolver.walkAll server.known (server.offers world asAdministrator)
  have steady : resolver.connector = .steady answer := rfl
  obtain ⟨outcome, after, attempted⟩ := server.openSession_steady world answer asAdministrator
  obtain ⟨login, worked, last, tried, opens, same, offered⟩ :=
    Resolver.walkAll_again steady (fun _ => origin_of_mem_offers) ((outcome session).mp h)
  obtain ⟨outcome', -, attempted'⟩ :=
    openSession_steady { server with known := trail.known } world answer asAdministrator
  rw [show resolver.logins trail.tried = attempts run.events from attempted.symm] at last tried same
  have repeated := attempted'.trans tried
  rw [show run.server = _ from after]
  refine ⟨login, last, worked.trans h.symm, ?_, fun refused => ?_, repeated, ?_⟩
  · obtain ⟨session', second⟩ := Option.isSome_iff_exists.mp opens
    rw [(outcome' session').mpr second]
    rfl
  · have renamed : login.kept asAdministrator ≠ login := by
      intro same
      rw [same, worked] at refused
      cases refused
    cases asAdministrator with
    | false => exact absurd rfl renamed
    | true =>
      obtain ⟨source, among, rfl⟩ := offered refused
      refine ⟨rfl, (List.mem_filter.mp among).2, fun capitals => renamed ?_⟩
      rw [Login.kept, if_pos rfl, ← capitals]
  · rw [repeated]
    exact Login.length_retried same

/-- A connector that accepts one user with one password. -/
def accepts (username password : String) (login : Login) : Except Error Session :=
  Connector.accepting [(username, password)] ⟨.ok []⟩ [] login

/-- A server that remembers logins which do not work any more tries them once. -/
theorem openSession_again_outdated :
    let answer := accepts "CAROL" "secret"
    let run := outdated.openSession {} (.steady answer) none false
    ∃ login, outdated.Repeats answer false run
        (run.server.openSession {} (.steady answer) none false) login ∧
      (attempts run.events).map (·.username) = ["SYSDBA", "BOB", "CAROL"] ∧
      (attempts (run.server.openSession {} (.steady answer) none false).events).map
        (·.username) = ["CAROL"] := by
  intro answer run
  have opened : run.outcome = .ok ⟨.ok []⟩ := rfl
  obtain ⟨login, again⟩ := outdated.openSession_again {} answer false opened
  exact ⟨login, again, by decide +kernel, by decide +kernel⟩

/-- The logins tried for a second session, if a first is opened. -/
def triedAgain (server : Server) (world : World) (answer : Login → Except Error Session)
    (asAdministrator : Bool) : Option (List (String × String)) :=
  let run := server.openSession world (.steady answer) none asAdministrator
  if run.outcome.isOk then
    some ((attempts (run.server.openSession world (.steady answer) none
      asAdministrator).events).map fun login => (login.username, login.password))
  else none

/-- A server of databases with stored logins. -/
def withStored (logins : List (String × String)) : Server :=
  { (default : Server) with
    databases := logins.map fun (username, password) =>
      { (default : Database) with username, password } }

/-- A server of databases with connections. -/
def withConnected (connections : Nat) : Server :=
  { (default : Server) with
    databases := (List.range connections).map fun index =>
      { (default : Database) with connection := some ⟨index⟩ } }

/-- The connections of users. -/
def connectedAs (logins : List (String × String)) : World :=
  { connections := ⟨(logins.map fun (user, password) =>
      { (default : Catalog) with connected := true, user, password }).toArray⟩ }

/-- A user without a name and an administrator without a password are not
remembered, and an administrator not under a name in small letters. Each takes
two attempts in the second session. -/
theorem openSession_retried :
    (withStored [("BOB", "x"), ("", "y")]).triedAgain {} (accepts "" "y") false =
        some [("BOB", "x"), ("", "y")] ∧
      (withConnected 2).triedAgain (connectedAs [("SYSDBA", "x"), ("SYSDBA", "")])
          (accepts "SYSDBA" "") true = some [("SYSDBA", "x"), ("SYSDBA", "")] ∧
      (withStored [("sysdba", "y")]).triedAgain {} (accepts "sysdba" "y") true =
        some [("SYSDBA", "y"), ("sysdba", "y")] := by
  decide +kernel

end Server

end MetaCatalog
