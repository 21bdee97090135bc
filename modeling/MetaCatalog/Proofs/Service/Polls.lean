import MetaCatalog.Proofs.Service.Fallback

/-!
# When the user is asked

Before a login is tried, the indicator has said since the attempt before that
the user has not given up (`ServiceEvent.Released`). One attempt is made without
asking: the first, with the remembered password of the administrator
(`Server.openSession_polls`). Where no such password is remembered, a user who
has given up from the start sees no attempt.
-/

namespace MetaCatalog

open ServiceEvent (attempts attempts_append)

namespace ServiceEvent

/-- Since the last attempt, the indicator has been polled and the user had not
given up. -/
def Released (events : List ServiceEvent) : Prop :=
  ∃ earlier since, events = earlier ++ polled false :: since ∧ attempts since = []

/-- Every attempt is made after the indicator has released it, except those that
are spared. Which are may depend on the attempts before. -/
def Polls (spares : List Login → Login → Prop) (events : List ServiceEvent) : Prop :=
  ∀ before login after, events = before ++ attempt login :: after →
    Released before ∨ spares (attempts before) login

/-- Every attempt is made after the indicator has released it. -/
def AllPolled (events : List ServiceEvent) : Prop := Polls (fun _ _ => False) events

theorem released_polled (events : List ServiceEvent) : Released (events ++ [polled false]) :=
  ⟨events, [], rfl, rfl⟩

/-- What is no attempt leaves an attempt released. -/
theorem Released.append {events later : List ServiceEvent} (h : Released events)
    (hl : attempts later = []) : Released (events ++ later) := by
  obtain ⟨earlier, since, rfl, none⟩ := h
  refine ⟨earlier, since ++ later, by rw [List.append_assoc, List.cons_append], ?_⟩
  rw [attempts_append, none, hl, List.append_nil]

/-- A poll that released an attempt is among the events. -/
theorem Released.mem {events : List ServiceEvent} (h : Released events) :
    polled false ∈ events := by
  obtain ⟨earlier, since, rfl, -⟩ := h
  exact List.mem_append_right _ List.mem_cons_self

variable {spares : List Login → Login → Prop} {events : List ServiceEvent}

/-- An attempt in a longer list is one in the list before, or the new event. -/
theorem Polls.append (h : Polls spares events) {event : ServiceEvent}
    (he : ∀ login, event = attempt login → Released events ∨ spares (attempts events) login) :
    Polls spares (events ++ [event]) := by
  intro before login after split
  rcases List.eq_nil_or_concat after with rfl | ⟨front, last, rfl⟩
  · obtain ⟨rfl, one⟩ := List.append_inj' split rfl
    exact he login (List.singleton_inj.mp one)
  · rw [List.concat_eq_append, ← List.cons_append, ← List.append_assoc] at split
    exact h before login front (List.append_inj' split rfl).1

/-- Nothing is attempted. -/
theorem Polls.of_none (h : attempts events = []) : Polls spares events := by
  rintro before login after rfl
  rw [attempts_append] at h
  cases (List.append_eq_nil_iff.mp h).2

theorem Polls.mono {spares' : List Login → Login → Prop} (h : Polls spares events)
    (hs : ∀ past login, spares past login → spares' past login) : Polls spares' events :=
  fun before login after split => (h before login after split).imp_right (hs _ _)

end ServiceEvent

open ServiceEvent (Released Polls AllPolled released_polled)

namespace Resolver

/-! ## Parts -/

theorem run_bind_error {m : Resolving α} {f : α → Resolving β} {s s' : Resolution} {e : Error}
    (h : m.run s = (.error e, s')) : (m >>= f).run s = (.error e, s') := by
  show ExceptT.bindCont f (m.run s).1 (m.run s).2 = _
  rw [h]
  rfl

/-- What a part of the resolution does from a state. Events are only added, and
the attempts among them are released or spared. If the part succeeds, another
attempt may be `ready`. -/
structure Proceeds (spares : List Login → Login → Prop) (s : Resolution) (part : Resolving α)
    (ready : Bool) : Prop where
  keeps : s.events <+: (part.run s).2.events
  polls : Polls spares s.events → Polls spares (part.run s).2.events
  released : ready = true → ∀ a, (part.run s).1 = .ok a → Released (part.run s).2.events

variable {resolver : Resolver} {spares : List Login → Login → Prop} {s : Resolution}
  {ready : Bool}

namespace Proceeds

theorem pure (a : α) : Proceeds spares s (Pure.pure a) false :=
  ⟨List.prefix_rfl, id, fun h => Bool.noConfusion h⟩

/-- A part of which only the events are of interest. -/
theorem ofRun {part : Resolving α} {outcome : Except Error α} {s' : Resolution}
    (h : part.run s = (outcome, s')) (keeps : s.events <+: s'.events)
    (polls : Polls spares s.events → Polls spares s'.events)
    (released : ready = true → ∀ a, outcome = .ok a → Released s'.events) :
    Proceeds spares s part ready := by
  refine ⟨?_, ?_, ?_⟩ <;> rw [h]
  · exact keeps
  · exact polls
  · exact released

theorem throw (e : Error) : Proceeds spares s (throw e : Resolving α) false :=
  ⟨List.prefix_rfl, id, fun h => Bool.noConfusion h⟩

theorem bind {m : Resolving α} {f : α → Resolving β} {ready' : Bool}
    (hm : Proceeds spares s m ready)
    (hf : ∀ s' a, m.run s = (.ok a, s') → (ready = true → Released s'.events) →
      Proceeds spares s' (f a) ready') : Proceeds spares s (m >>= f) ready' := by
  rcases hr : m.run s with ⟨e | a, s'⟩
  · obtain ⟨keeps, polls, -⟩ := hm
    rw [hr] at keeps polls
    exact .ofRun (run_bind_error hr) keeps polls fun _ _ he => nomatch he
  · obtain ⟨keeps, polls, released⟩ := hm
    rw [hr] at keeps polls released
    obtain ⟨keeps', polls', released'⟩ := hf s' a hr fun h => released h a rfl
    rw [← run_bind_ok hr] at keeps' polls' released'
    exact ⟨keeps.trans keeps', fun h => polls' (polls h), released'⟩

/-- A part that first reads the resolution. -/
theorem read {part : Resolution → Resolving α} (h : Proceeds spares s (part s) ready) :
    Proceeds spares s (do part (← get)) ready :=
  ⟨h.keeps, h.polls, h.released⟩

/-- A part that notes one event, which is no attempt. -/
theorem record {event : ServiceEvent} (he : event.login? = none) {part : Resolving α}
    {outcome : Except Error α} (h : part.run s = (outcome, s.record event))
    (hr : ready = true → Released s.events ∨ event = .polled false) :
    Proceeds spares s part ready := by
  refine .ofRun h (List.prefix_append ..) (fun polls => polls.append ?_) fun hready _ _ => ?_
  · rintro login rfl
    cases he
  · rcases hr hready with released | rfl
    · exact released.append (by rw [attempts, List.filterMap_cons, he]; rfl)
    · exact released_polled _

end Proceeds

theorem tell_proceeds (call : ProgressCall) (hr : ready = true → Released s.events) :
    Proceeds spares s (resolver.tell call) ready := by
  have run := run_tell resolver call s
  by_cases h : resolver.indicator.isSome = true
  · rw [if_pos h] at run
    exact .record rfl run fun hready => .inl (hr hready)
  · rw [if_neg h] at run
    exact .ofRun run List.prefix_rfl id fun hready _ _ => hr hready

theorem announce_proceeds (message : String) (ready : Bool)
    (hr : ready = true → Released s.events) :
    Proceeds spares s (resolver.announce message) ready :=
  (tell_proceeds _ hr).bind fun _ _ _ hr' => tell_proceeds _ hr'

theorem run_checkCancelled {indicator : Indicator} (hi : resolver.indicator = some indicator)
    (s : Resolution) :
    resolver.checkCancelled.run s =
      (if indicator (ServiceEvent.calls s.events ++ [.poll]) then .error .cancelled else .ok (),
        s.record (.polled (indicator (ServiceEvent.calls s.events ++ [.poll])))) := by
  rw [checkCancelled, hi]
  show (if indicator (ServiceEvent.calls s.events ++ [.poll]) then throw Error.cancelled
    else pure () : Resolving Unit).run _ = _
  split <;> rfl

/-- A poll releases an attempt, or the resolution ends. -/
theorem checkCancelled_proceeds (hi : resolver.indicator.isSome = true) :
    Proceeds spares s resolver.checkCancelled true := by
  obtain ⟨indicator, hi⟩ := Option.isSome_iff_exists.mp hi
  have run := run_checkCancelled hi s
  cases hc : indicator (ServiceEvent.calls s.events ++ [.poll]) with
  | true =>
    rw [hc] at run
    refine .ofRun run (List.prefix_append ..) (fun polls => polls.append ?_) fun _ _ ha => ?_
    · exact fun _ he => nomatch he
    · cases ha
  | false =>
    rw [hc] at run
    exact .record rfl run fun _ => .inr rfl

theorem attempt_proceeds (username password : String)
    (h : Released s.events ∨
      spares (attempts s.events) { endpoint := resolver.endpoint, username, password }) :
    Proceeds spares s (resolver.attempt username password) false := by
  refine .ofRun (run_attempt resolver ⟨.database, username, password⟩ s)
    (List.prefix_append ..) (fun polls => polls.append ?_) fun h => nomatch h
  rintro login he
  cases he
  exact h

/-- An announced login that is released or spared is tried, and something is
learned of the outcome. -/
theorem trial_proceeds {message username password : String}
    {learn : Except Error Session → Resolving (Option Session)}
    (h : Released s.events ∨
      spares (attempts s.events) { endpoint := resolver.endpoint, username, password })
    (hl : ∀ outcome s', ((learn outcome).run s').2.events = s'.events) :
    Proceeds spares s (do
      resolver.announce message
      learn (← resolver.attempt username password)) false := by
  have told := run_announce resolver message s
  refine (announce_proceeds message false fun h => nomatch h).bind
    fun s' _ hs' _ => ?_
  obtain ⟨s'', announced, -, shown⟩ := told
  rw [hs'] at announced
  obtain rfl : s' = s'' := congrArg Prod.snd announced
  have past : attempts s'.events = attempts s.events := by
    rw [← ServiceEvent.attempts_marks, shown, attempts_append, ServiceEvent.attempts_marks]
    split <;> exact List.append_nil _
  have free : Released s'.events ∨
      spares (attempts s'.events) { endpoint := resolver.endpoint, username, password } := by
    rw [past]
    refine h.imp_left fun released => ?_
    have announced : Proceeds spares s (resolver.announce message) true :=
      announce_proceeds message true fun _ => released
    obtain ⟨-, -, still⟩ := announced
    rw [hs'] at still
    exact still rfl _ rfl
  refine (attempt_proceeds username password free).bind fun s₁ outcome _ _ => ?_
  have same := hl outcome s₁
  exact ⟨same ▸ List.prefix_rfl, fun polls => same.symm ▸ polls, fun h => nomatch h⟩

/-- A second part where the first has opened no session. -/
theorem orElse_proceeds {first second : Resolving (Option Session)}
    (h : Proceeds spares s first false) (h' : ∀ s', Proceeds spares s' second false) :
    Proceeds spares s (Resolver.orElse first second) false := by
  refine h.bind fun s' session _ _ => ?_
  cases session with
  | some session => exact .pure _
  | none => exact h' s'

theorem checked_proceeds (hi : resolver.indicator.isSome = true) {part : Resolving α}
    (h : ∀ s', Released s'.events → Proceeds spares s' part false) :
    Proceeds spares s (do resolver.checkCancelled; part) false :=
  (checkCancelled_proceeds hi).bind fun s' _ _ released => h s' (released rfl)

theorem tryKnown_proceeds (h : Released s.events) :
    Proceeds spares s resolver.tryKnown false := by
  unfold tryKnown
  refine .read ?_
  dsimp only
  split
  · exact .pure _
  · refine trial_proceeds (.inl h) fun outcome s' => ?_
    cases outcome <;> rfl

theorem tryCandidate_proceeds (candidate : Candidate) (h : Released s.events) :
    Proceeds spares s (resolver.tryCandidate candidate) false := by
  rw [tryCandidate]
  refine trial_proceeds (.inl h) fun outcome s' => ?_
  cases outcome <;> rfl

/-- Each candidate is tried after a poll of its own. -/
theorem tryCandidates_proceeds (hi : resolver.indicator.isSome = true)
    (candidates : List (Option Candidate)) (s : Resolution) :
    Proceeds spares s (resolver.tryCandidates candidates) false := by
  induction candidates generalizing s with
  | nil => exact .pure _
  | cons candidate rest ih =>
    cases candidate with
    | none => exact checked_proceeds hi fun s' _ => ih s'
    | some candidate =>
      exact checked_proceeds hi fun s' released =>
        orElse_proceeds (tryCandidate_proceeds candidate released) ih

/-- All that follows the attempt with the administrator's password. -/
theorem others_proceed (hi : resolver.indicator.isSome = true)
    (connected stored : List (Option Candidate)) (s : Resolution) :
    Proceeds spares s (do
      resolver.checkCancelled
      Resolver.orElse resolver.tryKnown
        (Resolver.orElse (resolver.tryCandidates connected) (resolver.tryCandidates stored)))
      false :=
  checked_proceeds hi fun _ released =>
    orElse_proceeds (tryKnown_proceeds released) fun s' =>
      orElse_proceeds (tryCandidates_proceeds hi connected s') (tryCandidates_proceeds hi stored)

/-! ## The administrator's password -/

/-- Nobody is asked about the remembered password of the administrator. -/
theorem tryAdministrator_proceeds
    (h : s.known.administratorPassword ≠ "" → spares (attempts s.events)
      ⟨resolver.endpoint, administrator, s.known.administratorPassword⟩) :
    Proceeds spares s resolver.tryAdministrator false := by
  unfold tryAdministrator
  refine .read ?_
  dsimp only
  split
  · exact .pure _
  · rename_i remembered
    refine trial_proceeds (.inr (h ?_)) fun outcome s' => ?_
    · exact fun empty => remembered (String.isEmpty_iff.mpr empty)
    · cases outcome <;> rfl

theorem run_tryAdministrator_none (h : s.known.administratorPassword = "") :
    resolver.tryAdministrator.run s = (.ok none, s) := by
  have empty : s.known.administratorPassword.isEmpty = true := String.isEmpty_iff.mpr h
  unfold tryAdministrator
  show (if s.known.administratorPassword.isEmpty then _ else _ :
    Resolving (Option Session)).run s = _
  rw [if_pos empty]
  rfl

/-- The remembered password of the administrator is tried at once. -/
theorem tryAdministrator_attempts (hi : resolver.indicator.isSome = true) (s : Resolution)
    (h : s.known.administratorPassword ≠ "") :
    ∃ message, s.events ++ [.progress (.message message), .progress .step,
        .attempt ⟨resolver.endpoint, administrator, s.known.administratorPassword⟩] =
      (resolver.tryAdministrator.run s).2.events := by
  have remembered : ¬ s.known.administratorPassword.isEmpty = true :=
    fun empty => h (String.isEmpty_iff.mp empty)
  refine ⟨"Using current " ++ administrator ++ " password", ?_⟩
  have joined (a b c : ServiceEvent) : s.events ++ [a, b, c] = s.events ++ [a] ++ [b] ++ [c] := by
    rw [List.append_assoc, List.append_assoc]
    rfl
  unfold tryAdministrator
  show _ = ((if s.known.administratorPassword.isEmpty then _ else _ :
    Resolving (Option Session)).run s).2.events
  rw [if_neg remembered, announce, bind_assoc, run_bind_ok (run_tell ..), run_bind_ok (run_tell ..),
    if_pos hi, if_pos hi, run_bind_ok (run_attempt resolver ⟨.administrator, _, _⟩ _)]
  split <;> exact joined ..

/-! ## The resolution -/

/-- All parts that may open a session. -/
def search (resolver : Resolver) (connected stored : List (Option Candidate)) :
    Resolving (Option Session) :=
  Resolver.orElse resolver.tryAdministrator do
    resolver.checkCancelled
    Resolver.orElse resolver.tryKnown
      (Resolver.orElse (resolver.tryCandidates connected) (resolver.tryCandidates stored))

/-- What the resolution ends with. -/
def conclude (resolver : Resolver) : Option Session → Resolving Session
  | some session => pure session
  | none => throw resolver.noLogin

/-- The login that is tried first, without a poll, where a password of the
administrator is remembered. -/
def Spared (resolver : Resolver) (known : KnownLogins) (past : List Login) (login : Login) :
    Prop :=
  past = [] ∧ known.administratorPassword ≠ "" ∧
    login = ⟨resolver.endpoint, administrator, known.administratorPassword⟩

/-- A resolution announces itself and goes on from there. -/
theorem run_resolve (hi : resolver.indicator.isSome = true) (known : KnownLogins)
    (connected stored : List (Option Candidate)) :
    (resolver.resolve connected stored).run { known } =
      (do resolver.conclude (← resolver.search connected stored)).run
        { known, events := [.progress (.start "Connecting..." (connected.length + 2))] } := by
  rw [resolve, run_bind_ok (run_tell resolver _ _), if_pos hi]
  rfl

theorem conclude_proceeds (session : Option Session) :
    Proceeds spares s (resolver.conclude session) false := by
  cases session with
  | some session => exact .pure _
  | none => exact .throw _

theorem resolve_polls (resolver : Resolver) (hi : resolver.indicator.isSome = true)
    (known : KnownLogins) (connected stored : List (Option Candidate)) :
    Polls (resolver.Spared known)
      ((resolver.resolve connected stored).run { known }).2.events := by
  rw [run_resolve hi]
  refine ((orElse_proceeds (tryAdministrator_proceeds fun remembered => ⟨rfl, remembered, rfl⟩)
    (others_proceed hi connected stored)).bind fun _ session _ _ => conclude_proceeds session).polls
    ?_
  exact Polls.of_none rfl

/-- What follows a part adds to its events. -/
theorem isPrefix_run_bind {m : Resolving α} {f : α → Resolving β} {s : Resolution}
    (h : ∀ s' a, s'.events <+: ((f a).run s').2.events) :
    (m.run s).2.events <+: ((m >>= f).run s).2.events := by
  rcases hr : m.run s with ⟨e | a, s'⟩
  · exact ⟨[], by rw [List.append_nil, run_bind_error hr]⟩
  · rw [run_bind_ok hr]
    exact h s' a

/-- A remembered password of the administrator is tried before anyone is asked. -/
theorem resolve_attempts (resolver : Resolver) (hi : resolver.indicator.isSome = true)
    {known : KnownLogins} (h : known.administratorPassword ≠ "")
    (connected stored : List (Option Candidate)) :
    ∃ message, [.progress (.start "Connecting..." (connected.length + 2)),
        .progress (.message message), .progress .step,
        .attempt ⟨resolver.endpoint, administrator, known.administratorPassword⟩] <+:
      ((resolver.resolve connected stored).run { known }).2.events := by
  rw [run_resolve hi]
  obtain ⟨message, tried⟩ := tryAdministrator_attempts hi
    { known, events := [.progress (.start "Connecting..." (connected.length + 2))] } h
  rw [List.singleton_append] at tried
  refine ⟨message, tried ▸ (isPrefix_run_bind fun s' session => ?_).trans
    (isPrefix_run_bind fun s' session => ?_)⟩
  · cases session with
    | some session => exact List.prefix_rfl
    | none =>
      have proceeds : Proceeds (fun _ _ => False) s' _ false :=
        others_proceed hi connected stored s'
      exact proceeds.keeps
  · have proceeds : Proceeds (fun _ _ => False) s' (resolver.conclude session) false :=
      conclude_proceeds session
    exact proceeds.keeps

/-- Where no password of the administrator is remembered, a user who has given
up at the start sees no attempt. -/
theorem resolve_cancelled (resolver : Resolver) {indicator : Indicator}
    (hi : resolver.indicator = some indicator)
    {known : KnownLogins} (h : known.administratorPassword = "")
    (connected stored : List (Option Candidate))
    (hc : indicator [.start "Connecting..." (connected.length + 2), .poll] = true) :
    (resolver.resolve connected stored).run { known } =
      (.error .cancelled, { known, events :=
        [.progress (.start "Connecting..." (connected.length + 2)), .polled true] }) := by
  have cancelled := run_checkCancelled hi
    { known, events := [.progress (.start "Connecting..." (connected.length + 2))] }
  have asked : ServiceEvent.calls [.progress (.start "Connecting..." (connected.length + 2))] =
    [.start "Connecting..." (connected.length + 2)] := rfl
  rw [asked, List.singleton_append, hc, if_pos rfl] at cancelled
  rw [run_resolve (hi ▸ rfl)]
  refine run_bind_error ?_
  rw [search, Resolver.orElse, run_bind_ok (run_tryAdministrator_none h)]
  exact run_bind_error cancelled

end Resolver

namespace Server

/-- The indicator is polled before every attempt but one. -/
structure PollsFor (server : Server) (connector : Connector) (indicator : Indicator)
    (asAdministrator : Bool) (run : ServiceRun Session) : Prop where
  /-- The first attempt is not asked about if it is the remembered password of
  the administrator. -/
  polls : Polls ((server.resolver connector (some indicator) asAdministrator).Spared server.known)
    run.events
  allPolled : AllPolled run.events ↔ server.known.administratorPassword = ""
  cancelled : server.known.administratorPassword = "" →
    indicator [.start "Connecting..." (server.databases.length + 2), .poll] = true →
    attempts run.events = [] ∧ run.outcome = .error .cancelled

/-- Before every attempt the indicator is polled, unless it is the first and the
password of the administrator is remembered. -/
theorem openSession_polls (server : Server) (world : World) (connector : Connector)
    (indicator : Indicator) (asAdministrator : Bool) :
    server.PollsFor connector indicator asAdministrator
      (server.openSession world connector (some indicator) asAdministrator) := by
  have polls := Resolver.resolve_polls
    (server.resolver connector (some indicator) asAdministrator) rfl server.known
    (server.databases.map (connectedCandidate world asAdministrator))
    (server.databases.map (storedCandidate world asAdministrator))
  refine ⟨polls, ⟨fun all => Decidable.byContradiction fun remembered => ?_, fun none => ?_⟩,
    fun none given => ?_⟩
  · obtain ⟨message, later, first⟩ := Resolver.resolve_attempts
      (server.resolver connector (some indicator) asAdministrator) rfl remembered
      (server.databases.map (connectedCandidate world asAdministrator))
      (server.databases.map (storedCandidate world asAdministrator))
    rcases all [_, _, _] _ later first.symm with released | spared
    · simpa using released.mem
    · exact spared
  · exact polls.mono fun _ _ spared => spared.2.1 none
  · have cancelled := Resolver.resolve_cancelled
      (server.resolver connector (some indicator) asAdministrator) rfl none
      (server.databases.map (connectedCandidate world asAdministrator))
      (server.databases.map (storedCandidate world asAdministrator))
      ((List.length_map ..).symm ▸ given)
    have run : server.openSession world connector (some indicator) asAdministrator =
      ⟨.error .cancelled, _, _⟩ :=
      congrArg (fun r => ServiceRun.mk r.1 r.2.events { server with known := r.2.known }) cancelled
    rw [run]
    exact ⟨rfl, rfl⟩

/-- A server that remembers a password of its administrator. -/
def administered : Server :=
  { (default : Server) with known := { administratorPassword := "masterkey" } }

/-- A user who has given up from the start is not asked before a login is tried
with the remembered password. -/
theorem openSession_unasked :
    let run := administered.openSession {}
      (.accepting [(administrator, "masterkey")] ⟨.ok []⟩) (some fun _ => true) false
    ¬ AllPolled run.events ∧ attempts run.events = [⟨"", "SYSDBA", "masterkey"⟩] ∧
      run.outcome.isOk = true := by
  intro run
  refine ⟨fun all => ?_, by decide +kernel, by decide +kernel⟩
  rcases all [.progress (.start "Connecting..." 2),
      .progress (.message "Using current SYSDBA password"), .progress .step]
      ⟨"", "SYSDBA", "masterkey"⟩ [] (by decide +kernel) with released | spared
  · simpa using released.mem
  · exact spared

end Server

end MetaCatalog
