import MetaCatalog.Proofs.Service.Sources

/-!
# Runs of a resolution

Where the user does not give up, each part of a resolution tries its share of
the logins in order (`Resolver.Tries`): what it leads to is what the reference
leads to, and what it shows of each login is one step and the attempt
(`Resolver.pace`). So does the whole resolution
(`Resolver.IsPatient.run_resolve`).
-/

namespace MetaCatalog

/-! ## What an indicator and a connector are shown -/

namespace ServiceEvent

/-- Whether an event is an attempt, or says how many there may be or that one
comes next. -/
def isMark : ServiceEvent → Bool
  | attempt _ => true
  | progress (.start _ _) => true
  | progress .step => true
  | _ => false

/-- The attempts among events, and what is said about them. -/
def marks (events : List ServiceEvent) : List ServiceEvent := events.filter isMark

theorem attempts_append (events later : List ServiceEvent) :
    attempts (events ++ later) = attempts events ++ attempts later :=
  List.filterMap_append

theorem attempts_marks (events : List ServiceEvent) :
    attempts (marks events) = attempts events := by
  rw [attempts, marks, List.filterMap_filter]
  refine congrArg (List.filterMap · events) (funext fun event => ?_)
  cases event with
  | attempt login => rfl
  | polled cancelled => rfl
  | progress call => cases call <;> rfl

end ServiceEvent

open ServiceEvent (attempts attempts_append marks)

namespace Resolver

/-- What the indicator, if there is one, and the connector are shown of a
login that is tried. -/
def pace (resolver : Resolver) (source : Source) : List ServiceEvent :=
  (if resolver.indicator.isSome then [.progress .step] else []) ++
    [.attempt (source.login resolver.endpoint)]

theorem attempts_pace (resolver : Resolver) (sources : List Source) :
    attempts (sources.flatMap resolver.pace) = resolver.logins sources := by
  induction sources with
  | nil => rfl
  | cons source rest ih =>
    have first : attempts (resolver.pace source) = [source.login resolver.endpoint] := by
      rw [pace]
      split <;> rfl
    rw [List.flatMap_cons, attempts_append, first, ih]
    rfl

/-- There is one step for each login that is tried. -/
theorem count_pace (resolver : Resolver) (sources : List Source) :
    (sources.flatMap resolver.pace).count (.progress .step) =
      if resolver.indicator.isSome then sources.length else 0 := by
  have each (source : Source) : (resolver.pace source).count (.progress .step) =
      if resolver.indicator.isSome then 1 else 0 := by
    rw [pace]
    split <;> rfl
  induction sources with
  | nil => split <;> rfl
  | cons source rest ih =>
    rw [List.flatMap_cons, List.count_append, each, ih]
    split
    · exact Nat.add_comm 1 rest.length
    · rfl

/-- The user never gives up. -/
def IsPatient (resolver : Resolver) : Prop :=
  ∀ indicator ∈ resolver.indicator, ∀ calls, indicator calls = false

variable {resolver : Resolver} {sources : List Source}

/-! ## Runs -/

/-- In a state, a part of the resolution tries logins: it goes the way of the
reference, and shows it. -/
def Tries (resolver : Resolver) (s : Resolution) (sources : List Source)
    (part : Resolving (Option Session)) : Prop :=
  let trail := resolver.walk (attempts s.events) s.known sources
  ∃ s', part.run s = (.ok trail.session, s') ∧ s'.known = trail.known ∧
    marks s'.events = marks s.events ++ trail.tried.flatMap resolver.pace

theorem run_bind_ok {m : Resolving α} {f : α → Resolving β} {s s' : Resolution} {a : α}
    (h : m.run s = (.ok a, s')) : (m >>= f).run s = (f a).run s' := by
  show ExceptT.bindCont f (m.run s).1 (m.run s).2 = _
  rw [h]
  rfl

/-- What is told to the indicator. -/
theorem run_tell (resolver : Resolver) (call : ProgressCall) (s : Resolution) :
    (resolver.tell call).run s =
      (.ok (), if resolver.indicator.isSome then s.record (.progress call) else s) := by
  rw [tell]
  split <;> rfl

/-- Nobody gives up, and nothing else changes. -/
theorem IsPatient.run_checkCancelled (hp : resolver.IsPatient) (s : Resolution) :
    ∃ s', resolver.checkCancelled.run s = (.ok (), s') ∧ s'.known = s.known ∧
      marks s'.events = marks s.events := by
  rw [checkCancelled]
  cases hi : resolver.indicator with
  | none => exact ⟨s, rfl, rfl, rfl⟩
  | some indicator =>
    refine ⟨s.record (.polled false), ?_, rfl, ?_⟩
    · have quiet := hp indicator hi (ServiceEvent.calls s.events ++ [.poll])
      show (if indicator (ServiceEvent.calls s.events ++ [.poll]) then throw Error.cancelled
        else pure () : Resolving Unit).run
          (s.record (.polled (indicator (ServiceEvent.calls s.events ++ [.poll])))) = _
      rw [quiet]
      rfl
    · show marks (s.events ++ [.polled false]) = _
      rw [marks, List.filter_append]
      exact List.append_nil _

theorem run_announce (resolver : Resolver) (message : String) (s : Resolution) :
    ∃ s', (resolver.announce message).run s = (.ok (), s') ∧ s'.known = s.known ∧
      marks s'.events =
        marks s.events ++ if resolver.indicator.isSome then [.progress .step] else [] := by
  rw [announce, run_bind_ok (run_tell resolver _ s), run_tell]
  by_cases h : resolver.indicator.isSome = true
  · rw [if_pos h, if_pos h, if_pos h]
    refine ⟨_, rfl, rfl, ?_⟩
    show marks ((s.events ++ [.progress (.message message)]) ++ [.progress .step]) = _
    rw [marks, List.filter_append, List.filter_append]
    exact congrArg (· ++ _) (List.append_nil _)
  · rw [if_neg h, if_neg h, if_neg h]
    exact ⟨s, rfl, rfl, (List.append_nil _).symm⟩

theorem run_attempt (resolver : Resolver) (source : Source) (s : Resolution) :
    (resolver.attempt source.username source.password).run s =
      (.ok (resolver.connector (attempts s.events) (source.login resolver.endpoint)),
        s.record (.attempt (source.login resolver.endpoint))) := rfl

/-- States that are the same to the reference. -/
theorem attempts_eq {s s' : Resolution} (h : marks s'.events = marks s.events) :
    attempts s'.events = attempts s.events := by
  rw [← ServiceEvent.attempts_marks, h, ServiceEvent.attempts_marks]

/-- An announced login is tried, and what comes of it is learned. -/
theorem tries_single {message : String} (source : Source) {s : Resolution}
    {learn : Except Error Session → Resolving (Option Session)}
    (accepted : ∀ session s', (learn (.ok session)).run s' =
      (.ok (some session), { s' with known := source.adopted resolver.asAdministrator s'.known }))
    (refused : ∀ e s', (learn (.error e)).run s' =
      (.ok none, { s' with known := source.forgotten s'.known })) :
    resolver.Tries s [source] (do
      resolver.announce message
      learn (← resolver.attempt source.username source.password)) := by
  obtain ⟨s', announced, known, shown⟩ := run_announce resolver message s
  have past : attempts s'.events = attempts s.events := by
    rw [← ServiceEvent.attempts_marks, shown, attempts_append, ServiceEvent.attempts_marks]
    split <;> exact List.append_nil _
  have paced : marks (s'.record (.attempt (source.login resolver.endpoint))).events =
      marks s.events ++ [source].flatMap resolver.pace := by
    show marks (s'.events ++ [.attempt (source.login resolver.endpoint)]) = _
    rw [marks, List.filter_append, ← marks, shown, List.append_assoc]
    exact congrArg (marks s.events ++ ·) (List.append_nil _).symm
  rw [Tries, run_bind_ok announced, run_bind_ok (run_attempt resolver source s'), past]
  cases hc : resolver.connector (attempts s.events) (source.login resolver.endpoint) with
  | ok session =>
    rw [walk_accepted _ hc, accepted]
    exact ⟨_, rfl, congrArg (source.adopted resolver.asAdministrator) known, paced⟩
  | error e =>
    rw [walk_refused _ hc, refused]
    exact ⟨_, rfl, congrArg source.forgotten known, paced⟩

/-- A part after a poll. -/
theorem Tries.checked {s : Resolution} {part : Resolving (Option Session)} (hp : resolver.IsPatient)
    (h : ∀ s', s'.known = s.known → resolver.Tries s' sources part) :
    resolver.Tries s sources (do resolver.checkCancelled; part) := by
  obtain ⟨s', polled, known, shown⟩ := hp.run_checkCancelled s
  have tries := h s' known
  rw [Tries, attempts_eq shown, known, shown] at tries
  rw [Tries, run_bind_ok polled]
  exact tries

/-- A second part goes on where the first has opened no session. -/
theorem Tries.orElse {s : Resolution} {later : List Source}
    {first second : Resolving (Option Session)} (h : resolver.Tries s sources first)
    (h' : ∀ s', s'.known = (resolver.walk (attempts s.events) s.known sources).known →
      resolver.Tries s' later second) :
    resolver.Tries s (sources ++ later) (Resolver.orElse first second) := by
  obtain ⟨s', run, known, shown⟩ := h
  rw [Tries, Resolver.orElse, run_bind_ok run]
  cases hs : (resolver.walk (attempts s.events) s.known sources).session with
  | some session =>
    rw [walk_append_of_some later hs]
    exact ⟨s', by rw [hs]; rfl, known, shown⟩
  | none =>
    obtain ⟨all, next⟩ := walk_append_of_none later hs
    rw [all] at shown
    have past : attempts s'.events = attempts s.events ++ resolver.logins sources := by
      rw [← ServiceEvent.attempts_marks, shown, attempts_append, ServiceEvent.attempts_marks,
        attempts_pace]
    obtain ⟨s'', run', known', shown'⟩ := h' s' known
    rw [past, known] at run' known' shown'
    rw [next]
    refine ⟨s'', run', known', ?_⟩
    rw [shown', shown, List.append_assoc, ← List.flatMap_append]
    rfl

/-! ## The parts -/

theorem tries_none {s : Resolution} : resolver.Tries s [] (pure none) :=
  ⟨s, rfl, rfl, (List.append_nil _).symm⟩

/-- A part that first reads the resolution. -/
theorem Tries.read {s : Resolution} {part : Resolution → Resolving (Option Session)}
    (h : resolver.Tries s sources (part s)) :
    resolver.Tries s sources (do part (← get)) := h

theorem tryAdministrator_tries (s : Resolution) :
    resolver.Tries s s.known.ofAdministrator resolver.tryAdministrator := by
  unfold tryAdministrator
  refine Tries.read ?_
  rw [KnownLogins.ofAdministrator]
  dsimp only
  split
  · exact tries_none
  · exact tries_single ⟨.administrator, _, _⟩ (fun _ _ => rfl) (fun _ _ => rfl)

theorem tryKnown_tries (s : Resolution) :
    resolver.Tries s (s.known.ofUser resolver.asAdministrator) resolver.tryKnown := by
  unfold tryKnown
  refine Tries.read ?_
  rw [KnownLogins.ofUser]
  dsimp only
  split
  · exact tries_none
  · exact tries_single ⟨.remembered, _, _⟩ (fun _ _ => rfl) (fun _ _ => rfl)

theorem adopt_eq (resolver : Resolver) (candidate : Candidate) :
    resolver.adopt candidate = candidate.toSource.adopted resolver.asAdministrator := by
  funext known
  rw [adopt]
  cases resolver.asAdministrator <;> rfl

theorem tryCandidate_tries (candidate : Candidate) (s : Resolution) :
    resolver.Tries s [candidate.toSource] (resolver.tryCandidate candidate) := by
  rw [tryCandidate, adopt_eq]
  exact tries_single candidate.toSource (fun _ _ => rfl) (fun _ _ => rfl)

/-- Databases that are passed over are not tried. -/
theorem tryCandidates_tries (hp : resolver.IsPatient) (candidates : List (Option Candidate))
    (s : Resolution) :
    resolver.Tries s (candidates.filterMap (·.map Candidate.toSource))
      (resolver.tryCandidates candidates) := by
  induction candidates generalizing s with
  | nil => exact tries_none
  | cons candidate rest ih =>
    cases candidate with
    | none => exact Tries.checked hp fun s' _ => ih s'
    | some candidate =>
      exact Tries.checked hp fun s' _ =>
        (tryCandidate_tries candidate s').orElse fun s'' _ => ih s''

/-- Trying the administrator's password does not touch the remembered login. -/
theorem ofUser_walk (past : List Login) (known : KnownLogins) (asAdministrator : Bool) :
    (resolver.walk past known known.ofAdministrator).known.ofUser asAdministrator =
      known.ofUser asAdministrator := by
  rw [KnownLogins.ofAdministrator]
  split
  · rfl
  · rw [walk]
    split <;> rfl

/-- All parts together try all logins in order. -/
theorem parts_try (hp : resolver.IsPatient) (connected stored : List (Option Candidate))
    (s : Resolution) :
    resolver.Tries s
      (s.known.ofAdministrator ++ (s.known.ofUser resolver.asAdministrator ++
        (connected.filterMap (·.map Candidate.toSource) ++
          stored.filterMap (·.map Candidate.toSource))))
      (Resolver.orElse resolver.tryAdministrator do
        resolver.checkCancelled
        Resolver.orElse resolver.tryKnown (Resolver.orElse (resolver.tryCandidates connected)
          (resolver.tryCandidates stored))) := by
  refine (tryAdministrator_tries s).orElse fun s' known => Tries.checked hp fun s'' same => ?_
  rw [← ofUser_walk (attempts s.events) s.known, ← known, ← same]
  refine (tryKnown_tries s'').orElse fun s₁ _ => ?_
  refine (tryCandidates_tries hp connected s₁).orElse fun s₂ _ => ?_
  exact tryCandidates_tries hp stored s₂

/-- A resolution goes the way of the reference. -/
theorem IsPatient.run_resolve (hp : resolver.IsPatient)
    {connected stored : List (Option Candidate)} {known : KnownLogins}
    (hs : known.ofAdministrator ++ (known.ofUser resolver.asAdministrator ++
      (connected.filterMap (·.map Candidate.toSource) ++
        stored.filterMap (·.map Candidate.toSource))) = sources) :
    ∃ s, (resolver.resolve connected stored).run { known } =
        ((resolver.walk [] known sources).session.elim (.error resolver.noLogin) .ok, s) ∧
      s.known = (resolver.walk [] known sources).known ∧
      marks s.events =
        (if resolver.indicator.isSome then
          [.progress (.start "Connecting..." (connected.length + 2))] else []) ++
          (resolver.walk [] known sources).tried.flatMap resolver.pace := by
  obtain ⟨s, told, same, shown, fresh⟩ : ∃ s : Resolution,
      (resolver.tell (.start "Connecting..." (connected.length + 2))).run { known } = (.ok (), s) ∧
      s.known = known ∧ marks s.events = (if resolver.indicator.isSome then
        [.progress (.start "Connecting..." (connected.length + 2))] else []) ∧
      attempts s.events = [] := by
    rw [run_tell]
    split
    · exact ⟨_, rfl, rfl, rfl, rfl⟩
    · exact ⟨_, rfl, rfl, rfl, rfl⟩
  obtain ⟨s', run, known', shown'⟩ := parts_try hp connected stored s
  rw [fresh, same, hs] at run known' shown'
  refine ⟨s', ?_, known', by rw [shown', shown]⟩
  rw [resolve, run_bind_ok told, run_bind_ok run]
  cases (resolver.walk [] known sources).session <;> rfl

end Resolver

end MetaCatalog
