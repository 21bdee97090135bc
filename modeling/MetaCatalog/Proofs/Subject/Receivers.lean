import MetaCatalog.Proofs.Subject.Nesting

/-!
# Whom a delivery reaches

A delivery updates the observers that were attached and alive when it started,
each of them once and in the order in which they were attached, whatever they do
while they are updated (`Course.delivers`). A `Course` is a run with the states
it has passed, so that what holds now can be traced back to the state in which
a delivery started, and to those in which observers were attached.
-/

namespace MetaCatalog

namespace Audience

variable {past states : List Audience} {audience after : Audience} {task : Task}
  {rest : List Task} {delivery : Nat} {receivers : List ObserverId} {first second : ObserverId}

/-! ## Attachments -/

/-- Observers are detached, or one that is not attached is, after all others. -/
def Attaches (observers observers' : List ObserverId) : Prop :=
  observers'.Sublist observers ∨ ∃ o ∉ observers, observers' = observers ++ [o]

theorem deliverIf_observers (audience : Audience) (due : Bool × Subject) :
    (audience.deliverIf due).subject.observers.Sublist due.2.observers := by
  rcases due with ⟨_ | _, subject⟩
  · exact List.Sublist.refl _
  · exact List.filter_sublist

theorem answer_subject (audience : Audience) (a : Answer) :
    (audience.answer a).subject = audience.subject := by
  obtain ⟨answers, same⟩ := audience.answer_eq a
  rw [same]

theorem attach_attaches (subject : Subject) (o : ObserverId) :
    Attaches subject.observers (subject.attach o).observers := by
  unfold Subject.attach
  split
  · exact .inl (List.Sublist.refl _)
  · rename_i new
    exact .inr ⟨o, fun there => new (List.contains_iff_mem.mpr there), rfl⟩

theorem work_attaches (audience : Audience) (task : Task) :
    Attaches audience.subject.observers (audience.work task).subject.observers := by
  have same : Attaches audience.subject.observers audience.subject.observers :=
    .inl (List.Sublist.refl _)
  cases made : task.signal? with
  | some signal =>
    left
    by_cases lock : signal = .lock
    · subst lock
      rw [(work_lock made).1]
      exact List.Sublist.refl _
    · obtain ⟨answers, work⟩ := work_signal audience made lock
      rw [work, ← Subject.signal_observers audience.subject signal]
      exact deliverIf_observers _ _
  | none =>
    match task, made with
    | .perform (.attach o), _ =>
      show Attaches _ (subject (ite ..)).observers
      split
      · rw [answer_subject]
        exact attach_attaches audience.subject o
      · rwa [answer_subject]
    | .perform (.detach o), _ =>
      show Attaches _ (subject (ite ..)).observers
      split
      · rw [answer_subject]
        exact .inl List.filter_sublist
      · rwa [answer_subject]
    | .perform (.release o), _ =>
      show Attaches _ (answer _ _).subject.observers
      rwa [answer_subject]
    | .perform .describe, _ =>
      show Attaches _ (answer _ _).subject.observers
      rwa [answer_subject]
    | .perform (.mark text), _ =>
      show Attaches _ (answer _ _).subject.observers
      rwa [answer_subject]
    | .perform .idle, _ =>
      show Attaches _ (answer _ _).subject.observers
      rwa [answer_subject]
    | .update d o, _ =>
      show Attaches _ (audience.update d o).subject.observers
      unfold update
      dsimp only
      split <;> exact same
    | .dismiss _, _ => exact same

/-- In one of the states the first observer was attached and the second was not,
and the first has stayed attached since then. -/
def AttachedBefore (states : List Audience) (first second : ObserverId) : Prop :=
  ∃ earlier state later, states = earlier ++ state :: later ∧
    first ∈ state.subject.observers ∧ second ∉ state.subject.observers ∧
      ∀ s ∈ later, first ∈ s.subject.observers

theorem AttachedBefore.append (h : AttachedBefore states first second)
    (stays : first ∈ after.subject.observers) :
    AttachedBefore (states ++ [after]) first second := by
  obtain ⟨earlier, state, later, rfl, attached, not_yet, since⟩ := h
  refine ⟨earlier, state, later ++ [after], by rw [List.append_assoc, List.cons_append], attached,
    not_yet, fun s hs => ?_⟩
  rcases List.mem_append.mp hs with hs | hs
  · exact since s hs
  · exact List.mem_singleton.mp hs ▸ stays

/-- No observer is attached twice, and observers stand in the order in which
they were attached. -/
structure Attached (past : List Audience) (audience : Audience) : Prop where
  once : audience.subject.observers.Nodup
  inOrder : audience.subject.observers.Pairwise (AttachedBefore (past ++ [audience]))

theorem Attached.next (h : Attached past audience)
    (step : Attaches audience.subject.observers after.subject.observers) :
    Attached (past ++ [audience]) after := by
  rcases step with fewer | ⟨o, new, more⟩
  · refine ⟨h.once.sublist fewer, (h.inOrder.sublist fewer).imp_of_mem fun here _ before => ?_⟩
    exact before.append here
  · have stay {o' : ObserverId} (here : o' ∈ audience.subject.observers) :
        o' ∈ after.subject.observers := more ▸ List.mem_append_left _ here
    constructor
    · rw [more]
      refine List.nodup_append.mpr
        ⟨h.once, List.pairwise_singleton _ _, fun o' here o'' last same => ?_⟩
      exact new (List.mem_singleton.mp last ▸ same ▸ here)
    · rw [more]
      refine List.pairwise_append.mpr ⟨?_, List.pairwise_singleton _ _, fun o' here o'' last => ?_⟩
      · exact h.inOrder.imp_of_mem fun here _ before => before.append (stay here)
      · rw [List.mem_singleton.mp last]
        have latest : past ++ [audience] ++ [after] = past ++ audience :: [after] := by
          rw [List.append_assoc, List.singleton_append]
        exact ⟨past, audience, [after], latest, here, new,
          fun s hs => List.mem_singleton.mp hs ▸ stay here⟩

/-! ## Runs -/

/-- A run, with the states it has passed. Calls perform actions one after the
other, and between any two entries of the agenda observers may come, be let go,
and take up another script. -/
inductive Course : List Audience → Audience → Prop
  | start (id : Uuid) (scripts : List (ObserverId × List Action)) : Course [] (ofScripts id scripts)
  | call {past : List Audience} {audience : Audience} (h : Course past audience)
    (idle : audience.agenda = []) (actions : List Action) :
    Course (past ++ [audience])
      { audience with agenda := actions.map .perform, answers := [[]], events := [] }
  | work {past : List Audience} {audience : Audience} {task : Task} {rest : List Task}
    (h : Course past audience) (next : audience.agenda = task :: rest) :
    Course (past ++ [audience]) (work { audience with agenda := rest } task)
  | meanwhile {past : List Audience} {audience : Audience} (h : Course past audience)
    (held : List ObserverId) (scripts : List (ObserverId × List Action)) :
    Course (past ++ [audience]) { audience with held, scripts }

theorem Course.attached (h : Course past audience) : Attached past audience := by
  induction h with
  | start id scripts => exact ⟨.nil, .nil⟩
  | call _ _ _ ih => exact ih.next (.inl (List.Sublist.refl _))
  | @work _ audience task rest _ _ ih =>
    exact ih.next (work_attaches { audience with agenda := rest } task)
  | meanwhile _ _ _ ih => exact ih.next (.inl (List.Sublist.refl _))

theorem Course.underWay (h : Course past audience) : UnderWay audience := by
  induction h with
  | start id scripts => exact .first rfl fun _ _ => List.not_mem_nil
  | call _ _ actions _ =>
    refine .first rfl fun d o there => ?_
    obtain ⟨action, -, same⟩ := List.mem_map.mp there
    cases same
  | @work _ audience task rest _ next ih =>
    rcases work_cases { audience with agenda := rest } task with ⟨⟨_, made⟩, starts⟩ | goesOn
    · exact ih.starts next made starts
    · exact ih.goesOn next goesOn
  | meanwhile _ _ _ ih => exact { ih with }

/-- A run to the end passes states on the way. -/
theorem Course.run (h : Course past audience) : ∃ past', Course past' audience.run := by
  fun_induction Audience.run audience generalizing past with
  | case1 audience => exact ⟨past, h⟩
  | case2 audience task rest next ih => exact ih (h.work next)

theorem run_agenda (audience : Audience) : audience.run.agenda = [] := by
  fun_induction Audience.run audience with
  | case1 audience idle => exact idle
  | case2 audience task rest next ih => exact ih

theorem work_events (audience : Audience) (task : Task) :
    audience.events <+: (audience.work task).events := by
  rcases work_cases audience task with ⟨-, starts⟩ | goesOn
  · exact ⟨_, starts.events.symm⟩
  · exact ⟨_, goesOn.events.symm⟩

theorem run_events (audience : Audience) : audience.events <+: audience.run.events := by
  fun_induction Audience.run audience with
  | case1 audience => exact List.prefix_rfl
  | case2 audience task rest next ih =>
    exact (work_events { audience with agenda := rest } task).trans ih

/-! ## The start of a delivery -/

/-- From the state `before` to the next one a delivery starts. Its receivers are
the observers that are attached and alive in that state, in the order in which
they were attached, and none of them twice. -/
structure Snapshot (earlier : List Audience) (before next : Audience) (delivery : Nat)
    (receivers : List ObserverId) : Prop where
  number : before.deliveries = delivery
  counted : next.deliveries = delivery + 1
  receivers_eq : receivers = before.subject.observers.filter before.alive
  once : receivers.Nodup
  inOrder : receivers.Pairwise (AttachedBefore (earlier ++ [before]))

/-- A delivery has started in one of the states. -/
def StartedIn (states : List Audience) (delivery : Nat) (receivers : List ObserverId) : Prop :=
  ∃ earlier before next later, states = earlier ++ before :: next :: later ∧
    Snapshot earlier before next delivery receivers

theorem StartedIn.append (h : StartedIn states delivery receivers) (after : Audience) :
    StartedIn (states ++ [after]) delivery receivers := by
  obtain ⟨earlier, before, next, later, rfl, taken⟩ := h
  exact ⟨earlier, before, next, later ++ [after], List.append_assoc .., taken⟩

/-- An entry of the agenda that makes a signal keeps nobody alive. -/
theorem alive_of_signal (next : audience.agenda = task :: rest) {signal : Signal}
    (made : task.signal? = some signal) :
    alive { audience with agenda := rest } = audience.alive := by
  have keeps (o : ObserverId) : keeps o task = false := by
    match task, made with
    | .perform .announce, _ => rfl
    | .perform .lock, _ => rfl
    | .perform (.locked _), _ => rfl
    | .perform .unlock, _ => rfl
    | .leave, _ => rfl
  funext o
  unfold alive
  rw [next, List.any_cons, keeps, Bool.false_or]

theorem Attached.snapshot (h : Attached past audience) (next : audience.agenda = task :: rest)
    {signal : Signal} (made : task.signal? = some signal)
    (hs : Starts { audience with agenda := rest } after) :
    Snapshot past audience after audience.deliveries after.subject.observers := by
  have receivers : after.subject.observers = audience.subject.observers.filter audience.alive := by
    rw [hs.receivers, alive_of_signal next made]
  refine ⟨rfl, hs.deliveries, receivers, ?_, ?_⟩
  · rw [receivers]
    exact h.once.filter _
  · rw [receivers]
    exact h.inOrder.filter _

theorem Course.startedIn (h : Course past audience)
    (there : .started delivery receivers ∈ audience.events) :
    StartedIn (past ++ [audience]) delivery receivers := by
  induction h with
  | start id scripts => cases there
  | call _ _ _ _ => cases there
  | @work past audience task rest h next ih =>
    rcases work_cases { audience with agenda := rest } task with ⟨⟨_, made⟩, starts⟩ | goesOn
    · rcases starts.started.mp there with there | ⟨rfl, rfl⟩
      · exact (ih there).append _
      · refine ⟨past, audience, _, [], ?_, h.attached.snapshot next made starts⟩
        rw [List.append_assoc, List.singleton_append]
    · exact (ih (goesOn.started.mp there)).append _
  | meanwhile _ _ _ ih => exact (ih there).append _

/-! ## Deliveries -/

/-- The deliveries of the call under way. Each updates its receivers, as they
were when it started, in their order, and is over when the call ends. -/
structure Delivers (past : List Audience) (audience : Audience) : Prop where
  attached : Attached past audience
  /-- No two deliveries have one number. -/
  numbered : (audience.events.filterMap startOf?).Pairwise (· < ·)
  started : ∀ d receivers, .started d receivers ∈ audience.events →
    StartedIn (past ++ [audience]) d receivers
  /-- The receivers are those updated so far and those that the agenda has still
  to update. -/
  reached : ∀ d receivers, .started d receivers ∈ audience.events →
    updatedBy d audience.events ++ dueFrom d audience.agenda = receivers
  completed : ∀ d receivers, .started d receivers ∈ audience.events →
    updatedBy d audience.run.events = receivers
  /-- A delivery is over before one that has started earlier goes on. -/
  nested : Nested audience.events

/-- Each delivery reaches exactly the observers that were attached and alive when
it started, whatever observers do while they are updated. -/
theorem Course.delivers (h : Course past audience) : Delivers past audience := by
  have underWay := h.underWay
  refine ⟨h.attached, underWay.numbered, fun _ _ there => h.startedIn there, underWay.complete,
    fun d receivers there => ?_, underWay.nested⟩
  obtain ⟨past', ended⟩ := h.run
  have complete := ended.underWay.complete d receivers ((run_events audience).subset there)
  rw [run_agenda] at complete
  exact (List.append_nil _).symm.trans complete

/-- An observer that lets go of another one, brings in a third and announces a
change. -/
def meddler : List Action := [.detach 2, .release 2, .attach 3, .announce]

/-- The delivery inside the update reaches the third observer, and the outer one
all the same the second, which is neither attached nor held any more. -/
theorem Course.delivers_meddling :
    ∃ past audience, Course past audience ∧ audience.subject.observers = [1, 3] ∧
      audience.held = [1, 3] ∧ updatedBy 0 audience.events = [1] ∧
      updatedBy 0 audience.run.events = [1, 2] ∧ updatedBy 1 audience.run.events = [1, 3] := by
  have called := (Course.start default [(1, meddler), (2, []), (3, [])]).call rfl
    [.attach 1, .attach 2, .announce]
  have outer := ((called.work rfl).work rfl).work rfl
  have course := ((((outer.work rfl).work rfl).work rfl).work rfl).work rfl
  refine ⟨_, _, course, rfl, rfl, rfl, ?_, ?_⟩
  · exact course.delivers.completed 0 [1, 2] (List.mem_of_getElem? (i := 0) rfl)
  · exact course.delivers.completed 1 [1, 3] (List.mem_of_getElem? (i := 2) rfl)

end Audience

end MetaCatalog
