import MetaCatalog.Subject

/-!
# Observers that act

An `Audience` is a subject together with observers that act on it when they
are updated: they attach and detach observers, let them go, announce changes
and lock the subject, from inside the delivery that updates them. Each
observer has a script, which it performs at its first update only.

The audience works off an agenda. A delivery puts the updates of its receivers
in front of the agenda, so a delivery that starts inside an update is over
before the next receiver of the outer one is updated. The receivers are fixed,
and kept alive until they have been updated, when the delivery starts.
-/

namespace MetaCatalog

/-- What can be done to a subject and its observers. -/
inductive Action where
  | attach (observer : ObserverId)
  | detach (observer : ObserverId)
  /-- Let go of an observer. -/
  | release (observer : ObserverId)
  | announce
  | lock
  | unlock
  /-- Perform the steps with the subject locked. -/
  | locked (steps : List Action)
  | describe
  | mark (text : String)
  | idle
  deriving Inhabited

/-- The answer to an action. -/
inductive Answer where
  | done
  | held (isHeld : Bool)
  | described (text : String)
  | steps (answers : List Answer)
  deriving Inhabited

/-- What happened, in order. -/
inductive AudienceEvent where
  /-- A delivery started with these receivers. -/
  | started (delivery : Nat) (receivers : List ObserverId)
  /-- A receiver of a delivery was updated. -/
  | updated (delivery : Nat) (observer : ObserverId)
  | marked (text : String)

/-- What is left to do. -/
inductive Task where
  | perform (action : Action)
  /-- Update a receiver of a delivery. -/
  | update (delivery : Nat) (observer : ObserverId)
  /-- End the script of an observer. -/
  | dismiss (observer : ObserverId)
  /-- End a locked stretch. -/
  | leave

mutual

/-- The number of agenda entries an action and the steps in it come to. -/
def Action.weight : Action → Nat
  | .locked steps => 2 + Action.weights steps
  | _ => 1

/-- The weight of several actions. -/
def Action.weights : List Action → Nat
  | [] => 0
  | action :: rest => action.weight + Action.weights rest

end

/-- A subject, its observers and their scripts, at some point of a run. The
answers given so far are kept for each stretch that is open, innermost
first. -/
structure Audience where
  subject : Subject
  held : List ObserverId
  scripts : List (ObserverId × List Action)
  agenda : List Task := []
  answers : List (List Answer) := []
  events : List AudienceEvent := []
  deliveries : Nat := 0

namespace Audience

/-- Whether an agenda entry keeps an observer alive. -/
def keeps (observer : ObserverId) : Task → Bool
  | .update _ o => o == observer
  | .dismiss o => o == observer
  | _ => false

/-- Whether an observer is held or takes part in a delivery under way. -/
def alive (audience : Audience) (observer : ObserverId) : Bool :=
  audience.held.contains observer || audience.agenda.any (keeps observer)

/-- Gives an answer in the innermost open stretch. -/
def answer (audience : Audience) (a : Answer) : Audience :=
  match audience.answers with
  | [] => { audience with answers := [[a]] }
  | answers :: outer => { audience with answers := (answers ++ [a]) :: outer }

/-- Notes what happened. -/
def record (audience : Audience) (event : AudienceEvent) : Audience :=
  { audience with events := audience.events ++ [event] }

/-- Starts a delivery. -/
def deliver (audience : Audience) : Audience :=
  let subject := audience.subject.prune audience.alive
  let updates := subject.observers.map (Task.update audience.deliveries)
  { audience with
    subject
    agenda := updates ++ audience.agenda
    events := audience.events ++ [.started audience.deliveries subject.observers]
    deliveries := audience.deliveries + 1 }

/-- Starts a delivery if one is due. -/
def deliverIf (audience : Audience) : Bool × Subject → Audience
  | (true, subject) => deliver { audience with subject }
  | (false, subject) => { audience with subject }

/-- Performs an action; the steps of a locked stretch go on the agenda. -/
def perform (audience : Audience) : Action → Audience
  | .attach o =>
    if audience.held.contains o then
      { audience with subject := audience.subject.attach o }.answer (.held true)
    else audience.answer (.held false)
  | .detach o =>
    if audience.held.contains o then
      { audience with subject := audience.subject.detach o }.answer (.held true)
    else audience.answer (.held false)
  | .release o =>
    { audience with held := audience.held.filter (· != o) }.answer
      (.held (audience.held.contains o))
  | .announce => (audience.answer .done).deliverIf audience.subject.announce
  | .lock => { audience with subject := audience.subject.lock }.answer .done
  | .unlock => (audience.answer .done).deliverIf audience.subject.unlock
  | .locked steps =>
    { audience with
      subject := audience.subject.lock
      agenda := steps.map .perform ++ .leave :: audience.agenda
      answers := [] :: audience.answers }
  | .describe => audience.answer (.described audience.subject.diagnostic)
  | .mark text => (audience.record (.marked text)).answer .done
  | .idle => audience.answer .done

/-- Updates a receiver, which performs its script if it has not done so. -/
def update (audience : Audience) (delivery : Nat) (observer : ObserverId) : Audience :=
  let audience := audience.record (.updated delivery observer)
  match audience.scripts.find? (·.1 == observer) with
  | none => audience
  | some (_, script) =>
    { audience with
      scripts := audience.scripts.filter (·.1 != observer)
      agenda := script.map .perform ++ .dismiss observer :: audience.agenda
      answers := [] :: audience.answers }

/-- Ends a locked stretch and answers with the answers of its steps. -/
def leave (audience : Audience) : Audience :=
  let inner := audience.answers.head?.getD []
  let audience : Audience := { audience with answers := audience.answers.tail }
  (audience.answer (.steps inner)).deliverIf audience.subject.unlock

/-- Works off one entry, which is no longer on the agenda. -/
def work (audience : Audience) : Task → Audience
  | .perform action => audience.perform action
  | .update delivery observer => audience.update delivery observer
  | .dismiss _ => { audience with answers := audience.answers.tail }
  | .leave => audience.leave

/-- The weight of the actions that an agenda entry will lead to. -/
def taskWeight : Task → Nat
  | .perform action => action.weight
  | .leave => 1
  | _ => 0

/-- The weight of the actions that an agenda will lead to. -/
def agendaWeight : List Task → Nat
  | [] => 0
  | task :: rest => taskWeight task + agendaWeight rest

/-- The weight of scripts. -/
def scriptsWeight : List (ObserverId × List Action) → Nat
  | [] => 0
  | script :: rest => Action.weights script.2 + scriptsWeight rest

/-- The weight of all actions still to be performed. -/
def actionsLeft (audience : Audience) : Nat :=
  scriptsWeight audience.scripts + agendaWeight audience.agenda

/-- Whether an agenda entry is an update. -/
def isUpdate : Task → Bool
  | .update .. => true
  | _ => false

/-- The number of updates on the agenda. -/
def updatesLeft (audience : Audience) : Nat := audience.agenda.countP isUpdate

/-! ## Every run ends -/

theorem actionsLeft_answer (audience : Audience) (a : Answer) :
    (audience.answer a).actionsLeft = audience.actionsLeft := by
  unfold answer
  split <;> rfl

theorem agendaWeight_append (first second : List Task) :
    agendaWeight (first ++ second) = agendaWeight first + agendaWeight second := by
  induction first with
  | nil => exact (Nat.zero_add _).symm
  | cons task rest ih => simp only [List.cons_append, agendaWeight, ih, Nat.add_assoc]

theorem agendaWeight_update (delivery : Nat) (observers : List ObserverId) :
    agendaWeight (observers.map (Task.update delivery)) = 0 := by
  induction observers with
  | nil => rfl
  | cons o os ih => simpa only [List.map_cons, agendaWeight, taskWeight, Nat.zero_add] using ih

theorem actionsLeft_deliver (audience : Audience) :
    audience.deliver.actionsLeft = audience.actionsLeft := by
  simp only [deliver, actionsLeft, agendaWeight_append, agendaWeight_update, Nat.zero_add]

theorem actionsLeft_deliverIf (audience : Audience) (due : Bool × Subject) :
    (audience.deliverIf due).actionsLeft = audience.actionsLeft := by
  rcases due with ⟨_ | _, subject⟩
  · rfl
  · exact actionsLeft_deliver { audience with subject }

theorem agendaWeight_perform (actions : List Action) :
    agendaWeight (actions.map Task.perform) = Action.weights actions := by
  induction actions with
  | nil => rfl
  | cons a as ih => simp only [List.map_cons, agendaWeight, ih, taskWeight, Action.weights]

/-- Performing an action uses up its weight. -/
theorem actionsLeft_perform_lt (audience : Audience) (action : Action) :
    (audience.perform action).actionsLeft < audience.actionsLeft + action.weight := by
  cases action <;> simp only [perform, Action.weight]
  case locked steps =>
    simp only [actionsLeft, agendaWeight_append, agendaWeight_perform, agendaWeight, taskWeight]
    omega
  all_goals
    first
    | (split <;> rw [actionsLeft_answer] <;> exact Nat.lt_succ_self _)
    | (rw [actionsLeft_deliverIf, actionsLeft_answer]; exact Nat.lt_succ_self _)
    | (rw [actionsLeft_answer]; exact Nat.lt_succ_self _)

theorem scriptsWeight_filter_le (p : ObserverId × List Action → Bool)
    (scripts : List (ObserverId × List Action)) :
    scriptsWeight (scripts.filter p) ≤ scriptsWeight scripts := by
  induction scripts with
  | nil => exact Nat.le_refl _
  | cons s rest ih =>
    rw [List.filter_cons]
    split <;> simp only [scriptsWeight] <;> omega

/-- Without the script of an observer, the weight of it is gone. -/
theorem scriptsWeight_filter_add_le (scripts : List (ObserverId × List Action))
    (observer : ObserverId) {found : ObserverId × List Action}
    (h : scripts.find? (·.1 == observer) = some found) :
    scriptsWeight (scripts.filter (·.1 != observer)) + Action.weights found.2 ≤
      scriptsWeight scripts := by
  induction scripts with
  | nil => simp at h
  | cons s rest ih =>
    by_cases hs : s.1 == observer
    · simp only [List.find?_cons, hs, Option.some.injEq] at h
      subst h
      have hneg : (s.1 != observer) = false := by simpa using hs
      simp only [List.filter_cons, hneg, scriptsWeight, Bool.false_eq_true, ↓reduceIte]
      have hrest := scriptsWeight_filter_le (·.1 != observer) rest
      omega
    · rw [Bool.not_eq_true] at hs
      simp only [List.find?_cons, hs] at h
      have hpos : (s.1 != observer) = true := by simpa using hs
      simp only [List.filter_cons, hpos, scriptsWeight, ↓reduceIte]
      have hrest := ih h
      omega

/-- What an update brings onto the agenda was in the script before. -/
theorem actionsLeft_update_le (audience : Audience) (delivery : Nat) (observer : ObserverId) :
    (audience.update delivery observer).actionsLeft ≤ audience.actionsLeft := by
  unfold update
  simp only [record]
  split
  · exact Nat.le_refl _
  · next o script h =>
    have hscripts := scriptsWeight_filter_add_le audience.scripts observer h
    simp only [actionsLeft, agendaWeight_append, agendaWeight_perform, agendaWeight,
      taskWeight] at hscripts ⊢
    omega

theorem updatesLeft_update (audience : Audience) (delivery : Nat) (observer : ObserverId) :
    (audience.update delivery observer).updatesLeft = audience.updatesLeft := by
  unfold update
  simp only [record]
  split
  · rfl
  · simp [updatesLeft, List.countP_append, isUpdate]

theorem actionsLeft_leave (audience : Audience) :
    audience.leave.actionsLeft = audience.actionsLeft := by
  unfold leave
  rw [actionsLeft_deliverIf, actionsLeft_answer]
  rfl

/-- The order in which the states of a run descend. -/
def measure (audience : Audience) : Nat × Nat × Nat :=
  (audience.actionsLeft, audience.updatesLeft, audience.agenda.length)

theorem actionsLeft_of_agenda {audience : Audience} {task : Task} {rest : List Task}
    (h : audience.agenda = task :: rest) :
    audience.actionsLeft = { audience with agenda := rest }.actionsLeft + taskWeight task := by
  simp only [actionsLeft, h, agendaWeight]
  omega

theorem measure_work {audience : Audience} {task : Task} {rest : List Task}
    (h : audience.agenda = task :: rest) :
    Prod.Lex (· < ·) (Prod.Lex (· < ·) (· < ·))
      (({ audience with agenda := rest } : Audience).work task).measure audience.measure := by
  have hleft := actionsLeft_of_agenda h
  cases task with
  | perform action =>
    refine Prod.Lex.left _ _ ?_
    rw [hleft]
    exact actionsLeft_perform_lt _ action
  | update delivery observer =>
    have hle := actionsLeft_update_le { audience with agenda := rest } delivery observer
    have hupdates : audience.updatesLeft =
        ({ audience with agenda := rest } : Audience).updatesLeft + 1 := by
      simp only [updatesLeft, h, List.countP_cons, isUpdate, ↓reduceIte]
    simp only [taskWeight, Nat.add_zero] at hleft
    rw [← hleft] at hle
    rcases Nat.lt_or_eq_of_le hle with hlt | heq
    · exact Prod.Lex.left _ _ hlt
    · unfold measure work
      rw [heq]
      refine Prod.Lex.right _ (Prod.Lex.left _ _ ?_)
      rw [updatesLeft_update, hupdates]
      exact Nat.lt_succ_self _
  | dismiss observer =>
    simp only [taskWeight, Nat.add_zero] at hleft
    have hupdates : audience.updatesLeft =
        ({ audience with agenda := rest } : Audience).updatesLeft := by
      simp [updatesLeft, h, isUpdate]
    unfold measure
    rw [hleft, hupdates, h]
    exact Prod.Lex.right _ (Prod.Lex.right _ (Nat.lt_succ_self _))
  | leave =>
    refine Prod.Lex.left _ _ ?_
    rw [hleft]
    show (leave _).actionsLeft < _
    rw [actionsLeft_leave]
    exact Nat.lt_succ_self _

/-! ## Runs -/

/-- Works off the whole agenda. -/
def run (audience : Audience) : Audience :=
  match _ : audience.agenda with
  | [] => audience
  | task :: rest => run (({ audience with agenda := rest } : Audience).work task)
termination_by audience.measure
decreasing_by exact measure_work ‹_›

/-- Performs actions one after the other. The result is their answers, the
events meanwhile, and the audience afterwards. -/
def performAll (audience : Audience) (actions : List Action) :
    List Answer × List AudienceEvent × Audience :=
  let final :=
    run { audience with agenda := actions.map .perform, answers := [[]], events := [] }
  (final.answers.head?.getD [], final.events, final)

/-- An audience of observers none of which is attached, each with its
script. -/
def ofScripts (id : Uuid) (scripts : List (ObserverId × List Action)) : Audience :=
  { subject := { id }, held := scripts.map (·.1), scripts }

end Audience

end MetaCatalog
