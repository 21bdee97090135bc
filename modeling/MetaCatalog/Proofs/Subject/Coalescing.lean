import Mathlib.Data.List.Induction
import MetaCatalog.Subject.Audience

/-!
# Held-back announcements

What bears on deliveries are the `Signal`s of a run, in order: announcements,
locks and unlocks, made at top level or by an observer that is updated. In every
state of a run (`Audience.Heard`), the locks are those that the signals leave,
and a delivery is pending if one is owed: if a change was announced since the
subject was last unlocked (`Signal.Owed`). So a delivery starts with an
announcement while the subject is unlocked and with the unlock that releases the
last lock if a delivery is owed, and with nothing else (`Heard.coalesces`).
-/

namespace MetaCatalog

/-! ## Signals -/

/-- What bears on the deliveries of a subject. -/
inductive Signal where
  | announce
  | lock
  | unlock
  deriving DecidableEq

/-- The signal that an agenda entry makes. A locked stretch makes one when it
begins and one when it ends. -/
def Task.signal? : Task → Option Signal
  | .perform .announce => some .announce
  | .perform .lock => some .lock
  | .perform (.locked _) => some .lock
  | .perform .unlock => some .unlock
  | .leave => some .unlock
  | _ => none

namespace Signal

/-- The number of locks after a signal. -/
def apply (locks : Nat) : Signal → Nat
  | .announce => locks
  | .lock => locks + 1
  | .unlock => locks - 1

/-- The number of locks that signals leave. -/
def locks (signals : List Signal) : Nat := signals.foldl apply 0

theorem locks_append_singleton (signals : List Signal) (signal : Signal) :
    locks (signals ++ [signal]) = apply (locks signals) signal := by
  rw [locks, List.foldl_append]
  rfl

/-- The signals since the subject was last unlocked: a lock, and those after it.
There is a lock all the time since. -/
structure Stretch (signals before since : List Signal) : Prop where
  split : signals = before ++ lock :: since
  unlocked : locks before = 0
  locked : ∀ front, front <+: since → 0 < locks (before ++ lock :: front)

/-- A change was announced since the subject was last unlocked. -/
def Owed (signals : List Signal) : Prop :=
  ∃ before since, Stretch signals before since ∧ announce ∈ since

variable {signals before since : List Signal} {signal : Signal}

theorem Stretch.locks_pos (h : Stretch signals before since) : 0 < locks signals := by
  rw [h.split]
  exact h.locked since List.prefix_rfl

/-- A stretch goes on as long as a lock is left. -/
theorem Stretch.snoc (h : Stretch signals before since) (hl : 0 < locks (signals ++ [signal])) :
    Stretch (signals ++ [signal]) before (since ++ [signal]) := by
  have split : signals ++ [signal] = before ++ lock :: (since ++ [signal]) := by
    rw [h.split, List.append_assoc, List.cons_append]
  refine ⟨split, h.unlocked, fun front prior => ?_⟩
  rcases List.prefix_concat_iff.mp prior with rfl | prior
  · exact split ▸ hl
  · exact h.locked front prior

/-- A stretch that is longer than its lock was one before its last signal. -/
theorem Stretch.init (h : Stretch (signals ++ [signal]) before since) :
    since = [] ∧ signals = before ∧ signal = lock ∨
      ∃ front, since = front ++ [signal] ∧ Stretch signals before front := by
  obtain ⟨split, unlocked, locked⟩ := h
  rcases List.eq_nil_or_concat since with rfl | ⟨front, last, rfl⟩
  · obtain ⟨rfl, one⟩ := List.append_inj' split rfl
    exact .inl ⟨rfl, rfl, List.singleton_inj.mp one⟩
  · rw [List.concat_eq_append, ← List.cons_append, ← List.append_assoc] at split
    obtain ⟨rfl, one⟩ := List.append_inj' split rfl
    cases List.singleton_inj.mp one
    rw [List.concat_eq_append] at locked ⊢
    exact .inr ⟨front, rfl, rfl, unlocked,
      fun shorter prior => locked shorter (prior.trans (List.prefix_append ..))⟩

/-- While the subject is locked there is a stretch. -/
theorem exists_stretch (h : 0 < locks signals) : ∃ before since, Stretch signals before since := by
  induction signals using List.reverseRecOn with
  | nil => cases h
  | append_singleton signals signal ih =>
    rcases Nat.eq_zero_or_pos (locks signals) with unlocked | locked
    · -- Only a lock leaves a lock where there was none.
      rw [locks_append_singleton, unlocked] at h
      cases signal with
      | lock =>
        refine ⟨signals, [], rfl, unlocked, fun front prior => ?_⟩
        rw [List.prefix_nil.mp prior, locks_append_singleton, unlocked]
        exact Nat.one_pos
      | announce => cases h
      | unlock => cases h
    · obtain ⟨before, since, stretch⟩ := ih locked
      exact ⟨before, since ++ [signal], stretch.snoc h⟩

theorem not_owed_nil : ¬ Owed [] := by
  rintro ⟨before, since, stretch, -⟩
  exact absurd stretch.locks_pos (Nat.lt_irrefl 0)

theorem Owed.locks_pos (h : Owed signals) : 0 < locks signals :=
  let ⟨_, _, stretch, _⟩ := h
  stretch.locks_pos

/-- A delivery is owed after a signal if a lock is left, and it was owed before
or the signal announces a change while the subject is locked. -/
theorem owed_append_singleton :
    Owed (signals ++ [signal]) ↔ 0 < locks (signals ++ [signal]) ∧
      (Owed signals ∨ signal = announce ∧ 0 < locks signals) := by
  constructor
  · rintro ⟨before, since, stretch, announced⟩
    refine ⟨stretch.locks_pos, ?_⟩
    rcases stretch.init with ⟨rfl, -, -⟩ | ⟨front, rfl, earlier⟩
    · cases announced
    · rcases List.mem_append.mp announced with announced | last
      · exact .inl ⟨before, front, earlier, announced⟩
      · exact .inr ⟨(List.mem_singleton.mp last).symm, earlier.locks_pos⟩
  · rintro ⟨left, ⟨before, since, stretch, announced⟩ | ⟨rfl, locked⟩⟩
    · exact ⟨before, since ++ [signal], stretch.snoc left, List.mem_append_left _ announced⟩
    · obtain ⟨before, since, stretch⟩ := exists_stretch locked
      exact ⟨before, since ++ [announce], stretch.snoc left,
        List.mem_append_right _ List.mem_cons_self⟩

end Signal

/-! ## The subject -/

namespace Subject

/-- What a signal does to the subject, and whether a delivery is due. -/
def signal (subject : Subject) : Signal → Bool × Subject
  | .announce => subject.announce
  | .lock => (false, subject.lock)
  | .unlock => subject.unlock

/-- The subject is as its signals leave it. -/
structure Tracks (signals : List Signal) (subject : Subject) : Prop where
  locks : subject.locks = Signal.locks signals
  owed : subject.pending = true ↔ Signal.Owed signals

variable {signals : List Signal} {subject : Subject}

theorem Tracks.pending_locked (h : Tracks signals subject) (hp : subject.pending = true) :
    0 < subject.locks :=
  h.locks ▸ (h.owed.mp hp).locks_pos

theorem signal_locks (subject : Subject) (signal : Signal) :
    (subject.signal signal).2.locks = signal.apply subject.locks := by
  cases signal with
  | announce =>
    rw [Subject.signal, announce]
    split <;> rfl
  | lock => rfl
  | unlock =>
    rw [Subject.signal, unlock]
    dsimp only
    split <;> rfl

theorem signal_observers (subject : Subject) (signal : Signal) :
    (subject.signal signal).2.observers = subject.observers := by
  cases signal with
  | announce =>
    rw [Subject.signal, announce]
    split <;> rfl
  | lock => rfl
  | unlock =>
    rw [Subject.signal, unlock]
    dsimp only
    split <;> rfl

/-- After a signal a delivery is pending if a lock is left, and it was pending
or a change was announced. -/
theorem signal_pending {subject : Subject} (h : subject.pending = true → 0 < subject.locks)
    (signal : Signal) :
    (subject.signal signal).2.pending = true ↔ 0 < signal.apply subject.locks ∧
      (subject.pending = true ∨ signal = .announce ∧ 0 < subject.locks) := by
  cases signal with
  | announce =>
    by_cases locked : 0 < subject.locks
    · simp [Subject.signal, announce, isLocked, Signal.apply, locked]
    · simpa [Subject.signal, announce, isLocked, Signal.apply, locked] using fun p => locked (h p)
  | lock => simp [Subject.signal, lock, Signal.apply]
  | unlock =>
    by_cases last : subject.locks - 1 = 0
    · cases hp : subject.pending <;> simp [Subject.signal, unlock, Signal.apply, last, hp]
    · simp [Subject.signal, unlock, Signal.apply, last, Nat.pos_of_ne_zero last]

/-- A delivery is due at once for an announcement, unless the subject is locked,
and for the unlock that leaves no lock, if it was pending. -/
theorem signal_due (subject : Subject) (signal : Signal) :
    (subject.signal signal).1 = true ↔ signal = .announce ∧ subject.locks = 0 ∨
      signal = .unlock ∧ subject.locks ≤ 1 ∧ subject.pending = true := by
  cases signal with
  | announce =>
    by_cases locked : 0 < subject.locks
    · simp [Subject.signal, announce, isLocked, locked, Nat.ne_of_gt locked]
    · simp [Subject.signal, announce, isLocked, Nat.eq_zero_of_not_pos locked]
  | lock => simp [Subject.signal]
  | unlock =>
    have last : subject.locks - 1 = 0 ↔ subject.locks ≤ 1 := Nat.sub_eq_zero_iff_le
    by_cases due : subject.locks ≤ 1 ∧ subject.pending = true
    · simp [Subject.signal, unlock, due]
    · simp [Subject.signal, unlock, last, due]

theorem Tracks.signal (h : Tracks signals subject) (signal : Signal) :
    Tracks (signals ++ [signal]) (subject.signal signal).2 := by
  constructor
  · rw [signal_locks, Signal.locks_append_singleton, h.locks]
  · rw [signal_pending h.pending_locked, Signal.owed_append_singleton,
      Signal.locks_append_singleton, h.owed, h.locks]

end Subject

namespace Audience

/-! ## Turns -/

/-- Whether an event is the start of a delivery. -/
def isStart : AudienceEvent → Bool
  | .started .. => true
  | _ => false

/-- One delivery starts at once, to the observers that are alive, while the
subject is not locked. Their updates come before all else. -/
structure Starts (audience after : Audience) : Prop where
  unlocked : after.subject.locks = 0
  receivers : after.subject.observers = audience.subject.observers.filter audience.alive
  agenda : after.agenda =
    after.subject.observers.map (Task.update audience.deliveries) ++ audience.agenda
  events : after.events = audience.events ++
    [.started audience.deliveries after.subject.observers]
  deliveries : after.deliveries = audience.deliveries + 1

/-- No delivery starts. -/
structure Silent (audience after : Audience) : Prop where
  agenda : ∃ tasks, after.agenda = tasks ++ audience.agenda ∧ tasks.countP isUpdate = 0
  events : ∃ noted, after.events = audience.events ++ noted ∧ noted.countP isStart = 0
  deliveries : after.deliveries = audience.deliveries

/-- An entry of the agenda starts a delivery if it announces a change while the
subject is not locked, and if it releases the last lock while a delivery is
owed; else it starts none. -/
structure Turn (signals : List Signal) (audience : Audience) (task : Task) : Prop where
  announced : task.signal? = some .announce → audience.subject.locks = 0 →
    Starts audience (audience.work task)
  heldBack : task.signal? = some .announce → 0 < audience.subject.locks →
    Silent audience (audience.work task)
  released : task.signal? = some .unlock → audience.subject.locks = 1 → Signal.Owed signals →
    Starts audience (audience.work task)
  notOwed : task.signal? = some .unlock → ¬ (audience.subject.locks = 1 ∧ Signal.Owed signals) →
    Silent audience (audience.work task)
  other : task.signal? ≠ some .announce → task.signal? ≠ some .unlock →
    Silent audience (audience.work task)

variable {signals : List Signal} {audience : Audience} {task : Task} {rest : List Task}

/-- What changes only subject, observers, scripts and answers is silent. -/
theorem Silent.of_eq {after : Audience} (agenda : after.agenda = audience.agenda)
    (events : after.events = audience.events)
    (deliveries : after.deliveries = audience.deliveries) :
    Silent audience after :=
  ⟨⟨[], agenda, rfl⟩, ⟨[], by rw [events, List.append_nil], rfl⟩, deliveries⟩

theorem answer_eq (audience : Audience) (a : Answer) :
    ∃ answers, audience.answer a = { audience with answers } := by
  rw [answer]
  split
  · exact ⟨_, rfl⟩
  · exact ⟨_, rfl⟩

theorem countP_isUpdate_perform (actions : List Action) :
    (actions.map Task.perform).countP isUpdate = 0 := by
  rw [List.countP_map]
  exact List.countP_eq_zero.mpr fun _ _ => Bool.false_ne_true

/-- An announcement or an unlock delivers if a delivery is due. -/
theorem work_signal (audience : Audience) {signal : Signal} (h : task.signal? = some signal)
    (hs : signal ≠ .lock) :
    ∃ answers, audience.work task =
      deliverIf { audience with answers } (audience.subject.signal signal) := by
  have answered (a : Answer) : ∃ answers, (audience.answer a).deliverIf
      (audience.subject.signal signal) = deliverIf { audience with answers }
        (audience.subject.signal signal) :=
    let ⟨answers, same⟩ := audience.answer_eq a
    ⟨answers, by rw [same]⟩
  match task, h with
  | .perform .announce, rfl => exact answered _
  | .perform .unlock, rfl => exact answered _
  | .leave, rfl =>
    obtain ⟨answers, same⟩ := answer_eq { audience with answers := audience.answers.tail }
      (.steps (audience.answers.head?.getD []))
    refine ⟨answers, ?_⟩
    show deliverIf (answer _ _) _ = _
    rw [same]
    rfl
  | .perform .lock, rfl => exact absurd rfl hs
  | .perform (.locked _), rfl => exact absurd rfl hs

/-- A lock starts no delivery. -/
theorem work_lock (h : task.signal? = some .lock) :
    (audience.work task).subject = audience.subject.lock ∧
      Silent audience (audience.work task) := by
  match task, h with
  | .perform .lock, _ =>
    obtain ⟨answers, same⟩ := answer_eq { audience with subject := audience.subject.lock } .done
    show (answer _ _).subject = _ ∧ Silent _ (answer _ _)
    rw [same]
    exact ⟨rfl, .of_eq rfl rfl rfl⟩
  | .perform (.locked steps), _ =>
    refine ⟨rfl, ⟨steps.map .perform ++ [.leave], ?_, ?_⟩, ⟨[], ?_, rfl⟩, rfl⟩
    · show steps.map Task.perform ++ .leave :: audience.agenda = _
      rw [List.append_assoc, List.singleton_append]
    · rw [List.countP_append, countP_isUpdate_perform]
      rfl
    · exact (List.append_nil _).symm

/-- No delivery starts, and neither locks nor what is pending changes. -/
structure Indifferent (audience after : Audience) : Prop where
  subject : ∃ observers, after.subject = { audience.subject with observers }
  silent : Silent audience after

theorem Indifferent.answer {base : Audience} (h : Indifferent audience base) (a : Answer) :
    Indifferent audience (base.answer a) := by
  obtain ⟨answers, same⟩ := base.answer_eq a
  rw [same]
  exact ⟨h.subject, h.silent.agenda, h.silent.events, h.silent.deliveries⟩

theorem attach_observers (subject : Subject) (observer : ObserverId) :
    ∃ observers, subject.attach observer = { subject with observers } := by
  rw [Subject.attach]
  split
  · exact ⟨subject.observers, rfl⟩
  · exact ⟨_, rfl⟩

/-- An update notes itself, and puts the script of the observer on the agenda. -/
theorem update_indifferent (delivery : Nat) (observer : ObserverId) :
    Indifferent audience (audience.update delivery observer) := by
  unfold update
  dsimp only
  split
  · exact ⟨⟨_, rfl⟩, ⟨[], rfl, rfl⟩, ⟨_, rfl, rfl⟩, rfl⟩
  · rename_i script _
    refine ⟨⟨_, rfl⟩, ⟨script.map .perform ++ [.dismiss observer], ?_, ?_⟩, ⟨_, rfl, rfl⟩, rfl⟩
    · show script.map Task.perform ++ .dismiss observer :: audience.agenda = _
      rw [List.append_assoc, List.singleton_append]
    · rw [List.countP_append, countP_isUpdate_perform]
      rfl

theorem work_none (audience : Audience) (h : task.signal? = none) :
    Indifferent audience (audience.work task) := by
  have changed (subject : Subject) (held : List ObserverId)
      (same : ∃ observers, subject = { audience.subject with observers }) :
      Indifferent audience { audience with subject, held } :=
    ⟨same, .of_eq rfl rfl rfl⟩
  match task, h with
  | .perform (.attach observer), _ =>
    show Indifferent audience (ite ..)
    split
    · exact (changed _ _ (attach_observers ..)).answer _
    · exact (changed _ _ ⟨_, rfl⟩).answer _
  | .perform (.detach observer), _ =>
    show Indifferent audience (ite ..)
    split
    · exact (changed (audience.subject.detach observer) _ ⟨_, rfl⟩).answer _
    · exact (changed _ _ ⟨_, rfl⟩).answer _
  | .perform (.release observer), _ =>
    exact (changed _ (audience.held.filter (· != observer)) ⟨_, rfl⟩).answer _
  | .perform .describe, _ => exact (changed _ _ ⟨_, rfl⟩).answer _
  | .perform (.mark text), _ =>
    have marked : Indifferent audience (audience.record (.marked text)) :=
      ⟨⟨_, rfl⟩, ⟨[], rfl, rfl⟩, ⟨_, rfl, rfl⟩, rfl⟩
    exact marked.answer _
  | .perform .idle, _ => exact (changed _ _ ⟨_, rfl⟩).answer _
  | .update delivery observer, _ => exact update_indifferent delivery observer
  | .dismiss _, _ => exact ⟨⟨_, rfl⟩, .of_eq rfl rfl rfl⟩

/-- Where a delivery is due it starts. -/
theorem deliverIf_starts {due : Bool × Subject} (answers : List (List Answer)) (h : due.1 = true)
    (observers : due.2.observers = audience.subject.observers) (unlocked : due.2.locks = 0) :
    Starts audience (deliverIf { audience with answers } due) := by
  rcases due with ⟨_, subject⟩
  cases h
  refine ⟨unlocked, ?_, rfl, rfl, rfl⟩
  show subject.observers.filter _ = _
  rw [show subject.observers = _ from observers]
  rfl

theorem deliverIf_silent {due : Bool × Subject} (answers : List (List Answer))
    (h : due.1 = false) : Silent audience (deliverIf { audience with answers } due) := by
  rcases due with ⟨_, subject⟩
  cases h
  exact .of_eq rfl rfl rfl

theorem deliverIf_subject (audience : Audience) (due : Bool × Subject) :
    ∃ observers, (audience.deliverIf due).subject = { due.2 with observers } := by
  rcases due with ⟨_ | _, subject⟩
  · exact ⟨subject.observers, rfl⟩
  · exact ⟨_, rfl⟩

/-- A subject that is tracked settles what an agenda entry does. -/
theorem turn (audience : Audience) (h : Subject.Tracks signals audience.subject) (task : Task) :
    Turn signals audience task := by
  constructor
  · intro announces unlocked
    obtain ⟨answers, work⟩ := work_signal audience announces nofun
    rw [work]
    exact deliverIf_starts answers ((Subject.signal_due ..).mpr (.inl ⟨rfl, unlocked⟩))
      (Subject.signal_observers ..) ((Subject.signal_locks ..).trans unlocked)
  · intro announces locked
    obtain ⟨answers, work⟩ := work_signal audience announces nofun
    rw [work]
    refine deliverIf_silent answers (Bool.eq_false_iff.mpr fun due => ?_)
    rcases (Subject.signal_due ..).mp due with ⟨-, unlocked⟩ | ⟨other, -⟩
    · exact Nat.ne_of_gt locked unlocked
    · cases other
  · intro unlocks last owed
    obtain ⟨answers, work⟩ := work_signal audience unlocks nofun
    rw [work]
    refine deliverIf_starts answers
      ((Subject.signal_due ..).mpr (.inr ⟨rfl, Nat.le_of_eq last, h.owed.mpr owed⟩))
      (Subject.signal_observers ..) ?_
    rw [Subject.signal_locks, last]
    rfl
  · intro unlocks kept
    obtain ⟨answers, work⟩ := work_signal audience unlocks nofun
    rw [work]
    refine deliverIf_silent answers (Bool.eq_false_iff.mpr fun due => ?_)
    rcases (Subject.signal_due ..).mp due with ⟨other, -⟩ | ⟨-, last, pending⟩
    · cases other
    · exact kept ⟨Nat.le_antisymm last (h.pending_locked pending), h.owed.mp pending⟩
  · intro noAnnouncement noUnlock
    cases made : task.signal? with
    | none => exact (audience.work_none made).silent
    | some signal =>
      cases signal with
      | announce => exact absurd made noAnnouncement
      | lock => exact (work_lock made).2
      | unlock => exact absurd made noUnlock

/-- A subject stays tracked by the signals of the agenda entries. -/
theorem tracks_work (audience : Audience) (h : Subject.Tracks signals audience.subject)
    (task : Task) :
    Subject.Tracks (signals ++ task.signal?.toList) (audience.work task).subject := by
  cases made : task.signal? with
  | none =>
    obtain ⟨observers, same⟩ := (audience.work_none made).subject
    rw [same, Option.toList_none, List.append_nil]
    exact ⟨h.locks, h.owed⟩
  | some signal =>
    rw [Option.toList_some]
    have tracked := h.signal signal
    by_cases lock : signal = .lock
    · subst lock
      exact (work_lock made).1 ▸ tracked
    · obtain ⟨answers, work⟩ := work_signal audience made lock
      obtain ⟨observers, same⟩ := deliverIf_subject { audience with answers }
        (audience.subject.signal signal)
      rw [work, same]
      exact ⟨tracked.locks, tracked.owed⟩

/-! ## Runs -/

/-- The audience is reached with these signals: calls perform actions one after
the other, and between any two entries of the agenda observers may come, be let
go, and take up another script. -/
inductive Heard : List Signal → Audience → Prop
  | start (id : Uuid) (scripts : List (ObserverId × List Action)) : Heard [] (ofScripts id scripts)
  | call {signals : List Signal} {audience : Audience} (h : Heard signals audience)
    (idle : audience.agenda = []) (actions : List Action) :
    Heard signals { audience with agenda := actions.map .perform, answers := [[]], events := [] }
  | work {signals : List Signal} {audience : Audience} {task : Task} {rest : List Task}
    (h : Heard signals audience) (next : audience.agenda = task :: rest) :
    Heard (signals ++ task.signal?.toList) (work { audience with agenda := rest } task)
  | meanwhile {signals : List Signal} {audience : Audience} (h : Heard signals audience)
    (held : List ObserverId) (scripts : List (ObserverId × List Action)) :
    Heard signals { audience with held, scripts }

theorem Heard.tracks (h : Heard signals audience) : Subject.Tracks signals audience.subject := by
  induction h with
  | start id scripts => exact ⟨rfl, nofun, fun owed => absurd owed Signal.not_owed_nil⟩
  | call _ _ _ ih => exact ih
  | @work _ audience task rest _ _ ih =>
    exact tracks_work { audience with agenda := rest } ih task
  | meanwhile _ _ _ ih => exact ih

/-- A run to the end makes its signals on the way. -/
theorem Heard.run (h : Heard signals audience) :
    ∃ later, Heard (signals ++ later) audience.run := by
  fun_induction Audience.run audience generalizing signals with
  | case1 audience => exact ⟨[], by rwa [List.append_nil]⟩
  | case2 audience task rest next ih =>
    obtain ⟨later, reached⟩ := ih (h.work next)
    exact ⟨_, List.append_assoc .. ▸ reached⟩

/-- A call makes its signals on the way. -/
theorem Heard.performAll (h : Heard signals audience) (idle : audience.agenda = [])
    (actions : List Action) :
    ∃ later, Heard (signals ++ later) (audience.performAll actions).2.2 :=
  (h.call idle actions).run

/-- A delivery is pending only while the subject is locked, and if one is owed.
What an entry of the agenda starts is settled by the locks and by what is
owed. -/
structure Coalesces (signals : List Signal) (audience : Audience) : Prop where
  locked : audience.subject.pending = true → 0 < audience.subject.locks
  locks : audience.subject.locks = Signal.locks signals
  owed : audience.subject.pending = true ↔ Signal.Owed signals
  turn : ∀ task rest, audience.agenda = task :: rest →
    Turn signals { audience with agenda := rest } task

/-- No announcement is lost and none is delivered twice, whenever observers
announce, lock or unlock while they are updated. -/
theorem Heard.coalesces (h : Heard signals audience) : Coalesces signals audience :=
  ⟨h.tracks.pending_locked, h.tracks.locks, h.tracks.owed,
    fun task rest _ => Audience.turn { audience with agenda := rest } h.tracks task⟩

/-- An observer that locks the subject while it is updated, announces twice
under the lock and then once more. -/
def insistent : List Action := [.locked [.announce, .announce], .announce]

/-- The two announcements under the lock are made up for by one delivery, inside
the one that updates the observer. -/
theorem Heard.coalesces_reentrant :
    ∃ audience rest, Heard [.announce, .lock, .announce, .announce] audience ∧
      audience.agenda = .leave :: rest ∧ audience.deliveries = 1 ∧
      Starts { audience with agenda := rest }
        (Audience.work { audience with agenda := rest } .leave) := by
  have heard : Heard [.announce, .lock, .announce, .announce] _ :=
    (((((((Heard.start default [(1, insistent)]).call rfl [.attach 1, .announce]).work rfl).work
      rfl).work rfl).work rfl).work rfl).work rfl
  refine ⟨_, _, heard, rfl, rfl, ?_⟩
  exact (heard.coalesces.turn _ _ rfl).released rfl rfl (heard.coalesces.owed.mp rfl)

end Audience

end MetaCatalog
