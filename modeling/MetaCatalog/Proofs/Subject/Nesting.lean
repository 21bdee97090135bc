import MetaCatalog.Proofs.Subject.Coalescing

/-!
# Deliveries inside deliveries

An entry of the agenda starts one delivery or none (`Audience.work_cases`), and
a delivery puts its updates in front of all others. So the receivers of a
delivery are always those that have been updated and those that the agenda has
still to update (`UnderWay.complete`), and the deliveries on the agenda stand
innermost first (`UnderWay.innermost`): one that starts inside an update is over
before the outer one goes on (`UnderWay.nested`).
-/

namespace MetaCatalog

/-- What an agenda entry notes of itself. -/
def Task.note? : Task → Option AudienceEvent
  | .update delivery observer => some (.updated delivery observer)
  | .perform (.mark text) => some (.marked text)
  | _ => none

namespace Audience

variable {audience after : Audience} {task : Task} {rest : List Task}
  {events : List AudienceEvent} {agenda : List Task} {delivery : Nat} {observer : ObserverId}
  {receivers : List ObserverId}

/-! ## Entries of the agenda -/

/-- No delivery starts. What comes onto the agenda is no update, and the entry
notes only itself. -/
structure GoesOn (audience : Audience) (task : Task) (after : Audience) : Prop where
  agenda : ∃ tasks, after.agenda = tasks ++ audience.agenda ∧ tasks.countP isUpdate = 0
  events : after.events = audience.events ++ task.note?.toList
  deliveries : after.deliveries = audience.deliveries

theorem GoesOn.answer {base : Audience} (h : GoesOn audience task base) (a : Answer) :
    GoesOn audience task (base.answer a) := by
  obtain ⟨answers, same⟩ := base.answer_eq a
  rw [same]
  exact ⟨h.agenda, h.events, h.deliveries⟩

/-- An entry that makes no signal starts no delivery. -/
theorem work_goesOn (audience : Audience) (h : task.signal? = none) :
    GoesOn audience task (audience.work task) := by
  have changed (subject : Subject) (held : List ObserverId) (none : task.note? = none) :
      GoesOn audience task { audience with subject, held } :=
    ⟨⟨[], rfl, rfl⟩, by rw [none, Option.toList_none, List.append_nil], rfl⟩
  match task, h with
  | .perform (.attach o), _ =>
    show GoesOn audience _ (ite ..)
    split
    · exact (changed (audience.subject.attach o) audience.held rfl).answer _
    · exact (changed audience.subject audience.held rfl).answer _
  | .perform (.detach o), _ =>
    show GoesOn audience _ (ite ..)
    split
    · exact (changed (audience.subject.detach o) audience.held rfl).answer _
    · exact (changed audience.subject audience.held rfl).answer _
  | .perform (.release o), _ =>
    exact (changed audience.subject (audience.held.filter (· != o)) rfl).answer _
  | .perform .describe, _ => exact (changed audience.subject audience.held rfl).answer _
  | .perform (.mark text), _ =>
    have marked : GoesOn audience (.perform (.mark text)) (audience.record (.marked text)) :=
      ⟨⟨[], rfl, rfl⟩, rfl, rfl⟩
    exact marked.answer _
  | .perform .idle, _ => exact (changed audience.subject audience.held rfl).answer _
  | .update d o, _ =>
    refine ⟨(update_indifferent d o).silent.agenda, ?_, (update_indifferent d o).silent.deliveries⟩
    show (audience.update d o).events = audience.events ++ [.updated d o]
    unfold update
    dsimp only
    split <;> rfl
  | .dismiss _, _ =>
    have dismissed := changed audience.subject audience.held rfl
    exact ⟨dismissed.agenda, dismissed.events, dismissed.deliveries⟩

theorem note?_of_signal {signal : Signal} (h : task.signal? = some signal) : task.note? = none := by
  match task, h with
  | .perform .announce, _ => rfl
  | .perform .lock, _ => rfl
  | .perform (.locked _), _ => rfl
  | .perform .unlock, _ => rfl
  | .leave, _ => rfl

/-- An entry of the agenda starts one delivery, or none. It starts one only if
it makes a signal. -/
theorem work_cases (audience : Audience) (task : Task) :
    (∃ signal, task.signal? = some signal) ∧ Starts audience (audience.work task) ∨
      GoesOn audience task (audience.work task) := by
  cases made : task.signal? with
  | none => exact .inr (audience.work_goesOn made)
  | some signal =>
    have quiet := note?_of_signal made
    by_cases lock : signal = .lock
    · subst lock
      refine .inr ⟨(work_lock made).2.agenda, ?_, (work_lock made).2.deliveries⟩
      rw [quiet, Option.toList_none, List.append_nil]
      match task, made with
      | .perform .lock, _ =>
        obtain ⟨answers, same⟩ := answer_eq { audience with subject := audience.subject.lock } .done
        show (answer _ _).events = _
        rw [same]
      | .perform (.locked _), _ => rfl
    · obtain ⟨answers, work⟩ := work_signal audience made lock
      rw [work]
      cases due : (audience.subject.signal signal).1 with
      | true =>
        have unlocked : (audience.subject.signal signal).2.locks = 0 := by
          rw [Subject.signal_locks]
          rcases (Subject.signal_due ..).mp due with ⟨rfl, unlocked⟩ | ⟨rfl, last, -⟩
          · exact unlocked
          · exact Nat.sub_eq_zero_of_le last
        exact .inl ⟨⟨signal, rfl⟩,
          deliverIf_starts answers due (Subject.signal_observers ..) unlocked⟩
      | false =>
        have silent : Silent audience _ := deliverIf_silent answers due
        obtain ⟨agenda, -, deliveries⟩ := silent
        refine .inr ⟨agenda, ?_, deliveries⟩
        rw [quiet, Option.toList_none, List.append_nil]
        rcases hd : audience.subject.signal signal with ⟨_ | _, subject⟩
        · rfl
        · rw [hd] at due
          cases due

theorem GoesOn.started (h : GoesOn audience task after) :
    .started delivery receivers ∈ after.events ↔ .started delivery receivers ∈ audience.events := by
  have note : .started delivery receivers ∉ task.note?.toList := by
    cases task with
    | perform action => cases action <;> simp [Task.note?]
    | _ => simp [Task.note?]
  rw [h.events, List.mem_append, or_iff_left note]

theorem Starts.started (h : Starts audience after) :
    .started delivery receivers ∈ after.events ↔
      .started delivery receivers ∈ audience.events ∨
        delivery = audience.deliveries ∧ receivers = after.subject.observers := by
  rw [h.events, List.mem_append, List.mem_singleton, AudienceEvent.started.injEq]

/-! ## Updates made and updates due -/

/-- The receiver that an event updates for a delivery. -/
def updatedBy? (delivery : Nat) : AudienceEvent → Option ObserverId
  | .updated d observer => if d = delivery then some observer else none
  | _ => none

/-- The receivers of a delivery that have been updated, in order. -/
def updatedBy (delivery : Nat) (events : List AudienceEvent) : List ObserverId :=
  events.filterMap (updatedBy? delivery)

/-- The receiver that an agenda entry will update for a delivery. -/
def dueFrom? (delivery : Nat) : Task → Option ObserverId
  | .update d observer => if d = delivery then some observer else none
  | _ => none

/-- The receivers of a delivery that are still to be updated, in order. -/
def dueFrom (delivery : Nat) (agenda : List Task) : List ObserverId :=
  agenda.filterMap (dueFrom? delivery)

/-- The delivery that an agenda entry goes on with. -/
def deliveryOf? : Task → Option Nat
  | .update d _ => some d
  | _ => none

/-- The delivery that an event starts. -/
def startOf? : AudienceEvent → Option Nat
  | .started d _ => some d
  | _ => none

theorem updatedBy_append (delivery : Nat) (events later : List AudienceEvent) :
    updatedBy delivery (events ++ later) = updatedBy delivery events ++ updatedBy delivery later :=
  List.filterMap_append

theorem dueFrom_append (delivery : Nat) (agenda later : List Task) :
    dueFrom delivery (agenda ++ later) = dueFrom delivery agenda ++ dueFrom delivery later :=
  List.filterMap_append

theorem updatedBy_eq_nil (h : ∀ o, AudienceEvent.updated delivery o ∉ events) :
    updatedBy delivery events = [] := by
  refine List.filterMap_eq_nil_iff.mpr fun event there => ?_
  cases event with
  | updated d o =>
    have other : d ≠ delivery := fun same => h o (same ▸ there)
    simp [updatedBy?, other]
  | started d receivers => rfl
  | marked text => rfl

theorem dueFrom_eq_nil (h : ∀ o, Task.update delivery o ∉ agenda) :
    dueFrom delivery agenda = [] := by
  refine List.filterMap_eq_nil_iff.mpr fun task there => ?_
  cases task with
  | update d o =>
    have other : d ≠ delivery := fun same => h o (same ▸ there)
    simp [dueFrom?, other]
  | perform action => rfl
  | dismiss o => rfl
  | leave => rfl

theorem dueFrom_updates (delivery : Nat) (observers : List ObserverId) :
    dueFrom delivery (observers.map (.update delivery)) = observers := by
  rw [dueFrom, List.filterMap_map]
  simp [Function.comp_def, dueFrom?]

/-- What an agenda entry notes is the update that was due. -/
theorem updatedBy_note (delivery : Nat) (task : Task) :
    updatedBy delivery task.note?.toList = dueFrom delivery [task] := by
  cases task with
  | perform action => cases action <;> rfl
  | _ => rfl

theorem not_mem_of_countP {tasks : List Task} (h : tasks.countP isUpdate = 0) :
    Task.update delivery observer ∉ tasks :=
  fun there => List.countP_eq_zero.mp h _ there rfl

/-- When a receiver is updated, its delivery has started, and those that have
started since are over. -/
def Nested (events : List AudienceEvent) : Prop :=
  ∀ before d o later, events = before ++ .updated d o :: later →
    (∃ receivers, .started d receivers ∈ before) ∧
      ∀ inner receivers, d < inner → .started inner receivers ∈ before →
        updatedBy inner before = receivers

/-- An update in a longer list is one in the list before, or the new event. -/
theorem Nested.append (h : Nested events) {event : AudienceEvent}
    (he : ∀ d o, event = .updated d o → (∃ receivers, .started d receivers ∈ events) ∧
      ∀ inner receivers, d < inner → .started inner receivers ∈ events →
        updatedBy inner events = receivers) : Nested (events ++ [event]) := by
  intro before d o later split
  rcases List.eq_nil_or_concat later with rfl | ⟨front, last, rfl⟩
  · obtain ⟨rfl, one⟩ := List.append_inj' split rfl
    exact he d o (List.singleton_inj.mp one)
  · rw [List.concat_eq_append, ← List.cons_append, ← List.append_assoc] at split
    exact h before d o front (List.append_inj' split rfl).1

theorem Nested.started (h : Nested events) (there : .updated delivery observer ∈ events) :
    ∃ receivers, .started delivery receivers ∈ events := by
  obtain ⟨before, later, rfl⟩ := List.append_of_mem there
  obtain ⟨⟨receivers, started⟩, -⟩ := h before delivery observer later rfl
  exact ⟨receivers, List.mem_append_left _ started⟩

/-! ## Deliveries under way -/

/-- The deliveries of a call: how far they have come, and what the agenda holds
of them. -/
structure UnderWay (audience : Audience) : Prop where
  /-- Deliveries are numbered in the order in which they start. -/
  numbered : (audience.events.filterMap startOf?).Pairwise (· < ·)
  counted : ∀ d receivers, .started d receivers ∈ audience.events → d < audience.deliveries
  complete : ∀ d receivers, .started d receivers ∈ audience.events →
    updatedBy d audience.events ++ dueFrom d audience.agenda = receivers
  begun : ∀ d o, .update d o ∈ audience.agenda → ∃ receivers, .started d receivers ∈ audience.events
  innermost : (audience.agenda.filterMap deliveryOf?).Pairwise (· ≥ ·)
  nested : Nested audience.events

theorem mem_startOf {d : Nat} :
    d ∈ events.filterMap startOf? ↔ ∃ receivers, .started d receivers ∈ events := by
  constructor
  · intro h
    obtain ⟨event, there, start⟩ := List.mem_filterMap.mp h
    cases event with
    | started d' receivers =>
      cases start
      exact ⟨receivers, there⟩
    | updated d' o => cases start
    | marked text => cases start
  · rintro ⟨receivers, there⟩
    exact List.mem_filterMap.mpr ⟨_, there, rfl⟩

theorem mem_deliveryOf {d : Nat} :
    d ∈ agenda.filterMap deliveryOf? ↔ ∃ o, .update d o ∈ agenda := by
  constructor
  · intro h
    obtain ⟨task, there, of⟩ := List.mem_filterMap.mp h
    cases task with
    | update d' o =>
      cases of
      exact ⟨o, there⟩
    | perform action => cases of
    | dismiss o => cases of
    | leave => cases of
  · rintro ⟨o, there⟩
    exact List.mem_filterMap.mpr ⟨_, there, rfl⟩

/-- At the beginning of a call no delivery is under way. -/
theorem UnderWay.first (silent : audience.events = [])
    (clear : ∀ d o, Task.update d o ∉ audience.agenda) : UnderWay audience where
  numbered := silent ▸ .nil
  counted d receivers there := absurd (silent ▸ there) List.not_mem_nil
  complete d receivers there := absurd (silent ▸ there) List.not_mem_nil
  begun d o there := absurd there (clear d o)
  innermost := by
    have none : audience.agenda.filterMap deliveryOf? = [] := List.eq_nil_iff_forall_not_mem.mpr
      fun d there => let ⟨o, update⟩ := mem_deliveryOf.mp there; clear d o update
    exact none ▸ .nil
  nested before d o later split := by
    have length := congrArg List.length (silent.symm.trans split)
    simp at length

/-- A delivery that starts takes the next number, and goes on the agenda before
all others. -/
theorem UnderWay.starts (h : UnderWay audience) (next : audience.agenda = task :: rest)
    {signal : Signal} (made : task.signal? = some signal)
    (hs : Starts { audience with agenda := rest } after) : UnderWay after := by
  have others (d : Nat) (o : ObserverId) : .update d o ∈ rest → .update d o ∈ audience.agenda :=
    fun there => next ▸ List.mem_cons_of_mem _ there
  have no_update (d : Nat) : dueFrom d rest = dueFrom d audience.agenda := by
    rw [next, ← List.singleton_append, dueFrom_append, ← updatedBy_note, note?_of_signal made]
    rfl
  have numbers : List.Sublist (rest.filterMap deliveryOf?)
      (audience.agenda.filterMap deliveryOf?) := by
    rw [next]
    exact (List.sublist_cons_self _ _).filterMap _
  have events := hs.events
  have agenda := hs.agenda
  dsimp only at events agenda
  have fresh (o : ObserverId) : .updated audience.deliveries o ∉ audience.events := fun there =>
    let ⟨receivers, start⟩ := h.nested.started there
    Nat.lt_irrefl _ (h.counted _ receivers start)
  have unbegun (o : ObserverId) : .update audience.deliveries o ∉ rest := fun there =>
    let ⟨receivers, start⟩ := h.begun _ o (others _ o there)
    Nat.lt_irrefl _ (h.counted _ receivers start)
  constructor
  case numbered =>
    rw [events, List.filterMap_append]
    refine List.pairwise_append.mpr ⟨h.numbered, List.pairwise_singleton _ _, fun d hd d' hd' => ?_⟩
    obtain ⟨receivers, start⟩ := mem_startOf.mp hd
    rw [List.mem_singleton.mp hd']
    exact h.counted d receivers start
  case counted =>
    intro d receivers there
    rw [hs.deliveries]
    rcases hs.started.mp there with there | ⟨rfl, -⟩
    · exact Nat.lt_succ_of_lt (h.counted d receivers there)
    · exact Nat.lt_succ_self _
  case complete =>
    intro d receivers there
    rw [events, agenda, updatedBy_append, dueFrom_append]
    rcases hs.started.mp there with there | ⟨rfl, rfl⟩
    · have earlier := h.counted d receivers there
      have other : ∀ o,
          Task.update d o ∉ after.subject.observers.map (.update audience.deliveries) := by
        intro o made
        obtain ⟨o', -, same⟩ := List.mem_map.mp made
        cases same
        exact Nat.lt_irrefl _ earlier
      rw [dueFrom_eq_nil other, no_update]
      show updatedBy d audience.events ++ [] ++ dueFrom d audience.agenda = receivers
      rw [List.append_nil]
      exact h.complete d receivers there
    · rw [updatedBy_eq_nil fresh, dueFrom_updates, dueFrom_eq_nil unbegun, List.append_nil]
      rfl
  case begun =>
    intro d o there
    rw [agenda] at there
    rw [events]
    rcases List.mem_append.mp there with there | there
    · obtain ⟨o', -, same⟩ := List.mem_map.mp there
      cases same
      exact ⟨_, List.mem_append_right _ List.mem_cons_self⟩
    · obtain ⟨receivers, start⟩ := h.begun d o (others d o there)
      exact ⟨receivers, List.mem_append_left _ start⟩
  case innermost =>
    have own :
        (after.subject.observers.map (Task.update audience.deliveries)).filterMap deliveryOf? =
          after.subject.observers.map fun _ => audience.deliveries := by
      rw [List.filterMap_map, ← List.filterMap_eq_map]
      rfl
    rw [agenda, List.filterMap_append, own]
    refine List.pairwise_append.mpr ⟨?_, h.innermost.sublist numbers, fun d hd d' hd' => ?_⟩
    · exact List.pairwise_map.mpr (List.pairwise_of_forall fun _ _ => Nat.le_refl _)
    · obtain ⟨o, -, rfl⟩ := List.mem_map.mp hd
      obtain ⟨o', there⟩ := mem_deliveryOf.mp hd'
      obtain ⟨receivers, start⟩ := h.begun d' o' (others d' o' there)
      exact Nat.le_of_lt (h.counted d' receivers start)
  case nested =>
    rw [events]
    exact h.nested.append nofun

/-- An entry that starts no delivery makes its own update, if it is one, and
brings no other onto the agenda. -/
theorem UnderWay.goesOn (h : UnderWay audience) (next : audience.agenda = task :: rest)
    (hg : GoesOn { audience with agenda := rest } task after) : UnderWay after := by
  obtain ⟨⟨tasks, agenda, none⟩, events, deliveries⟩ := id hg
  dsimp only at agenda events deliveries
  have due (d : Nat) : dueFrom d after.agenda = dueFrom d rest := by
    rw [agenda, dueFrom_append, dueFrom_eq_nil fun o => not_mem_of_countP none, List.nil_append]
  have left {d : Nat} {o : ObserverId} (there : .update d o ∈ after.agenda) :
      .update d o ∈ audience.agenda := by
    rw [agenda] at there
    rw [next]
    exact List.mem_cons_of_mem _
      ((List.mem_append.mp there).resolve_left (not_mem_of_countP none))
  constructor
  case numbered =>
    have note : task.note?.toList.filterMap startOf? = [] := by
      cases task with
      | perform action => cases action <;> rfl
      | _ => rfl
    rw [events, List.filterMap_append, note, List.append_nil]
    exact h.numbered
  case counted =>
    intro d receivers there
    rw [deliveries]
    exact h.counted d receivers (hg.started.mp there)
  case complete =>
    intro d receivers there
    have before := h.complete d receivers (hg.started.mp there)
    rw [next, ← List.singleton_append, dueFrom_append, ← updatedBy_note, ← List.append_assoc,
      ← updatedBy_append] at before
    rw [due, events]
    exact before
  case begun =>
    intro d o there
    obtain ⟨receivers, start⟩ := h.begun d o (left there)
    exact ⟨receivers, hg.started.mpr start⟩
  case innermost =>
    have kept : after.agenda.filterMap deliveryOf? = rest.filterMap deliveryOf? := by
      have others : tasks.filterMap deliveryOf? = [] := List.eq_nil_iff_forall_not_mem.mpr
        fun d hd => let ⟨o, there⟩ := mem_deliveryOf.mp hd; not_mem_of_countP none there
      rw [agenda, List.filterMap_append, others, List.nil_append]
    rw [kept]
    refine h.innermost.sublist ?_
    rw [next]
    exact (List.sublist_cons_self _ _).filterMap _
  case nested =>
    rw [events]
    cases task with
    | update d o =>
      refine h.nested.append fun d' o' same => ?_
      cases same
      refine ⟨h.begun d o (next ▸ List.mem_cons_self), fun inner receivers later there => ?_⟩
      -- The agenda goes on with this delivery, so nothing inside it is left to do.
      have ended : ∀ o', Task.update inner o' ∉ audience.agenda := by
        intro o' left
        have order : (d :: rest.filterMap deliveryOf?).Pairwise (· ≥ ·) := by
          have innermost := h.innermost
          rwa [next] at innermost
        rcases List.mem_cons.mp (next ▸ left) with same | left
        · cases same
          exact Nat.lt_irrefl _ later
        · have before := (List.pairwise_cons.mp order).1 inner (mem_deliveryOf.mpr ⟨o', left⟩)
          exact Nat.not_le_of_lt later before
      have complete := h.complete inner receivers there
      rwa [dueFrom_eq_nil ended, List.append_nil] at complete
    | perform action =>
      cases action with
      | mark text => exact h.nested.append nofun
      | _ => exact (List.append_nil audience.events).symm ▸ h.nested
    | _ => exact (List.append_nil audience.events).symm ▸ h.nested

end Audience

end MetaCatalog
