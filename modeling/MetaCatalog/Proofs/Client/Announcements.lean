import MetaCatalog.Proofs.Client.Invalidations

/-!
# How often a load of parameters is announced

Many calls of a procedure take its parameters, and load them if they have to. The load
announces the procedure once if it succeeds. A call that checks for the parameters announces
the procedure on its own as well, when the load is over: its observers hear of a load that
fails, and hear twice of one that succeeds (`ProcedureCall.Announces`). For all other calls
there is one announcement for each load that succeeds and none for one that fails
(`Client.Reachable.parameters_announced`).
-/

namespace MetaCatalog

open World (Hush Course)

/-! ## The observers during a load -/

/-- The observers that are alive stay. -/
def World.Attends (w w' : World) : Prop := w'.observers = w.observers

instance : Course World.Attends where
  refl _ := rfl
  trans h h' := h'.trans h

/-- Whoever observes anything does so after a load. -/
theorem Item.load_attends {item : Item} {facet : Facet α} {fetch : LoaderId → Query α}
    (hq : ∀ l, Yields Hush (fetch l) fun _ => True) :
    Leads World.Attends (item.load facet fetch) fun _ => True := by
  have hush {β : Type} {m : Engine β} {P : β → Prop} (hm : Leads Hush m P) :
      Leads World.Attends m P :=
    ⟨fun w => (hm.course w).observers, hm.result⟩
  have deliver (due : Bool × Subject) : Leads World.Attends (World.deliverIf due) fun _ => True :=
    ⟨fun _ => by rcases due with ⟨_ | _, subject⟩ <;> rfl, fun _ => trivial⟩
  refine load_leads fun l _ => fetch_leads (hush (hq l)) deliver fun {w w' w''} entered body => ?_
  have enter := (hush (enter_hush l)).course w
  rw [show l.enter.run w = _ from entered] at enter
  exact Course.trans enter (Course.trans body ((hush (leave_hush l)).course w''))

/-! ## One load of the parameters -/

namespace Procedure

variable {p : Procedure} {w : World}

/-- The procedure without its parameters. -/
def anew (p : Procedure) : Procedure := { p with parameters := .unloaded }

/-- What an announcement of the procedure delivers. -/
def heard (p : Procedure) (w : World) : Delivery :=
  ⟨p.item.id, p.item.subject.observers.filter w.isAlive⟩

/-- What the facet was does not matter, if it was not loaded. -/
theorem loadParameters_missing (missing : p.parameters.isLoaded = false) :
    p.loadParameters = p.anew.loadParameters := by
  have absent : ¬ p.parameters.isLoaded = true := by rw [missing]; exact Bool.false_ne_true
  unfold loadParameters Item.load
  rw [if_neg absent]
  rfl

/-- What came of loading the parameters when they were not there. -/
structure ReadAnew (p : Procedure) (w : World) (r : Attempted Procedure) (w' : World) : Prop where
  loaded : r.2.parameters.isLoaded = r.1.isOk
  told : w'.deliveries = w.deliveries ++ List.replicate r.1.isOk.toNat (p.heard w)
  /-- The next announcement reaches the same observers. -/
  unlocked : r.2.item.subject.locks = 0
  heard : r.2.heard w' = p.heard w

theorem readAnew (settled : p.item.subject.Settled) (unlocked : p.item.subject.locks = 0)
    (w : World) : p.ReadAnew w (p.anew.loadParameters w).1 (p.anew.loadParameters w).2 := by
  have missing : Facet.isLoaded (.unloaded : Facet (List Parameter)) = false := rfl
  have read := Item.load_unloaded settled missing (Object.fetchParameters_hush p.item) w
  have observers : (p.item.load .unloaded (fetchParameters p.item) w).2.observers = w.observers :=
    (Item.load_attends (Object.fetchParameters_hush p.item)).course w
  have run : p.anew.loadParameters w = (do
      let loaded ← p.item.load .unloaded (fetchParameters p.item)
      Pure.pure (loaded.outcome, { p with item := loaded.item, parameters := loaded.facet }) :
        Engine (Attempted Procedure)) w := rfl
  rw [run, Engine.run_bind]
  rcases hr : p.item.load .unloaded (fetchParameters p.item) w with ⟨⟨outcome, item, facet⟩, w'⟩
  rw [hr] at read observers
  have alive : w'.isAlive = w.isAlive := by
    unfold World.isAlive
    rw [show w'.observers = w.observers from observers]
  cases outcome with
  | error e =>
    obtain ⟨unloaded, failed, deliveries⟩ := read.error e rfl
    obtain rfl : facet = .unloaded := unloaded
    obtain rfl : item = p.item.failed e := failed
    refine ⟨rfl, deliveries.trans (List.append_nil _).symm, unlocked, ?_⟩
    show (⟨p.item.id, p.item.subject.observers.filter w'.isAlive⟩ : Delivery) = _
    rw [alive, heard]
  | ok =>
    obtain ⟨⟨a, loaded⟩, announced⟩ := read.ok rfl
    obtain ⟨subject, deliveries⟩ := announced.unlocked unlocked
    obtain rfl : facet = .loaded a := loaded
    -- The load drops the observers that are gone, who hear of nothing anyway.
    have subject : item.subject = p.item.subject.prune w.isAlive := subject
    refine ⟨rfl, deliveries, ?_, ?_⟩
    · show item.subject.locks = 0
      rw [subject]
      exact unlocked
    · show (⟨item.subject.id, item.subject.observers.filter w'.isAlive⟩ : Delivery) = _
      rw [subject, alive]
      show (⟨p.item.id, (p.item.subject.observers.filter w.isAlive).filter w.isAlive⟩ :
        Delivery) = _
      simp only [List.filter_filter, Bool.and_self, heard]

theorem checkParameters_idle {force : Bool} (idle : (force || !p.parameters.isLoaded) = false)
    (w : World) : p.checkParameters force w = ((p.parameters.isLoaded, p), w) := by
  unfold checkParameters
  rw [if_neg (Bool.eq_false_iff.mp idle)]
  rfl

/-- A check announces what the load left. -/
theorem checkParameters_performs {force : Bool}
    (performs : (force || !p.parameters.isLoaded) = true) (read : p.ReadAnew w
      (p.anew.loadParameters w).1 (p.anew.loadParameters w).2) :
    (p.checkParameters force w).1.2.parameters = (p.anew.loadParameters w).1.2.parameters ∧
      (p.checkParameters force w).2.deliveries =
        (p.anew.loadParameters w).2.deliveries ++ [p.heard w] := by
  unfold checkParameters
  rw [if_pos performs, Engine.run_bind, ← anew]
  rcases hr : p.anew.loadParameters w with ⟨⟨outcome, p'⟩, w'⟩
  rw [hr] at read
  dsimp only
  rw [Engine.run_bind]
  unfold announce
  rw [Engine.run_bind, Item.announce_unlocked read.unlocked, ← read.heard]
  exact ⟨rfl, rfl⟩

end Procedure

/-! ## Calls that take the parameters -/

namespace ProcedureCall

/-- The call takes the parameters, which it loads first, and loads nothing else. -/
def takesParameters : ProcedureCall → Bool
  | load .parameters | read .parameters => true
  | checkParameters _ | isSelectable | selectStatement _ | executeStatement | definition => true
  | _ => false

/-- The call checks for the parameters, and loads them if they are missing. -/
def checks : ProcedureCall → Bool
  | checkParameters _ | definition => true
  | _ => false

/-- The call loads the parameters even if they are there. -/
def forced : ProcedureCall → Bool
  | checkParameters force => force
  | _ => false

/-- Whether the call loads the parameters. -/
def performs (call : ProcedureCall) (p : Procedure) : Bool :=
  call.forced || !p.parameters.isLoaded

/-- Whether the call loads the parameters and does not fail. -/
def succeeds (call : ProcedureCall) (p : Procedure) (w : World) : Bool :=
  call.performs p && (p.anew.loadParameters w).1.1.isOk

/-- How many deliveries are made. -/
def told (call : ProcedureCall) (p : Procedure) (w : World) : Nat :=
  (call.run p w).2.deliveries.length - w.deliveries.length

/-- There are at most as many announcements as loads, and one for each load that succeeds. -/
def OncePerLoad (call : ProcedureCall) (p : Procedure) (w : World) : Prop :=
  (call.succeeds p w).toNat ≤ call.told p w ∧ call.told p w ≤ (call.performs p).toNat

instance (call : ProcedureCall) (p : Procedure) (w : World) : Decidable (call.OncePerLoad p w) :=
  inferInstanceAs (Decidable (_ ∧ _))

/-- What the observers hear of a call that takes the parameters. -/
structure Announces (call : ProcedureCall) (p : Procedure) (w : World) : Prop where
  idle : call.performs p = false → (call.run p w).1.2 = p ∧ (call.run p w).2 = w
  loads : call.performs p = true →
    (call.run p w).1.2.parameters = (p.anew.loadParameters w).1.2.parameters ∧
      (call.run p w).1.2.parameters.isLoaded = call.succeeds p w
  /-- One announcement of the load, if it succeeds, and one of the check. -/
  deliveries : (call.run p w).2.deliveries = w.deliveries ++
    List.replicate ((call.succeeds p w).toNat + (call.checks && call.performs p).toNat) (p.heard w)

variable {call : ProcedureCall} {p : Procedure} {w : World}

theorem run_of_not_checks (takes : call.takesParameters = true) (other : call.checks = false) :
    (call.run p w).1.2 = (p.loadParameters w).1.2 ∧
      (call.run p w).2 = (p.loadParameters w).2 ∧ call.forced = false := by
  cases call with
  | load kind | read kind => cases kind <;> first | exact ⟨rfl, rfl, rfl⟩ | cases takes
  | checkParameters _ | definition => cases other
  | isSelectable | selectStatement _ | executeStatement => exact ⟨rfl, rfl, rfl⟩
  | alterStatement | invalidate _ | item _ => cases takes

theorem run_of_checks (checks : call.checks = true) :
    (call.run p w).1.2 = (p.checkParameters call.forced w).1.2 ∧
      (call.run p w).2 = (p.checkParameters call.forced w).2 := by
  cases call with
  | checkParameters _ | definition => exact ⟨rfl, rfl⟩
  | _ => cases checks

theorem Announces.of_idle (idle : call.performs p = false) (object : (call.run p w).1.2 = p)
    (world : (call.run p w).2 = w) : call.Announces p w := by
  refine ⟨fun _ => ⟨object, world⟩, fun performs => (nomatch idle.symm.trans performs), ?_⟩
  rw [world, succeeds, idle, Bool.and_false]
  exact (List.append_nil _).symm

theorem Announces.of_performs (performs : call.performs p = true)
    (read : p.ReadAnew w (p.anew.loadParameters w).1 (p.anew.loadParameters w).2)
    (parameters : (call.run p w).1.2.parameters = (p.anew.loadParameters w).1.2.parameters)
    (deliveries : (call.run p w).2.deliveries = (p.anew.loadParameters w).2.deliveries ++
      List.replicate call.checks.toNat (p.heard w)) : call.Announces p w := by
  refine ⟨fun idle => (nomatch idle.symm.trans performs), fun _ => ⟨parameters, ?_⟩, ?_⟩
  · rw [parameters, succeeds, performs]
    exact read.loaded
  · rw [deliveries, read.told, succeeds, performs, Bool.and_true, Bool.true_and, List.append_assoc,
      List.replicate_append_replicate]

theorem Announces.of_takes (takes : call.takesParameters = true) (settled : p.item.subject.Settled)
    (unlocked : p.item.subject.locks = 0) (w : World) : call.Announces p w := by
  have read := Procedure.readAnew settled unlocked w
  cases checks : call.checks with
  | true =>
    obtain ⟨object, world⟩ := run_of_checks (p := p) (w := w) checks
    cases performs : call.performs p with
    | false =>
      rw [Procedure.checkParameters_idle performs] at object world
      exact .of_idle performs object world
    | true =>
      obtain ⟨parameters, deliveries⟩ := Procedure.checkParameters_performs performs read
      refine .of_performs performs read (object ▸ parameters) ?_
      rw [world, deliveries, checks]
      rfl
  | false =>
    obtain ⟨object, world, free⟩ := run_of_not_checks (p := p) (w := w) takes checks
    cases there : p.parameters.isLoaded with
    | true =>
      rw [Procedure.loadParameters_of_isLoaded there] at object world
      exact .of_idle (by rw [performs, free, there]; rfl) object world
    | false =>
      rw [Procedure.loadParameters_missing there] at object world
      refine .of_performs (by rw [performs, free, there]; rfl) read (object ▸ rfl) ?_
      rw [world, checks]
      exact (List.append_nil _).symm

/-- The announcements are in step with the loads but where a check finds the parameters
missing, and gets them. -/
theorem Announces.oncePerLoad_iff (h : call.Announces p w) :
    call.OncePerLoad p w ↔ ¬(call.checks = true ∧ call.succeeds p w = true) := by
  have told : call.told p w =
      (call.succeeds p w).toNat + (call.checks && call.performs p).toNat := by
    rw [ProcedureCall.told, h.deliveries, List.length_append, List.length_replicate,
      Nat.add_sub_cancel_left]
  have within : call.succeeds p w = true → call.performs p = true := fun succeeded =>
    (Bool.and_eq_true_iff.mp succeeded).1
  rw [OncePerLoad, told]
  revert within
  cases call.checks <;> cases call.performs p <;> cases call.succeeds p w <;> decide

end ProcedureCall

/-! ## Clients -/

namespace Client

/-- What the observers hear of every call that takes the parameters of a procedure of a
client, as long as it is not locked: whatever the facet holds, and whatever the catalog
answers. There is more to hear than there are loads exactly if a check loads the parameters
and does not fail. -/
theorem Reachable.parameters_announced {permits : Client → Step → Prop} {client : Client}
    (h : Reachable permits client) {p : Procedure}
    (hp : .procedure p ∈ client.workspace.everyObject) (unlocked : p.item.subject.locks = 0)
    {call : ProcedureCall} (takes : call.takesParameters = true)
    (parameters : Facet (List Parameter)) (w : World) :
    call.Announces { p with parameters } w ∧
      (call.OncePerLoad { p with parameters } w ↔
        ¬(call.checks = true ∧ call.succeeds { p with parameters } w = true)) := by
  obtain ⟨_, place⟩ := h.inPlace.everyObject hp
  have settled : p.item.subject.Settled := place.item.settled
  have announces : call.Announces { p with parameters } w :=
    .of_takes (p := { p with parameters }) takes settled unlocked w
  exact ⟨announces, announces.oncePerLoad_iff⟩

/-- A client with a procedure that an observer is attached to. -/
def attentive : Client := (Client.start 0).after
  [.openCatalog "main" "test.fdb" "SYSDBA" "masterkey",
    .newDatabase "db" none (.ofCatalog "DB") "test.fdb", .connect "db" "main",
    .database "db" (.addProcedure (.ofCatalog "P")), .newObserver "o",
    .procedure { database := some "db", procedure := some "P" } (.item (.attach 0))]

theorem attentive_reachable : Reachable (fun _ _ => True) attentive :=
  Reachable.after (.start 0) fun _ _ _ => trivial

/-- The first object is a procedure without locks and without parameters, which can be
loaded, and an observer is attached to it. -/
theorem attentive_procedure : ∃ p, .procedure p ∈ attentive.workspace.everyObject ∧
    p.item.subject.locks = 0 ∧ p.parameters.isLoaded = false ∧
    (p.anew.loadParameters attentive.world).1.1.isOk = true ∧
    (p.heard attentive.world).receivers = [0] := by
  have one : (attentive.workspace.everyObject.head?.any fun object =>
      (object.part? .parameters).isSome && !object.has .parameters &&
      object.item.subject.locks == 0 && (object.load .parameters attentive.world).1.1.isOk &&
      object.item.subject.observers.filter attentive.world.isAlive == [0]) = true := by
    decide +kernel
  generalize attentive = client at one ⊢
  obtain ⟨object, first, facts⟩ := (Option.any_eq_true _ _).mp one
  simp only [Bool.and_eq_true, beq_iff_eq, Bool.not_eq_true'] at facts
  obtain ⟨⟨⟨⟨there, missing⟩, unlocked⟩, succeeds⟩, receivers⟩ := facts
  cases object with
  | table _ | view _ => cases there
  | procedure p =>
    have missing : p.parameters.isLoaded = false :=
      (Facet.isLoaded_map p.parameters _).symm.trans missing
    have succeeds : (p.loadParameters client.world).1.1.isOk = true := succeeds
    rw [Procedure.loadParameters_missing missing] at succeeds
    exact ⟨p, List.mem_of_mem_head? first, unlocked, missing, succeeds, receivers⟩

/-- Asked for the signature of the procedure, the client delivers to the observer twice. -/
theorem Reachable.parameters_announced_attentive :
    ∃ p, .procedure p ∈ attentive.workspace.everyObject ∧ p.item.subject.locks = 0 ∧
      ProcedureCall.takesParameters .definition = true ∧
      (ProcedureCall.definition.run p attentive.world).2.deliveries =
        attentive.world.deliveries ++ [⟨p.item.id, [0]⟩, ⟨p.item.id, [0]⟩] := by
  obtain ⟨p, hp, unlocked, missing, succeeds, receivers⟩ := attentive_procedure
  have takes : ProcedureCall.takesParameters .definition = true := rfl
  obtain ⟨announces, -⟩ := Reachable.parameters_announced attentive_reachable hp unlocked takes
    p.parameters attentive.world
  have performed : ProcedureCall.performs .definition p = true := by
    rw [ProcedureCall.performs, missing]
    rfl
  have succeeded : ProcedureCall.succeeds .definition p attentive.world = true := by
    rw [ProcedureCall.succeeds, performed, succeeds]
    rfl
  have heard : p.heard attentive.world = ⟨p.item.id, [0]⟩ := by
    rw [← receivers]
    rfl
  have deliveries := announces.deliveries
  rw [performed, succeeded, heard] at deliveries
  exact ⟨p, hp, unlocked, takes, deliveries⟩

/-- It is not so that each load of the parameters is announced once. -/
theorem parameters_announced_twice : ¬ ∀ client, Reachable (fun _ _ => True) client →
    ∀ p, .procedure p ∈ client.workspace.everyObject → p.item.subject.locks = 0 →
      ∀ call : ProcedureCall, call.takesParameters = true → call.OncePerLoad p client.world := by
  intro once
  obtain ⟨p, hp, unlocked, missing, succeeds, -⟩ := attentive_procedure
  obtain ⟨_, place⟩ := attentive_reachable.inPlace.everyObject hp
  have settled : p.item.subject.Settled := place.item.settled
  have announces : ProcedureCall.Announces (.checkParameters false) p attentive.world :=
    .of_takes rfl settled unlocked _
  refine announces.oncePerLoad_iff.mp (once _ attentive_reachable p hp unlocked _ rfl) ⟨rfl, ?_⟩
  rw [ProcedureCall.succeeds, ProcedureCall.performs, missing, succeeds]
  rfl

end Client

end MetaCatalog
