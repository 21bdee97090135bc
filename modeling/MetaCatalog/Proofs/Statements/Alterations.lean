import MetaCatalog.Proofs.Client.Constraints

/-!
# What a script reports that cannot be written

The script that recreates a procedure needs the parameters and the source, and loads
what is not there. If one of the loads fails, the script reports what the item of the
procedure keeps as its last error. That is always the error of this very load, never an
older one (`Procedure.FirstFailure.lastError`). `Procedure.Alters` is all that is to be
said about such a call, and `Client.Reachable.alters` says it of every procedure that a
client can have.
-/

namespace MetaCatalog

/-! ## Loads -/

theorem Item.isLoaded_of_load {item : Item} {facet : Facet α} {fetch : LoaderId → Query α}
    {w : World} (ok : (item.load facet fetch w).1.outcome = .ok ()) :
    (item.load facet fetch w).1.facet.isLoaded = true := by
  obtain ⟨there, same⟩ | ⟨-, -, e, failed⟩ | ⟨-, l, entered, value, read, -, -, -, -, loaded, -⟩ :=
    item.load_cases facet fetch w
  · rw [same]
    exact there
  · rw [failed] at ok
    cases ok
  · rw [loaded]
    rfl

/-- Whatever the item said before, it keeps the error of the load that failed. -/
theorem Item.lastError_of_load {item : Item} {facet : Facet α} {fetch : LoaderId → Query α}
    {w : World} {e : Error} (failed : (item.load facet fetch w).1.outcome = .error e) :
    (item.load facet fetch w).1.item.lastError = some e.message := by
  unfold load requireLoader at failed ⊢
  split at failed
  · cases failed
  · next absent =>
    rw [if_neg absent]
    cases hl : item.loader with
    | none =>
      rw [hl] at failed
      cases failed
      rfl
    | some l =>
      rw [hl] at failed
      dsimp only at failed ⊢
      rw [Engine.run_bind] at failed ⊢
      rcases hr : item.fetch l fetch w with ⟨⟨e' | a, item'⟩, w'⟩ <;> rw [hr] at failed <;>
        cases failed
      rfl

namespace Procedure

variable {p p' : Procedure} {w w' : World} {e : Error}

theorem loadParameters_ok (h : p.loadParameters w = ((.ok (), p'), w')) :
    p'.parameters.isLoaded = true := by
  have ok : (p.item.load p.parameters (fetchParameters p.item) w).1.outcome = .ok () :=
    congrArg (·.1.1) h
  obtain rfl : _ = p' := congrArg (·.1.2) h
  exact Item.isLoaded_of_load ok

theorem loadParameters_error (h : p.loadParameters w = ((.error e, p'), w')) :
    p'.parameters.isLoaded = false ∧ p'.item.lastError = some e.message := by
  have failed : (p.item.load p.parameters (fetchParameters p.item) w).1.outcome = .error e :=
    congrArg (·.1.1) h
  obtain rfl : _ = p' := congrArg (·.1.2) h
  exact ⟨congrArg Facet.isLoaded (Item.load_error failed), Item.lastError_of_load failed⟩

theorem loadSource_ok (h : p.loadSource w = ((.ok (), p'), w')) :
    p'.source.isLoaded = true ∧ p'.parameters = p.parameters := by
  have ok : (p.item.load p.source (fetchSource p.item) w).1.outcome = .ok () :=
    congrArg (·.1.1) h
  obtain rfl : _ = p' := congrArg (·.1.2) h
  exact ⟨Item.isLoaded_of_load ok, rfl⟩

theorem loadSource_error (h : p.loadSource w = ((.error e, p'), w')) :
    p'.source.isLoaded = false ∧ p'.item.lastError = some e.message := by
  have failed : (p.item.load p.source (fetchSource p.item) w).1.outcome = .error e :=
    congrArg (·.1.1) h
  obtain rfl : _ = p' := congrArg (·.1.2) h
  exact ⟨congrArg Facet.isLoaded (Item.load_error failed), Item.lastError_of_load failed⟩

/-! ## The first failure -/

/-- The first of the two loads that fails, and what it leaves. -/
inductive FirstFailure (p : Procedure) (w : World) (cause : Error) : Procedure → World → Prop
  | parameters {p' : Procedure} {w' : World} :
    p.loadParameters w = ((.error cause, p'), w') → FirstFailure p w cause p' w'
  | source {p₁ p' : Procedure} {w₁ w' : World} :
    p.loadParameters w = ((.ok (), p₁), w₁) → p₁.loadSource w₁ = ((.error cause, p'), w') →
    FirstFailure p w cause p' w'

theorem FirstFailure.lastError (h : p.FirstFailure w e p' w') :
    p'.item.lastError = some e.message := by
  cases h with
  | parameters hp => exact (loadParameters_error hp).2
  | source _ hs => exact (loadSource_error hs).2

theorem FirstFailure.absent (h : p.FirstFailure w e p' w') :
    ¬(p'.parameters.isLoaded = true ∧ p'.source.isLoaded = true) := by
  cases h with
  | parameters hp => simp [(loadParameters_error hp).1]
  | source _ hs => simp [(loadSource_error hs).1]

/-- The text of the failure is what the item keeps, so it is that of the failure. -/
theorem FirstFailure.preconditionError (h : p.FirstFailure w e p' w') :
    p'.preconditionError e = .preconditionNotMet e.message := by
  rw [Procedure.preconditionError, h.lastError]
  rfl

/-- A first failure ends the call. -/
theorem FirstFailure.run (h : p.FirstFailure w e p' w') :
    p.alterStatement w = ((.error (.preconditionNotMet e.message), p'), w') := by
  rw [← h.preconditionError]
  unfold alterStatement
  rw [Engine.run_bind]
  cases h with
  | parameters hp =>
    rw [hp]
    rfl
  | source hp hs =>
    rw [hp]
    dsimp only
    rw [Engine.run_bind, hs]
    rfl

/-- A script is written once both parts are there, or there is a first failure. -/
theorem alterStatement_cases (p : Procedure) (w : World) :
    (∃ e p' w', p.FirstFailure w e p' w') ∨
    ∃ p' w', p'.parameters.isLoaded = true ∧ p'.source.isLoaded = true ∧
      p.alterStatement w =
        ((.ok (alterSql p'.quotedName p'.loadedParameters p'.source.text), p'), w') := by
  rcases hp : p.loadParameters w with ⟨⟨e | ⟨⟩, p₁⟩, w₁⟩
  · exact .inl ⟨e, p₁, w₁, .parameters hp⟩
  · rcases hs : p₁.loadSource w₁ with ⟨⟨e | ⟨⟩, p'⟩, w'⟩
    · exact .inl ⟨e, p', w', .source hp hs⟩
    · obtain ⟨source, same⟩ := loadSource_ok hs
      refine .inr ⟨p', w', same ▸ loadParameters_ok hp, source, ?_⟩
      unfold alterStatement
      rw [Engine.run_bind, hp]
      dsimp only
      rw [Engine.run_bind, hs]
      rfl

/-! ## What is asked -/

/-- The queries for what is not there. Nothing is asked for the source once the load of
the parameters, with the given outcome, has failed. -/
def missing (p : Procedure) (outcome : Except Error Unit) : List String :=
  (if p.parameters.isLoaded then [] else [Parameter.sql]) ++
    if p.source.isLoaded || !outcome.isOk then [] else [sourceSql]

theorem missing_sublist (p : Procedure) (outcome : Except Error Unit) :
    (p.missing outcome).Sublist [Parameter.sql, sourceSql] := by
  have part (there : Bool) (sql : String) :
      (if there then [] else [sql] : List String).Sublist [sql] := by
    cases there
    · exact List.Sublist.refl _
    · exact List.nil_sublist _
  exact (part _ _).append (part _ _)

theorem fetchParameters_asks (item : Item) (l : LoaderId) (w : World) (hs : w.Sound)
    (hl : w.Inside l) : w.Asks [Parameter.sql] ((fetchParameters item l).run w).2 := by
  have asked : w.Asks [Parameter.sql]
      ((l.list Parameter.sql [.text item.name.raw] ParameterDefinition.read).run w).2 :=
    fold_asks hs hl _ _
  have made (d : ParameterDefinition) :
      Leads World.RunsNone (Parameter.within item.id l d) fun _ => True :=
    ⟨fun _ _ => rfl, fun _ => trivial⟩
  unfold fetchParameters
  rcases hq : (l.list Parameter.sql [.text item.name.raw] ParameterDefinition.read).run w with
    ⟨e | definitions, w'⟩ <;> rw [hq] at asked
  · rw [Query.run_bind_error hq]
    exact asked
  · rw [Query.run_bind_ok hq]
    exact asked.after ((Leads.mapM (P := fun _ => True) (fun d _ => made d) definitions
      fun _ _ => trivial).course w')

theorem fetchSource_asks (item : Item) (l : LoaderId) (w : World) (hs : w.Sound)
    (hl : w.Inside l) : w.Asks [sourceSql] ((fetchSource item l).run w).2 := by
  have asked : w.Asks [sourceSql]
      ((l.first? sourceSql [.text item.name.raw] (Row.blob · 1)).run w).2 := first_asks hs hl _
  unfold fetchSource
  rcases hq : (l.first? sourceSql [.text item.name.raw] (Row.blob · 1)).run w with ⟨e | found, w'⟩
    <;> rw [hq] at asked
  · rw [Query.run_bind_error hq]
    exact asked
  · rw [Query.run_bind_ok hq]
    exact asked

variable {D : Discipline}

theorem loadParameters_asks (hu : D.Upholds w) (hf : D.FitsProcedure w p) :
    w.Asks (if p.parameters.isLoaded then [] else [Parameter.sql]) (p.loadParameters w).2 :=
  Item.load_asks hu.sound hf.knows (fetchParameters_asks p.item) p.parameters

theorem loadSource_asks (hu : D.Upholds w) (hf : D.FitsProcedure w p) :
    w.Asks (if p.source.isLoaded then [] else [sourceSql]) (p.loadSource w).2 :=
  Item.load_asks hu.sound hf.knows (fetchSource_asks p.item) p.source

theorem alterStatement_asks (hu : D.Upholds w) (hf : D.FitsProcedure w p) :
    w.Asks (p.missing (p.loadParameters w).1.1) (p.alterStatement w).2 := by
  have first := loadParameters_asks hu hf
  have loaded := Discipline.procedureLoad_attempts hu hf .parameters
  unfold alterStatement missing
  rw [Engine.run_bind]
  rcases hp : p.loadParameters w with ⟨⟨e | ⟨⟩, p₁⟩, w₁⟩ <;> rw [hp] at first
  · have spared : (p.source.isLoaded || !(Except.error e : Except Error Unit).isOk) = true :=
      Bool.or_true _
    rw [if_pos spared, List.append_nil]
    exact first
  · obtain ⟨hu₁, -, hf₁, -⟩ := loaded.run hp
    have same : p₁.source = p.source := congrArg (·.1.2.source) hp.symm
    have second := loadSource_asks hu₁ hf₁
    have needed : (p.source.isLoaded || !(Except.ok () : Except Error Unit).isOk) =
        p₁.source.isLoaded := by
      rw [same]
      exact Bool.or_false _
    rw [needed]
    dsimp only
    rw [Engine.run_bind]
    rcases hs : p₁.loadSource w₁ with ⟨⟨e | ⟨⟩, p'⟩, w'⟩ <;> rw [hs] at second <;>
      exact first.trans second

theorem parameterSql_ne_sourceSql : Parameter.sql ≠ sourceSql := by
  decide +kernel

/-! ## The call as a whole -/

/-- What asking for the script of a procedure does. It succeeds if and only if the
parameters and the source are there then. Otherwise it reports the error of the first of
the two loads that failed, and the item has kept it. What is there is not asked for again,
nor is the source once the parameters have failed; and nobody is left in a transaction. -/
structure Alters (p : Procedure) (w : World) : Prop where
  ok_iff : (p.alterStatement w).1.1.isOk = true ↔
    (p.alterStatement w).1.2.parameters.isLoaded = true ∧
      (p.alterStatement w).1.2.source.isLoaded = true
  error : ∀ e, (p.alterStatement w).1.1 = .error e → ∃ cause,
    p.FirstFailure w cause (p.alterStatement w).1.2 (p.alterStatement w).2 ∧
      e = .preconditionNotMet cause.message ∧
      (p.alterStatement w).1.2.item.lastError = some cause.message
  asks : w.Asks [Parameter.sql, sourceSql] (p.alterStatement w).2
  parametersThere : p.parameters.isLoaded = true → w.Unasked Parameter.sql (p.alterStatement w).2
  sourceThere : p.source.isLoaded = true → w.Unasked sourceSql (p.alterStatement w).2
  parametersFailed : ∀ e, (p.loadParameters w).1.1 = .error e →
    w.Unasked sourceSql (p.alterStatement w).2
  depth : ∀ l, ((p.alterStatement w).2.loader l).depth = (w.loader l).depth

theorem alters_of_fits (hu : D.Upholds w) (hf : D.FitsProcedure w p) : p.Alters w := by
  have asks := alterStatement_asks hu hf
  have other := parameterSql_ne_sourceSql
  refine ⟨?_, ?_, ?_, ?_, ?_, ?_, (Discipline.alterStatement_attempts hu hf).settles.depth⟩
  · obtain ⟨e, p', w', first⟩ | ⟨p', w', parameters, source, run⟩ :=
      p.alterStatement_cases w
    · rw [first.run]
      exact iff_of_false Bool.false_ne_true first.absent
    · rw [run]
      exact iff_of_true rfl ⟨parameters, source⟩
  · intro e failed
    obtain ⟨cause, p', w', first⟩ | ⟨p', w', -, -, run⟩ := p.alterStatement_cases w
    · rw [first.run] at failed ⊢
      exact ⟨cause, first, (Except.error.inj failed).symm, first.lastError⟩
    · rw [run] at failed
      cases failed
  · exact asks.mono (p.missing_sublist _)
  · intro there
    refine asks.unasked ?_
    simp [missing, there, other]
  · intro there
    refine asks.unasked ?_
    simp [missing, there, other.symm]
  · intro e failed
    refine asks.unasked ?_
    simp [missing, failed, other.symm, Except.isOk, Except.toBool]

end Procedure

/-! ## Clients -/

namespace Client

/-- Whatever a client has done before, and whatever error a procedure has kept from that:
what asking for its script does is all in `Procedure.Alters`. -/
theorem Reachable.alters {permits : Client → Step → Prop} {client : Client}
    (h : Reachable permits client) {p : Procedure}
    (hp : .procedure p ∈ client.workspace.everyObject) : p.Alters client.world := by
  have upheld := h.upheld (positions_admits permits)
  exact Procedure.alters_of_fits upheld.upholds (upheld.fits.everyObject _ hp)

/-- A client with a procedure whose source could not be read while the connection was
busy. Now the connection is lost. -/
def interrupted : Client := (Client.start 0).after
  [.openCatalog "main" "test.fdb" "SYSDBA" "masterkey",
    .newDatabase "db" none (.ofCatalog "DB") "test.fdb", .connect "db" "main",
    .database "db" (.addProcedure (.ofCatalog "P")),
    .direct "main" .start,
    .procedure { database := some "db", procedure := some "P" } (.load .source),
    .direct "main" .commit, .script "main" (.connected false)]

/-- The first object is a procedure that has kept an error, and loading its parameters
fails with another one. -/
theorem procedure_of_first {client : Client} {old : String} {e : Error}
    (one : (client.workspace.everyObject.head?.any fun object =>
      (object.part? .parameters).isSome && object.item.lastError == some old &&
      decide ((object.load .parameters client.world).1.1 = .error e)) = true) :
    ∃ p, .procedure p ∈ client.workspace.everyObject ∧ p.item.lastError = some old ∧
      (p.loadParameters client.world).1.1 = .error e := by
  obtain ⟨object, first, facts⟩ := (Option.any_eq_true _ _).mp one
  simp only [Bool.and_eq_true, decide_eq_true_eq, beq_iff_eq] at facts
  obtain ⟨⟨there, kept⟩, fails⟩ := facts
  cases object with
  | table _ | view _ => cases there
  | procedure p => exact ⟨p, List.mem_of_mem_head? first, kept, fails⟩

/-- The error that the procedure had kept is not what its script reports. -/
theorem Reachable.alters_interrupted :
    ∃ p, .procedure p ∈ interrupted.workspace.everyObject ∧
      p.item.lastError = some "Connection error: transaction already active" ∧
      (p.alterStatement interrupted.world).1.1 =
        .error (.preconditionNotMet (Error.notConnected "test.fdb").message) ∧
      (p.alterStatement interrupted.world).1.2.item.lastError =
        some (Error.notConnected "test.fdb").message ∧
      interrupted.world.Unasked Procedure.sourceSql (p.alterStatement interrupted.world).2 := by
  have reachable : Reachable (fun _ _ => True) interrupted :=
    Reachable.after (.start 0) fun _ _ _ => trivial
  obtain ⟨p, member, old, fails⟩ : ∃ p, .procedure p ∈ interrupted.workspace.everyObject ∧
      p.item.lastError = some "Connection error: transaction already active" ∧
      (p.loadParameters interrupted.world).1.1 = .error (.notConnected "test.fdb") :=
    procedure_of_first (by decide +kernel)
  have alters := Reachable.alters reachable member
  have unasked := alters.parametersFailed _ fails
  rcases hp : p.loadParameters interrupted.world with ⟨⟨outcome, p'⟩, w'⟩
  rw [hp] at fails
  obtain rfl : outcome = .error (.notConnected "test.fdb") := fails
  have run := (Procedure.FirstFailure.parameters hp).run
  obtain ⟨cause, -, same, kept⟩ := alters.error _ (congrArg (·.1.1) run)
  rw [← Error.preconditionNotMet.inj same] at kept
  exact ⟨p, member, old, congrArg (·.1.1) run, kept, unasked⟩

end Client

end MetaCatalog
