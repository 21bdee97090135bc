import MetaCatalog.Proofs.Client.Runs

/-!
# Releasing guards

Someone who calls the transaction of a connection directly can end it, or start
another one, while loaders believe that theirs is active. That a loader is in use
as often as guards on it are held does not depend on what the connection does:
`coherence` asks no more of a world than that it hangs together. And the guard
that goes last leaves no transaction behind, since what cannot be committed is
rolled back (`LoaderId.leave_last`). `Client.Reachable.released` puts the two
together.
-/

namespace MetaCatalog

open World

/-! ## The last guard -/

namespace LoaderId

/-- A transaction that is still active is committed. -/
theorem finish_active {catalog : Catalog} (h : catalog.inTransaction = true) :
    finish catalog = { catalog with inTransaction := false, commits := catalog.commits + 1 } := by
  rw [finish, Catalog.commit, if_pos h]

/-- A transaction that was ended by somebody else is rolled back. -/
theorem finish_idle {catalog : Catalog} (h : catalog.inTransaction = false) :
    finish catalog = { catalog with rollbacks := catalog.rollbacks + 1 } := by
  rw [finish, Catalog.commit, if_neg (Bool.eq_false_iff.mp h)]
  simp only [Catalog.rollback, h]

theorem finish_closed (catalog : Catalog) : (finish catalog).inTransaction = false := by
  cases h : catalog.inTransaction
  · rw [finish_idle h]
    exact h
  · rw [finish_active h]

variable {w : World} {l : LoaderId}

/-- The last user ends the transaction of the connection. -/
theorem leave_last (h : (w.loader l).depth = 1) :
    (l.leave w).2.catalogOf l =
      if w.Serves (w.loader l).connection then finish (w.catalogOf l) else default := by
  have inside : w.Inside l := Nat.lt_of_lt_of_eq Nat.one_pos h.symm
  have connection := (l.leave_grows w).connection l inside.knows
  rw [catalogOf, connection, run_leave]
  dsimp only
  rw [if_pos h, catalog_setCatalog]
  by_cases hs : w.Serves (w.loader l).connection
  · rw [if_pos ⟨rfl, hs⟩, if_pos hs]
  · rw [if_neg fun hn => hs hn.2, if_neg hs]
    exact catalog_of_not_serves hs

/-- Whatever the connection was doing, the last user leaves no transaction behind. -/
theorem leave_last_closed (h : (w.loader l).depth = 1) :
    ((l.leave w).2.loader l).depth = 0 ∧ ((l.leave w).2.catalogOf l).inTransaction = false := by
  refine ⟨?_, ?_⟩
  · rw [leave_depth (Nat.lt_of_lt_of_eq Nat.one_pos h.symm), h, if_pos rfl]
  · rw [leave_last h]
    split
    · exact finish_closed _
    · rfl

end LoaderId

/-! ## Sessions of any kind -/

/-- Of a world nothing is asked but that it hangs together. -/
def coherence : Discipline where
  holds _ := True
  allows _ := True
  query _ _ _ _ := ⟨trivial, fun _ _ => trivial⟩
  advance _ := trivial
  enter _ _ _ _ := trivial
  leave _ _ _ := trivial
  aside _ := trivial
  newLoader _ _ _ := trivial
  clearStatements _ _ := trivial
  busy := trivial
  refused _ := trivial
  read _ := trivial
  missingContext _ := trivial
  notConnected _ := trivial
  notFound _ := trivial

/-- Every client keeps its world together. -/
theorem coherence_admits (permits : Client → Step → Prop) : coherence.Admits permits where
  start _ := trivial
  openCatalog _ _ _ _ := trivial
  script _ _ _ := trivial
  direct _ _ _ _ _ := trivial
  prepare _ _ _ _ := trivial
  useHandle _ _ _ := trivial

namespace Client

variable {client : Client}

/-- Taking a guard either enters the transaction of a loader, or changes nothing. -/
theorem enter_cases (client : Client) (name : String) :
    (∃ l w, l.enter.run client.world = (.ok (), w) ∧ (Step.enter name).perform client =
      (none, { workspace := { client.workspace with world := w }, guards := l :: client.guards })) ∨
    ∃ error, (Step.enter name).perform client = (error, client) := by
  rcases hl : client.workspace.loaders.lookup name with _ | l
  · exact .inr ⟨none, by simp only [Step.perform, hl]⟩
  rcases he : l.enter.run client.world with ⟨outcome, w⟩
  have ran : Workspace.engine l.enter.run client.workspace =
      (outcome, { client.workspace with world := w }) := Discipline.engine_run he
  rcases outcome with e | ⟨⟩
  · obtain ⟨rfl, -⟩ := LoaderId.enter_error he
    exact .inr ⟨some e, by simp only [Step.perform, hl, ran]; rfl⟩
  · exact .inl ⟨l, w, he, by simp only [Step.perform, hl, ran]⟩

/-- Dropping a guard leaves the transaction of its loader. -/
theorem leave_cases (client : Client) (guard : Nat) :
    (∃ l ∈ client.guards,
      ((Step.leave guard).perform client).2.world = (l.leave client.world).2) ∨
    (Step.leave guard).perform client = (none, client) := by
  rcases hg : client.guards[guard]? with _ | l
  · exact .inr (by simp only [Step.perform, hg])
  · refine .inl ⟨l, List.mem_of_getElem? hg, ?_⟩
    simp only [Step.perform, hg]
    rfl

/-- A guard that is refused changes nothing. -/
theorem enter_failed {name : String} {e : Error}
    (h : ((Step.enter name).perform client).1 = some e) :
    ((Step.enter name).perform client).2 = client := by
  obtain ⟨l, w, -, run⟩ | ⟨error, run⟩ := enter_cases client name
  · rw [run] at h
    cases h
  · rw [run]

/-- No step but dropping the last guard on a loader brings its depth from one to
nothing. -/
theorem leaves_last (hc : coherence.Upheld client) {step : Step} {l : LoaderId}
    (before : (client.world.loader l).depth = 1)
    (after : ((step.perform client).2.world.loader l).depth = 0) :
    (step.perform client).2.world = (l.leave client.world).2 := by
  cases hs : step.isGuard
  · -- A step that neither takes nor drops a guard changes no depth.
    have same :=
      (Discipline.Upheld.settles (coherence_admits fun _ _ => True) hc trivial hs).depth l
    omega
  cases step
  case enter name =>
    have held := hc.guards l
    have holds := (Discipline.enter_upheld hc name).1.guards l
    obtain ⟨k, w, -, run⟩ | ⟨error, run⟩ := enter_cases client name <;> rw [run] at after holds
    · have more : client.guards.count l ≤ (k :: client.guards).count l :=
        (List.sublist_cons_self k _).count_le l
      dsimp only at after holds
      omega
    · exact absurd (before.symm.trans after) Nat.one_ne_zero
  case leave guard =>
    obtain ⟨k, hk, run⟩ | run := leave_cases client guard <;> rw [run] at after ⊢
    · have inside : client.world.Inside k := by
        rw [Inside, hc.guards]
        exact List.count_pos_iff.mpr hk
      have depth := LoaderId.leave_depth inside l
      by_cases same : k = l
      · rw [same]
      · rw [if_neg same] at depth
        omega
    · exact absurd (before.symm.trans after) Nat.one_ne_zero
  all_goals cases hs

/-- In every session, whatever is done to the connections directly, a loader is
in use as often as guards on it are held. A guard that is refused changes
nothing. The step that drops the last guard on a loader leaves its connection
without a transaction: a transaction that is still active is committed, and one
that was ended meanwhile is rolled back. Nor does the library ever leave one
behind when it is the last to use a loader. -/
theorem Reachable.released {permits : Client → Step → Prop} (h : Reachable permits client) :
    (∀ l, (client.world.loader l).depth = client.guards.count l) ∧
    (∀ name e, ((Step.enter name).perform client).1 = some e →
      ((Step.enter name).perform client).2 = client) ∧
    (∀ (w w' : World) (l : LoaderId) (e : Error), l.enter.run w = (.error e, w') → w' = w) ∧
    (∀ (step : Step) (l : LoaderId), (client.world.loader l).depth = 1 →
      ((step.perform client).2.world.loader l).depth = 0 →
        ((step.perform client).2.world.catalogOf l).inTransaction = false ∧
        (step.perform client).2.world.catalogOf l =
          let catalog := client.world.catalogOf l
          if catalog.inTransaction then
            { catalog with inTransaction := false, commits := catalog.commits + 1 }
          else { catalog with rollbacks := catalog.rollbacks + 1 }) ∧
    ∀ (w : World) (l : LoaderId), (w.loader l).depth = 1 →
      ((l.leave w).2.loader l).depth = 0 ∧ ((l.leave w).2.catalogOf l).inTransaction = false := by
  have upheld : coherence.Upheld client := h.upheld (coherence_admits permits)
  refine ⟨upheld.guards, fun _ _ => enter_failed, fun _ _ _ _ he => (LoaderId.enter_error he).1,
    fun step l before after => ?_, fun _ _ => LoaderId.leave_last_closed⟩
  have run := leaves_last upheld before after
  have inside : client.world.Inside l := Nat.lt_of_lt_of_eq Nat.one_pos before.symm
  have served := upheld.upholds.sound.served l inside.knows
  rw [run]
  refine ⟨(LoaderId.leave_last_closed before).2, ?_⟩
  rw [LoaderId.leave_last before, if_pos served]
  dsimp only
  split
  · next ht => exact LoaderId.finish_active ht
  · next ht => exact LoaderId.finish_idle (Bool.eq_false_iff.mpr ht)

/-- A loader is entered, its transaction is committed directly, and another
loader takes the connection over. Dropping the first guard commits what the other
loader has started, and the second guard is then rolled back. -/
theorem Reachable.released_taken_over :
    let client := (Client.start 0).after
      [.openCatalog "main" "test.fdb" "SYSDBA" "masterkey", .newLoader "first" "main",
        .newLoader "second" "main", .enter "first", .direct "main" .commit, .enter "second"]
    client.guards = [⟨1⟩, ⟨0⟩] ∧ (client.world.catalogOf ⟨0⟩).inTransaction = true ∧
      (((Step.leave 1).perform client).2.world.catalogOf ⟨0⟩).inTransaction = false ∧
      ((client.after [.leave 1, .leave 0]).world.catalogOf ⟨1⟩).rollbacks = 1 := by
  intro client
  have reachable : Reachable (fun _ _ => True) client :=
    Reachable.after (.start 0) fun _ _ _ => trivial
  obtain ⟨-, -, -, closed, -⟩ := Reachable.released reachable
  exact ⟨by decide, by decide, (closed (.leave 1) ⟨0⟩ (by decide) (by decide)).1, by decide⟩

end Client

end MetaCatalog
