import MetaCatalog.Proofs.Client.Inventory
import MetaCatalog.Proofs.Framework.Balance

/-!
# Transactions of clients

As long as nobody uses a connection's transaction behind the loaders' back,
whatever a client does keeps its transactions balanced.
`Client.Reachable.balanced` is the whole of it.
-/

namespace MetaCatalog

namespace Client

/-- Nobody calls the transaction of a connection without a loader. -/
def Indirect (_ : Client) (step : Step) : Prop := step.isDirect = false

theorem balance_admits : balance.Admits Indirect where
  start seed := by
    have unused {l : LoaderId} : ¬ World.Inside { seed } l := Nat.lt_irrefl 0
    refine ⟨fun h => absurd h unused, fun c => ⟨fun h => ?_, ?_⟩, fun _ => rfl, fun _ => rfl⟩
    · cases h
    · rintro ⟨l, hl, -⟩
      exact absurd hl unused
  openCatalog {w} h database user password := by
    refine h.holds.settles (World.settles_connect ..) fun c => ?_
    rw [World.catalog_connect]
    split
    · next hc =>
      rw [World.catalog_of_not_serves fun hs => absurd (hc ▸ hs) (Nat.lt_irrefl _)]
      rfl
    · rfl
  script {w} h c change := by
    refine h.holds.settles (World.settles_setCatalog ..) fun d => ?_
    rw [World.catalog_setCatalog]
    split
    · next hd =>
      rw [← hd.1]
      cases change <;> rfl
    · rfl
  direct _ hp := nomatch hp
  prepare h _ _ _ := h.holds.reads (LoaderId.prepare_reads ..)
  useHandle h _ _ := h.upholds.holds.reads (Discipline.handleCall_reads h.upholds.sound _ _).2

/-- In a session in which nobody uses the transaction of a connection directly,
the transactions of every connection are balanced. Loaders are in use as often
as guards on them are held, and nothing but taking and dropping a guard changes
that, whatever fails on the way. No query of the library is refused for being
run outside a transaction. -/
theorem Reachable.balanced {client : Client} (h : Reachable Indirect client) :
    client.world.Balanced ∧
    (∀ l, (client.world.loader l).depth = client.guards.count l) ∧
    (∀ item ∈ client.workspace.everyItem, ∀ text, item.lastError = some text →
      ¬ refusesOutside text) ∧
    ∀ step : Step, step.isDirect = false →
      (step.isGuard = false → ∀ l,
        ((step.perform client).2.world.loader l).depth = (client.world.loader l).depth) ∧
      (step.isForeign = false → ∀ e, (step.perform client).1 = some e →
        ¬ refusesOutside e.message) := by
  have upheld := h.upheld balance_admits
  refine ⟨upheld.upholds.holds, upheld.guards, fun item hi => ?_, fun step hs => ⟨fun hg => ?_, ?_⟩⟩
  · exact (upheld.fits.everyItem item hi).allows
  · exact (upheld.settles balance_admits hs hg).depth
  · exact upheld.reports balance_admits hs

/-- While the first of two loaders on a connection is in use, so is the
transaction, and the second loader cannot be entered. -/
theorem Reachable.balanced_entered :
    let client := (Client.start 0).after
      [.openCatalog "main" "test.fdb" "SYSDBA" "masterkey", .newLoader "first" "main",
        .newLoader "second" "main", .enter "first"]
    client.world.Balanced ∧ (client.world.loader ⟨0⟩).depth = client.guards.count ⟨0⟩ ∧
      (client.world.catalog ⟨0⟩).inTransaction = true ∧
      ((Step.enter "second").perform client).1 =
        some (.connection "transaction already active") := by
  intro client
  have reachable : Reachable Indirect client :=
    Reachable.after (.start 0) fun step hs _ => by
      revert step
      show ∀ step : Step, step ∈ _ → step.isDirect = false
      decide
  obtain ⟨balanced, guards, -⟩ := Reachable.balanced reachable
  exact ⟨balanced, guards ⟨0⟩, by decide, by decide⟩

end Client

end MetaCatalog
