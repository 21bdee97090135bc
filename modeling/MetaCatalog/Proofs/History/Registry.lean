import MetaCatalog.History.Archive
import MetaCatalog.Proofs.Framework.Engine
import MetaCatalog.Proofs.History.Storage

/-!
# The histories of a registry

A registry has one history for each scope that it has been asked for, stored
under the name of that scope (`HistoryRegistry.IsFiled`). Calls on a history
keep its name and touch what is stored of no other
(`HistoryCall.use_storageName`, `HistoryCall.use_agrees`), so that a registry
stays so (`HistoryRegistry.IsFiled.onScope`).
-/

namespace MetaCatalog

/-- What is done with a history that a registry has handed out. -/
inductive HistoryCall where
  | look
  | set (position : Nat) (text : String)
  | add (text : String)
  | save

namespace HistoryCall

open History (Agree)

/-- What a call makes of a history and of the settings. -/
def use : HistoryCall → HistoryUse Unit
  | look, settings, history => ((), history, settings)
  | set position text, settings, history => ((), history.set settings position text, settings)
  | add text, settings, history => ((), history.add settings text, settings)
  | save, settings, history => ((), history, history.save settings)

theorem limit_storageName (policy : HistoryPolicy) (history : History) :
    (history.limit policy).storageName = history.storageName := by
  rw [History.limit]
  split <;> rfl

theorem use_storageName (call : HistoryCall) (settings : Settings) (history : History) :
    (call.use settings history).2.1.storageName = history.storageName := by
  cases call with
  | look => rfl
  | set position text => exact limit_storageName _ _
  | add text =>
    show (history.add settings text).storageName = history.storageName
    unfold History.add
    dsimp only
    split
    · exact limit_storageName _ _
    · rfl
  | save => rfl

theorem use_agrees {name : String} (call : HistoryCall) (settings : Settings) {history : History}
    (h : name ≠ history.storageName) : Agree name settings (call.use settings history).2.2 := by
  cases call with
  | save => exact history.save_agrees settings h
  | _ => exact .refl name settings

end HistoryCall

namespace HistoryRegistry

/-- The scopes that a registry has been asked for. -/
def scopes (registry : HistoryRegistry) : List HistoryScope := registry.histories.map (·.1)

/-- There is one history for each scope, stored under the name of the scope. -/
structure IsFiled (registry : HistoryRegistry) : Prop where
  distinct : registry.scopes.Nodup
  named : ∀ entry ∈ registry.histories, entry.2.storageName = entry.1.storageName

theorem IsFiled.empty : IsFiled {} :=
  ⟨.nil, fun _ h => absurd h List.not_mem_nil⟩

variable {registry : HistoryRegistry} {scope : HistoryScope}

/-- No two histories are stored under one name. -/
theorem IsFiled.storageNames (h : registry.IsFiled) :
    (registry.histories.map (·.2.storageName)).Nodup := by
  have names : registry.histories.map (·.2.storageName) =
      registry.scopes.map HistoryScope.storageName := by
    rw [scopes, List.map_map]
    exact List.map_congr_left h.named
  rw [names]
  exact h.distinct.map fun _ _ => HistoryScope.storageName_injective

theorem IsFiled.storageName_ne (h : registry.IsFiled) (hs : scope ∉ registry.scopes) :
    ∀ entry ∈ registry.histories, scope.storageName ≠ entry.2.storageName := by
  intro entry he heq
  rw [h.named entry he] at heq
  exact hs (List.mem_map.mpr ⟨entry, he, (HistoryScope.storageName_injective heq).symm⟩)

/-- The order in which the histories stand does not matter. -/
theorem IsFiled.perm {histories : List (HistoryScope × History)} (h : registry.IsFiled)
    (hp : histories.Perm registry.histories) : IsFiled ⟨histories⟩ :=
  ⟨(hp.map _).nodup_iff.mpr h.distinct, fun entry he => h.named entry (hp.mem_iff.mp he)⟩

/-! ## Handing out a history -/

theorem scopes_replace (scope : HistoryScope) (history : History)
    (histories : List (HistoryScope × History)) :
    (replace scope history histories).map (·.1) = histories.map (·.1) := by
  induction histories with
  | nil => rfl
  | cons entry rest ih =>
    rw [replace]
    split
    · rfl
    · exact congrArg (entry.1 :: ·) ih

theorem mem_replace {history : History} {histories : List (HistoryScope × History)}
    {entry : HistoryScope × History} (h : entry ∈ replace scope history histories) :
    entry = (scope, history) ∨ entry ∈ histories := by
  induction histories with
  | nil => exact absurd h List.not_mem_nil
  | cons first rest ih =>
    rw [replace] at h
    split at h
    · next same =>
      rcases List.mem_cons.mp h with rfl | h
      · exact .inl (by rw [same])
      · exact .inr (List.mem_cons_of_mem _ h)
    · rcases List.mem_cons.mp h with rfl | h
      · exact .inr List.mem_cons_self
      · exact (ih h).imp id (List.mem_cons_of_mem _)

/-- The history handed out is that of the scope, and is in use from then on. -/
theorem IsFiled.use (h : registry.IsFiled) (settings : Settings) (scope : HistoryScope) :
    (registry.use settings scope).2.IsFiled ∧
      (registry.use settings scope).1.storageName = scope.storageName ∧
      ∀ s, s ∈ (registry.use settings scope).2.scopes ↔ s = scope ∨ s ∈ registry.scopes := by
  rw [HistoryRegistry.use]
  cases found : registry.histories.lookup scope with
  | some history =>
    have there : scope ∈ registry.scopes :=
      isSome_lookup_iff.mp (by rw [found]; rfl)
    refine ⟨h, h.named _ (mem_of_lookup found), fun s => ⟨.inr, ?_⟩⟩
    rintro (rfl | hs)
    · exact there
    · exact hs
  | none =>
    have fresh : scope ∉ registry.scopes := fun hs => by
      have there := isSome_lookup_iff.mpr hs
      rw [found] at there
      cases there
    have grown (history : History) :
        (registry.histories ++ [(scope, history)]).map (·.1) = registry.scopes ++ [scope] :=
      List.map_append
    refine ⟨⟨?_, fun entry he => ?_⟩, rfl, fun s => ?_⟩
    · show List.Nodup (List.map _ _)
      rw [grown]
      exact List.nodup_append_comm.mp (List.nodup_cons.mpr ⟨fresh, h.distinct⟩)
    · rcases List.mem_append.mp he with he | he
      · exact h.named entry he
      · rw [List.mem_singleton.mp he]
        rfl
    · show s ∈ List.map _ _ ↔ _
      rw [grown, List.mem_append, List.mem_singleton, or_comm]

/-- The registry after an operation on a history that keeps its name. -/
theorem IsFiled.onScope (h : registry.IsFiled) (settings : Settings) (scope : HistoryScope)
    (operation : History → α × History)
    (ho : ∀ history, (operation history).2.storageName = history.storageName) :
    (registry.onScope settings scope operation).2.IsFiled ∧
      ∀ s, s ∈ (registry.onScope settings scope operation).2.scopes ↔
        s = scope ∨ s ∈ registry.scopes := by
  obtain ⟨filed, name, scopes⟩ := h.use settings scope
  have same : (registry.onScope settings scope operation).2.scopes =
      (registry.use settings scope).2.scopes := scopes_replace _ _ _
  refine ⟨⟨?_, fun entry he => ?_⟩, ?_⟩
  · rw [same]
    exact filed.distinct
  · rcases mem_replace he with rfl | he
    · exact (ho _).trans name
    · exact filed.named entry he
  · rw [same]
    exact scopes

end HistoryRegistry

end MetaCatalog
