import MetaCatalog.Proofs.Framework.Links
import MetaCatalog.Proofs.Rows.Readers

/-!
# Loading what is made of runs of rows

A fold that succeeds has gone through the rows of some answer, and inside the
transaction of its loader that is the answer of the catalog (`LoaderId.fold_ok`). So a
facet that is made of runs of rows holds one object for each run of the rows that the
catalog answers with (`Regroups.load_ok`).
-/

namespace MetaCatalog

open World

variable {w w' : World} {l : LoaderId} {sql : String} {value : Value} {values asked : List Value}

/-- What a fold that succeeds has read. -/
theorem LoaderId.fold_ok {step : σ → Row → Except Error σ} {state result : σ}
    (first : w.BindsFirst l sql values asked.head?)
    (hr : (l.fold sql values step state).run w = (.ok result, w')) :
    ∃ rows : List Row, rows.foldlM step state = .ok result ∧
      (w.Sound → w.Inside l → (w.catalogOf l).answer sql asked = .ok rows) := by
  rcases hq : (l.query sql values).run w with ⟨e | handle, after⟩
  · rw [fold, Query.run_bind_error hq] at hr
    cases hr
  · rw [fold, Query.run_bind_ok hq, Handle.run_foldRows] at hr
    refine ⟨(after.statement handle.statement).rows, ?_, fun hs hl => query_answer hs hl first hq⟩
    exact (Statement.foldRows_eq_foldlM ..).symm.trans (congrArg Prod.fst hr)

/-- What a query has read whose rows are read one by one. -/
theorem LoaderId.list_ok {read : Row → Except Error α} {as : List α}
    (first : w.BindsFirst l sql values asked.head?)
    (hr : (l.list sql values read).run w = (.ok as, w')) :
    ∃ rows : List Row, rows.mapM read = .ok as ∧
      (w.Sound → w.Inside l → (w.catalogOf l).answer sql asked = .ok rows) := by
  obtain ⟨rows, folded, answer⟩ := fold_ok first hr
  rw [foldlM_append_eq_mapM] at folded
  refine ⟨rows, ?_, answer⟩
  cases hm : rows.mapM read with
  | error e =>
    rw [hm] at folded
    cases folded
  | ok found =>
    rw [hm] at folded
    exact folded

/-! ## Facets -/

namespace Facet

/-- What is there, if anything is, has the property. -/
def Holds (P : α → Prop) (facet : Facet α) : Prop := ∀ value, facet = .loaded value → P value

theorem Holds.unloaded {P : α → Prop} : (Facet.unloaded : Facet α).Holds P := nofun

theorem Holds.of_kept {P : α → Prop} {facet facet' : Facet α} (h : facet.Holds P)
    (kept : facet' = facet ∨ facet' = .unloaded) : facet'.Holds P := by
  rcases kept with rfl | rfl
  · exact h
  · exact .unloaded

end Facet

section Runs

variable {γ ν : Type} [DecidableEq ν] {Made : γ → List Row → Prop} {label : Row → ν}

/-- Each of the objects was made of one run of some rows. -/
def MadeOfRuns (Made : γ → List Row → Prop) (label : Row → ν) (objects : List γ) : Prop :=
  ∃ rows, List.Forall₂ Made objects (runsBy label rows)

/-- A list that is fetched was made of runs of rows; inside the transaction of the loader
they are those that the catalog answers with. -/
def Regroups (fetch : LoaderId → Query (List γ)) (sql : String) (values : List Value)
    (Made : γ → List Row → Prop) (label : Row → ν) : Prop :=
  ∀ ⦃l w objects w'⦄, (fetch l).run w = (.ok objects, w') →
    ∃ rows, List.Forall₂ Made objects (runsBy label rows) ∧
      (w.Sound → w.Inside l → (w.catalogOf l).answer sql values = .ok rows)

/-- What a reader makes of the rows of a query. -/
theorem RunReader.Makes.regroups {κ : Type} {reader : RunReader κ γ}
    (h : reader.Makes label Made) (sql : String) (value : Value) (values : List Value) :
    Regroups (fun l => do pure (← l.fold sql (value :: values) reader.step []).reverse) sql
      (value :: values) Made label := by
  intro l w objects w' hr
  rcases hq : (l.fold sql (value :: values) reader.step []).run w with ⟨e | newest, after⟩
  · rw [Query.run_bind_error hq] at hr
    cases hr
  · rw [Query.run_bind_ok hq] at hr
    cases hr
    obtain ⟨rows, read, answer⟩ := LoaderId.fold_ok (bindsFirst_cons ..) hq
    exact ⟨rows, h.forall₂ read, answer⟩

variable {fetch : LoaderId → Query (List γ)} {facet : Facet (List γ)}

/-- A load keeps that what is there was made of rows. -/
theorem Regroups.holds (h : Regroups fetch sql values Made label) (item : Item)
    (before : facet.Holds (MadeOfRuns Made label)) (w : World) :
    (item.load facet fetch w).1.facet.Holds (MadeOfRuns Made label) := by
  obtain ⟨-, same⟩ | ⟨-, dropped, -⟩ | ⟨-, l, entered, objects, read, -, -, hr, -, loaded, -⟩ :=
    item.load_cases facet fetch w
  · rw [same]
    exact before
  · rw [dropped]
    exact .unloaded
  · intro there ht
    rw [loaded] at ht
    cases ht
    obtain ⟨rows, made, -⟩ := h hr
    exact ⟨rows, made⟩

/-- What is there after a load that succeeds. If it was not there before, the rows are
those that the catalog answers with. -/
theorem Regroups.load_ok (h : Regroups fetch sql values Made label) {item : Item}
    (hw : w.Sound) (knows : ∀ l, item.loader = some l → w.Knows l)
    (before : facet.Holds (MadeOfRuns Made label))
    (ok : (item.load facet fetch w).1.outcome = .ok ()) :
    ∃ rows objects, (item.load facet fetch w).1.facet = .loaded objects ∧
      List.Forall₂ Made objects (runsBy label rows) ∧
      (facet.isLoaded = false → ∃ l, item.loader = some l ∧
        (w.catalogOf l).answer sql values = .ok rows) := by
  obtain ⟨there, same⟩ | ⟨-, -, e, failed⟩ |
    ⟨-, l, entered, objects, read, hl, he, hr, -, loaded, -⟩ := item.load_cases facet fetch w
  · rw [same]
    cases facet with
    | unloaded | loading => cases there
    | loaded objects =>
      obtain ⟨rows, made⟩ := before objects rfl
      exact ⟨rows, objects, rfl, made, nofun⟩
  · rw [failed] at ok
    cases ok
  · obtain ⟨rows, made, answer⟩ := h hr
    refine ⟨rows, objects, loaded, made, fun _ => ⟨l, hl, ?_⟩⟩
    have sound := LoaderId.enter_sound hw l
    rw [he] at sound
    rw [← Catalog.answer_script, ← LoaderId.enter_script he, Catalog.answer_script]
    exact answer sound (LoaderId.enter_ok (knows l hl) he).inside

end Runs

/-! ## Idle loaders -/

theorem Catalog.readRows_ok {catalog : Catalog} {values : List Value} {rows : List Row}
    (answer : catalog.answer sql values = .ok rows) (step : σ → Row → Except Error σ) (state : σ) :
    catalog.readRows sql values step state = rows.foldlM step state := by
  rw [readRows, answer]
  rfl

/-- With an idle loader a list is loaded if the rows that the catalog answers with can
be read. -/
theorem RunReader.load_idle {κ γ : Type} {reader : RunReader κ γ} {item : Item}
    {facet : Facet (List γ)} {name : String} (about : AboutName sql) (h : Idle [sql] w l)
    (hl : item.loader = some l) (absent : facet.isLoaded = false) {newest : List γ}
    (read : (w.catalogOf l).readRows sql [.text name] reader.step [] = .ok newest) :
    let loaded := item.load facet
      (fun l => do pure (← l.fold sql [.text name] reader.step []).reverse) w
    loaded.1.outcome = .ok () ∧ loaded.1.facet = .loaded newest.reverse := by
  intro loaded
  obtain ⟨entered, he, ready, script, -⟩ := h.enter
  have count : [Value.text name].length = parameterCount sql := about.count.symm
  have answered : ((l.fold sql [.text name] reader.step []).run entered).1 = _ :=
    (ready.found List.mem_cons_self count (.foldRows reader.step [])).outcome
  have folded : ((l.fold sql [.text name] reader.step []).run entered).1 = .ok newest := by
    rw [answered, script, Catalog.answer_script, ← read, Catalog.readRows]
    cases (w.catalogOf l).answer sql [.text name] with
    | error e => rfl
    | ok rows => exact Statement.foldRows_eq_foldlM reader.step [] rows
  obtain ⟨outcome, facet, -⟩ := item.run_load
    (fun l => do pure (← l.fold sql [.text name] reader.step []).reverse) hl absent he
  rcases hr : (l.fold sql [.text name] reader.step []).run entered with ⟨_, after⟩
  rw [hr] at folded
  cases folded
  rw [Query.run_bind_ok hr] at outcome facet
  exact ⟨outcome, facet⟩

end MetaCatalog
