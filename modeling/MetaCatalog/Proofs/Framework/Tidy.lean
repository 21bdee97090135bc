import MetaCatalog.Proofs.Framework.Balance

/-!
# Tidy caches

A statement keeps its parameters from one use to the next. It is tidy while
either none or all of the parameters of its text are bound, and then the next
query binds every one anew (`Statement.Tidy.bound`). The statements that a
loader caches stay tidy as long as only the library uses them: `tidiness` is the
discipline of this.
-/

namespace MetaCatalog

/-! ## Parameters -/

namespace Parameters

/-- Values at lower positions stay in front. -/
theorem insert_append {position : Nat} (value : Value) {front : List (Nat × Value)}
    (rest : List (Nat × Value)) (h : ∀ e ∈ front, e.1 < position) :
    insert position value (front ++ rest) = front ++ insert position value rest := by
  induction front with
  | nil => rfl
  | cons e front ih =>
    have before : e.1 < position := h e List.mem_cons_self
    rw [List.cons_append, insert, if_neg (by omega), if_neg (by omega),
      ih fun x hx => h x (List.mem_cons_of_mem e hx), List.cons_append]

/-- Values that are put at consecutive positions replace the values there, or
join an empty end. -/
theorem insertFrom_append {position : Nat} {values : List Value} {front rest : List (Nat × Value)}
    (hf : ∀ e ∈ front, e.1 < position)
    (hr : rest = [] ∨ rest.map (·.1) = List.range' position values.length) :
    insertFrom position values (front ++ rest) =
      front ++ (List.range' position values.length).zip values := by
  induction values generalizing position front rest with
  | nil =>
    have empty : rest = [] := hr.elim id List.map_eq_nil_iff.mp
    rw [empty]
    rfl
  | cons value values ih =>
    obtain ⟨rest', inserted, hr'⟩ : ∃ rest', insert position value rest =
        (position, value) :: rest' ∧
          (rest' = [] ∨ rest'.map (·.1) = List.range' (position + 1) values.length) := by
      rcases hr with rfl | hr
      · exact ⟨[], rfl, .inl rfl⟩
      · rw [List.length_cons, List.range'_succ, List.map_eq_cons_iff] at hr
        obtain ⟨⟨p, old⟩, rest', rfl, rfl, hr⟩ := hr
        refine ⟨rest', ?_, .inr hr⟩
        rw [insert, if_neg (Nat.lt_irrefl _), if_pos rfl]
    have next : ∀ e ∈ front ++ [(position, value)], e.1 < position + 1 := by
      intro e he
      rcases List.mem_append.mp he with he | he
      · have := hf e he
        omega
      · rw [List.mem_singleton.mp he]
        exact Nat.lt_succ_self position
    rw [insertFrom, insert_append value rest hf, inserted, List.append_cons, ih next hr',
      List.append_assoc, List.length_cons, List.range'_succ]
    rfl

end Parameters

/-- Either no parameters are bound, or all that the text takes. -/
def Statement.Tidy (statement : Statement) : Prop :=
  statement.parameters.entries = [] ∨
    statement.parameters.entries.map (·.1) = List.range' 1 (parameterCount statement.sql)

namespace Statement

variable {statement : Statement} {values : List Value}

/-- Binding all parameters of a tidy statement leaves nothing of what was
bound before. -/
theorem Tidy.bound (h : statement.Tidy) (hn : values.length = parameterCount statement.sql) :
    (statement.bound 1 values).parameters.entries = (List.range' 1 values.length).zip values := by
  rw [Tidy, ← hn] at h
  show Parameters.insertFrom 1 values ([] ++ statement.parameters.entries) = [] ++ _
  exact Parameters.insertFrom_append (fun _ he => absurd he List.not_mem_nil) h

theorem Tidy.bound_values (h : statement.Tidy)
    (hn : values.length = parameterCount statement.sql) :
    (statement.bound 1 values).parameters.values = values := by
  rw [Parameters.values, h.bound hn]
  exact List.map_snd_zip (Nat.le_of_eq List.length_range'.symm)

theorem Tidy.bound_first (h : statement.Tidy) (hn : values.length = parameterCount statement.sql) :
    (statement.bound 1 values).parameters.first? = values.head? := by
  rw [Parameters.first?, h.bound hn]
  cases values <;> rfl

theorem Tidy.bound_tidy (h : statement.Tidy) (hn : values.length = parameterCount statement.sql) :
    (statement.bound 1 values).Tidy := by
  refine .inr ?_
  rw [h.bound hn]
  exact (List.map_fst_zip (Nat.le_of_eq List.length_range')).trans (congrArg (List.range' 1) hn)

end Statement

/-! ## Caches -/

namespace World

/-- All statements that a loader caches are tidy. -/
def Tidy (w : World) (l : LoaderId) : Prop := ∀ s, w.Caches l s → (w.statement s).Tidy

variable {w : World} {l : LoaderId}

theorem Tidy.setCatalog (h : w.Tidy l) (c : ConnectionId) (catalog : Catalog) :
    (w.setCatalog c catalog).Tidy l := h

theorem Tidy.modifyLoader (h : w.Tidy l) (k : LoaderId) {f : Loader → Loader}
    (hf : ∀ x, (f x).statements ⊆ x.statements) : (w.modifyLoader k f).Tidy l := by
  rintro s ⟨sql, hs⟩
  rw [loader_modifyLoader] at hs
  split at hs
  · exact h s ⟨sql, hf _ hs⟩
  · exact h s ⟨sql, hs⟩

theorem Tidy.setStatement (h : w.Tidy l) {s : StatementId} {statement : Statement}
    (hs : w.Caches l s → statement.Tidy) : (w.setStatement s statement).Tidy l := by
  intro t ht
  rw [statement_setStatement]
  split
  · next hst => exact hs (hst.1 ▸ ht)
  · exact h t ht

theorem Tidy.newLoader (h : w.Tidy l) (c : ConnectionId) : (World.newLoader c w).2.Tidy l := by
  rintro s ⟨sql, hs⟩
  rw [loader_newLoader] at hs
  split at hs
  · exact absurd hs List.not_mem_nil
  · exact h s ⟨sql, hs⟩

/-- A new statement has no parameters yet. -/
theorem Tidy.prepared (h : w.Tidy l) (k : LoaderId) (sql : String) :
    (w.prepared k sql).Tidy l := by
  rintro s ⟨q, hq⟩
  rw [statement_prepared]
  split
  · exact .inl rfl
  · next hn =>
    rcases mem_statements_prepared hq with ⟨-, -, hs⟩ | hq
    · exact absurd hs hn
    · exact h s ⟨q, hq⟩

theorem Tidy.prepare (h : w.Tidy l) (k : LoaderId) (sql : String) :
    ((k.prepare sql).run w).2.Tidy l := by
  rcases LoaderId.prepare_world w k sql with hw | hw <;> rw [hw]
  · exact h
  · exact h.prepared k sql

/-- A query binds all that its text takes. -/
theorem Tidy.query (h : w.Tidy l) (hs : w.Sound) {k : LoaderId} (hk : w.Inside k) {sql : String}
    {values : List Value} (hn : values.length = parameterCount sql) :
    ((k.query sql values).run w).2.Tidy l := by
  have reads := LoaderId.prepare_reads w k sql
  have sound := LoaderId.prepare_sound hs k sql
  have tidy := h.prepare k sql
  rcases hr : (k.prepare sql).run w with ⟨e | handle, w'⟩ <;> rw [hr] at reads sound tidy
  · rw [LoaderId.run_query_error hr]
    exact tidy
  · obtain ⟨hh, hf⟩ := LoaderId.prepare_ok hk.knows hr
    have bound : w'.Caches l handle.statement →
        ((w'.statement handle.statement).bound 1 values).Tidy := by
      intro hc
      refine (tidy _ hc).bound_tidy ?_
      rw [(sound.filed hf).2.2]
      exact hn
    rw [LoaderId.run_query sound (reads.inside hk) hh hf hr]
    split <;> exact (tidy.setCatalog _ _).setStatement bound

end World

/-- Balanced transactions, and a tidy cache of one loader. -/
def tidiness (l : LoaderId) : Discipline where
  holds w := w.Balanced ∧ w.Tidy l
  allows _ := True
  query hs h hk hn :=
    ⟨⟨(balance.query hs h.1 hk hn).1, h.2.query hs hk hn⟩, fun _ _ => trivial⟩
  advance {w s rows current} h :=
    ⟨balance.advance h.1, h.2.setStatement fun hc => (h.2 s hc : (w.statement s).Tidy)⟩
  enter {w w' k} hs h hk he := by
    refine ⟨balance.enter hs h.1 hk he, ?_⟩
    have run := LoaderId.run_enter w k
    rw [he] at run
    split at run
    · split at run <;> cases run
      exact (h.2.setCatalog _ _).modifyLoader k fun _ => List.Subset.refl _
    · cases run
      exact h.2.modifyLoader k fun _ => List.Subset.refl _
  leave {w k} hs h hk := by
    refine ⟨balance.leave hs h.1 hk, ?_⟩
    have tidy : (w.changeDepth k (· - 1)).Tidy l :=
      h.2.modifyLoader k fun _ => List.Subset.refl _
    rw [LoaderId.run_leave]
    dsimp only
    split
    · exact tidy.setCatalog _ _
    · exact tidy
  aside h := ⟨balance.aside h.1, h.2⟩
  newLoader hs h hc := ⟨balance.newLoader hs h.1 hc, h.2.newLoader _⟩
  clearStatements hs h :=
    ⟨balance.clearStatements hs h.1, h.2.modifyLoader _ fun _ => List.nil_subset _⟩
  busy := trivial
  refused _ := trivial
  read _ := trivial
  missingContext _ := trivial
  notConnected _ := trivial
  notFound _ := trivial

end MetaCatalog
