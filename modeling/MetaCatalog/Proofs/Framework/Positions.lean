import MetaCatalog.Proofs.Framework.Discipline

/-!
# Parameters are counted from one

Nobody can bind a value to position zero, neither the library nor whoever has a
statement in hands: `positions` is the discipline of this. So the first value that a
query binds is the first that the journal shows, whatever was bound before
(`Statement.bound_head`).
-/

namespace MetaCatalog

open World

namespace Parameters

/-- All positions are counted from one. -/
def Counted (entries : List (Nat × Value)) : Prop := ∀ e ∈ entries, 0 < e.1

variable {position : Nat} {value : Value} {values : List Value} {entries : List (Nat × Value)}

theorem Counted.insert (h : Counted entries) (hp : 0 < position) :
    Counted (insert position value entries) := by
  induction entries with
  | nil => exact List.forall_mem_singleton.mpr hp
  | cons entry rest ih =>
    obtain ⟨first, others⟩ := List.forall_mem_cons.mp h
    rw [Parameters.insert]
    split
    · exact List.forall_mem_cons.mpr ⟨hp, h⟩
    · split
      · exact List.forall_mem_cons.mpr ⟨hp, others⟩
      · exact List.forall_mem_cons.mpr ⟨first, ih others⟩

theorem Counted.insertFrom (h : Counted entries) (hp : 0 < position) :
    Counted (insertFrom position values entries) := by
  induction values generalizing position entries with
  | nil => exact h
  | cons value rest ih => exact ih (h.insert hp) (Nat.succ_pos position)

/-- A value at position one comes first. -/
theorem Counted.insert_one (h : Counted entries) (value : Value) :
    ∃ rest, Parameters.insert 1 value entries = (1, value) :: rest := by
  cases entries with
  | nil => exact ⟨[], rfl⟩
  | cons entry rest =>
    have positive : 0 < entry.1 := h entry List.mem_cons_self
    rw [Parameters.insert]
    split
    · exact ⟨_, rfl⟩
    · rw [if_pos (by omega)]
      exact ⟨_, rfl⟩

/-- What comes later stays behind. -/
theorem insertFrom_cons (hp : 1 < position) (value : Value) (values : List Value)
    (rest : List (Nat × Value)) :
    ∃ rest', Parameters.insertFrom position values ((1, value) :: rest) = (1, value) :: rest' := by
  induction values generalizing position rest with
  | nil => exact ⟨rest, rfl⟩
  | cons v vs ih =>
    rw [Parameters.insertFrom, Parameters.insert, if_neg (by omega), if_neg (by omega)]
    exact ih (Nat.lt_succ_of_lt hp) _

end Parameters

/-- The first value that is bound comes first, whatever was bound before. -/
theorem Statement.bound_head {statement : Statement}
    (h : Parameters.Counted statement.parameters.entries) (value : Value) (values : List Value) :
    (statement.bound 1 (value :: values)).parameters.values.head? = some value := by
  obtain ⟨rest, inserted⟩ := h.insert_one value
  obtain ⟨rest', bound⟩ := Parameters.insertFrom_cons (Nat.lt_succ_self 1) value values rest
  show ((Parameters.insertFrom 2 values (Parameters.insert 1 value _)).map (·.2)).head? = _
  rw [inserted, bound]
  rfl

/-! ## The discipline -/

namespace World

/-- No statement has a value at position zero. -/
def Counted (w : World) : Prop := ∀ s, Parameters.Counted (w.statement s).parameters.entries

variable {w : World}

theorem Counted.setStatement (h : w.Counted) (s : StatementId) {statement : Statement}
    (hs : Parameters.Counted statement.parameters.entries) :
    (w.setStatement s statement).Counted := by
  intro t
  rw [statement_setStatement]
  split
  · exact hs
  · exact h t

/-- A new statement has no parameters yet. -/
theorem Counted.prepare (h : w.Counted) (l : LoaderId) (sql : String) :
    ((l.prepare sql).run w).2.Counted := by
  rcases LoaderId.prepare_world w l sql with hw | hw <;> rw [hw]
  · exact h
  · intro s
    rw [statement_prepared]
    split
    · exact fun _ he => absurd he List.not_mem_nil
    · exact h s

theorem Counted.query (h : w.Counted) (hs : w.Sound) {l : LoaderId} (hl : w.Inside l) (sql : String)
    (values : List Value) : ((l.query sql values).run w).2.Counted := by
  have reads := LoaderId.prepare_reads w l sql
  have sound := LoaderId.prepare_sound hs l sql
  have counted := h.prepare l sql
  rcases hr : (l.prepare sql).run w with ⟨e | handle, w'⟩ <;> rw [hr] at reads sound counted
  · rw [LoaderId.run_query_error hr]
    exact counted
  · obtain ⟨hh, hf⟩ := LoaderId.prepare_ok hl.knows hr
    have bound : Parameters.Counted
        ((w'.statement handle.statement).bound 1 values).parameters.entries :=
      (counted _).insertFrom Nat.one_pos
    rw [LoaderId.run_query sound (reads.inside hl) hh hf hr]
    split <;> exact Counted.setStatement (w := w'.setCatalog ..) counted _ bound

theorem Counted.enter (h : w.Counted) (l : LoaderId) : (l.enter.run w).2.Counted := by
  rw [LoaderId.run_enter]
  split
  · split <;> exact h
  · exact h

theorem Counted.leave (h : w.Counted) (l : LoaderId) : (l.leave w).2.Counted := by
  rw [LoaderId.run_leave]
  dsimp only
  split <;> exact h

end World

/-- Nobody binds a value to position zero. -/
def positions : Discipline where
  holds := World.Counted
  allows _ := True
  query hs h hl _ := ⟨h.query hs hl _ _, fun _ _ => trivial⟩
  advance {_ s _ _} h := h.setStatement s (h s)
  enter {_ _ l} _ h _ he := by
    have entered := h.enter l
    rw [he] at entered
    exact entered
  leave {_ l} _ h _ := h.leave l
  aside h := h
  newLoader _ h _ := h
  clearStatements _ h := h
  busy := trivial
  refused _ := trivial
  read _ := trivial
  missingContext _ := trivial
  notConnected _ := trivial
  notFound _ := trivial

end MetaCatalog
