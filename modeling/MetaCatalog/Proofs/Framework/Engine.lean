import MetaCatalog.Loader

/-!
# Runs of engine computations

What a computation in the world does is a function of the world it starts in.
`Engine.run_bind` and `Query.run_bind` take a run of a sequence apart.

Lookups in a changed world are lookups in the world before, except at the cell
that was changed (`loader_modifyLoader`, `catalog_setCatalog`,
`statement_setStatement`). `World.Settles` is what every public operation does
to the loaders there are: their connections and their depths stay, and cells
are only ever added.
-/

namespace MetaCatalog

/-! ## Sequences -/

/-- A sequence succeeds by both of its parts. -/
theorem bind_eq_ok {x : Except Error α} {f : α → Except Error β} {b : β}
    (h : x >>= f = .ok b) : ∃ a, x = .ok a ∧ f a = .ok b := by
  cases x with
  | error e => cases h
  | ok a => exact ⟨a, rfl, h⟩

theorem exists_of_isOk {x : Except Error α} (h : x.isOk = true) : ∃ a, x = .ok a := by
  cases x with
  | error e => cases h
  | ok a => exact ⟨a, rfl⟩

theorem Engine.run_bind (m : Engine α) (f : α → Engine β) (w : World) :
    (m >>= f) w = f (m w).1 (m w).2 := rfl

theorem Query.run_pure (a : α) (w : World) : (pure a : Query α).run w = (.ok a, w) := rfl

theorem Query.run_bind (m : Query α) (f : α → Query β) (w : World) :
    (m >>= f).run w =
      match m.run w with
      | (.ok a, w) => (f a).run w
      | (.error e, w) => (.error e, w) := by
  show ExceptT.bindCont f (m w).1 (m w).2 = _
  show _ = match m w with
      | (.ok a, w) => (f a).run w
      | (.error e, w) => (.error e, w)
  rcases m w with ⟨_ | a, w'⟩ <;> rfl

/-- The first part of a sequence succeeds. -/
theorem Query.run_bind_ok {m : Query α} {f : α → Query β} {w w' : World} {a : α}
    (h : m.run w = (.ok a, w')) : (m >>= f).run w = (f a).run w' := by
  rw [Query.run_bind, h]

/-- The first part of a sequence fails, and so does the sequence. -/
theorem Query.run_bind_error {m : Query α} {f : α → Query β} {w w' : World} {e : Error}
    (h : m.run w = (.error e, w')) : (m >>= f).run w = (.error e, w') := by
  rw [Query.run_bind, h]

theorem Query.run_ofExcept (x : Except Error α) (w : World) :
    (Query.ofExcept x).run w = (x, w) := rfl

theorem Query.run_get (w : World) : (get : Query World).run w = (.ok w, w) := rfl

theorem Query.run_lift (m : Engine α) (w : World) :
    (liftM m : Query α).run w = (.ok (m w).1, (m w).2) := rfl

theorem Query.run_changeCatalog (c : ConnectionId) (f : Catalog → Except Error Catalog)
    (w : World) :
    (Query.changeCatalog c f).run w =
      match f (w.catalog c) with
      | .error e => (.error e, w)
      | .ok catalog => (.ok (), w.setCatalog c catalog) := by
  rw [Query.changeCatalog, Query.run_bind, Query.run_get]
  dsimp only
  rw [Query.run_bind, Query.run_ofExcept]
  cases f (w.catalog c) <;> rfl

/-! ## Cells -/

/-- What is looked up is in the list. -/
theorem mem_of_lookup [BEq α] [LawfulBEq α] {l : List (α × β)} {a : α} {b : β}
    (h : l.lookup a = some b) : (a, b) ∈ l := by
  obtain ⟨_, _, rfl, -⟩ := List.lookup_eq_some_iff.mp h
  exact List.mem_append_right _ List.mem_cons_self

namespace Arena

variable {α : Type}

@[simp] theorem next_modify (arena : Arena α) (i : Nat) (f : α → α) :
    (arena.modify i f).next = arena.next := by
  simp [next, modify]

@[simp] theorem next_push (arena : Arena α) (a : α) : (arena.push a).next = arena.next + 1 := by
  simp [next, push]

theorem modify_modify (arena : Arena α) (i : Nat) (a b : α) :
    ((arena.modify i fun _ => a).modify i fun _ => b) = arena.modify i fun _ => b := by
  rcases arena with ⟨cells⟩
  simp only [modify, mk.injEq]
  refine Array.ext (by simp) fun j h h' => ?_
  simp only [Array.getElem_modify]
  split <;> rfl

/-- Outside an arena there is nothing to change. -/
theorem modify_of_next_le (arena : Arena α) {i : Nat} (h : arena.next ≤ i) (f : α → α) :
    arena.modify i f = arena := by
  rcases arena with ⟨cells⟩
  simp only [modify, mk.injEq]
  refine Array.ext (Array.size_modify ..) fun j _ hj => ?_
  rw [Array.getElem_modify, if_neg]
  rintro rfl
  exact absurd hj (Nat.not_lt.mpr h)

variable [Inhabited α]

theorem get_modify (arena : Arena α) (i j : Nat) (f : α → α) :
    (arena.modify i f).get j = if i = j ∧ j < arena.next then f (arena.get j) else arena.get j := by
  simp only [get, modify, next, Array.getD_eq_getD_getElem?, Array.getElem?_modify]
  by_cases h : i = j
  · subst h
    by_cases hi : i < arena.cells.size
    · simp [hi]
    · simp [hi]
  · simp [h]

theorem get_push (arena : Arena α) (a : α) (j : Nat) :
    (arena.push a).get j = if j = arena.next then a else arena.get j := by
  simp only [get, push, next, Array.getD_eq_getD_getElem?, Array.getElem?_push]
  split <;> rfl

/-- Writing a cell back changes nothing. -/
theorem modify_get (arena : Arena α) (i : Nat) : (arena.modify i fun _ => arena.get i) = arena := by
  rcases arena with ⟨cells⟩
  simp only [modify, get, mk.injEq]
  refine Array.ext (Array.size_modify ..) fun j h h' => ?_
  rw [Array.getElem_modify]
  split
  · next hij =>
    subst hij
    simp [h']
  · rfl

theorem get_of_lt_next (arena : Arena α) {i : Nat} (h : i < arena.next) :
    arena.get i = arena.cells[i] := by
  simp only [get, Array.getD_eq_getD_getElem?, Array.getElem?_eq_getElem h, Option.getD_some]

/-- Outside an arena there are only empty cells. -/
theorem get_of_next_le (arena : Arena α) {i : Nat} (h : arena.next ≤ i) :
    arena.get i = default := by
  simp only [get, Array.getD_eq_getD_getElem?, Array.getElem?_eq_none h, Option.getD_none]

end Arena

/-! ## Lookups -/

namespace World

/-- The world has the loader. -/
def Knows (w : World) (l : LoaderId) : Prop := l.index < w.loaders.next

/-- The world has the connection. -/
def Serves (w : World) (c : ConnectionId) : Prop := c.index < w.connections.next

/-- The world has the statement. -/
def Prepares (w : World) (s : StatementId) : Prop := s.index < w.statements.next

instance (w : World) (l : LoaderId) : Decidable (w.Knows l) :=
  inferInstanceAs (Decidable (_ < _))

instance (w : World) (c : ConnectionId) : Decidable (w.Serves c) :=
  inferInstanceAs (Decidable (_ < _))

instance (w : World) (s : StatementId) : Decidable (w.Prepares s) :=
  inferInstanceAs (Decidable (_ < _))

/-- The statement is in the cache of the loader. -/
def Caches (w : World) (l : LoaderId) (s : StatementId) : Prop :=
  ∃ sql, (sql, s) ∈ (w.loader l).statements

/-- Someone takes part in the transaction of the loader. -/
def Inside (w : World) (l : LoaderId) : Prop := 0 < (w.loader l).depth

theorem loader_of_not_knows {w : World} {l : LoaderId} (h : ¬ w.Knows l) : w.loader l = default :=
  w.loaders.get_of_next_le (Nat.le_of_not_lt h)

theorem catalog_of_not_serves {w : World} {c : ConnectionId} (h : ¬ w.Serves c) :
    w.catalog c = default :=
  w.connections.get_of_next_le (Nat.le_of_not_lt h)

/-- Only a loader of the world has users. -/
theorem Inside.knows {w : World} {l : LoaderId} (h : w.Inside l) : w.Knows l := by
  refine Classical.byContradiction fun hn => ?_
  rw [Inside, loader_of_not_knows hn] at h
  exact Nat.not_lt_zero _ h

theorem loader_modifyLoader (w : World) (l k : LoaderId) (f : Loader → Loader) :
    (w.modifyLoader l f).loader k = if l = k ∧ w.Knows k then f (w.loader k) else w.loader k := by
  rcases l with ⟨i⟩
  rcases k with ⟨j⟩
  simp only [loader, modifyLoader, Arena.get_modify, Knows, LoaderId.mk.injEq]

theorem catalog_setCatalog (w : World) (c d : ConnectionId) (catalog : Catalog) :
    (w.setCatalog c catalog).catalog d = if c = d ∧ w.Serves d then catalog else w.catalog d := by
  rcases c with ⟨i⟩
  rcases d with ⟨j⟩
  simp only [World.catalog, setCatalog, Arena.get_modify, Serves, ConnectionId.mk.injEq]

theorem statement_setStatement (w : World) (s t : StatementId) (statement : Statement) :
    (w.setStatement s statement).statement t =
      if s = t ∧ w.Prepares t then statement else w.statement t := by
  rcases s with ⟨i⟩
  rcases t with ⟨j⟩
  simp only [World.statement, setStatement, Arena.get_modify, Prepares, StatementId.mk.injEq]

@[simp] theorem loader_setStatement (w : World) (s : StatementId) (statement : Statement)
    (l : LoaderId) : (w.setStatement s statement).loader l = w.loader l := rfl

@[simp] theorem catalog_setStatement (w : World) (s : StatementId) (statement : Statement)
    (c : ConnectionId) : (w.setStatement s statement).catalog c = w.catalog c := rfl

@[simp] theorem statement_modifyLoader (w : World) (l : LoaderId) (f : Loader → Loader)
    (s : StatementId) : (w.modifyLoader l f).statement s = w.statement s := rfl

@[simp] theorem knows_setCatalog (w : World) (c : ConnectionId) (catalog : Catalog)
    (l : LoaderId) : (w.setCatalog c catalog).Knows l ↔ w.Knows l := Iff.rfl

@[simp] theorem knows_setStatement (w : World) (s : StatementId) (statement : Statement)
    (l : LoaderId) : (w.setStatement s statement).Knows l ↔ w.Knows l := Iff.rfl

@[simp] theorem knows_modifyLoader (w : World) (l k : LoaderId) (f : Loader → Loader) :
    (w.modifyLoader l f).Knows k ↔ w.Knows k := by
  simp [Knows, modifyLoader]

@[simp] theorem serves_setCatalog (w : World) (c d : ConnectionId) (catalog : Catalog) :
    (w.setCatalog c catalog).Serves d ↔ w.Serves d := by
  simp [Serves, setCatalog]

@[simp] theorem serves_setStatement (w : World) (s : StatementId) (statement : Statement)
    (c : ConnectionId) : (w.setStatement s statement).Serves c ↔ w.Serves c := Iff.rfl

@[simp] theorem serves_modifyLoader (w : World) (l : LoaderId) (f : Loader → Loader)
    (c : ConnectionId) : (w.modifyLoader l f).Serves c ↔ w.Serves c := Iff.rfl

@[simp] theorem prepares_setStatement (w : World) (s t : StatementId) (statement : Statement) :
    (w.setStatement s statement).Prepares t ↔ w.Prepares t := by
  simp [Prepares, setStatement]

@[simp] theorem prepares_setCatalog (w : World) (c : ConnectionId) (catalog : Catalog)
    (s : StatementId) : (w.setCatalog c catalog).Prepares s ↔ w.Prepares s := Iff.rfl

@[simp] theorem prepares_modifyLoader (w : World) (l : LoaderId) (f : Loader → Loader)
    (s : StatementId) : (w.modifyLoader l f).Prepares s ↔ w.Prepares s := Iff.rfl

/-- Writing a catalog back changes nothing. -/
@[simp] theorem setCatalog_catalog (w : World) (c : ConnectionId) :
    w.setCatalog c (w.catalog c) = w := by
  rw [setCatalog, World.catalog, Arena.modify_get]

@[simp] theorem setStatement_statement (w : World) (s : StatementId) :
    w.setStatement s (w.statement s) = w := by
  rw [setStatement, World.statement, Arena.modify_get]

/-- Only the last of two writes to a statement counts. -/
@[simp] theorem setStatement_setStatement (w : World) (s : StatementId) (x y : Statement) :
    (w.setStatement s x).setStatement s y = w.setStatement s y := by
  simp only [setStatement, Arena.modify_modify]

theorem statement_setStatement_self {w : World} {s : StatementId} (h : w.Prepares s)
    (x : Statement) : (w.setStatement s x).statement s = x := by
  rw [statement_setStatement, if_pos ⟨rfl, h⟩]

/-! ## What stays -/

/-- Loaders keep their connections, no cell goes away, and what comes into a
cache is new. -/
structure Grows (w w' : World) : Prop where
  connection (l : LoaderId) : w.Knows l → (w'.loader l).connection = (w.loader l).connection
  knows (l : LoaderId) : w.Knows l → w'.Knows l
  serves (c : ConnectionId) : w.Serves c → w'.Serves c
  prepares (s : StatementId) : w.Prepares s → w'.Prepares s
  caches (l : LoaderId) (s : StatementId) : w.Prepares s → w'.Caches l s → w.Caches l s

theorem Grows.refl (w : World) : w.Grows w :=
  ⟨fun _ _ => rfl, fun _ => id, fun _ => id, fun _ => id, fun _ _ _ => id⟩

theorem Grows.trans {w w' w'' : World} (h : w.Grows w') (h' : w'.Grows w'') : w.Grows w'' where
  connection l hl := (h'.connection l (h.knows l hl)).trans (h.connection l hl)
  knows l hl := h'.knows l (h.knows l hl)
  serves c hc := h'.serves c (h.serves c hc)
  prepares s hs := h'.prepares s (h.prepares s hs)
  caches l s hs hc := h.caches l s hs (h'.caches l s (h.prepares s hs) hc)

/-- Moreover every loader keeps its depth. -/
structure Settles (w w' : World) : Prop extends Grows w w' where
  depth (l : LoaderId) : (w'.loader l).depth = (w.loader l).depth

theorem Settles.refl (w : World) : w.Settles w := ⟨.refl w, fun _ => rfl⟩

theorem Settles.trans {w w' w'' : World} (h : w.Settles w') (h' : w'.Settles w'') :
    w.Settles w'' :=
  ⟨h.toGrows.trans h'.toGrows, fun l => (h'.depth l).trans (h.depth l)⟩

theorem Settles.inside {w w' : World} {l : LoaderId} (h : w.Settles w') (hl : w.Inside l) :
    w'.Inside l := by
  rw [Inside, h.depth]
  exact hl

theorem settles_setCatalog (w : World) (c : ConnectionId) (catalog : Catalog) :
    w.Settles (w.setCatalog c catalog) :=
  { Settles.refl w with serves := fun d => (serves_setCatalog w c d catalog).mpr }

theorem settles_setStatement (w : World) (s : StatementId) (statement : Statement) :
    w.Settles (w.setStatement s statement) :=
  { Settles.refl w with prepares := fun t => (prepares_setStatement w s t statement).mpr }

/-- A change of a loader that leaves its connection alone and adds nothing to
its cache. -/
theorem grows_modifyLoader (w : World) (l : LoaderId) {f : Loader → Loader}
    (hc : ∀ x, (f x).connection = x.connection) (hs : ∀ x, (f x).statements ⊆ x.statements) :
    w.Grows (w.modifyLoader l f) where
  connection k _ := by
    rw [loader_modifyLoader]
    split
    · exact hc _
    · rfl
  knows k := (knows_modifyLoader w l k f).mpr
  serves _ := id
  prepares _ := id
  caches k s _ := by
    rintro ⟨sql, h⟩
    rw [loader_modifyLoader] at h
    refine ⟨sql, ?_⟩
    split at h
    · exact hs _ h
    · exact h

theorem settles_modifyLoader (w : World) (l : LoaderId) {f : Loader → Loader}
    (hd : ∀ x, (f x).depth = x.depth) (hc : ∀ x, (f x).connection = x.connection)
    (hs : ∀ x, (f x).statements ⊆ x.statements) : w.Settles (w.modifyLoader l f) := by
  refine ⟨grows_modifyLoader w l hc hs, fun k => ?_⟩
  rw [loader_modifyLoader]
  split
  · exact hd _
  · rfl

end World

end MetaCatalog
