import MetaCatalog.Proofs.Framework.Discipline

/-!
# Balanced transactions

In a `World.Balanced` world a connection is in a transaction exactly while one
loader on it is, and every transaction ends by a commit. Whatever enters and
leaves a loader in turn keeps the balance, and no query is refused for being run
outside a transaction: `balance` is the discipline of this.
-/

namespace MetaCatalog

namespace World

/-- The transactions of all connections belong to their loaders, one at a time,
and all that have ended were committed. -/
structure Balanced (w : World) : Prop where
  alone {l k : LoaderId} : w.Inside l → w.Inside k →
    (w.loader l).connection = (w.loader k).connection → l = k
  held (c : ConnectionId) : (w.catalog c).inTransaction = true ↔
    ∃ l, w.Inside l ∧ (w.loader l).connection = c
  counted (c : ConnectionId) : (w.catalog c).started =
    (w.catalog c).commits + if (w.catalog c).inTransaction then 1 else 0
  committed (c : ConnectionId) : (w.catalog c).rollbacks = 0

end World

/-- What a catalog tells about its transactions. -/
structure Ledger where
  inTransaction : Bool
  started : Nat
  commits : Nat
  rollbacks : Nat

def Catalog.ledger (catalog : Catalog) : Ledger :=
  ⟨catalog.inTransaction, catalog.started, catalog.commits, catalog.rollbacks⟩

theorem Catalog.ledger_still (catalog : Catalog) : catalog.still.ledger = catalog.ledger := rfl

namespace World

variable {w w' : World} {l : LoaderId}

/-- What matters is which loaders are in use, on which connections. -/
theorem Balanced.congr (h : w.Balanced) (hi : ∀ k, w'.Inside k ↔ w.Inside k)
    (hk : ∀ k, w.Inside k → (w'.loader k).connection = (w.loader k).connection)
    (hc : ∀ c, (w'.catalog c).ledger = (w.catalog c).ledger) : w'.Balanced := by
  refine ⟨fun {l k} hl hk' hlk => ?_, fun c => ?_, fun c => ?_, fun c => ?_⟩
  · rw [hi] at hl hk'
    rw [hk l hl, hk k hk'] at hlk
    exact h.alone hl hk' hlk
  all_goals
    have ledger := hc c
    simp only [Catalog.ledger, Ledger.mk.injEq] at ledger
    obtain ⟨active, started, commits, rollbacks⟩ := ledger
  · rw [active, h.held c]
    constructor
    · rintro ⟨k, hin, hkc⟩
      exact ⟨k, (hi k).mpr hin, (hk k hin).trans hkc⟩
    · rintro ⟨k, hin, hkc⟩
      rw [hi] at hin
      exact ⟨k, hin, (hk k hin).symm.trans hkc⟩
  · rw [started, commits, active]
    exact h.counted c
  · rw [rollbacks]
    exact h.committed c

theorem Balanced.settles (h : w.Balanced) (hs : w.Settles w')
    (hc : ∀ c, (w'.catalog c).ledger = (w.catalog c).ledger) : w'.Balanced := by
  refine h.congr (fun k => ?_) (fun k hk => hs.connection k hk.knows) hc
  rw [Inside, Inside, hs.depth]

theorem Reads.ledger (h : w.Reads w') (c : ConnectionId) :
    (w'.catalog c).ledger = (w.catalog c).ledger := by
  rw [← Catalog.ledger_still, h.still, Catalog.ledger_still]

theorem Balanced.reads (h : w.Balanced) (hr : w.Reads w') : w'.Balanced :=
  h.settles hr.toSettles hr.ledger

/-! ## Entering and leaving -/

theorem Entered.inside_iff (h : w.Entered l w') (k : LoaderId) :
    w'.Inside k ↔ l = k ∨ w.Inside k := by
  rw [Inside, h.depth, Inside]
  split
  · next hk => exact ⟨fun _ => .inl hk, fun _ => by omega⟩
  · next hk => exact ⟨.inr, fun h => h.resolve_left hk⟩

/-- The last user of a loader is the one that nobody follows. -/
theorem inside_leave_iff (hl : w.Inside l) (k : LoaderId) :
    (l.leave w).2.Inside k ↔ w.Inside k ∧ ((w.loader l).depth = 1 → l ≠ k) := by
  rw [Inside, LoaderId.leave_depth hl, Inside]
  by_cases hk : l = k
  · have hl' := hl
    rw [Inside, hk] at hl'
    rw [if_pos hk, hk]
    constructor
    · intro hin
      exact ⟨hl', fun hd => by omega⟩
    · rintro ⟨-, hn⟩
      have more : (w.loader k).depth ≠ 1 := fun hd => hn hd rfl
      omega
  · rw [if_neg hk]
    exact ⟨fun h => ⟨h, fun _ => hk⟩, And.left⟩

/-- The connection of a loader gets another catalog. -/
theorem catalog_setCatalogOf (hs : w.Sound) (hl : w.Knows l) (catalog : Catalog)
    (c : ConnectionId) :
    (w.setCatalog (w.loader l).connection catalog).catalog c =
      if (w.loader l).connection = c then catalog else w.catalog c := by
  rw [catalog_setCatalog]
  by_cases hc : (w.loader l).connection = c
  · rw [if_pos ⟨hc, hc ▸ hs.served l hl⟩, if_pos hc]
  · rw [if_neg fun hn => hc hn.1, if_neg hc]

/-- The first user of a loader starts a transaction of its connection. -/
theorem enter_first (hs : w.Sound) (hl : w.Knows l) (he : l.enter.run w = (.ok (), w'))
    (hd : (w.loader l).depth = 0) :
    (w.catalogOf l).inTransaction = false ∧ ∀ c, w'.catalog c =
      if (w.loader l).connection = c then
        { w.catalogOf l with inTransaction := true, started := (w.catalogOf l).started + 1 }
      else w.catalog c := by
  rw [LoaderId.run_enter, if_pos hd, Catalog.startTransaction] at he
  cases ht : (w.catalogOf l).inTransaction with
  | true =>
    rw [if_pos ht] at he
    cases he
  | false =>
    rw [if_neg (by rw [ht]; exact Bool.false_ne_true)] at he
    cases he
    exact ⟨rfl, catalog_setCatalogOf hs hl _⟩

/-- The last user of a loader commits. -/
theorem leave_last (hs : w.Sound) (hl : w.Knows l) (hd : (w.loader l).depth = 1)
    (active : (w.catalogOf l).inTransaction = true) (c : ConnectionId) :
    (l.leave w).2.catalog c =
      if (w.loader l).connection = c then
        { w.catalogOf l with inTransaction := false, commits := (w.catalogOf l).commits + 1 }
      else w.catalog c := by
  have committed : LoaderId.finish (w.catalogOf l) =
      { w.catalogOf l with inTransaction := false, commits := (w.catalogOf l).commits + 1 } := by
    rw [LoaderId.finish, Catalog.commit, if_pos active]
  rw [LoaderId.run_leave]
  dsimp only
  rw [if_pos hd, committed]
  exact catalog_setCatalogOf hs hl _ c

/-- Only the first user of a loader meets its connection, which no other loader
holds then. -/
theorem Balanced.enter (h : w.Balanced) (hs : w.Sound) (hl : w.Knows l)
    (he : l.enter.run w = (.ok (), w')) : w'.Balanced := by
  have entered := LoaderId.enter_ok hl he
  have inside := entered.inside_iff
  have connection (k : LoaderId) (hk : w'.Inside k) :
      (w'.loader k).connection = (w.loader k).connection :=
    entered.connection k (((inside k).mp hk).elim (· ▸ hl) Inside.knows)
  -- Only the first user meets the connection; for a later one nothing but the depth changes.
  by_cases hd : (w.loader l).depth = 0
  · obtain ⟨idle, catalog⟩ := enter_first hs hl he hd
    have unused {k : LoaderId} (hk : w.Inside k) :
        (w.loader k).connection ≠ (w.loader l).connection := by
      intro hkl
      have active : (w.catalogOf l).inTransaction = true := (h.held _).mpr ⟨k, hk, hkl⟩
      rw [idle] at active
      cases active
    refine ⟨fun {k m} hk hm hkm => ?_, fun c => ?_, fun c => ?_, fun c => ?_⟩
    · rw [connection k hk, connection m hm] at hkm
      rcases (inside k).mp hk with rfl | hk' <;> rcases (inside m).mp hm with rfl | hm'
      · rfl
      · exact absurd hkm.symm (unused hm')
      · exact absurd hkm (unused hk')
      · exact h.alone hk' hm' hkm
    all_goals rw [catalog]
    · split
      · next hc =>
        have hlc := (inside l).mpr (.inl rfl)
        exact ⟨fun _ => ⟨l, hlc, (connection l hlc).trans hc⟩, fun _ => rfl⟩
      · next hc =>
        rw [h.held]
        constructor
        · rintro ⟨k, hk, hkc⟩
          have hk' := (inside k).mpr (.inr hk)
          exact ⟨k, hk', (connection k hk').trans hkc⟩
        · rintro ⟨k, hk, hkc⟩
          rw [connection k hk] at hkc
          rcases (inside k).mp hk with rfl | hk'
          · exact absurd hkc hc
          · exact ⟨k, hk', hkc⟩
    · split
      · have counted : (w.catalogOf l).started = (w.catalogOf l).commits +
          if (w.catalogOf l).inTransaction then 1 else 0 := h.counted _
        rw [idle] at counted
        show (w.catalogOf l).started + 1 = (w.catalogOf l).commits + 1
        exact congrArg (· + 1) counted
      · exact h.counted c
    · split <;> exact h.committed _
  · rw [LoaderId.run_enter, if_neg hd] at he
    cases he
    refine h.congr (fun k => ?_) (fun k hk => connection k ((inside k).mpr (.inr hk))) fun _ => rfl
    rw [inside]
    refine ⟨fun hk => hk.elim (· ▸ Nat.pos_of_ne_zero hd) id, .inr⟩

/-- The last user of a loader frees its connection, which no other loader
held. -/
theorem Balanced.leave (h : w.Balanced) (hs : w.Sound) (hl : w.Inside l) :
    (l.leave w).2.Balanced := by
  have inside := inside_leave_iff hl
  have connection (k : LoaderId) (hk : w.Inside k) :
      ((l.leave w).2.loader k).connection = (w.loader k).connection :=
    (l.leave_grows w).connection k hk.knows
  by_cases hd : (w.loader l).depth = 1
  · have active : (w.catalogOf l).inTransaction = true := (h.held _).mpr ⟨l, hl, rfl⟩
    have catalog := leave_last hs hl.knows hd active
    refine ⟨fun {k m} hk hm hkm => ?_, fun c => ?_, fun c => ?_, fun c => ?_⟩
    · rw [inside] at hk hm
      rw [connection k hk.1, connection m hm.1] at hkm
      exact h.alone hk.1 hm.1 hkm
    all_goals rw [catalog]
    · split
      · next hc =>
        constructor
        · intro active
          cases active
        · rintro ⟨k, hk, hkc⟩
          rw [inside] at hk
          rw [connection k hk.1, ← hc] at hkc
          exact absurd (h.alone hl hk.1 hkc.symm) (hk.2 hd)
      · next hc =>
        rw [h.held]
        constructor
        · rintro ⟨k, hk, hkc⟩
          have hlk : l ≠ k := fun hlk => hc (hlk ▸ hkc)
          exact ⟨k, (inside k).mpr ⟨hk, fun _ => hlk⟩, (connection k hk).trans hkc⟩
        · rintro ⟨k, hk, hkc⟩
          rw [inside] at hk
          exact ⟨k, hk.1, (connection k hk.1).symm.trans hkc⟩
    · split
      · have counted : (w.catalogOf l).started = (w.catalogOf l).commits +
          if (w.catalogOf l).inTransaction then 1 else 0 := h.counted _
        rw [if_pos active] at counted
        exact counted
      · exact h.counted c
    · split <;> exact h.committed _
  · refine h.congr (fun k => ?_) connection fun c => ?_
    · rw [inside]
      exact ⟨And.left, fun hk => ⟨hk, fun hn => absurd hn hd⟩⟩
    · rw [LoaderId.run_leave]
      dsimp only
      rw [if_neg hd]
      rfl

end World

/-! ## Refusals -/

/-- The errors of queries that are run outside a transaction, which a loader or
the connection refuses. -/
def outsideTransaction : List Error :=
  [.connection "catalog query executed outside a metadata transaction",
    .connection "statement executed outside a transaction"]

/-- Whether a text is that of a query refused outside a transaction. -/
def refusesOutside (text : String) : Prop := text ∈ outsideTransaction.map Error.message

/-- A refusal starts with its kind, and ends like the word it ends with. -/
theorem not_refusesOutside {text : String}
    (h : text.toList.head? ≠ some 'C' ∨ text.toList.getLast? ≠ some 'n') :
    ¬ refusesOutside text := by
  intro hr
  simp only [refusesOutside, outsideTransaction, List.map_cons, List.map_nil, List.mem_cons,
    List.not_mem_nil, or_false] at hr
  rcases h with h | h <;> rcases hr with rfl | rfl <;> exact h (by decide)

theorem not_refusesOutside_of_ending {front ending : String} {c : Char}
    (h : ending.toList.getLast? = some c) (hc : c ≠ 'n') : ¬ refusesOutside (front ++ ending) := by
  refine not_refusesOutside (.inr ?_)
  rw [String.toList_append, List.getLast?_append, h]
  exact fun he => hc (Option.some.inj he)

theorem not_refusesOutside_of_opening {opening rest : String} {c : Char}
    (h : opening.toList.head? = some c) (hc : c ≠ 'C') : ¬ refusesOutside (opening ++ rest) := by
  refine not_refusesOutside (.inl ?_)
  rw [String.toList_append, List.head?_append, h]
  exact fun he => hc (Option.some.inj he)

theorem not_refusesOutside_notConnected (database : String) :
    ¬ refusesOutside (Error.notConnected database).message := by
  show ¬ refusesOutside ("Connection error: " ++ (database ++ ": not connected"))
  rw [← String.append_assoc]
  exact not_refusesOutside_of_ending rfl (by decide)

theorem LoaderId.prepare_fails (w : World) (l : LoaderId) (sql : String) {e : Error}
    (he : ((l.prepare sql).run w).1 = .error e) :
    e = .notConnected (w.catalogOf l).database ∨ ∃ reason, e = .prepare reason := by
  rw [LoaderId.run_prepare] at he
  split at he
  · split at he
    · cases he
    · split at he <;> cases he
      exact .inr ⟨_, rfl⟩
  · cases he
    exact .inl rfl

/-- A query inside a transaction is not refused for being outside. -/
theorem LoaderId.query_inside {w : World} {l : LoaderId} (hs : w.Sound) (h : w.Balanced)
    (hl : w.Inside l) (sql : String) (values : List Value) {e : Error}
    (he : ((l.query sql values).run w).1 = .error e) : ¬ refusesOutside e.message := by
  have reads := LoaderId.prepare_reads w l sql
  have sound := LoaderId.prepare_sound hs l sql
  have fails (e : Error) := LoaderId.prepare_fails w l sql (e := e)
  rcases hr : (l.prepare sql).run w with ⟨e' | handle, w'⟩ <;> rw [hr] at reads sound fails
  · rw [LoaderId.run_query_error hr] at he
    cases he
    rcases fails e rfl with rfl | ⟨reason, rfl⟩
    · exact not_refusesOutside_notConnected _
    · exact not_refusesOutside_of_opening rfl (by decide)
  · obtain ⟨hh, hf⟩ := LoaderId.prepare_ok hl.knows hr
    have inside := reads.inside hl
    have active : (w'.catalogOf l).inTransaction = true :=
      ((h.reads reads).held _).mpr ⟨l, inside, rfl⟩
    rw [LoaderId.run_query sound inside hh hf hr, Catalog.execute, if_pos active] at he
    dsimp only at he
    cases hx : Catalog.refusal? (w'.catalogOf l).executeRefusals sql <;> rw [hx] at he <;> cases he
    exact not_refusesOutside_of_opening rfl (by decide)

/-- Transactions are balanced, and no query is refused for being outside. -/
def balance : Discipline where
  holds := World.Balanced
  allows text := ¬ refusesOutside text
  query hs h hl _ :=
    ⟨h.reads (LoaderId.query_reads hs hl _ _).1, fun _ => LoaderId.query_inside hs h hl _ _⟩
  advance h := h.reads (World.reads_setStatement ..)
  enter hs h := h.enter hs
  leave hs h := h.leave hs
  aside h := h.congr (fun _ => .rfl) (fun _ _ => rfl) fun _ => rfl
  newLoader hs h _ := h.settles (World.settles_newLoader ..) fun _ => rfl
  clearStatements hs h := h.settles (World.settles_clearStatements ..) fun _ => rfl
  busy := not_refusesOutside (.inr (by decide))
  refused reason := not_refusesOutside_of_opening rfl (by decide)
  read reason := not_refusesOutside_of_opening rfl (by decide)
  missingContext item := not_refusesOutside_of_ending rfl (by decide)
  notConnected := not_refusesOutside_notConnected
  notFound object := not_refusesOutside_of_opening rfl (by decide)

end MetaCatalog
