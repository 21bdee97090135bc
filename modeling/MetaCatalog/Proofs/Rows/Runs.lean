import Mathlib.Data.List.Forall2
import Mathlib.Data.List.Induction
import Mathlib.Data.List.Nodup
import Mathlib.Data.List.SplitBy
import Mathlib.Data.List.TakeWhile
import MetaCatalog.Proofs.Framework.Engine
import MetaCatalog.Row.Runs

/-!
# Runs of rows with one key

`runsBy` cuts a list into its longest runs of neighbours with one key. It has two
recursions: from the front a run ends where the key changes (`runsBy_cons`), and from
the back a further element joins the last run or starts another one
(`runsBy_snoc_same`, `runsBy_snoc_other`). A `RunReader` follows the second, so it
makes one object of each run (`RunReader.Makes.forall₂`).
-/

namespace MetaCatalog

variable {α β κ γ ν : Type}

section Runs

variable [DecidableEq ν] {key : α → ν}

/-- The longest runs of neighbours with one key. -/
def runsBy (key : α → ν) (as : List α) : List (List α) := as.splitBy fun a b => key a == key b

@[simp] theorem flatten_runsBy (key : α → ν) (as : List α) : (runsBy key as).flatten = as :=
  List.flatten_splitBy _ as

example : runsBy (· / 2) [0, 1, 2, 0] = [[0, 1], [2], [0]] := by decide

theorem runsBy_ne_nil {as run : List α} (h : run ∈ runsBy key as) : run ≠ [] :=
  List.ne_nil_of_mem_splitBy h

theorem isChain_of_eq {as : List α} (h : ∀ a ∈ as, ∀ b ∈ as, key a = key b) :
    as.IsChain fun a b => (key a == key b) = true :=
  (List.pairwise_of_forall_mem_list fun a ha b hb => beq_iff_eq.mpr (h a ha b hb)).isChain

/-- Induction that takes the first run off. -/
theorem runsInduction (key : α → ν) {motive : List α → Prop} (nil : motive [])
    (cons : ∀ a as, motive (as.dropWhile (key · == key a)) → motive (a :: as)) (as : List α) :
    motive as := by
  induction hn : as.length using Nat.strong_induction_on generalizing as with
  | h n ih =>
    cases as with
    | nil => exact nil
    | cons a as =>
      refine cons a as (ih _ ?_ _ rfl)
      exact hn ▸ Nat.lt_succ_of_le (List.dropWhile_sublist _).length_le

/-- What comes after the first run starts with another key. -/
theorem key_head_dropWhile {a b : α} {as rest : List α}
    (h : as.dropWhile (key · == key a) = b :: rest) : key b ≠ key a := by
  have stops := List.head?_dropWhile_not (key · == key a) as
  rw [h] at stops
  exact fun same => Bool.noConfusion (stops.symm.trans (beq_iff_eq.mpr same))

/-- The first run goes as far as the key stays. -/
theorem runsBy_cons (key : α → ν) (a : α) (as : List α) :
    runsBy key (a :: as) =
      (a :: as.takeWhile (key · == key a)) :: runsBy key (as.dropWhile (key · == key a)) := by
  have run : ∀ b ∈ a :: as.takeWhile (key · == key a), key b = key a :=
    List.forall_mem_cons.mpr ⟨rfl, fun _ hb =>
      beq_iff_eq.mp (List.mem_takeWhile_imp (p := (key · == key a)) hb)⟩
  have one : runsBy key (a :: as.takeWhile (key · == key a)) =
      [a :: as.takeWhile (key · == key a)] :=
    List.splitBy_of_isChain (List.cons_ne_nil _ _)
      (isChain_of_eq fun b hb c hc => (run b hb).trans (run c hc).symm)
  have ends : ∀ x ∈ (a :: as.takeWhile (key · == key a)).getLast?,
      ∀ y ∈ (as.dropWhile (key · == key a)).head?, (key x == key y) = false := by
    intro x hx y hy
    rw [run x (List.mem_of_getLast? hx)]
    obtain ⟨rest, hr⟩ := List.head?_eq_some_iff.mp hy
    exact beq_false_of_ne (key_head_dropWhile hr).symm
  have append := List.splitBy_append ends
  rw [List.cons_append, List.takeWhile_append_dropWhile] at append
  exact append.trans (congrArg (· ++ _) one)

/-- An element with the key of the last run joins it. -/
theorem runsBy_snoc_same {as run : List α} {earlier : List (List α)} {a : α}
    (h : runsBy key as = earlier ++ [run]) (same : ∀ b ∈ run, key b = key a) :
    runsBy key (as ++ [a]) = earlier ++ [run ++ [a]] := by
  obtain ⟨joined, nonempty, chains, ends⟩ := List.splitBy_eq_iff.mp h
  refine List.splitBy_eq_iff.mpr ⟨?_, ?_, ?_, ?_⟩
  · rw [joined]
    simp
  · simp only [List.mem_append, List.mem_singleton, not_or] at nonempty ⊢
    exact ⟨nonempty.1, (List.append_ne_nil_of_right_ne_nil _ (List.cons_ne_nil _ _)).symm⟩
  · simp only [List.mem_append, List.mem_singleton] at chains ⊢
    rintro m (hm | rfl)
    · exact chains m (.inl hm)
    · have all : ∀ b ∈ run ++ [a], key b = key a := by
        simpa only [List.forall_mem_append, List.forall_mem_singleton, and_true] using same
      exact isChain_of_eq fun b hb c hc => (all b hb).trans (all c hc).symm
  · rw [List.isChain_append] at ends ⊢
    refine ⟨ends.1, List.isChain_singleton _, fun before hb after ha => ?_⟩
    cases ha
    obtain ⟨last, first, differ⟩ := ends.2.2 before hb run rfl
    refine ⟨last, List.append_ne_nil_of_left_ne_nil first _, ?_⟩
    rw [List.head_append_of_ne_nil first]
    exact differ

/-- An element with another key starts a run. -/
theorem runsBy_snoc_other {as run : List α} {earlier : List (List α)} {a : α}
    (h : runsBy key as = earlier ++ [run]) (other : ∀ b ∈ run, key b ≠ key a) :
    runsBy key (as ++ [a]) = runsBy key as ++ [[a]] := by
  refine List.splitBy_append_cons [] fun b hb => beq_false_of_ne (other b ?_)
  have joined := flatten_runsBy key as
  have nonempty : run ≠ [] := runsBy_ne_nil (h ▸ List.mem_append_right _ List.mem_cons_self)
  rw [h, List.flatten_append, List.flatten_singleton] at joined
  rw [← joined, List.getLast?_append_of_ne_nil _ nonempty] at hb
  exact List.mem_of_getLast? hb

/-- Elements with one key stand next to each other: whatever stands between two of them
has the key as well. -/
def Adjacent (key : α → ν) (as : List α) : Prop :=
  ∀ ⦃a b c⦄, [a, b, c].Sublist as → key a = key c → key b = key a

/-- If equal keys stand next to each other, no two runs have the same. -/
theorem Adjacent.nodup {as : List α} (h : Adjacent key as) :
    ((runsBy key as).map fun run => run.head?.map key).Nodup := by
  induction as using runsInduction key with
  | nil => exact List.nodup_nil
  | cons a as ih =>
    have later := List.dropWhile_sublist (l := as) (key · == key a)
    have rest : Adjacent key (as.dropWhile (key · == key a)) :=
      fun _ _ _ hs => h ((hs.trans later).cons a)
    -- The key of the first run does not come back, because another one stands in between.
    have differ : ∀ b ∈ as.dropWhile (key · == key a), key b ≠ key a := by
      cases hd : as.dropWhile (key · == key a) with
      | nil => exact fun _ hb => absurd hb List.not_mem_nil
      | cons c others =>
        have other := key_head_dropWhile hd
        refine List.forall_mem_cons.mpr ⟨other, fun b hb same => other ?_⟩
        refine h (List.Sublist.cons_cons a ?_) same.symm
        exact ((List.singleton_sublist.mpr hb).cons_cons c).trans (hd ▸ later)
    rw [runsBy_cons, List.map_cons, List.nodup_cons]
    refine ⟨fun hm => ?_, ih rest⟩
    obtain ⟨run, hr, same⟩ := List.mem_map.mp hm
    obtain ⟨b, hb, same⟩ := Option.map_eq_some_iff.mp same
    refine differ b ?_ same
    rw [← flatten_runsBy key (as.dropWhile _)]
    exact List.mem_flatten.mpr ⟨run, hr, List.mem_of_head? hb⟩

/-! ## One object for each run -/

theorem exists_of_mem_left {R : α → β → Prop} {as : List α} {bs : List β}
    (h : List.Forall₂ R as bs) {a : α} (ha : a ∈ as) : ∃ b ∈ bs, R a b := by
  induction h with
  | nil => exact absurd ha List.not_mem_nil
  | cons related _ ih =>
    rcases List.mem_cons.mp ha with rfl | ha
    · exact ⟨_, List.mem_cons_self, related⟩
    · obtain ⟨b, hb, related⟩ := ih ha
      exact ⟨b, List.mem_cons_of_mem _ hb, related⟩

/-- Elements that stand for each other may be mapped to the same. -/
theorem map_eq_of_forall₂ {R : α → β → Prop} {as : List α} {bs : List β}
    (h : List.Forall₂ R as bs) {f : α → γ} {g : β → γ} (same : ∀ a b, R a b → f a = g b) :
    as.map f = bs.map g := by
  rw [← List.forall₂_eq_eq_eq, List.forall₂_map_left_iff, List.forall₂_map_right_iff]
  exact h.imp same

section Objects

variable {P : γ → List α → Prop} {objects : List γ} {as : List α}

/-- A further element joins the last run, which describes the newest object. -/
theorem newest_extend {object after : γ} {older : List γ} {a : α}
    (h : List.Forall₂ P (object :: older) (runsBy key as).reverse)
    (same : ∀ run, P object run → ∀ b ∈ run, key b = key a)
    (extend : ∀ run, P object run → P after (run ++ [a])) :
    List.Forall₂ P (after :: older) (runsBy key (as ++ [a])).reverse := by
  obtain ⟨run, earlier, newest, rest, runs⟩ := List.forall₂_cons_left_iff.mp h
  rw [runsBy_snoc_same (List.reverse_eq_cons_iff.mp runs) (same run newest), List.reverse_concat,
    List.reverse_reverse]
  exact .cons (extend run newest) rest

/-- A further element with another key starts an object. -/
theorem newest_start {object : γ} {a : α} (h : List.Forall₂ P objects (runsBy key as).reverse)
    (other : ∀ newest ∈ objects.head?, ∀ run, P newest run → ∀ b ∈ run, key b ≠ key a)
    (start : P object [a]) :
    List.Forall₂ P (object :: objects) (runsBy key (as ++ [a])).reverse := by
  have apart : runsBy key (as ++ [a]) = runsBy key as ++ [[a]] := by
    cases objects with
    | nil =>
      have none := List.reverse_eq_nil_iff.mp (List.forall₂_nil_left_iff.mp h)
      rw [List.splitBy_eq_nil.mp none]
      rfl
    | cons newest older =>
      obtain ⟨run, earlier, hn, -, runs⟩ := List.forall₂_cons_left_iff.mp h
      exact runsBy_snoc_other (List.reverse_eq_cons_iff.mp runs) (other newest rfl run hn)
  rw [apart, List.reverse_concat]
  exact .cons start h

/-- Pieces that are made of each element come out in the order of the elements. -/
theorem flatMap_of_runsBy (h : List.Forall₂ P objects (runsBy key as)) {pieces : γ → List β}
    {piece : α → β} (hp : ∀ object run, P object run → pieces object = run.map piece) :
    objects.flatMap pieces = as.map piece := by
  have same : objects.map pieces = (runsBy key as).map (List.map piece) := map_eq_of_forall₂ h hp
  rw [List.flatMap_def, same, ← List.map_flatten, flatten_runsBy]

/-- If equal keys stand next to each other, the keys of the objects differ. -/
theorem Adjacent.nodup_map (adjacent : Adjacent key as) (h : List.Forall₂ P objects (runsBy key as))
    {label : γ → ν} (hl : ∀ object run, P object run → ∀ a ∈ run, key a = label object) :
    (objects.map label).Nodup := by
  have same : ((runsBy key as).map fun run => run.head?.map key) =
      (objects.map label).map some := by
    rw [List.map_map]
    refine map_eq_of_forall₂
      ((List.forall₂_and_left _ _).mpr ⟨fun _ => runsBy_ne_nil, h.flip⟩) ?_
    rintro run object ⟨nonempty, made⟩
    obtain ⟨a, rest, rfl⟩ := List.exists_cons_of_ne_nil nonempty
    exact congrArg some (hl object _ made a List.mem_cons_self)
  exact List.Nodup.of_map some (same ▸ adjacent.nodup)

end Objects

end Runs

/-! ## Readers -/

namespace RunReader

/-- What a reader makes of runs of rows with one label. -/
structure Makes (reader : RunReader κ γ) (label : Row → ν) (Describes : γ → List Row → Prop) :
    Prop where
  start {key : κ} {row : Row} {object : γ} : reader.key row = .ok key →
    reader.start key row = .ok object → Describes object [row]
  continues {key : κ} {row last : Row} {object : γ} {run : List Row} : reader.key row = .ok key →
    Describes object run → last ∈ run →
      (reader.continues object key = true ↔ label last = label row)
  extend {key : κ} {row : Row} {object : γ} {run : List Row} : reader.key row = .ok key →
    reader.continues object key = true → Describes object run →
      Describes (reader.extend object key) (run ++ [row])

/-- A step adds the row to the newest object, or makes another one of it. -/
theorem step_ok {reader : RunReader κ γ} {row : Row} {objects after : List γ}
    (h : reader.step objects row = .ok after) : ∃ key, reader.key row = .ok key ∧
      ((∃ object older, objects = object :: older ∧ reader.continues object key = true ∧
          after = reader.extend object key :: older) ∨
        (∀ object ∈ objects.head?, reader.continues object key = false) ∧
          ∃ object, reader.start key row = .ok object ∧ after = object :: objects) := by
  obtain ⟨key, hk, h⟩ := bind_eq_ok h
  refine ⟨key, hk, ?_⟩
  have started (h : (do Pure.pure ((← reader.start key row) :: objects)) = Except.ok after) :
      ∃ object, reader.start key row = .ok object ∧ after = object :: objects := by
    obtain ⟨object, hs, made⟩ := bind_eq_ok h
    exact ⟨object, hs, (Except.ok.inj made).symm⟩
  cases objects with
  | nil => exact .inr ⟨nofun, started h⟩
  | cons object older =>
    dsimp only at h
    split at h
    · next continued => exact .inl ⟨object, older, rfl, continued, (Except.ok.inj h).symm⟩
    · next stopped =>
      refine .inr ⟨fun _ first => ?_, started h⟩
      cases first
      exact Bool.eq_false_iff.mpr stopped

/-- By induction from the last row: it joins the run of the newest object, or starts
another one. -/
theorem Makes.newest_first [DecidableEq ν] {reader : RunReader κ γ} {label : Row → ν}
    {Describes : γ → List Row → Prop} (h : reader.Makes label Describes) {rows : List Row}
    {objects : List γ} (read : rows.foldlM reader.step [] = .ok objects) :
    List.Forall₂ Describes objects (runsBy label rows).reverse := by
  induction rows using List.reverseRecOn generalizing objects with
  | nil =>
    cases read
    exact .nil
  | append_singleton rows row ih =>
    rw [List.foldlM_append] at read
    obtain ⟨before, hb, read⟩ := bind_eq_ok read
    obtain ⟨after, step, read⟩ := bind_eq_ok read
    cases read
    have described := ih hb
    obtain ⟨key, hk, ⟨object, older, rfl, continued, rfl⟩ | ⟨other, object, start, rfl⟩⟩ :=
      step_ok step
    · exact newest_extend described
        (fun run made last hl => (h.continues hk made hl).mp continued)
        fun run made => h.extend hk continued made
    · refine newest_start described (fun newest hn run made last hl same => ?_) (h.start hk start)
      have continued := (h.continues hk made hl).mpr same
      rw [other newest hn] at continued
      cases continued

/-- One object for each run, in the order of the rows. -/
theorem Makes.forall₂ [DecidableEq ν] {reader : RunReader κ γ} {label : Row → ν}
    {Describes : γ → List Row → Prop} (h : reader.Makes label Describes) {rows : List Row}
    {objects : List γ} (read : rows.foldlM reader.step [] = .ok objects) :
    List.Forall₂ Describes objects.reverse (runsBy label rows) := by
  rw [← List.reverse_reverse (runsBy label rows)]
  exact List.forall₂_reverse_iff.mpr (h.newest_first read)

end RunReader

end MetaCatalog
