import Mathlib.Data.List.Destutter
import Mathlib.Data.List.DropRight
import MetaCatalog.History

/-!
# Adding statements to a history

Statements are added one after the other, and the settings may change between any two
of them. Those that are short enough at their time, without those that only repeat the
one before, are what a history could hold (`History.distinct`). What it does hold is the
newest part of them (`History.addAll_newest`): as long as the policy stays the same, as
many as it allows, and whatever becomes of the policy, an end of a list that grows at its
back and is cut at its front.
-/

namespace MetaCatalog

/-! ## Lists without repeats -/

section Repeats

variable {α : Type} [DecidableEq α]

/-- The list with an element at its end, unless it is there already. -/
def appendNew (l : List α) (a : α) : List α := if l.getLast? = some a then l else l ++ [a]

theorem getLast?_appendNew (l : List α) (a : α) : (appendNew l a).getLast? = some a := by
  unfold appendNew
  split
  · assumption
  · exact List.getLast?_concat

/-- The last element is kept, whether as itself or as the one that it repeats. -/
theorem getLast?_destutter' (first : α) (rest : List α) :
    (rest.destutter' (· ≠ ·) first).getLast? = (first :: rest).getLast? := by
  induction rest generalizing first with
  | nil => rfl
  | cons second rest ih =>
    by_cases different : first ≠ second
    · rw [List.destutter'_cons_pos _ different, List.getLast?_cons, ih, List.getLast?_cons_cons]
      cases rest <;> rfl
    · obtain rfl : first = second := not_not.mp different
      rw [List.destutter'_cons_neg _ different, ih, List.getLast?_cons_cons]

theorem destutter'_concat (first : α) (rest : List α) (a : α) :
    (rest ++ [a]).destutter' (· ≠ ·) first = appendNew (rest.destutter' (· ≠ ·) first) a := by
  induction rest generalizing first with
  | nil =>
    unfold appendNew
    rw [List.nil_append, List.destutter'_singleton, List.destutter'_nil,
      List.getLast?_singleton]
    by_cases same : first = a
    · rw [if_neg (not_not.mpr same), if_pos (congrArg some same)]
    · rw [if_pos same, if_neg fun h => same (Option.some.inj h)]
      rfl
  | cons second rest ih =>
    rw [List.cons_append]
    by_cases different : first ≠ second
    · rw [List.destutter'_cons_pos _ different, List.destutter'_cons_pos _ different, ih]
      unfold appendNew
      have last : (first :: rest.destutter' (· ≠ ·) second).getLast? =
          (rest.destutter' (· ≠ ·) second).getLast? := by
        rw [List.getLast?_cons, getLast?_destutter', List.getLast?_cons]
        rfl
      rw [last]
      split <;> rfl
    · obtain rfl : first = second := not_not.mp different
      rw [List.destutter'_cons_neg _ different, List.destutter'_cons_neg _ different, ih]

/-- One more element stays, unless it repeats the last one. -/
theorem destutter_concat (l : List α) (a : α) :
    (l ++ [a]).destutter (· ≠ ·) = appendNew (l.destutter (· ≠ ·)) a := by
  cases l with
  | nil => rfl
  | cons first rest => exact destutter'_concat first rest a

theorem appendNew_suffix {l l' : List α} (h : l <:+ l') (a : α) :
    appendNew l a <:+ appendNew l' a := by
  by_cases empty : l = []
  · subst empty
    obtain ⟨front, ends⟩ := List.getLast?_eq_some_iff.mp (getLast?_appendNew l' a)
    exact ⟨front, ends.symm⟩
  · obtain ⟨front, rfl⟩ := h
    unfold appendNew
    rw [List.getLast?_append_of_ne_nil _ empty]
    split
    · exact List.suffix_append ..
    · rw [List.append_assoc]
      exact List.suffix_append ..

/-- Of a list that is cut before an element comes, as much is left in the end as of the
whole list. -/
theorem rtake_appendNew (l : List α) (a : α) (n : Nat) :
    (appendNew (l.rtake n) a).rtake n = (appendNew l a).rtake n := by
  have shorter (l : List α) {n m : Nat} (h : n ≤ m) : (l.rtake m).rtake n = l.rtake n := by
    simp only [List.rtake_eq_reverse_take_reverse, List.reverse_reverse, List.take_take,
      Nat.min_eq_left h]
  rcases n with _ | n
  · rw [List.rtake_zero, List.rtake_zero]
  rcases l.eq_nil_or_concat' with rfl | ⟨front, last, rfl⟩
  · rw [List.rtake_nil]
  unfold appendNew
  rw [List.rtake_concat_succ, List.getLast?_concat, List.getLast?_concat]
  split
  · rw [List.rtake_concat_succ, List.rtake_concat_succ, shorter front (Nat.le_refl n)]
  · rw [List.rtake_concat_succ, List.rtake_concat_succ, ← List.rtake_concat_succ front,
      shorter _ (Nat.le_succ n)]

end Repeats

/-! ## What the policy says -/

namespace HistoryPolicy

variable {policy : HistoryPolicy}

/-- A text is short enough for the policy. -/
def Admits (policy : HistoryPolicy) (text : String) : Prop :=
  policy.limitsItems = false ∨ (text.length : Int) < max 0 policy.itemSize.toInt * 1024

instance (policy : HistoryPolicy) (text : String) : Decidable (policy.Admits text) :=
  inferInstanceAs (Decidable (_ ∨ _))

/-- At most so many statements are kept. -/
def Keeps (policy : HistoryPolicy) (max : Nat) : Prop :=
  policy.limitsHistory = true ∧ policy.historySize.toInt = max

instance (policy : HistoryPolicy) (max : Nat) : Decidable (policy.Keeps max) :=
  inferInstanceAs (Decidable (_ ∧ _))

/-- For texts that can be counted, the largest length that can be counted is no limit. -/
theorem accepts_iff {text : String} (h : text.length < lengthMax) :
    policy.accepts text.length = true ↔ policy.Admits text := by
  unfold accepts Admits
  cases policy.limitsItems
  · exact ⟨fun _ => .inl rfl, fun _ => rfl⟩
  · simp only [Bool.not_true, Bool.false_or, decide_eq_true_eq, Bool.true_eq_false, false_or]
    omega

theorem maxEntries?_eq_some_iff {max : Nat} :
    policy.maxEntries? = some max ↔ policy.Keeps max := by
  unfold maxEntries? Keeps
  split
  · next limited =>
    have positive : 0 ≤ policy.historySize.toInt := Int64.le_iff_toInt_le.mp limited.2
    rw [Option.some.injEq]
    exact ⟨fun same => ⟨limited.1, by omega⟩, fun same => by omega⟩
  · next free =>
    refine ⟨nofun, fun ⟨limited, size⟩ => absurd ⟨limited, Int64.le_iff_toInt_le.mpr ?_⟩ free⟩
    rw [size]
    exact Int.natCast_nonneg max

/-- What is left of a list of statements. -/
def cut (policy : HistoryPolicy) (entries : List String) : List String :=
  match policy.maxEntries? with
  | some max => entries.rtake max
  | none => entries

theorem cut_suffix (policy : HistoryPolicy) (entries : List String) :
    policy.cut entries <:+ entries := by
  unfold cut
  split
  · exact List.drop_suffix ..
  · exact List.suffix_refl _

/-- What is left ends like the list, if anything may be left. -/
theorem getLast?_cut (some' : ¬ policy.Keeps 0) (entries : List String) :
    (policy.cut entries).getLast? = entries.getLast? := by
  unfold cut
  split
  · next max limited =>
    rcases max with _ | max
    · exact absurd (maxEntries?_eq_some_iff.mp limited) some'
    rcases entries.eq_nil_or_concat' with rfl | ⟨front, last, rfl⟩
    · rw [List.rtake_nil]
    · rw [List.rtake_concat_succ, List.getLast?_concat, List.getLast?_concat]
  · rfl

theorem cut_of_keeps {max : Nat} (h : policy.Keeps max) (entries : List String) :
    policy.cut entries = entries.rtake max := by
  rw [cut, maxEntries?_eq_some_iff.mpr h]

theorem length_cut_le {max : Nat} (h : policy.Keeps max) (entries : List String) :
    (policy.cut entries).length ≤ max := by
  rw [cut_of_keeps h, List.rtake, List.length_drop]
  omega

theorem cut_of_unlimited (h : ∀ max, ¬ policy.Keeps max) (entries : List String) :
    policy.cut entries = entries := by
  unfold cut
  split
  · next max limited => exact absurd (maxEntries?_eq_some_iff.mp limited) (h max)
  · rfl

/-- Nothing is lost by having cut the list earlier. -/
theorem cut_appendNew (policy : HistoryPolicy) (entries : List String) (text : String) :
    policy.cut (appendNew (policy.cut entries) text) = policy.cut (appendNew entries text) := by
  unfold cut
  split
  · exact rtake_appendNew ..
  · rfl

end HistoryPolicy

/-! ## Additions -/

/-- A statement that is added, and the settings at that time. -/
structure Addition where
  settings : Settings
  text : String

namespace Addition

/-- The policy at that time. -/
def policy (addition : Addition) : HistoryPolicy := .ofSettings addition.settings

/-- The statement is short enough at that time. -/
def Accepted (addition : Addition) : Prop := addition.policy.Admits addition.text

instance : DecidablePred Accepted := fun addition =>
  inferInstanceAs (Decidable (addition.policy.Admits addition.text))

end Addition

namespace History

variable {addition : Addition}

theorem limit_eq (policy : HistoryPolicy) (history : History) :
    history.limit policy = { history with entries := policy.cut history.entries } := by
  unfold limit HistoryPolicy.cut
  cases policy.maxEntries? <;> rfl

/-- The text is shorter than the largest number of 64 bits. -/
def Countable (text : String) : Prop := text.length < UInt64.size - 1

instance : DecidablePred Countable := fun _ => Nat.decLt ..

theorem add_accepted (history : History) (countable : Countable addition.text)
    (accepted : addition.Accepted) : history.add addition.settings addition.text = { history with
      entries := addition.policy.cut (appendNew history.entries addition.text) } := by
  have accepts := (HistoryPolicy.accepts_iff countable).mpr accepted
  show (if addition.policy.accepts addition.text.length then _ else _) = _
  rw [if_pos accepts, limit_eq]
  rfl

theorem add_rejected (history : History) (countable : Countable addition.text)
    (rejected : ¬ addition.Accepted) :
    history.add addition.settings addition.text = history := by
  show (if addition.policy.accepts addition.text.length then _ else _) = _
  exact if_neg fun accepts => rejected ((HistoryPolicy.accepts_iff countable).mp accepts)

/-- What ends with a text has it at the newest position. -/
theorem newest_of_getLast? {history : History} {text : String}
    (last : history.entries.getLast? = some text) :
    ∃ position, history.newest? = some position ∧ position + 1 = history.entries.length ∧
      history.get position = text := by
  obtain ⟨storageName, entries⟩ := history
  obtain ⟨front, rfl⟩ := List.getLast?_eq_some_iff.mp last
  refine ⟨front.length, ?_, ?_, ?_⟩
  · simp [newest?]
  · simp
  · simp [get]

/-- The history after a few additions. -/
def addAll (history : History) (additions : List Addition) : History :=
  additions.foldl (fun history addition => history.add addition.settings addition.text) history

theorem addAll_concat (history : History) (additions : List Addition) (addition : Addition) :
    history.addAll (additions ++ [addition]) =
      (history.addAll additions).add addition.settings addition.text :=
  List.foldl_concat ..

/-- The statements that were accepted, without those that repeat the one before. -/
def distinct (additions : List Addition) : List String :=
  ((additions.filter (·.Accepted)).map (·.text)).destutter (· ≠ ·)

theorem distinct_accepted (additions : List Addition) (accepted : addition.Accepted) :
    distinct (additions ++ [addition]) = appendNew (distinct additions) addition.text := by
  unfold distinct
  rw [List.filter_append, List.filter_singleton, decide_eq_true accepted, cond_true,
    List.map_append, List.map_singleton, destutter_concat]

theorem distinct_rejected (additions : List Addition) (rejected : ¬ addition.Accepted) :
    distinct (additions ++ [addition]) = distinct additions := by
  unfold distinct
  rw [List.filter_append, List.filter_singleton, decide_eq_false rejected, cond_false,
    List.append_nil]

/-- The induction is on the additions from the last one. -/
theorem entries_suffix {name : String} {additions : List Addition}
    (countable : ∀ a ∈ additions, Countable a.text) :
    (addAll ⟨name, []⟩ additions).entries <:+ distinct additions := by
  induction additions using List.reverseRecOn with
  | nil => exact List.suffix_refl _
  | append_singleton additions addition ih =>
    obtain ⟨earlier, now⟩ := List.forall_mem_append.mp countable
    have now := List.forall_mem_singleton.mp now
    rw [addAll_concat]
    by_cases accepted : addition.Accepted
    · rw [add_accepted _ now accepted, distinct_accepted _ accepted]
      exact (HistoryPolicy.cut_suffix ..).trans (appendNew_suffix (ih earlier) _)
    · rw [add_rejected _ now accepted, distinct_rejected _ accepted]
      exact ih earlier

/-- While the policy stays the same, nothing is cut but what the policy cuts now. -/
theorem entries_eq_cut {name : String} {additions : List Addition} {policy : HistoryPolicy}
    (countable : ∀ a ∈ additions, Countable a.text) (same : ∀ a ∈ additions, a.policy = policy) :
    (addAll ⟨name, []⟩ additions).entries = policy.cut (distinct additions) := by
  induction additions using List.reverseRecOn with
  | nil =>
    exact (List.eq_nil_of_suffix_nil (policy.cut_suffix [])).symm
  | append_singleton additions addition ih =>
    obtain ⟨earlier, now⟩ := List.forall_mem_append.mp countable
    have now := List.forall_mem_singleton.mp now
    obtain ⟨before, current⟩ := List.forall_mem_append.mp same
    have current := List.forall_mem_singleton.mp current
    rw [addAll_concat]
    by_cases accepted : addition.Accepted
    · rw [add_accepted _ now accepted, distinct_accepted _ accepted, current, ih earlier before]
      exact policy.cut_appendNew ..
    · rw [add_rejected _ now accepted, distinct_rejected _ accepted]
      exact ih earlier before

/-- A history that was empty at first is the newest part of the statements added to it.
After any additions, with settings that may change each time, its entries are an end of
the accepted statements without consecutive repeats, and no two neighbours are equal. A
statement that is rejected changes nothing. After one that is accepted there are no more
entries than the policy keeps, and unless it keeps none the newest position, which an
addition hands back, holds the statement. While the policy stays the same, the entries are
as many of the newest as it keeps, or all of them. -/
theorem addAll_newest (name : String) (additions : List Addition)
    (countable : ∀ a ∈ additions, Countable a.text) :
    let history := addAll ⟨name, []⟩ additions
    (history.entries <:+ distinct additions ∧ history.entries.IsChain (· ≠ ·)) ∧
    (∀ addition : Addition, Countable addition.text →
      let added := history.add addition.settings addition.text
      (¬ addition.Accepted → added = history) ∧
      (addition.Accepted →
        (∀ max, addition.policy.Keeps max → added.entries.length ≤ max) ∧
        (¬ addition.policy.Keeps 0 → ∃ position, added.newest? = some position ∧
          position + 1 = added.entries.length ∧ added.get position = addition.text))) ∧
    ∀ policy : HistoryPolicy, (∀ a ∈ additions, a.policy = policy) →
      (∀ max, policy.Keeps max → history.entries = (distinct additions).rtake max) ∧
      ((∀ max, ¬ policy.Keeps max) → history.entries = distinct additions) := by
  intro history
  have ends : history.entries <:+ distinct additions := entries_suffix countable
  refine ⟨⟨ends, ?_⟩, fun addition now => ⟨fun rejected => add_rejected _ now rejected,
    fun accepted => ?_⟩, fun policy same => ?_⟩
  · exact (List.isChain_destutter (R := (· ≠ ·)) _).suffix ends
  · rw [add_accepted history now accepted]
    refine ⟨fun max limited => HistoryPolicy.length_cut_le limited _, fun some' => ?_⟩
    apply newest_of_getLast?
    rw [HistoryPolicy.getLast?_cut some', getLast?_appendNew]
  · have cut : history.entries = policy.cut (distinct additions) := entries_eq_cut countable same
    rw [cut]
    exact ⟨fun max limited => policy.cut_of_keeps limited _, fun free =>
      policy.cut_of_unlimited free _⟩

/-- Two statements are added, one of them again when only one is kept, and a third one when
none is kept. The first one, added last, is no repeat. With two kept throughout, the first
one goes. -/
theorem addAll_newest_changing :
    let keeping (max : Int64) := HistoryPolicy.writeTo { limitsHistory := true, historySize := max }
    let changing : List Addition := [⟨.empty, "commit"⟩, ⟨.empty, "rollback"⟩,
      ⟨keeping 1 .empty, "rollback"⟩, ⟨keeping 0 .empty, "select"⟩, ⟨.empty, "select"⟩,
      ⟨.empty, "commit"⟩]
    let steady : List Addition := ["commit", "rollback", "rollback", "select"].map
      (⟨keeping 2 .empty, ·⟩)
    distinct changing = ["commit", "rollback", "select", "commit"] ∧
      (addAll ⟨"", []⟩ changing).entries <:+ distinct changing ∧
      (addAll ⟨"", []⟩ changing).entries = ["select", "commit"] ∧
      (addAll ⟨"", []⟩ steady).entries = ["rollback", "select"] := by
  intro keeping changing steady
  obtain ⟨⟨ends, -⟩, -⟩ := addAll_newest "" changing (by decide +kernel)
  obtain ⟨-, -, kept⟩ := addAll_newest "" steady (by decide +kernel)
  obtain ⟨two, -⟩ := kept (.ofSettings (keeping 2 .empty)) (by decide +kernel)
  have limited : (HistoryPolicy.ofSettings (keeping 2 .empty)).Keeps 2 := by decide +kernel
  have newest : (distinct steady).rtake 2 = ["rollback", "select"] := by decide +kernel
  exact ⟨by decide +kernel, ends, by decide +kernel, (two 2 limited).trans newest⟩

end History

end MetaCatalog
