import Mathlib.Data.String.Basic
import MetaCatalog.Identifier.Reserved

/-!
# The search for reserved words

Bisection finds a word in an ascending table exactly if it is there (`bisect_iff`), and
the reserved words are in ascending order. So `isReserved` misses none of them
(`isReserved_iff`).
-/

namespace MetaCatalog

/-- Every entry of the table comes before those after it. -/
def Ascending (table : Array String) : Prop :=
  ∀ i j (earlier : i < j) (inside : j < table.size), table[i] < table[j]

/-- A table is ascending if every entry comes before the next one. -/
theorem Ascending.of_isChain {table : Array String} (h : table.toList.IsChain (· < ·)) :
    Ascending table := fun i j earlier inside => by
  have pairwise := List.pairwise_iff_getElem.mp (List.isChain_iff_pairwise.mp h)
  exact pairwise i j (Nat.lt_trans earlier inside) inside earlier

/-- The search finds a word exactly if it is between the two bounds. By induction on
the search: the half that is left out has smaller entries only, or greater ones. -/
theorem bisect_iff {table : Array String} (ascending : Ascending table) (word : String)
    (low high : Nat) (h : high ≤ table.size) :
    bisect table word low high h = true ↔
      ∃ i, ∃ inside : i < high, low ≤ i ∧ table[i] = word := by
  fun_induction bisect table word low high h with
  | case1 low high h nonempty middle entry found =>
    exact iff_of_true rfl ⟨middle, by omega, by omega, found⟩
  | case2 low high h nonempty middle entry other below ih =>
    rw [ih]
    refine exists_congr fun i => exists_congr fun inside => and_congr_left fun found => ?_
    refine ⟨fun _ => by omega, fun _ => Nat.lt_of_not_le fun early => ?_⟩
    rcases Nat.lt_or_eq_of_le early with earlier | rfl
    · have before := ascending i middle earlier (by omega)
      rw [found] at before
      exact String.lt_asymm before below
    · exact other found
  | case3 low high h nonempty middle entry other above ih =>
    rw [ih]
    refine ⟨fun ⟨i, inside, late, found⟩ => ⟨i, by omega, late, found⟩,
      fun ⟨i, inside, late, found⟩ => ⟨i, Nat.lt_of_not_le fun beyond => ?_, late, found⟩⟩
    rcases Nat.lt_or_eq_of_le beyond with later | rfl
    · have after := ascending middle i later (by omega)
      rw [found] at after
      exact above after
    · exact other found
  | case4 low high h empty =>
    exact iff_of_false Bool.false_ne_true fun ⟨i, inside, late, _⟩ => empty (by omega)

theorem reservedWords_ascending : Ascending reservedWords :=
  .of_isChain (by decide +kernel)

theorem isReserved_iff (word : String) :
    isReserved word = true ↔ Text.upperAscii word ∈ reservedWords := by
  rw [isReserved, bisect_iff reservedWords_ascending, Array.mem_iff_getElem]
  exact exists_congr fun i => exists_congr fun _ => and_iff_right (Nat.zero_le i)

end MetaCatalog
