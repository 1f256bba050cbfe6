import SourceLocator.Source.LineTable

set_option autoImplicit false

namespace SourceLocator

theorem bisect_splits (table : Array Int) (x : Int) (low high : Nat) (window : low ≤ high)
    (bounded : high ≤ table.size)
    (ascending : ∀ i j, i ≤ j → j < table.size → table.getD i 0 ≤ table.getD j 0)
    (below : ∀ i, i < low → table.getD i 0 ≤ x)
    (above : ∀ i, high ≤ i → i < table.size → x < table.getD i 0) :
    bisect table x low high ≤ table.size ∧
      (∀ i, i < bisect table x low high → table.getD i 0 ≤ x) ∧
      ∀ i, bisect table x low high ≤ i → i < table.size → x < table.getD i 0 := by
  fun_induction bisect table x low high with
  | case1 low high less middle before ih =>
      have middleEq : middle = (low + high) / 2 := rfl
      refine ih (by omega) (by omega) below ?_
      intro i after inTable
      exact Int.lt_of_lt_of_le before (ascending middle i after inTable)
  | case2 low high less middle notBefore ih =>
      have middleEq : middle = (low + high) / 2 := rfl
      refine ih (by omega) bounded ?_ above
      intro i earlier
      exact Int.le_trans (ascending i middle (by omega) (by omega)) (Int.not_lt.mp notBefore)
  | case3 low high closed =>
      have same : low = high := by omega
      subst same
      exact ⟨bounded, below, above⟩

theorem ascending_get (table : List Int) (ascending : table.Pairwise (· ≤ ·)) (i j : Nat) (le : i ≤ j)
    (inTable : j < table.toArray.size) : table.toArray.getD i 0 ≤ table.toArray.getD j 0 := by
  have inList : j < table.length := by simpa using inTable
  rcases Nat.lt_or_eq_of_le le with less | same
  · have entries := List.pairwise_iff_getElem.mp ascending i j (by omega) inList less
    simpa [Array.getD, inList, Nat.lt_trans less inList] using entries
  · subst same
    exact Int.le_refl _

theorem count_up_to_splits (table : List Int) (ascending : table.Pairwise (· ≤ ·)) (x : Int) :
    countUpTo table x ≤ table.length ∧
      (∀ entry ∈ table.take (countUpTo table x), entry ≤ x) ∧
      ∀ entry ∈ table.drop (countUpTo table x), x < entry := by
  obtain ⟨bounded, below, above⟩ := bisect_splits table.toArray x 0 table.length (Nat.zero_le _)
    (by simp) (ascending_get table ascending) (by omega) (fun i after inTable => by
      have inList : i < table.length := by simpa using inTable
      omega)
  refine ⟨by simpa [countUpTo] using bounded, ?_, ?_⟩
  · intro entry member
    obtain ⟨i, inTake, rfl⟩ := List.mem_iff_getElem.mp member
    have inTable : i < table.length := by
      have := List.length_take_le' (countUpTo table x) table
      omega
    have less : i < countUpTo table x := by
      have := List.length_take_le (countUpTo table x) table
      omega
    simpa [Array.getD, inTable] using below i less
  · intro entry member
    obtain ⟨i, inDrop, rfl⟩ := List.mem_iff_getElem.mp member
    rw [List.length_drop] at inDrop
    have inTable : countUpTo table x + i < table.length := by omega
    simpa [Array.getD, inTable] using above (countUpTo table x + i) (Nat.le_add_right _ _) (by simpa using inTable)

theorem take_count_up_to (table : List Int) (ascending : table.Pairwise (· ≤ ·)) (x : Int) :
    table.take (countUpTo table x) = table.filter (fun entry => decide (entry ≤ x)) := by
  obtain ⟨-, below, above⟩ := count_up_to_splits table ascending x
  have kept : (table.take (countUpTo table x)).filter (fun entry => decide (entry ≤ x)) =
      table.take (countUpTo table x) :=
    List.filter_eq_self.mpr fun entry member => by simpa using below entry member
  have dropped : (table.drop (countUpTo table x)).filter (fun entry => decide (entry ≤ x)) = [] :=
    List.filter_eq_nil_iff.mpr fun entry member => by
      have := above entry member
      simpa using this
  calc
    table.take (countUpTo table x) =
        (table.take (countUpTo table x)).filter (fun entry => decide (entry ≤ x)) ++
          (table.drop (countUpTo table x)).filter (fun entry => decide (entry ≤ x)) := by
      rw [kept, dropped, List.append_nil]
    _ = table.filter (fun entry => decide (entry ≤ x)) := by
      rw [← List.filter_append, List.take_append_drop]

theorem count_up_to_eq (table : List Int) (ascending : table.Pairwise (· ≤ ·)) (x : Int) :
    countUpTo table x = (table.filter (fun entry => decide (entry ≤ x))).length := by
  have bounded := (count_up_to_splits table ascending x).1
  rw [← take_count_up_to table ascending x, List.length_take, Nat.min_eq_left bounded]

end SourceLocator
