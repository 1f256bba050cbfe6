import SourceLocator.Proofs.Bisection
import SourceLocator.Proofs.LineBreaks
import SourceLocator.Source.File

set_option autoImplicit false

namespace SourceLocator

structure ProperTable (table : List Int) : Prop where
  starts : table.head? = some 0
  ascending : table.Pairwise (· ≤ ·)

structure HoldsOffset (table : List Int) (line : Nat) (start offset : Int) : Prop where
  numbered : 1 ≤ line
  begins : table[line - 1]? = some start
  reached : start ≤ offset
  beforeNext : ∀ next, table[line]? = some next → offset < next

theorem proper_entry_nonneg (table : List Int) (proper : ProperTable table) (i : Nat) (entry : Int)
    (found : table[i]? = some entry) : 0 ≤ entry := by
  obtain ⟨starts, ascending⟩ := proper
  cases table with
  | nil => simp at starts
  | cons first rest =>
      have zero : first = 0 := by simpa using starts
      subst zero
      cases i with
      | zero => simp at found; omega
      | succ j => exact (List.pairwise_cons.mp ascending).1 entry (List.mem_of_getElem? (by simpa using found))

theorem entries_ascend (table : List Int) (ascending : table.Pairwise (· ≤ ·)) (i j : Nat) (a b : Int)
    (le : i ≤ j) (first : table[i]? = some a) (second : table[j]? = some b) : a ≤ b := by
  obtain ⟨iBound, rfl⟩ := List.getElem?_eq_some_iff.mp first
  obtain ⟨jBound, rfl⟩ := List.getElem?_eq_some_iff.mp second
  rcases Nat.lt_or_eq_of_le le with less | same
  · exact List.pairwise_iff_getElem.mp ascending i j iBound jBound less
  · subst same
    exact Int.le_refl _

theorem count_up_to_holds (table : List Int) (proper : ProperTable table) (offset : Int)
    (nonneg : 0 ≤ offset) : ∃ start, HoldsOffset table (countUpTo table offset) start offset := by
  obtain ⟨bounded, below, above⟩ := count_up_to_splits table proper.ascending offset
  have positive : 0 < countUpTo table offset := by
    rcases Nat.eq_zero_or_pos (countUpTo table offset) with zero | positive
    · -- The first entry, which is zero, would be above the offset.
      have later : offset < 0 := by
        apply above 0
        rw [zero, List.drop_zero]
        exact List.mem_of_head? proper.starts
      omega
    · exact positive
  have inTable : countUpTo table offset - 1 < table.length := by omega
  refine ⟨table[countUpTo table offset - 1], positive, List.getElem?_eq_getElem inTable, ?_, ?_⟩
  · apply below
    rw [List.mem_take_iff_getElem]
    exact ⟨countUpTo table offset - 1, by omega, rfl⟩
  · intro next found
    obtain ⟨nextBound, rfl⟩ := List.getElem?_eq_some_iff.mp found
    apply above
    rw [List.mem_drop_iff_getElem]
    exact ⟨0, by omega, by simp⟩

theorem holds_offset_line_le (table : List Int) (ascending : table.Pairwise (· ≤ ·)) (m n : Nat)
    (a b start later : Int) (le : a ≤ b) (first : HoldsOffset table m start a)
    (second : HoldsOffset table n later b) : m ≤ n := by
  apply Nat.le_of_not_lt
  intro less
  obtain ⟨mBound, -⟩ := List.getElem?_eq_some_iff.mp first.begins
  have nBound : n < table.length := by omega
  have next := List.getElem?_eq_getElem nBound
  have before := second.beforeNext _ next
  have after := entries_ascend table ascending n (m - 1) _ start (by omega) next first.begins
  have reached := first.reached
  omega

theorem holds_offset_unique (table : List Int) (ascending : table.Pairwise (· ≤ ·)) (m n : Nat)
    (a b offset : Int) (first : HoldsOffset table m a offset) (second : HoldsOffset table n b offset) :
    m = n ∧ a = b := by
  have forward := holds_offset_line_le table ascending m n offset offset a b (Int.le_refl _) first second
  have backward := holds_offset_line_le table ascending n m offset offset b a (Int.le_refl _) second first
  have same : m = n := Nat.le_antisymm forward backward
  subst same
  exact ⟨rfl, Option.some.inj (first.begins.symm.trans second.begins)⟩

theorem holds_offset_order (table : List Int) (ascending : table.Pairwise (· ≤ ·)) (m n : Nat)
    (a b start later : Int) (first : HoldsOffset table m start a) (second : HoldsOffset table n later b) :
    a < b ↔ m < n ∨ m = n ∧ a - start < b - later := by
  constructor
  · intro less
    have le := holds_offset_line_le table ascending m n a b start later (by omega) first second
    rcases Nat.lt_or_eq_of_le le with before | same
    · exact .inl before
    · subst same
      have starts : start = later := Option.some.inj (first.begins.symm.trans second.begins)
      exact .inr ⟨rfl, by omega⟩
  · rintro (before | ⟨rfl, further⟩)
    · apply Int.lt_of_not_ge
      intro notLess
      have := holds_offset_line_le table ascending n m b a later start (by omega) second first
      omega
    · have starts : start = later := Option.some.inj (first.begins.symm.trans second.begins)
      omega

theorem position_compare_lt (p q : Position) :
    p.compare q = .lt ↔ p.line < q.line ∨ p.line = q.line ∧ p.column < q.column := by
  rw [Position.compare, comparePair, Ordering.then_eq_lt, Int.compare_eq_lt, Int.compare_eq_eq,
    Int.compare_eq_lt]

namespace SourceFile

def Inside (file : SourceFile) (offset : Int) : Prop := 0 ≤ offset ∧ offset ≤ file.text.length

instance (file : SourceFile) (offset : Int) : Decidable (file.Inside offset) :=
  inferInstanceAs (Decidable (0 ≤ offset ∧ offset ≤ file.text.length))

def contentOf (file : SourceFile) (line : Nat) (start : Int) : Text :=
  Text.dropEndWhile isLineEnd (slice file.text start ((file.lineTable[line]?).getD file.text.length))

def Places (file : SourceFile) (bound : DigitBound) (offset : Int) (position : Position) : Prop :=
  ∃ content, file.place offset bound = .ok ⟨position, content⟩

theorem place_outside (file : SourceFile) (bound : DigitBound) (offset : Int)
    (outside : ¬ file.Inside offset) :
    file.place offset bound =
      .error (if bound.admits offset then .offsetOutside offset file.text.length else .unwritable) := by
  have beyond : offset < 0 ∨ (file.text.length : Int) < offset := by
    rw [Inside] at outside
    omega
  rw [place, if_pos beyond]

theorem place_inside (file : SourceFile) (bound : DigitBound) (proper : ProperTable file.lineTable)
    (offset : Int) (inside : file.Inside offset) :
    ∃ line start, HoldsOffset file.lineTable line start offset ∧
      file.place offset bound = .ok ⟨⟨line, offset - start + 1⟩, file.contentOf line start⟩ := by
  obtain ⟨start, holds⟩ := count_up_to_holds file.lineTable proper offset inside.1
  have within : ¬ (offset < 0 ∨ (file.text.length : Int) < offset) := by
    rw [Inside] at inside
    omega
  have counted : countUpTo file.lineTable offset ≠ 0 := Nat.ne_of_gt holds.numbered
  refine ⟨_, start, holds, ?_⟩
  rw [place, if_neg within]
  simp only [counted, if_false, holds.begins]
  rfl

theorem places_iff (file : SourceFile) (bound : DigitBound) (proper : ProperTable file.lineTable)
    (offset line column : Int) :
    file.Places bound offset ⟨line, column⟩ ↔
      file.Inside offset ∧ ∃ number start, HoldsOffset file.lineTable number start offset ∧
        line = number ∧ column = offset - start + 1 := by
  constructor
  · rintro ⟨content, placed⟩
    have inside : file.Inside offset := by
      apply Decidable.byContradiction
      intro outside
      rw [place_outside file bound offset outside] at placed
      cases placed
    obtain ⟨number, start, holds, same⟩ := place_inside file bound proper offset inside
    rw [placed] at same
    cases same
    exact ⟨inside, number, start, holds, rfl, rfl⟩
  · rintro ⟨inside, number, start, holds, rfl, rfl⟩
    obtain ⟨other, begun, held, placed⟩ := place_inside file bound proper offset inside
    obtain ⟨rfl, rfl⟩ := holds_offset_unique _ proper.ascending _ _ _ _ _ held holds
    exact ⟨_, placed⟩

end SourceFile

end SourceLocator
