import SourceLocator.Source.LineTable

set_option autoImplicit false

namespace SourceLocator

def breakEndsAt (text : Text) : Nat → Bool
  | 0 => false
  | i + 1 => text[i]? == some '\n' || (text[i]? == some '\r' && text[i + 1]? != some '\n')

def breakEnds (text : Text) : List Nat := (List.range (text.length + 1)).filter (breakEndsAt text)

theorem break_ends_increasing (text : Text) : (breakEnds text).Pairwise (· < ·) :=
  List.pairwise_lt_range.filter _

theorem mem_break_ends (text : Text) (offset : Nat) :
    offset ∈ breakEnds text ↔ offset ≤ text.length ∧ breakEndsAt text offset = true := by
  rw [breakEnds, List.mem_filter, List.mem_range, Nat.lt_succ_iff]

theorem break_ends_positive (text : Text) (offset : Nat) (member : offset ∈ breakEnds text) :
    0 < offset := by
  cases offset with
  | zero => simp [mem_break_ends, breakEndsAt] at member
  | succ i => exact Nat.succ_pos i

theorem break_ends_cons (c : Char) (rest : Text) :
    breakEnds (c :: rest) =
      (if breakEndsAt (c :: rest) 1 then [1] else []) ++ (breakEnds rest).map (· + 1) := by
  have shifted : (fun i => breakEndsAt (c :: rest) (i + 2)) = fun i => breakEndsAt rest (i + 1) := by
    funext i
    simp [breakEndsAt]
  have atStart : ∀ text, breakEndsAt text 0 = false := fun _ => rfl
  rw [breakEnds, breakEnds, List.length_cons, List.range_succ_eq_map, List.range_succ_eq_map]
  simp only [List.map_cons, List.map_map, List.filter_cons, atStart, List.filter_map, Function.comp_def,
    Nat.succ_eq_add_one, Bool.false_eq_true, if_false, Nat.add_assoc, Nat.reduceAdd, Nat.zero_add, shifted]
  split <;> rfl

theorem later_line_starts_eq (offset : Nat) (text : Text) :
    laterLineStarts offset text = (breakEnds text).map (offset + ·) := by
  fun_induction laterLineStarts offset text with
  | case1 offset => rfl
  | case2 offset rest ih =>
      rw [break_ends_cons, break_ends_cons, ih]
      simp [breakEndsAt, Function.comp_def, Nat.add_comm, Nat.add_left_comm]
  | case3 offset c rest single isBreak ih =>
      -- A carriage return before a line feed went the case above.
      have ends : breakEndsAt (c :: rest) 1 = true := by
        rcases isBreak with rfl | rfl
        · cases rest with
          | nil => rfl
          | cons next rest =>
              have notFeed : next ≠ '\n' := fun same => single rest rfl (by rw [same])
              simp [breakEndsAt, notFeed]
        · rfl
      rw [break_ends_cons, ends, ih]
      simp [Function.comp_def, Nat.add_comm, Nat.add_left_comm]
  | case4 offset c rest single noBreak ih =>
      have continues : breakEndsAt (c :: rest) 1 = false := by
        obtain ⟨notReturn, notFeed⟩ := not_or.mp noBreak
        simp [breakEndsAt, notReturn, notFeed]
      rw [break_ends_cons, continues, ih]
      simp [Function.comp_def, Nat.add_comm, Nat.add_left_comm]

theorem line_starts_eq (text : Text) : lineStarts text = 0 :: breakEnds text := by
  simp [lineStarts, later_line_starts_eq]

end SourceLocator
