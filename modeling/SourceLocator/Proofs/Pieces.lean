import SourceLocator.Text.Utf8

set_option autoImplicit false

namespace SourceLocator.Utf8

theorem followers_in_tail (b : UInt8) (ranges : List ByteRange) (follow : followers b = some ranges) :
    ∀ range ∈ ranges, tail.low ≤ range.low ∧ range.high ≤ tail.high := by
  unfold followers at follow
  repeat' split at follow
  all_goals cases follow <;> decide

theorem followers_continue (b : UInt8) (ranges : List ByteRange) (follow : followers b = some ranges)
    (range : ByteRange) (listed : range ∈ ranges) (x : UInt8) (fits : range.contains x = true) :
    isContinuation x = true := by
  obtain ⟨above, below⟩ := followers_in_tail b ranges follow range listed
  simp only [isContinuation, ByteRange.contains, Bool.and_eq_true, decide_eq_true_eq] at fits ⊢
  exact ⟨UInt8.le_trans above fits.1, UInt8.le_trans fits.2 below⟩

theorem mem_fitting (ranges : List ByteRange) (bytes : Bytes) (x : UInt8)
    (member : x ∈ fitting ranges bytes) : ∃ range ∈ ranges, range.contains x = true := by
  induction ranges generalizing bytes with
  | nil => simp [fitting] at member
  | cons range ranges ih =>
      cases bytes with
      | nil => simp [fitting] at member
      | cons b rest =>
          rw [fitting] at member
          split at member
          · rename_i fits
            rcases List.mem_cons.mp member with same | later
            · exact ⟨range, List.mem_cons_self, by rw [same]; exact fits⟩
            · obtain ⟨other, listed, contained⟩ := ih rest later
              exact ⟨other, List.mem_cons_of_mem _ listed, contained⟩
          · simp at member

theorem fitting_take (ranges : List ByteRange) (bytes : Bytes) (count : Nat)
    (enough : (fitting ranges bytes).length ≤ count) :
    fitting ranges (bytes.take count) = fitting ranges bytes := by
  induction ranges generalizing bytes count with
  | nil => simp [fitting]
  | cons range ranges ih =>
      cases bytes with
      | nil => simp
      | cons b rest =>
          by_cases fits : range.contains b = true
          · rw [fitting, if_pos fits, List.length_cons] at enough
            obtain ⟨fewer, rfl⟩ := Nat.exists_eq_succ_of_ne_zero (by omega : count ≠ 0)
            rw [List.take_succ_cons, fitting, fitting, if_pos fits, if_pos fits, ih rest fewer (by omega)]
          · cases count with
            | zero => simp [fitting, fits]
            | succ count => rw [List.take_succ_cons, fitting, fitting, if_neg fits, if_neg fits]

def Shaped (piece : Piece) : Prop :=
  ∃ b tails, piece.bytes = b :: tails ∧ ∀ x ∈ tails, isContinuation x = true

theorem piece_shape (b : UInt8) (rest : Bytes) :
    ∃ tails more, (piece b rest).bytes = b :: tails ∧ rest = tails ++ more ∧
      ∀ x ∈ tails, isContinuation x = true := by
  unfold piece
  cases follow : followers b with
  | none => exact ⟨[], rest, rfl, rfl, by simp⟩
  | some ranges =>
      obtain ⟨more, split⟩ := fitting_prefix ranges rest
      refine ⟨fitting ranges rest, more, ?_, split.symm, ?_⟩
      · dsimp only
        split <;> rfl
      · intro x member
        obtain ⟨range, listed, fits⟩ := mem_fitting ranges rest x member
        exact followers_continue b ranges follow range listed x fits

theorem piece_take (b : UInt8) (rest : Bytes) (count : Nat)
    (enough : (piece b rest).bytes.length ≤ count + 1) : piece b (rest.take count) = piece b rest := by
  unfold piece at enough ⊢
  cases follow : followers b with
  | none => rfl
  | some ranges =>
      have fits : (fitting ranges rest).length ≤ count := by
        rw [follow] at enough
        dsimp only at enough
        split at enough <;> exact Nat.le_of_succ_le_succ enough
      dsimp only
      rw [fitting_take ranges rest count fits]

theorem pieces_cons (b : UInt8) (tails more : Bytes)
    (front : (piece b (tails ++ more)).bytes = b :: tails) :
    pieces (b :: (tails ++ more)) = piece b (tails ++ more) :: pieces more := by
  rw [pieces, front]
  simp

theorem pieces_shaped (bytes : Bytes) : ∀ piece ∈ pieces bytes, Shaped piece := by
  fun_induction pieces bytes with
  | case1 => simp
  | case2 b rest front ih =>
      intro piece member
      rcases List.mem_cons.mp member with rfl | later
      · obtain ⟨tails, -, shape, -, continues⟩ := piece_shape b rest
        exact ⟨b, tails, shape, continues⟩
      · exact ih piece later

def spell (pieces : List Piece) : Bytes := pieces.flatMap Piece.bytes

theorem spell_pieces (bytes : Bytes) : spell (pieces bytes) = bytes := by
  fun_induction pieces bytes with
  | case1 => rfl
  | case2 b rest front ih =>
      obtain ⟨tails, more, shape, split, -⟩ := piece_shape b rest
      have frontBytes : front.bytes = b :: tails := shape
      rw [spell, List.flatMap_cons, ← spell, ih, frontBytes, split]
      simp

def pieceEnd (bytes : Bytes) (k : Nat) : Nat := (spell ((pieces bytes).take k)).length

theorem spell_split (bytes : Bytes) (k : Nat) :
    spell ((pieces bytes).take k) ++ spell ((pieces bytes).drop k) = bytes := by
  rw [spell, spell, ← List.flatMap_append, List.take_append_drop, ← spell, spell_pieces]

theorem take_piece_end (bytes : Bytes) (k : Nat) :
    bytes.take (pieceEnd bytes k) = spell ((pieces bytes).take k) := by
  have split := congrArg (List.take (pieceEnd bytes k)) (spell_split bytes k)
  rw [← split, pieceEnd, List.take_left]

theorem drop_piece_end (bytes : Bytes) (k : Nat) :
    bytes.drop (pieceEnd bytes k) = spell ((pieces bytes).drop k) := by
  have split := congrArg (List.drop (pieceEnd bytes k)) (spell_split bytes k)
  rw [← split, pieceEnd, List.drop_left]

theorem pieces_spell_take (bytes : Bytes) (k : Nat) :
    pieces (spell ((pieces bytes).take k)) = (pieces bytes).take k := by
  fun_induction pieces bytes generalizing k with
  | case1 => simp [spell, pieces]
  | case2 b rest front ih =>
      cases k with
      | zero => simp [spell, pieces]
      | succ k =>
          obtain ⟨tails, more, shape, split, -⟩ := piece_shape b rest
          have frontBytes : front.bytes = b :: tails := shape
          have remaining : rest.drop (front.bytes.length - 1) = more := by
            rw [frontBytes, split]
            simp
          rw [remaining] at ih ⊢
          have cut : tails ++ spell ((pieces more).take k) = rest.take (tails.length + pieceEnd more k) := by
            rw [split, List.take_length_add_append, take_piece_end]
          have same : piece b (tails ++ spell ((pieces more).take k)) = front := by
            rw [cut, piece_take]
            rw [shape, List.length_cons]
            omega
          rw [List.take_succ_cons, spell, List.flatMap_cons, ← spell, frontBytes, List.cons_append,
            pieces_cons b tails _ (by rw [same, frontBytes]), same, ih]

theorem pieces_spell_drop (bytes : Bytes) (k : Nat) :
    pieces (spell ((pieces bytes).drop k)) = (pieces bytes).drop k := by
  fun_induction pieces bytes generalizing k with
  | case1 => simp [spell, pieces]
  | case2 b rest front ih =>
      cases k with
      | zero =>
          have whole := spell_pieces (b :: rest)
          rw [pieces] at whole
          rw [List.drop_zero, whole, pieces]
      | succ k => rw [List.drop_succ_cons, ih]

end SourceLocator.Utf8
