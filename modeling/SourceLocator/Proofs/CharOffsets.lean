import SourceLocator.Proofs.Pieces

set_option autoImplicit false

namespace SourceLocator.Utf8

-- A continuation byte that continues nothing. It stands alone, and it reads as a character of its own.
def isStray (piece : Piece) : Bool := piece.bytes.head?.any isContinuation

def strays (bytes : Bytes) (k : Nat) : Nat := ((pieces bytes).take k).countP isStray

theorem decode_length (bytes : Bytes) : (decode bytes).length = (pieces bytes).length := by
  rw [decode, List.length_map]

theorem marks_before (start : Nat) (bytes : Bytes) (position : Int) :
    ((continuationsFrom start bytes).takeWhile fun (mark : Nat) => (mark : Int) < position).length =
      (bytes.take (position - start).toNat).countP isContinuation := by
  induction bytes generalizing start with
  | nil => simp [continuationsFrom]
  | cons b rest ih =>
      have later := ih (start + 1)
      by_cases before : (start : Int) < position
      · have count : (position - start).toNat = (position - (start + 1 : Nat)).toNat + 1 := by omega
        rw [count, List.take_succ_cons, List.countP_cons, ← later]
        by_cases continues : isContinuation b = true
        · simp [continuationsFrom, continues, before]
        · simp [continuationsFrom, continues]
      · have none : (position - start).toNat = 0 := by omega
        have noneLater : (position - (start + 1 : Nat)).toNat = 0 := by omega
        rw [noneLater] at later
        rw [none]
        by_cases continues : isContinuation b = true
        · simp [continuationsFrom, continues, before]
        · simpa [continuationsFrom, continues] using later

theorem char_offset_eq (bytes : Bytes) (position : Int) :
    charOffset (continuations bytes) position =
      position - (bytes.take position.toNat).countP isContinuation := by
  rw [charOffset, continuations, marks_before, Int.natCast_zero, Int.sub_zero]

theorem char_offset_step (bytes : Bytes) (position : Int) :
    charOffset (continuations bytes) (position + 1) = charOffset (continuations bytes) position ∨
      charOffset (continuations bytes) (position + 1) = charOffset (continuations bytes) position + 1 := by
  rw [char_offset_eq, char_offset_eq]
  by_cases before : position < 0
  · have none : (position + 1).toNat = 0 := by omega
    have noneBefore : position.toNat = 0 := by omega
    rw [none, noneBefore]
    omega
  · have count : (position + 1).toNat = position.toNat + 1 := by omega
    rw [count, List.take_add_one, List.countP_append]
    have one := List.countP_le_length (p := isContinuation) (l := bytes[position.toNat]?.toList)
    have few : bytes[position.toNat]?.toList.length ≤ 1 := by cases bytes[position.toNat]? <;> simp
    omega

theorem char_offset_mono (bytes : Bytes) (a b : Int) (le : a ≤ b) :
    charOffset (continuations bytes) a ≤ charOffset (continuations bytes) b := by
  obtain ⟨steps, rfl⟩ := Int.le.dest le
  induction steps with
  | zero => simp
  | succ steps ih =>
      have further := char_offset_step bytes (a + steps)
      have earlier := ih (by omega)
      rw [Int.natCast_succ, ← Int.add_assoc]
      omega

theorem spell_continuations (list : List Piece) (shaped : ∀ piece ∈ list, Shaped piece) :
    (spell list).countP isContinuation + list.length = (spell list).length + list.countP isStray := by
  induction list with
  | nil => rfl
  | cons piece rest ih =>
      obtain ⟨b, tails, shape, continues⟩ := shaped piece List.mem_cons_self
      have later := ih fun other member => shaped other (List.mem_cons_of_mem _ member)
      have allTails : tails.countP isContinuation = tails.length := List.countP_eq_length.mpr continues
      have stray : isStray piece = isContinuation b := by simp [isStray, shape]
      rw [spell, List.flatMap_cons, ← spell, shape, List.countP_append, List.countP_cons, List.countP_cons,
        allTails, stray, List.length_append, List.length_cons, List.length_cons]
      omega

theorem char_offset_piece_end (bytes : Bytes) (k : Nat) (bounded : k ≤ (pieces bytes).length) :
    charOffset (continuations bytes) (pieceEnd bytes k) = k - strays bytes k := by
  have shaped : ∀ piece ∈ (pieces bytes).take k, Shaped piece :=
    fun piece member => pieces_shaped bytes piece (List.mem_of_mem_take member)
  have counts := spell_continuations _ shaped
  rw [List.length_take_of_le bounded] at counts
  rw [char_offset_eq, Int.toNat_natCast, take_piece_end, pieceEnd, strays]
  omega

theorem piece_end_bounded (bytes : Bytes) (k : Nat) : pieceEnd bytes k ≤ bytes.length := by
  have split := congrArg List.length (spell_split bytes k)
  rw [List.length_append] at split
  rw [pieceEnd]
  omega

theorem decode_slice (bytes : Bytes) (i j : Nat) (le : i ≤ j) (bounded : j ≤ (pieces bytes).length) :
    decode (slice bytes (pieceEnd bytes i) (pieceEnd bytes j)) = slice (decode bytes) i j := by
  have same : pieceEnd (spell ((pieces bytes).take j)) i = pieceEnd bytes i := by
    rw [pieceEnd, pieceEnd, pieces_spell_take, List.take_take, Nat.min_eq_left le]
  rw [slice_ofNat bytes _ _ (piece_end_bounded bytes j), take_piece_end, ← same, drop_piece_end, decode,
    pieces_spell_drop, pieces_spell_take, slice_ofNat _ i j (by rw [decode_length]; exact bounded), decode,
    ← List.map_take, List.map_drop]

theorem strays_le (bytes : Bytes) (i j : Nat) (le : i ≤ j) : strays bytes i ≤ strays bytes j :=
  (List.take_sublist_take_left le).countP_le

theorem strays_succ (bytes : Bytes) (k : Nat) (bounded : k < (pieces bytes).length) :
    strays bytes (k + 1) = strays bytes k + if isStray (pieces bytes)[k] then 1 else 0 := by
  rw [strays, strays, List.take_add_one, List.getElem?_eq_getElem bounded, List.countP_append]
  simp [List.countP_cons]

theorem stray_of_strays (bytes : Bytes) (some : strays bytes (pieces bytes).length ≠ 0) :
    ∃ (k : Nat) (bounded : k < (pieces bytes).length), isStray (pieces bytes)[k] = true := by
  rw [strays, List.take_length] at some
  obtain ⟨piece, member, stray⟩ := List.countP_pos_iff.mp (Nat.pos_of_ne_zero some)
  obtain ⟨k, bounded, rfl⟩ := List.getElem_of_mem member
  exact ⟨k, bounded, stray⟩

end SourceLocator.Utf8
