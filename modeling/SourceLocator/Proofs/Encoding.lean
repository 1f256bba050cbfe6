import SourceLocator.Proofs.CharOffsets

set_option autoImplicit false

namespace SourceLocator.Utf8

theorem followers_by_number (b : UInt8) (n : Nat) (number : b.toNat = n) :
    followers b =
      if n ≤ 0x7F then some [] else if n < 0xC2 then none else if n ≤ 0xDF then some [tail]
      else if n = 0xE0 then some [⟨0xA0, 0xBF⟩, tail] else if n = 0xED then some [⟨0x80, 0x9F⟩, tail]
      else if n ≤ 0xEF then some [tail, tail] else if n = 0xF0 then some [⟨0x90, 0xBF⟩, tail, tail]
      else if n ≤ 0xF3 then some [tail, tail, tail]
      else if n = 0xF4 then some [⟨0x80, 0x8F⟩, tail, tail] else none := by
  subst number
  simp only [followers, UInt8.le_iff_toNat_le, UInt8.lt_iff_toNat_lt, ← UInt8.toNat_inj]
  rfl

theorem contains_by_number (low high : UInt8) (n : Nat) (small : n < 256) (above : low.toNat ≤ n)
    (below : n ≤ high.toNat) : (ByteRange.mk low high).contains (UInt8.ofNat n) = true := by
  have number : (UInt8.ofNat n).toNat = n := UInt8.toNat_ofNat_of_lt' small
  simp only [ByteRange.contains, Bool.and_eq_true, decide_eq_true_eq, UInt8.le_iff_toNat_le, number]
  exact ⟨above, below⟩

theorem tail_contains (n : Nat) : tail.contains (UInt8.ofNat (n % 0x40 + 0x80)) = true := by
  have below := Nat.mod_lt n (by decide : 0x40 > 0)
  exact contains_by_number 0x80 0xBF _ (by omega) (Nat.le_add_left _ _) (by change _ ≤ 0xBF; omega)

theorem tail_bits (n : Nat) : (UInt8.ofNat (n % 0x40 + 0x80)).toNat % 0x40 = n % 0x40 := by
  have below := Nat.mod_lt n (by decide : 0x40 > 0)
  rw [UInt8.toNat_ofNat_of_lt' (by change _ < 256; omega)]
  omega

theorem fitting_cons (range : ByteRange) (ranges : List ByteRange) (b : UInt8) (rest : Bytes)
    (fits : range.contains b = true) : fitting (range :: ranges) (b :: rest) = b :: fitting ranges rest := by
  rw [fitting, if_pos fits]

theorem fitting_none (rest : Bytes) : fitting [] rest = [] := by rw [fitting]

theorem piece_complete (b : UInt8) (ranges : List ByteRange) (tails rest : Bytes)
    (follow : followers b = some ranges) (fits : fitting ranges (tails ++ rest) = tails)
    (complete : tails.length = ranges.length) (c : Char) (value : scalar b tails = c.toNat) :
    piece b (tails ++ rest) = ⟨b :: tails, c⟩ := by
  simp only [piece, follow, fits, complete, if_true, value, Char.ofNat_toNat]

def Encodes (c : Char) (b : UInt8) (tails : Bytes) : Prop :=
  isContinuation b = false ∧ ∀ rest, piece b (tails ++ rest) = ⟨b :: tails, c⟩

theorem first_byte (n : Nat) (small : n < 256) (outside : n < 0x80 ∨ 0xBF < n) :
    (UInt8.ofNat n).toNat = n ∧ isContinuation (UInt8.ofNat n) = false := by
  have number : (UInt8.ofNat n).toNat = n := UInt8.toNat_ofNat_of_lt' small
  refine ⟨number, ?_⟩
  simp only [isContinuation, tail, ByteRange.contains, Bool.and_eq_false_iff, decide_eq_false_iff_not,
    UInt8.le_iff_toNat_le, number]
  change ¬ 0x80 ≤ n ∨ ¬ n ≤ 0xBF
  omega

theorem encodes_one (c : Char) (high : c.toNat ≤ 0x7F) : Encodes c (UInt8.ofNat c.toNat) [] := by
  obtain ⟨number, first⟩ := first_byte c.toNat (by omega) (by omega)
  refine ⟨first, fun rest => piece_complete _ [] [] rest ?_ rfl rfl c number⟩
  rw [followers_by_number _ _ number, if_pos high]

theorem encodes_two (c : Char) (low : 0x7F < c.toNat) (high : c.toNat ≤ 0x7FF) :
    Encodes c (UInt8.ofNat (c.toNat / 0x40 % 0x20 + 0xC0)) [UInt8.ofNat (c.toNat % 0x40 + 0x80)] := by
  obtain ⟨number, first⟩ := first_byte (c.toNat / 0x40 % 0x20 + 0xC0) (by omega) (by omega)
  refine ⟨first, fun rest => piece_complete _ [tail] _ rest ?_ ?_ rfl c ?_⟩
  · rw [followers_by_number _ _ number, if_neg (by omega), if_neg (by omega), if_pos (by omega)]
  · rw [List.singleton_append, fitting_cons _ _ _ _ (tail_contains _), fitting_none]
  · simp only [scalar, leading, List.foldl_cons, List.foldl_nil, List.length_singleton, number, tail_bits]
    omega

theorem followers_three (c : Char) (low : 0x7FF < c.toNat) (high : c.toNat ≤ 0xFFFF) (b : UInt8)
    (number : b.toNat = c.toNat / 0x1000 % 0x10 + 0xE0) :
    ∃ range, followers b = some [range, tail] ∧
      range.contains (UInt8.ofNat (c.toNat / 0x40 % 0x40 + 0x80)) = true := by
  have valid : c.toNat < 0xD800 ∨ 0xDFFF < c.toNat ∧ c.toNat < 0x110000 := c.valid
  rw [followers_by_number _ _ number, if_neg (by omega), if_neg (by omega), if_neg (by omega)]
  by_cases first : c.toNat / 0x1000 % 0x10 + 0xE0 = 0xE0
  · rw [if_pos first]
    exact ⟨_, rfl, contains_by_number _ _ _ (by omega) (by change 0xA0 ≤ _; omega) (by change _ ≤ 0xBF; omega)⟩
  · rw [if_neg first]
    by_cases surrogate : c.toNat / 0x1000 % 0x10 + 0xE0 = 0xED
    · rw [if_pos surrogate]
      exact ⟨_, rfl, contains_by_number _ _ _ (by omega) (by change 0x80 ≤ _; omega) (by change _ ≤ 0x9F; omega)⟩
    · rw [if_neg surrogate, if_pos (by omega)]
      exact ⟨_, rfl, tail_contains _⟩

theorem encodes_three (c : Char) (low : 0x7FF < c.toNat) (high : c.toNat ≤ 0xFFFF) :
    Encodes c (UInt8.ofNat (c.toNat / 0x1000 % 0x10 + 0xE0))
      [UInt8.ofNat (c.toNat / 0x40 % 0x40 + 0x80), UInt8.ofNat (c.toNat % 0x40 + 0x80)] := by
  obtain ⟨number, first⟩ := first_byte (c.toNat / 0x1000 % 0x10 + 0xE0) (by omega) (by omega)
  obtain ⟨range, follow, fits⟩ := followers_three c low high _ number
  refine ⟨first, fun rest => piece_complete _ _ _ rest follow ?_ rfl c ?_⟩
  · rw [List.cons_append, List.singleton_append, fitting_cons _ _ _ _ fits,
      fitting_cons _ _ _ _ (tail_contains _), fitting_none]
  · simp only [scalar, leading, List.foldl_cons, List.foldl_nil, List.length_cons, List.length_nil, number,
      tail_bits]
    omega

theorem followers_four (c : Char) (low : 0xFFFF < c.toNat) (b : UInt8)
    (number : b.toNat = c.toNat / 0x40000 % 0x08 + 0xF0) :
    ∃ range, followers b = some [range, tail, tail] ∧
      range.contains (UInt8.ofNat (c.toNat / 0x1000 % 0x40 + 0x80)) = true := by
  have valid : c.toNat < 0xD800 ∨ 0xDFFF < c.toNat ∧ c.toNat < 0x110000 := c.valid
  rw [followers_by_number _ _ number, if_neg (by omega), if_neg (by omega), if_neg (by omega),
    if_neg (by omega), if_neg (by omega), if_neg (by omega)]
  by_cases first : c.toNat / 0x40000 % 0x08 + 0xF0 = 0xF0
  · rw [if_pos first]
    exact ⟨_, rfl, contains_by_number _ _ _ (by omega) (by change 0x90 ≤ _; omega) (by change _ ≤ 0xBF; omega)⟩
  · rw [if_neg first]
    by_cases middle : c.toNat / 0x40000 % 0x08 + 0xF0 ≤ 0xF3
    · rw [if_pos middle]
      exact ⟨_, rfl, tail_contains _⟩
    · rw [if_neg middle, if_pos (by omega)]
      exact ⟨_, rfl, contains_by_number _ _ _ (by omega) (by change 0x80 ≤ _; omega) (by change _ ≤ 0x8F; omega)⟩

theorem encodes_four (c : Char) (low : 0xFFFF < c.toNat) :
    Encodes c (UInt8.ofNat (c.toNat / 0x40000 % 0x08 + 0xF0))
      [UInt8.ofNat (c.toNat / 0x1000 % 0x40 + 0x80), UInt8.ofNat (c.toNat / 0x40 % 0x40 + 0x80),
        UInt8.ofNat (c.toNat % 0x40 + 0x80)] := by
  have valid : c.toNat < 0xD800 ∨ 0xDFFF < c.toNat ∧ c.toNat < 0x110000 := c.valid
  obtain ⟨number, first⟩ := first_byte (c.toNat / 0x40000 % 0x08 + 0xF0) (by omega) (by omega)
  obtain ⟨range, follow, fits⟩ := followers_four c low _ number
  refine ⟨first, fun rest => piece_complete _ _ _ rest follow ?_ rfl c ?_⟩
  · rw [List.cons_append, List.cons_append, List.singleton_append, fitting_cons _ _ _ _ fits,
      fitting_cons _ _ _ _ (tail_contains _), fitting_cons _ _ _ _ (tail_contains _), fitting_none]
  · simp only [scalar, leading, List.foldl_cons, List.foldl_nil, List.length_cons, List.length_nil, number,
      tail_bits]
    omega

theorem char_encodes (c : Char) : ∃ b tails, String.utf8EncodeChar c = b :: tails ∧ Encodes c b tails := by
  have number : c.val.toNat = c.toNat := rfl
  unfold String.utf8EncodeChar
  dsimp only
  rw [number]
  by_cases one : c.toNat ≤ 0x7F
  · rw [if_pos one]
    exact ⟨_, _, rfl, encodes_one c one⟩
  · rw [if_neg one]
    by_cases two : c.toNat ≤ 0x7FF
    · rw [if_pos two]
      exact ⟨_, _, rfl, encodes_two c (by omega) two⟩
    · rw [if_neg two]
      by_cases three : c.toNat ≤ 0xFFFF
      · rw [if_pos three]
        exact ⟨_, _, rfl, encodes_three c (by omega) three⟩
      · rw [if_neg three]
        exact ⟨_, _, rfl, encodes_four c (by omega)⟩

def whole (c : Char) : Piece := ⟨String.utf8EncodeChar c, c⟩

theorem pieces_encode (text : Text) : pieces (encode text) = text.map whole := by
  induction text with
  | nil => simp [encode, pieces]
  | cons c rest ih =>
      obtain ⟨b, tails, spelled, -, reads⟩ := char_encodes c
      have front : (piece b (tails ++ encode rest)).bytes = b :: tails := by rw [reads]
      rw [encode, List.flatMap_cons, ← encode, spelled, List.cons_append, pieces_cons b tails _ front, reads,
        ih, List.map_cons, whole, spelled]

theorem decode_encode (text : Text) : decode (encode text) = text := by
  rw [decode, pieces_encode, List.map_map]
  exact List.map_id text

theorem encode_well_formed (text : Text) : wellFormed (encode text) = true := by
  rw [wellFormed, decode_encode]
  exact BEq.rfl

theorem spell_whole (text : Text) : spell (text.map whole) = encode text := by
  rw [spell, List.flatMap_map]
  rfl

theorem piece_end_encode (text : Text) (k : Nat) :
    pieceEnd (encode text) k = (encode (text.take k)).length := by
  rw [pieceEnd, pieces_encode, ← List.map_take, spell_whole]

theorem encoding_has_no_strays (text : Text) (k : Nat) : strays (encode text) k = 0 := by
  rw [strays, pieces_encode, ← List.map_take, List.countP_eq_zero]
  intro piece member
  obtain ⟨c, -, rfl⟩ := List.mem_map.mp member
  obtain ⟨b, tails, spelled, first, -⟩ := char_encodes c
  simp [isStray, whole, spelled, first]

end SourceLocator.Utf8
