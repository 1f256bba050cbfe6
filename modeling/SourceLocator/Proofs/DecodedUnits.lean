import SourceLocator.Proofs.Encoding

set_option autoImplicit false

namespace SourceLocator.Utf8

def Begins (bytes : Bytes) : Prop := ∃ c : Char, bytes <+: String.utf8EncodeChar c

-- The unit at the front of some bytes: a whole character, or failing that the longest front with which
-- a character begins, which is at least the first byte. How the decoder finds it is not said here.
inductive FrontUnit (bytes : Bytes) : Piece → Prop where
  | character (c : Char) (front : String.utf8EncodeChar c <+: bytes) : FrontUnit bytes (whole c)
  | subpart (part : Bytes) (front : part <+: bytes) (none : ∀ c : Char, ¬ String.utf8EncodeChar c <+: bytes)
      (nonempty : part ≠ []) (begins : part.length = 1 ∨ Begins part)
      (longest : ∀ longer, longer <+: bytes → Begins longer → longer.length ≤ part.length) :
      FrontUnit bytes ⟨part, replacement⟩

inductive Units : Bytes → List Piece → Prop where
  | nil : Units [] []
  | cons (unit : Piece) (bytes : Bytes) (later : List Piece) (front : FrontUnit (unit.bytes ++ bytes) unit)
      (further : Units bytes later) : Units (unit.bytes ++ bytes) (unit :: later)

theorem range_bounds (low high b : UInt8) (fits : (ByteRange.mk low high).contains b = true) :
    low.toNat ≤ b.toNat ∧ b.toNat ≤ high.toNat := by
  simpa only [ByteRange.contains, Bool.and_eq_true, decide_eq_true_eq, UInt8.le_iff_toNat_le] using fits

theorem tail_bounds (b : UInt8) (fits : tail.contains b = true) : 0x80 ≤ b.toNat ∧ b.toNat ≤ 0xBF :=
  range_bounds 0x80 0xBF b fits

theorem scalar_number (n : Nat) (valid : n < 0xD800 ∨ 0xDFFF < n ∧ n < 0x110000) : (Char.ofNat n).toNat = n := by
  have isValid : n.isValidChar := valid
  rw [Char.toNat, Char.ofNat, dif_pos isValid]
  rfl

theorem byte_of_number (b : UInt8) (n : Nat) (same : n = b.toNat) : UInt8.ofNat n = b := by
  rw [same, UInt8.ofNat_toNat]

theorem one_byte_character (b : UInt8) (first : b.toNat ≤ 0x7F) : ∃ c, String.utf8EncodeChar c = [b] := by
  refine ⟨Char.ofNat b.toNat, ?_⟩
  have number := scalar_number b.toNat (.inl (by omega))
  have value : (Char.ofNat b.toNat).val.toNat = b.toNat := number
  unfold String.utf8EncodeChar
  dsimp only
  rw [value, if_pos first, UInt8.ofNat_toNat]

theorem two_byte_character (b t : UInt8) (low : 0xC2 ≤ b.toNat) (high : b.toNat ≤ 0xDF) (continues : tail.contains t = true) :
    ∃ c, String.utf8EncodeChar c = [b, t] := by
  obtain ⟨above, below⟩ := tail_bounds t continues
  refine ⟨Char.ofNat (b.toNat % 0x20 * 0x40 + t.toNat % 0x40), ?_⟩
  have value : (Char.ofNat (b.toNat % 0x20 * 0x40 + t.toNat % 0x40)).val.toNat = _ := scalar_number _ (.inl (by omega))
  unfold String.utf8EncodeChar
  dsimp only
  rw [value, if_neg (by omega), if_pos (by omega), byte_of_number b _ (by omega), byte_of_number t _ (by omega)]

theorem three_byte_character (b t u : UInt8) (low : 0xE0 ≤ b.toNat) (high : b.toNat ≤ 0xEF)
    (continues : tail.contains t = true) (lastContinues : tail.contains u = true)
    (notOverlong : b.toNat = 0xE0 → 0xA0 ≤ t.toNat) (noSurrogate : b.toNat = 0xED → t.toNat ≤ 0x9F) :
    ∃ c, String.utf8EncodeChar c = [b, t, u] := by
  obtain ⟨above, below⟩ := tail_bounds t continues
  obtain ⟨lastAbove, lastBelow⟩ := tail_bounds u lastContinues
  let n := (b.toNat % 0x10 * 0x40 + t.toNat % 0x40) * 0x40 + u.toNat % 0x40
  refine ⟨Char.ofNat n, ?_⟩
  have value : (Char.ofNat n).val.toNat = n := scalar_number n (by omega)
  unfold String.utf8EncodeChar
  dsimp only
  rw [value, if_neg (by omega), if_neg (by omega), if_pos (by omega), byte_of_number b _ (by omega),
    byte_of_number t _ (by omega), byte_of_number u _ (by omega)]

theorem four_byte_character (b t u v : UInt8) (low : 0xF0 ≤ b.toNat) (high : b.toNat ≤ 0xF4)
    (continues : tail.contains t = true) (nextContinues : tail.contains u = true) (lastContinues : tail.contains v = true)
    (notOverlong : b.toNat = 0xF0 → 0x90 ≤ t.toNat) (inRange : b.toNat = 0xF4 → t.toNat ≤ 0x8F) :
    ∃ c, String.utf8EncodeChar c = [b, t, u, v] := by
  obtain ⟨above, below⟩ := tail_bounds t continues
  obtain ⟨nextAbove, nextBelow⟩ := tail_bounds u nextContinues
  obtain ⟨lastAbove, lastBelow⟩ := tail_bounds v lastContinues
  let n := ((b.toNat % 0x08 * 0x40 + t.toNat % 0x40) * 0x40 + u.toNat % 0x40) * 0x40 + v.toNat % 0x40
  refine ⟨Char.ofNat n, ?_⟩
  have value : (Char.ofNat n).val.toNat = n := scalar_number n (by omega)
  unfold String.utf8EncodeChar
  dsimp only
  rw [value, if_neg (by omega), if_neg (by omega), if_neg (by omega), byte_of_number b _ (by omega),
    byte_of_number t _ (by omega), byte_of_number u _ (by omega), byte_of_number v _ (by omega)]

structure Fits (ranges : List ByteRange) (tails : Bytes) : Prop where
  each : fitting ranges tails = tails
  full : tails.length = ranges.length

theorem fits_nil (tails : Bytes) (fits : Fits [] tails) : tails = [] := List.length_eq_zero_iff.mp fits.full

theorem fits_cons (range : ByteRange) (ranges : List ByteRange) (tails : Bytes) (fits : Fits (range :: ranges) tails) :
    ∃ t later, tails = t :: later ∧ range.contains t = true ∧ Fits ranges later := by
  obtain ⟨each, full⟩ := fits
  cases tails with
  | nil => cases full
  | cons t later =>
      rw [fitting] at each
      split at each
      · exact ⟨t, later, rfl, ‹_›, List.cons_inj_right t |>.mp each, Nat.succ.inj full⟩
      · cases each

theorem fits_one (range : ByteRange) (tails : Bytes) (fits : Fits [range] tails) :
    ∃ t, tails = [t] ∧ range.contains t = true := by
  obtain ⟨t, later, rfl, inside, rest⟩ := fits_cons range [] tails fits
  exact ⟨t, by rw [fits_nil later rest], inside⟩

theorem fits_two (first second : ByteRange) (tails : Bytes) (fits : Fits [first, second] tails) :
    ∃ t u, tails = [t, u] ∧ first.contains t = true ∧ second.contains u = true := by
  obtain ⟨t, later, rfl, inside, rest⟩ := fits_cons first [second] tails fits
  obtain ⟨u, rfl, last⟩ := fits_one second later rest
  exact ⟨t, u, rfl, inside, last⟩

theorem fits_three (first second third : ByteRange) (tails : Bytes) (fits : Fits [first, second, third] tails) :
    ∃ t u v, tails = [t, u, v] ∧ first.contains t = true ∧ second.contains u = true ∧ third.contains v = true := by
  obtain ⟨t, later, rfl, inside, rest⟩ := fits_cons first [second, third] tails fits
  obtain ⟨u, v, rfl, next, last⟩ := fits_two second third later rest
  exact ⟨t, u, v, rfl, inside, next, last⟩

theorem fitting_is_character (b : UInt8) (ranges : List ByteRange) (tails : Bytes) (follow : followers b = some ranges)
    (fits : Fits ranges tails) : ∃ c, String.utf8EncodeChar c = b :: tails := by
  have narrow : ∀ range ∈ ranges, ∀ t, range.contains t = true → tail.contains t = true :=
    fun range listed t inside => followers_continue b ranges follow range listed t inside
  rw [followers_by_number b b.toNat rfl] at follow
  -- The first bytes of one to four bytes, those with a range of their own for the second byte apart.
  repeat' split at follow
  all_goals cases follow
  · cases fits_nil tails fits
    exact one_byte_character b ‹_›
  · obtain ⟨t, rfl, inside⟩ := fits_one _ tails fits
    exact two_byte_character b t (by omega) (by omega) inside
  · obtain ⟨t, u, rfl, inside, last⟩ := fits_two _ _ tails fits
    have bounds := range_bounds _ _ t inside
    exact three_byte_character b t u (by omega) (by omega) (narrow _ List.mem_cons_self t inside) last
      (fun _ => bounds.1) (by omega)
  · obtain ⟨t, u, rfl, inside, last⟩ := fits_two _ _ tails fits
    have bounds := range_bounds _ _ t inside
    exact three_byte_character b t u (by omega) (by omega) (narrow _ List.mem_cons_self t inside) last (by omega)
      (fun _ => bounds.2)
  · obtain ⟨t, u, rfl, inside, last⟩ := fits_two _ _ tails fits
    exact three_byte_character b t u (by omega) (by omega) inside last (by omega) (by omega)
  · obtain ⟨t, u, v, rfl, inside, next, last⟩ := fits_three _ _ _ tails fits
    have bounds := range_bounds _ _ t inside
    exact four_byte_character b t u v (by omega) (by omega) (narrow _ List.mem_cons_self t inside) next last
      (fun _ => bounds.1) (by omega)
  · obtain ⟨t, u, v, rfl, inside, next, last⟩ := fits_three _ _ _ tails fits
    exact four_byte_character b t u v (by omega) (by omega) inside next last (by omega) (by omega)
  · obtain ⟨t, u, v, rfl, inside, next, last⟩ := fits_three _ _ _ tails fits
    have bounds := range_bounds _ _ t inside
    exact four_byte_character b t u v (by omega) (by omega) (narrow _ List.mem_cons_self t inside) next last (by omega)
      (fun _ => bounds.2)

theorem fitting_grows (ranges : List ByteRange) (bytes more : Bytes) :
    fitting ranges bytes <+: fitting ranges (bytes ++ more) := by
  induction ranges generalizing bytes with
  | nil =>
      rw [fitting_none]
      exact List.nil_prefix
  | cons range ranges ih =>
      cases bytes with
      | nil => exact List.nil_prefix
      | cons b rest =>
          rw [List.cons_append, fitting, fitting]
          split
          · exact List.cons_prefix_cons.mpr ⟨rfl, ih rest⟩
          · exact List.nil_prefix

theorem fitting_front (ranges : List ByteRange) (tails more : Bytes) (fits : Fits ranges (tails ++ more)) :
    fitting ranges tails = tails := by
  induction ranges generalizing tails with
  | nil =>
      have none := fits_nil _ fits
      rw [(List.append_eq_nil_iff.mp none).1, fitting_none]
  | cons range ranges ih =>
      cases tails with
      | nil => rfl
      | cons t rest =>
          obtain ⟨_, later, same, inside, further⟩ := fits_cons range ranges _ fits
          cases same
          rw [fitting_cons range ranges t rest inside, ih rest further]

theorem fitting_filled (ranges : List ByteRange) (inhabited : ∀ range ∈ ranges, range.contains range.low = true)
    (tails : Bytes) (fits : fitting ranges tails = tails) : ∃ more, Fits ranges (tails ++ more) := by
  induction ranges generalizing tails with
  | nil =>
      rw [fitting_none] at fits
      exact ⟨[], by rw [← fits]; rfl, by rw [← fits]; rfl⟩
  | cons range ranges ih =>
      obtain ⟨here, later⟩ := List.forall_mem_cons.mp inhabited
      cases tails with
      | nil =>
          obtain ⟨more, each, full⟩ := ih later [] (by cases ranges <;> rfl)
          exact ⟨range.low :: more, by rw [List.nil_append, fitting_cons range ranges _ _ here, ← List.nil_append more, each],
            congrArg Nat.succ full⟩
      | cons t rest =>
          rw [fitting] at fits
          split at fits
          · obtain ⟨more, each, full⟩ := ih later rest (List.cons_inj_right t |>.mp fits)
            exact ⟨more, by rw [List.cons_append, fitting_cons range ranges t _ ‹_›, each], congrArg Nat.succ full⟩
          · cases fits

theorem followers_inhabited (b : UInt8) (ranges : List ByteRange) (follow : followers b = some ranges) :
    ∀ range ∈ ranges, range.contains range.low = true := by
  unfold followers at follow
  repeat' split at follow
  all_goals cases follow <;> decide

theorem character_fits (c : Char) (b : UInt8) (tails : Bytes) (spelled : String.utf8EncodeChar c = b :: tails) :
    ∃ ranges, followers b = some ranges ∧ Fits ranges tails := by
  by_cases same : c = replacement
  · -- An ill-formed unit reads as this character too, so its own encoding is looked at.
    have three : String.utf8EncodeChar replacement = [0xEF, 0xBF, 0xBD] := by decide +kernel
    rw [same, three] at spelled
    cases spelled
    exact ⟨[tail, tail], rfl, rfl, rfl⟩
  · obtain ⟨first, others, again, -, reads⟩ := char_encodes c
    rw [spelled] at again
    cases again
    have alone := reads []
    rw [List.append_nil, piece] at alone
    cases follow : followers b with
    | none =>
        rw [follow] at alone
        exact absurd (congrArg Piece.char alone).symm same
    | some ranges =>
        rw [follow] at alone
        dsimp only at alone
        split at alone
        · have each : fitting ranges tails = tails := (List.cons_inj_right b).mp (congrArg Piece.bytes alone)
          rename_i full
          rw [each] at full
          exact ⟨ranges, rfl, each, full⟩
        · exact absurd (congrArg Piece.char alone).symm same

theorem begins_iff (b : UInt8) (tails : Bytes) :
    Begins (b :: tails) ↔ ∃ ranges, followers b = some ranges ∧ fitting ranges tails = tails := by
  constructor
  · rintro ⟨c, more, spelled⟩
    obtain ⟨ranges, follow, fits⟩ := character_fits c b (tails ++ more) spelled.symm
    exact ⟨ranges, follow, fitting_front ranges tails more fits⟩
  · rintro ⟨ranges, follow, each⟩
    obtain ⟨more, fits⟩ := fitting_filled ranges (followers_inhabited b ranges follow) tails each
    obtain ⟨c, spelled⟩ := fitting_is_character b ranges _ follow fits
    exact ⟨c, more, spelled.symm⟩

theorem piece_of_character (c : Char) (b : UInt8) (rest : Bytes) (front : String.utf8EncodeChar c <+: b :: rest) :
    piece b rest = whole c := by
  obtain ⟨first, tails, spelled, -, reads⟩ := char_encodes c
  obtain ⟨more, split⟩ := front
  rw [spelled, List.cons_append] at split
  cases split
  rw [reads, whole, spelled]

theorem front_begins (b : UInt8) (rest longer : Bytes) (front : longer <+: b :: rest) (begins : Begins longer)
    (nonempty : longer ≠ []) : ∃ ranges more, followers b = some ranges ∧ longer = b :: more ∧ more <+: fitting ranges rest := by
  cases longer with
  | nil => exact absurd rfl nonempty
  | cons first more =>
      obtain ⟨rfl, split⟩ := List.cons_prefix_cons.mp front
      obtain ⟨ranges, follow, each⟩ := (begins_iff first more).mp begins
      obtain ⟨behind, rfl⟩ := split
      have grows := fitting_grows ranges more behind
      rw [each] at grows
      exact ⟨ranges, more, follow, rfl, grows⟩

theorem piece_is_front_unit (b : UInt8) (rest : Bytes) : FrontUnit (b :: rest) (piece b rest) := by
  by_cases wellFormed : ∃ c, String.utf8EncodeChar c <+: b :: rest
  · obtain ⟨c, front⟩ := wellFormed
    rw [piece_of_character c b rest front]
    exact .character c front
  · have none : ∀ c : Char, ¬ String.utf8EncodeChar c <+: b :: rest := not_exists.mp wellFormed
    rw [piece]
    cases follow : followers b with
    | none =>
        refine .subpart [b] ⟨rest, rfl⟩ none (List.cons_ne_nil b []) (.inl rfl) ?_
        intro longer front begins
        by_cases empty : longer = []
        · rw [empty]
          exact Nat.zero_le _
        · obtain ⟨ranges, -, same, -⟩ := front_begins b rest longer front begins empty
          cases follow.symm.trans same
    | some ranges =>
        have inFront := fitting_prefix ranges rest
        have each : fitting ranges (fitting ranges rest) = fitting ranges rest := by
          have taken := fitting_take ranges rest _ (Nat.le_refl (fitting ranges rest).length)
          rwa [← List.prefix_iff_eq_take.mp inFront] at taken
        have short : (fitting ranges rest).length ≠ ranges.length := by
          intro full
          obtain ⟨c, spelled⟩ := fitting_is_character b ranges _ follow ⟨each, full⟩
          exact none c (spelled ▸ List.cons_prefix_cons.mpr ⟨rfl, inFront⟩)
        dsimp only
        rw [if_neg short]
        refine .subpart _ (List.cons_prefix_cons.mpr ⟨rfl, inFront⟩) none (List.cons_ne_nil b _)
          (.inr ((begins_iff b _).mpr ⟨ranges, follow, each⟩)) ?_
        intro longer front begins
        by_cases empty : longer = []
        · rw [empty]
          exact Nat.zero_le _
        · obtain ⟨others, more, same, rfl, grows⟩ := front_begins b rest longer front begins empty
          cases Option.some.inj (follow.symm.trans same)
          exact Nat.succ_le_succ grows.length_le

theorem front_unit_unique (b : UInt8) (rest : Bytes) (unit : Piece) (front : FrontUnit (b :: rest) unit) :
    unit = piece b rest := by
  cases front with
  | character c inFront => exact (piece_of_character c b rest inFront).symm
  | subpart part inFront none nonempty begins longest =>
      generalize same : piece b rest = found
      have isFront := piece_is_front_unit b rest
      rw [same] at isFront
      cases isFront with
      | character c whole => exact absurd whole (none c)
      | subpart other otherFront _ otherNonempty otherBegins otherLongest =>
          have one : 1 ≤ part.length := List.length_pos_iff.mpr nonempty
          have otherOne : 1 ≤ other.length := List.length_pos_iff.mpr otherNonempty
          have notLonger : part.length ≤ other.length := by
            rcases begins with single | begun
            · omega
            · exact otherLongest part inFront begun
          have notShorter : other.length ≤ part.length := by
            rcases otherBegins with single | begun
            · omega
            · exact longest other otherFront begun
          have parts : part = other := by
            rw [List.prefix_iff_eq_take.mp inFront, List.prefix_iff_eq_take.mp otherFront,
              Nat.le_antisymm notLonger notShorter]
          rw [parts]

theorem pieces_are_units (bytes : Bytes) : Units bytes (pieces bytes) := by
  fun_induction pieces bytes with
  | case1 => exact .nil
  | case2 b rest front ih =>
      obtain ⟨tails, more, shape, split, -⟩ := piece_shape b rest
      have frontBytes : front.bytes = b :: tails := shape
      have remaining : rest.drop (front.bytes.length - 1) = more := by
        rw [frontBytes, split]
        simp
      have whole : b :: rest = front.bytes ++ more := by rw [frontBytes, split, List.cons_append]
      have isFront := piece_is_front_unit b rest
      rw [remaining] at ih ⊢
      rw [whole] at isFront ⊢
      exact .cons front more _ isFront ih

theorem front_unit_nonempty (bytes : Bytes) (unit : Piece) (front : FrontUnit bytes unit) : unit.bytes ≠ [] := by
  cases front with
  | character c inFront =>
      obtain ⟨b, tails, spelled, -⟩ := char_encodes c
      rw [whole, spelled]
      exact List.cons_ne_nil b tails
  | subpart part inFront none nonempty begins longest => exact nonempty

theorem units_iff (bytes : Bytes) (units : List Piece) : Units bytes units ↔ units = pieces bytes := by
  constructor
  · intro cut
    induction cut with
    | nil => rw [pieces]
    | cons unit more later front further ih =>
        have nonempty := front_unit_nonempty _ unit front
        obtain ⟨b, tails, spelled⟩ := List.exists_cons_of_ne_nil nonempty
        rw [spelled, List.cons_append] at front ⊢
        have first := front_unit_unique b (tails ++ more) unit front
        rw [pieces_cons b tails more (by rw [← first, spelled]), ← first, ih]
  · rintro rfl
    exact pieces_are_units bytes

end SourceLocator.Utf8
