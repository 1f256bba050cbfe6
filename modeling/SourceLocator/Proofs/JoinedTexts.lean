import SourceLocator.Proofs.ParsedText

set_option autoImplicit false

namespace SourceLocator

-- The one line break that two texts can have together: one ends in its first half, and the other
-- begins with its second.
def Seam (text more : Text) : Prop := text.getLast? = some '\r' ∧ more.head? = some '\n'

instance (text more : Text) : Decidable (Seam text more) :=
  inferInstanceAs (Decidable (_ ∧ _))

theorem break_at_front (text more : Text) (i : Nat) (before : i < text.length) :
    breakEndsAt (text ++ more) i = breakEndsAt text i := by
  cases i with
  | zero => rfl
  | succ j =>
      rw [breakEndsAt, breakEndsAt, List.getElem?_append_left (by omega), List.getElem?_append_left before]

theorem break_at_behind (text more : Text) (i : Nat) :
    breakEndsAt (text ++ more) (text.length + 1 + i) = breakEndsAt more (i + 1) := by
  have behind : text.length + 1 + i = text.length + i + 1 := Nat.add_right_comm _ _ _
  rw [behind, breakEndsAt, breakEndsAt, List.getElem?_append_right (Nat.le_add_right _ _),
    List.getElem?_append_right (by omega), Nat.add_sub_cancel_left, Nat.add_assoc, Nat.add_sub_cancel_left]

theorem break_at_meeting (text more : Text) :
    breakEndsAt (text ++ more) text.length = (breakEndsAt text text.length && !decide (Seam text more)) := by
  cases size : text.length with
  | zero => rfl
  | succ n =>
      have last : text.getLast? = text[n]? := by rw [List.getLast?_eq_getElem?, size, Nat.add_sub_cancel]
      have next : (text ++ more)[n + 1]? = more.head? := by
        rw [List.getElem?_append_right (by omega), size, Nat.sub_self, List.head?_eq_getElem?]
      have none : text[n + 1]? = none := List.getElem?_eq_none (by omega)
      rw [breakEndsAt, breakEndsAt, List.getElem?_append_left (by omega), next, none]
      simp only [Seam, last]
      by_cases feed : text[n]? = some '\n'
      · simp [feed]
      · by_cases ret : text[n]? = some '\r'
        · simp [ret, bne, Bool.beq_eq_decide_eq]
        · rw [beq_eq_false_iff_ne.mpr feed, beq_eq_false_iff_ne.mpr ret]
          rfl

theorem break_ends_succ (text : Text) :
    breakEnds text = ((List.range text.length).filter fun i => breakEndsAt text (i + 1)).map (· + 1) := by
  rw [breakEnds, List.range_succ_eq_map, List.filter_cons, if_neg (by exact Bool.false_ne_true), List.filter_map]
  rfl

theorem break_ends_last (text : Text) :
    breakEnds text = (List.range text.length).filter (breakEndsAt text) ++
      if breakEndsAt text text.length then [text.length] else [] := by
  rw [breakEnds, List.range_succ, List.filter_append, List.filter_cons, List.filter_nil]

theorem seam_ends_break (text more : Text) (seam : Seam text more) : breakEndsAt text text.length = true := by
  obtain ⟨front, rfl⟩ := List.getLast?_eq_some_iff.mp seam.1
  simp [breakEndsAt]

def keptBreaks (text more : Text) : List Nat :=
  if Seam text more then (breakEnds text).dropLast else breakEnds text

theorem kept_breaks_eq (text more : Text) :
    (List.range (text.length + 1)).filter (breakEndsAt (text ++ more)) = keptBreaks text more := by
  have before : (List.range text.length).filter (breakEndsAt (text ++ more)) =
      (List.range text.length).filter (breakEndsAt text) := by
    apply List.filter_congr
    intro i listed
    exact break_at_front text more i (List.mem_range.mp listed)
  rw [List.range_succ, List.filter_append, List.filter_cons, List.filter_nil, before, break_at_meeting, keptBreaks,
    break_ends_last]
  by_cases seam : Seam text more
  · rw [if_pos seam, seam_ends_break text more seam]
    simp [seam]
  · rw [if_neg seam]
    simp [seam]

theorem break_ends_append (text more : Text) :
    breakEnds (text ++ more) = keptBreaks text more ++ (breakEnds more).map (text.length + ·) := by
  rw [breakEnds, List.length_append, Nat.add_right_comm, List.range_add, List.filter_append, kept_breaks_eq,
    List.filter_map, break_ends_succ more, List.map_map]
  have same : (breakEndsAt (text ++ more) ∘ fun i => text.length + 1 + i) = fun i => breakEndsAt more (i + 1) :=
    funext (break_at_behind text more)
  rw [same]
  congr 2
  funext i
  dsimp only [Function.comp_apply]
  omega

theorem line_starts_append (text more : Text) :
    lineStarts (text ++ more) =
      (if Seam text more then (lineStarts text).dropLast else lineStarts text) ++
        (lineStarts more).tail.map (text.length + ·) := by
  rw [line_starts_eq, line_starts_eq, line_starts_eq, break_ends_append, keptBreaks, List.tail_cons]
  by_cases seam : Seam text more
  · have ends : breakEnds text ≠ [] :=
      List.ne_nil_of_mem ((mem_break_ends text text.length).mpr ⟨Nat.le_refl _, seam_ends_break text more seam⟩)
    rw [if_pos seam, if_pos seam, List.dropLast_cons_of_ne_nil ends, List.cons_append]
  · rw [if_neg seam, if_neg seam, List.cons_append]

theorem breaks_before_seam (text more : Text) (seam : Seam text more) :
    breakEnds text = keptBreaks text more ++ [text.length] := by
  rw [keptBreaks, if_pos seam, break_ends_last, seam_ends_break text more seam, if_pos rfl, List.dropLast_concat]

theorem kept_breaks_before (text more : Text) (seam : Seam text more) (stop : Nat)
    (kept : stop ∈ keptBreaks text more) : stop < text.length := by
  have increasing := break_ends_increasing text
  rw [breaks_before_seam text more seam, List.pairwise_append] at increasing
  exact increasing.2.2 stop kept text.length (List.mem_singleton.mpr rfl)

theorem ended_breaks_before_seam (text more : Text) (seam : Seam text more) (offset : Int) :
    endedBreaks text offset =
      ((keptBreaks text more).filter fun (stop : Nat) => decide ((stop : Int) ≤ offset)) ++
        if (text.length : Int) ≤ offset then [text.length] else [] := by
  rw [endedBreaks, breaks_before_seam text more seam, List.filter_append, List.filter_cons, List.filter_nil]
  simp only [decide_eq_true_eq]

theorem ended_breaks_append (text more : Text) (offset : Int) (within : offset ≤ text.length) :
    endedBreaks (text ++ more) offset = (keptBreaks text more).filter fun (stop : Nat) => decide ((stop : Int) ≤ offset) := by
  have none : ((breakEnds more).map (text.length + ·)).filter (fun (stop : Nat) => decide ((stop : Int) ≤ offset)) = [] := by
    apply List.filter_eq_nil_iff.mpr
    intro stop listed
    obtain ⟨behind, ends, rfl⟩ := List.mem_map.mp listed
    have := break_ends_positive more behind ends
    simp only [decide_eq_true_eq]
    omega
  rw [endedBreaks, break_ends_append, List.filter_append, none, List.append_nil]

theorem text_position_append (text more : Text) (offset : Int) (within : offset ≤ text.length)
    (apart : ¬(Seam text more ∧ offset = text.length)) :
    textPosition (text ++ more) offset = textPosition text offset := by
  have sameBreaks : endedBreaks (text ++ more) offset = endedBreaks text offset := by
    rw [ended_breaks_append text more offset within]
    by_cases seam : Seam text more
    · have before : ¬ (text.length : Int) ≤ offset := fun reached => apart ⟨seam, Int.le_antisymm within reached⟩
      rw [ended_breaks_before_seam text more seam, if_neg before, List.append_nil]
    · rw [keptBreaks, if_neg seam, endedBreaks]
  have further : offset ≤ ((text ++ more).length : Int) := by
    rw [List.length_append]
    omega
  rw [textPosition, textPosition, sameBreaks]
  simp only [within, further, and_true]

theorem kept_breaks_ended (text more : Text) (seam : Seam text more) (offset : Int)
    (reached : (text.length : Int) - 1 ≤ offset) :
    ((keptBreaks text more).filter fun (stop : Nat) => decide ((stop : Int) ≤ offset)) = keptBreaks text more := by
  apply List.filter_eq_self.mpr
  intro stop kept
  have := kept_breaks_before text more seam stop kept
  exact decide_eq_true (by omega)

theorem text_position_seam (text more : Text) (seam : Seam text more) :
    ∃ line column, textPosition text (text.length - 1) = ⟨line, column⟩ ∧
      textPosition text text.length = ⟨line + 1, 1⟩ ∧
      textPosition (text ++ more) text.length = ⟨line, column + 1⟩ := by
  have nonempty : 0 < text.length := List.length_pos_of_mem (List.mem_of_getLast? seam.1)
  have beforeReturn : endedBreaks text (text.length - 1) = keptBreaks text more := by
    rw [ended_breaks_before_seam text more seam, kept_breaks_ended text more seam _ (Int.le_refl _), if_neg (by omega),
      List.append_nil]
  have alone : endedBreaks text text.length = keptBreaks text more ++ [text.length] := by
    rw [ended_breaks_before_seam text more seam, kept_breaks_ended text more seam _ (by omega), if_pos (Int.le_refl _)]
  have joined : endedBreaks (text ++ more) text.length = keptBreaks text more := by
    rw [ended_breaks_append text more _ (Int.le_refl _), kept_breaks_ended text more seam _ (by omega)]
  have further : (text.length : Int) ≤ ((text ++ more).length : Int) := by
    rw [List.length_append]
    omega
  refine ⟨1 + (keptBreaks text more).length, 1 + (text.length - 1 - (keptBreaks text more).getLastD 0), ?_, ?_, ?_⟩
  · rw [textPosition, if_pos (by omega), beforeReturn]
  · rw [textPosition, if_pos (by omega), alone, List.getLastD_concat, List.length_append, List.length_singleton,
      Position.mk.injEq]
    omega
  · rw [textPosition, if_pos (by omega), joined, Position.mk.injEq]
    omega

namespace SourceFile

theorem places_of_text (file : SourceFile) (table : file.lineTable = lineTableOf file.text) (bound : DigitBound)
    (offset : Int) (position : Position) :
    file.Places bound offset position ↔ file.Inside offset ∧ position = textPosition file.text offset := by
  rw [← position_of_text file table]
  by_cases inside : file.Inside offset
  · obtain ⟨content, placed⟩ := place_position file bound (file.own_table_proper table) offset inside
    simp [Places, placed, inside, eq_comm]
  · simp [Places, place_outside file bound offset inside, inside]

variable (first joined : SourceFile) (more : Text) (bound : DigitBound)

theorem places_append (table : first.lineTable = lineTableOf first.text)
    (joinedTable : joined.lineTable = lineTableOf joined.text) (sameText : joined.text = first.text ++ more)
    (offset : Int) (within : offset ≤ first.text.length) (apart : ¬(Seam first.text more ∧ offset = first.text.length))
    (position : Position) : joined.Places bound offset position ↔ first.Places bound offset position := by
  have sameSide : joined.Inside offset ↔ first.Inside offset := by
    rw [Inside, Inside, sameText, List.length_append]
    omega
  rw [places_of_text joined joinedTable, places_of_text first table, sameSide, sameText,
    text_position_append first.text more offset within apart]

theorem places_seam (table : first.lineTable = lineTableOf first.text)
    (joinedTable : joined.lineTable = lineTableOf joined.text) (sameText : joined.text = first.text ++ more)
    (seam : Seam first.text more) :
    ∃ line column, first.Places bound (first.text.length - 1) ⟨line, column⟩ ∧
      first.Places bound first.text.length ⟨line + 1, 1⟩ ∧ joined.Places bound first.text.length ⟨line, column + 1⟩ := by
  have nonempty : 0 < first.text.length := List.length_pos_of_mem (List.mem_of_getLast? seam.1)
  obtain ⟨line, column, atReturn, alone, together⟩ := text_position_seam first.text more seam
  rw [← sameText] at together
  refine ⟨line, column, (places_of_text first table bound _ _).mpr ⟨?_, atReturn.symm⟩,
    (places_of_text first table bound _ _).mpr ⟨?_, alone.symm⟩,
    (places_of_text joined joinedTable bound _ _).mpr ⟨?_, together.symm⟩⟩
  · rw [Inside]
    omega
  · rw [Inside]
    omega
  · rw [Inside, sameText, List.length_append]
    omega

end SourceFile

-- What is written behind a text never moves a position in it, but for the one behind a carriage return
-- that becomes half of a line break.
theorem line_starts_join (text more : Text) :
    lineStarts (text ++ more) =
        (if Seam text more then (lineStarts text).dropLast else lineStarts text) ++
          (lineStarts more).tail.map (text.length + ·) ∧
      ∀ (name name' path path' : Option Text) (derivedFrom derivedFrom' : Option SourceFile) (first joined : SourceFile),
        SourceFile.make text name path derivedFrom = .ok first →
        SourceFile.make (text ++ more) name' path' derivedFrom' = .ok joined → ∀ bound,
          (∀ offset : Int, offset ≤ text.length → ¬(Seam text more ∧ offset = text.length) →
            (∀ position, joined.Places bound offset position ↔ first.Places bound offset position) ∧
              (0 ≤ offset → ∃ position, joined.Places bound offset position)) ∧
          (Seam text more → ∃ line column,
            first.Places bound (text.length - 1) ⟨line, column⟩ ∧
              joined.Places bound (text.length - 1) ⟨line, column⟩ ∧
              first.Places bound text.length ⟨line + 1, 1⟩ ∧ joined.Places bound text.length ⟨line, column + 1⟩) := by
  refine ⟨line_starts_append text more, ?_⟩
  intro name name' path path' derivedFrom derivedFrom' first joined made madeJoined bound
  obtain ⟨rfl, table⟩ := SourceFile.make_fields _ _ _ _ _ made
  obtain ⟨sameText, joinedTable⟩ := SourceFile.make_fields _ _ _ _ _ madeJoined
  have kept := SourceFile.places_append first joined more bound table joinedTable sameText
  refine ⟨?_, ?_⟩
  · intro offset within apart
    refine ⟨kept offset within apart, ?_⟩
    intro nonneg
    have inside : joined.Inside offset := by
      rw [SourceFile.Inside, sameText, List.length_append]
      omega
    exact ⟨_, (joined.places_of_text joinedTable bound offset _).mpr ⟨inside, rfl⟩⟩
  · intro seam
    obtain ⟨line, column, atReturn, alone, together⟩ :=
      SourceFile.places_seam first joined more bound table joinedTable sameText seam
    refine ⟨line, column, atReturn, ?_, alone, together⟩
    exact (kept _ (by omega) (by omega) _).mpr atReturn

theorem carriage_return_is_carried_on :
    let first := SourceFile.inMemory ['a', '\r'] ['f'] none
    let joined := SourceFile.inMemory ['a', '\r', '\n', 'b'] ['f'] none
    SourceFile.make ['a', '\r'] (some ['f']) none none = .ok first ∧
      SourceFile.make ['a', '\r', '\n', 'b'] (some ['f']) none none = .ok joined ∧
      Seam ['a', '\r'] ['\n', 'b'] ∧ lineStarts ['a', '\r'] = [0, 2] ∧
      lineStarts ['a', '\r', '\n', 'b'] = [0, 3] ∧
      ∃ line column, first.Places .standard 2 ⟨line + 1, 1⟩ ∧ joined.Places .standard 2 ⟨line, column + 1⟩ := by
  intro first joined
  have made : SourceFile.make ['a', '\r'] (some ['f']) none none = .ok first := rfl
  have madeJoined : SourceFile.make ['a', '\r', '\n', 'b'] (some ['f']) none none = .ok joined := rfl
  have seam : Seam ['a', '\r'] ['\n', 'b'] := by decide
  obtain ⟨starts, places⟩ := line_starts_join ['a', '\r'] ['\n', 'b']
  obtain ⟨-, moved⟩ := places _ _ _ _ _ _ first joined made madeJoined .standard
  obtain ⟨line, column, -, -, alone, together⟩ := moved seam
  exact ⟨made, madeJoined, seam, by decide, starts.trans (by decide), line, column, alone, together⟩

end SourceLocator
