import SourceLocator.Proofs.LinePlacement

set_option autoImplicit false

namespace SourceLocator.SourceFile

theorem table_of_text_increasing (text : Text) : (lineTableOf text).Pairwise (· < ·) := by
  rw [lineTableOf, line_starts_eq, List.pairwise_map, List.pairwise_cons]
  refine ⟨?_, ?_⟩
  · intro stop member
    exact Int.ofNat_lt.mpr (break_ends_positive text stop member)
  · exact (break_ends_increasing text).imp Int.ofNat_lt.mpr

theorem table_of_text_proper (text : Text) : ProperTable (lineTableOf text) where
  starts := rfl
  ascending := (table_of_text_increasing text).imp Int.le_of_lt

theorem own_table_proper (file : SourceFile) (table : file.lineTable = lineTableOf file.text) :
    ProperTable file.lineTable := by
  rw [table]
  exact table_of_text_proper file.text

theorem table_of_text_bounded (text : Text) (entry : Int) (member : entry ∈ lineTableOf text) :
    entry ≤ text.length := by
  rw [lineTableOf, line_starts_eq] at member
  obtain ⟨start, listed, rfl⟩ := List.mem_map.mp member
  rcases List.mem_cons.mp listed with zero | stop
  · subst zero
    exact Int.natCast_nonneg _
  · exact Int.ofNat_le.mpr ((mem_break_ends text start).mp stop).1

theorem make_fields (text : Text) (name path : Option Text) (derivedFrom : Option SourceFile)
    (file : SourceFile) (made : make text name path derivedFrom = .ok file) :
    file.text = text ∧ file.lineTable = lineTableOf file.text := by
  cases name with
  | some name =>
      cases made
      exact ⟨rfl, rfl⟩
  | none =>
      cases path with
      | none => cases made
      | some path =>
          cases made
          exact ⟨rfl, rfl⟩

def width (file : SourceFile) (line : Nat) : Int :=
  match file.lineTable[line - 1]?, file.lineTable[line]? with
  | some start, some next => next - start
  | some start, none => file.text.length - start + 1
  | none, _ => 0

theorem places_order (file : SourceFile) (bound : DigitBound) (proper : ProperTable file.lineTable)
    (a b : Int) (p q : Position) (first : file.Places bound a p) (second : file.Places bound b q) :
    a < b ↔ p.compare q = .lt := by
  obtain ⟨pLine, pColumn⟩ := p
  obtain ⟨qLine, qColumn⟩ := q
  obtain ⟨-, m, start, held, rfl, rfl⟩ := (places_iff file bound proper a pLine pColumn).mp first
  obtain ⟨-, n, later, holds, rfl, rfl⟩ := (places_iff file bound proper b qLine qColumn).mp second
  rw [position_compare_lt, holds_offset_order _ proper.ascending m n a b start later held holds]
  simp only [Int.ofNat_lt, Int.natCast_inj, Int.add_lt_add_iff_right]

theorem places_offset (file : SourceFile) (bound : DigitBound) (proper : ProperTable file.lineTable)
    (offset : Int) (p : Position) (placed : file.Places bound offset p) :
    ∃ start, file.lineTable[p.line.toNat - 1]? = some start ∧ offset = start + p.column - 1 := by
  obtain ⟨line, column⟩ := p
  obtain ⟨-, number, start, holds, rfl, rfl⟩ := (places_iff file bound proper offset line column).mp placed
  exact ⟨start, holds.begins, by dsimp only; omega⟩

theorem places_range (file : SourceFile) (bound : DigitBound) (proper : ProperTable file.lineTable)
    (bounded : ∀ entry ∈ file.lineTable, entry ≤ file.text.length) (line column : Int) :
    (∃ offset, file.Places bound offset ⟨line, column⟩) ↔
      1 ≤ line ∧ line ≤ file.lineTable.length ∧ 1 ≤ column ∧ column ≤ file.width line.toNat := by
  constructor
  · rintro ⟨offset, placed⟩
    obtain ⟨inside, number, start, holds, rfl, rfl⟩ := (places_iff file bound proper offset line column).mp placed
    obtain ⟨numbered, begins, reached, beforeNext⟩ := holds
    obtain ⟨inTable, -⟩ := List.getElem?_eq_some_iff.mp begins
    refine ⟨by omega, by omega, by omega, ?_⟩
    rw [Int.toNat_natCast]
    unfold width
    rw [begins]
    cases nextEq : file.lineTable[number]? with
    | none =>
        have := inside.2
        dsimp only
        omega
    | some next =>
        have := beforeNext next nextEq
        dsimp only
        omega
  · rintro ⟨first, last, positive, fits⟩
    obtain ⟨number, rfl⟩ := Int.eq_ofNat_of_zero_le (by omega : 0 ≤ line)
    have inTable : number - 1 < file.lineTable.length := by omega
    have begins := List.getElem?_eq_getElem inTable
    generalize file.lineTable[number - 1] = start at begins
    have nonneg := proper_entry_nonneg _ proper _ start begins
    rw [Int.toNat_natCast] at fits
    unfold width at fits
    rw [begins] at fits
    refine ⟨start + column - 1, (places_iff file bound proper _ _ _).mpr ⟨⟨by omega, ?_⟩, number, start, ?_, rfl, by omega⟩⟩
    · cases nextEq : file.lineTable[number]? with
      | none =>
          rw [nextEq] at fits
          dsimp only at fits
          omega
      | some next =>
          have := bounded next (List.mem_of_getElem? nextEq)
          rw [nextEq] at fits
          dsimp only at fits
          omega
    · refine ⟨by omega, begins, by omega, ?_⟩
      intro next nextEq
      rw [nextEq] at fits
      dsimp only at fits
      omega

theorem place_error_iff (file : SourceFile) (bound : DigitBound) (proper : ProperTable file.lineTable)
    (offset : Int) (fault : Fault) :
    file.place offset bound = .error fault ↔ ¬ file.Inside offset ∧
      fault = if bound.admits offset then .offsetOutside offset file.text.length else .unwritable := by
  by_cases inside : file.Inside offset
  · obtain ⟨line, start, -, placed⟩ := place_inside file bound proper offset inside
    simp [placed, inside]
  · rw [place_outside file bound offset inside, Except.error.injEq, eq_comm]
    exact (and_iff_right inside).symm

-- Offsets outside are refused with the fault that names them as long as they can be written into it.
theorem place_order_isomorphism (text : Text) (name path : Option Text) (derivedFrom : Option SourceFile)
    (file : SourceFile) (made : make text name path derivedFrom = .ok file) (bound : DigitBound) :
    file.text = text ∧
      (∀ offset, file.Inside offset ↔ ∃ position, file.Places bound offset position) ∧
      (∀ a b p q, file.Places bound a p → file.Places bound b q → (a < b ↔ p.compare q = .lt)) ∧
      (∀ offset p, file.Places bound offset p →
        ∃ start, file.lineTable[p.line.toNat - 1]? = some start ∧ offset = start + p.column - 1) ∧
      (∀ line column, (∃ offset, file.Places bound offset ⟨line, column⟩) ↔
        1 ≤ line ∧ line ≤ file.lineTable.length ∧ 1 ≤ column ∧ column ≤ file.width line.toNat) ∧
      (∀ offset, (∃ named length, file.place offset bound = .error (.offsetOutside named length)) ↔
        ¬ file.Inside offset ∧ bound.admits offset = true) ∧
      ∀ offset, file.place offset bound = .error .unwritable ↔
        ¬ file.Inside offset ∧ bound.admits offset = false := by
  obtain ⟨sameText, table⟩ := make_fields text name path derivedFrom file made
  have proper := own_table_proper file table
  have bounded : ∀ entry ∈ file.lineTable, entry ≤ file.text.length := by
    rw [table]
    exact table_of_text_bounded file.text
  refine ⟨sameText, ?_, ?_, ?_, ?_, ?_, ?_⟩
  · intro offset
    constructor
    · intro inside
      obtain ⟨line, start, -, placed⟩ := place_inside file bound proper offset inside
      exact ⟨_, _, placed⟩
    · rintro ⟨⟨line, column⟩, placed⟩
      exact ((places_iff file bound proper offset line column).mp placed).1
  · intro a b p q
    exact places_order file bound proper a b p q
  · intro offset p
    exact places_offset file bound proper offset p
  · exact places_range file bound proper bounded
  · intro offset
    simp only [place_error_iff file bound proper]
    cases bound.admits offset <;> simp
  · intro offset
    rw [place_error_iff file bound proper]
    cases bound.admits offset <;> simp

theorem end_of_text_is_placed :
    let file := inMemory ['a', '\r', '\n', 'b'] ['f'] none
    make ['a', '\r', '\n', 'b'] (some ['f']) none none = .ok file ∧
      ∃ offset, file.Places .standard offset ⟨2, 2⟩ := by
  intro file
  have made : make ['a', '\r', '\n', 'b'] (some ['f']) none none = .ok file := rfl
  obtain ⟨-, -, -, -, range, -, -⟩ := place_order_isomorphism _ _ _ _ file made .standard
  exact ⟨made, (range 2 2).mpr (by decide +kernel)⟩

theorem far_offset_is_not_named :
    let far : Int := (Nat.pow 10 4300 : Nat)
    let file := inMemory ['a', 'b'] ['f'] none
    make ['a', 'b'] (some ['f']) none none = .ok file ∧ (file.text.length : Int) < far ∧
      ¬ ∃ named length, file.place far = .error (.offsetOutside named length) := by
  intro far file
  have beyond : (file.text.length : Int) < far := by decide +kernel
  have outside : ¬ file.Inside far := fun inside => Int.not_lt.mpr inside.2 beyond
  have refuses : DigitBound.standard.admits far = false := by decide +kernel
  refine ⟨rfl, beyond, ?_⟩
  rintro ⟨named, length, placed⟩
  rw [place_outside file .standard far outside, refuses] at placed
  cases placed

end SourceLocator.SourceFile
