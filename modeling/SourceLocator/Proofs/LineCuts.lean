import SourceLocator.Proofs.EndedLines

set_option autoImplicit false

namespace SourceLocator

theorem lined_text_exists (text : Text) : ∃ document : LinedText, document.text = text := by
  induction text with
  | nil => exact ⟨⟨[], [], by simp [PlainLine], trivial⟩, rfl⟩
  | cons c rest ih =>
      obtain ⟨⟨ended, last, plain, separated⟩, rfl⟩ := ih
      by_cases feed : c = '\n'
      · subst feed
        refine ⟨⟨⟨[], .feed⟩ :: ended, last, ?_, ?_, separated⟩, rfl⟩
        · simpa [PlainLine] using plain
        · cases ended <;> simp [Merges]
      · by_cases isReturn : c = '\r'
        · subst isReturn
          cases ended with
          | nil => exact ⟨⟨[⟨[], .carriage⟩], last, by simpa [PlainLine] using plain, nofun, trivial⟩, rfl⟩
          | cons next more =>
              by_cases joins : next = ⟨[], .feed⟩
              · -- The carriage return and the line feed behind it are one ending.
                subst joins
                refine ⟨⟨⟨[], .both⟩ :: more, last, plain, ?_, separated.2⟩, rfl⟩
                cases more <;> simp [Merges]
              · refine ⟨⟨⟨[], .carriage⟩ :: next :: more, last, ?_, ?_, separated⟩, rfl⟩
                · simpa [PlainLine] using plain
                · simpa [Merges] using joins
        · have inLine : SourceFile.isLineEnd c = false := by simp [SourceFile.isLineEnd, feed, isReturn]
          cases ended with
          | nil =>
              refine ⟨⟨[], c :: last, ?_, trivial⟩, rfl⟩
              simpa [PlainLine, inLine] using plain
          | cons next more =>
              refine ⟨⟨⟨c :: next.content, next.ending⟩ :: more, last, ?_, separated⟩, rfl⟩
              simpa [PlainLine, inLine] using plain

def slicesAt (text : Text) (table : List Int) : List Text :=
  let bounds := table ++ [(text.length : Int)]
  List.zipWith (slice text) bounds bounds.tail

namespace LinedText

variable (document : LinedText)

theorem bounds_entry (i : Nat) (listed : i ≤ document.pieces.length) :
    (SourceFile.lineTableOf document.text ++ [(document.text.length : Int)])[i]? = some (document.lineStart i : Int) := by
  have count := document.table_length
  have length := document.pieces_length
  by_cases inTable : i < document.pieces.length
  · rw [List.getElem?_append_left (by omega), document.table_entry i inTable]
  · have last : i = document.pieces.length := by omega
    subst last
    rw [List.getElem?_append_right (by omega), line_start_end, count, length, Nat.sub_self]
    rfl

theorem slices_at_table : slicesAt document.text (SourceFile.lineTableOf document.text) = document.pieces := by
  have count := document.table_length
  have length := document.pieces_length
  apply List.ext_getElem?
  intro i
  rw [slicesAt, List.getElem?_zipWith, List.getElem?_tail]
  by_cases listed : i < document.pieces.length
  · have piece := List.getElem?_eq_getElem listed
    rw [document.bounds_entry i (by omega), document.bounds_entry (i + 1) (by omega), piece]
    exact congrArg some (document.slice_piece i _ piece)
  · have noStop : (SourceFile.lineTableOf document.text ++ [(document.text.length : Int)])[i + 1]? = none :=
      List.getElem?_eq_none (by simp; omega)
    rw [noStop, List.getElem?_eq_none (by omega : document.pieces.length ≤ i)]
    cases (SourceFile.lineTableOf document.text ++ [(document.text.length : Int)])[i]? <;> rfl

theorem start_of_line (line : Nat) (start offset : Int)
    (holds : HoldsOffset (SourceFile.lineTableOf document.text) line start offset) :
    line - 1 < document.pieces.length ∧ start = document.lineStart (line - 1) := by
  obtain ⟨inTable, -⟩ := List.getElem?_eq_some_iff.mp holds.begins
  have count := document.table_length
  have length := document.pieces_length
  have listed : line - 1 < document.pieces.length := by omega
  have begins := holds.begins
  rw [document.table_entry _ listed] at begins
  exact ⟨listed, (Option.some.inj begins).symm⟩

theorem text_behind (line : Nat) (start offset : Int)
    (holds : HoldsOffset (SourceFile.lineTableOf document.text) line start offset) (content : Text)
    (listed : document.lines[line - 1]? = some content) :
    ∃ rest, document.text.drop offset.toNat = content.drop (offset - start).toNat ++ rest ∧
      ∀ c ∈ rest.head?, SourceFile.isLineEnd c = true := by
  obtain ⟨-, startEq⟩ := document.start_of_line line start offset holds
  obtain ⟨ending, piece, ends, inner⟩ := document.piece_of_line (line - 1) content listed
  have stop := document.line_start_succ (line - 1) _ piece
  have numbered := holds.numbered
  have reached := holds.reached
  let after := (document.pieces.drop (line - 1 + 1)).flatten
  let further := (offset - start).toNat - content.length
  have whole : document.text.drop offset.toNat = content.drop (offset - start).toNat ++ (ending ++ after).drop further := by
    have split : offset.toNat = document.lineStart (line - 1) + (offset - start).toNat := by omega
    rw [split, ← List.drop_drop, document.text_around _ _ piece, lineStart, List.drop_left, List.append_assoc,
      List.drop_append]
  refine ⟨_, whole, ?_⟩
  by_cases within : further < ending.length
  · rw [List.head?_drop, List.getElem?_append_left within, List.getElem?_eq_getElem within]
    rintro c ⟨⟩
    exact ends _ (List.getElem_mem within)
  · -- The offset is behind the last line, as any other line has a character of its ending there.
    have last : ¬ line - 1 < document.ended.length := by
      intro earlier
      have nonempty := List.length_pos_iff.mpr (inner.mp earlier)
      have length := document.pieces_length
      have next := document.table_entry (line - 1 + 1) (by omega)
      rw [Nat.sub_add_cancel numbered] at next stop
      have before := holds.beforeNext _ next
      rw [List.length_append] at stop
      omega
    have noEnding : ending = [] := Decidable.of_not_not (mt inner.mpr last)
    have nothing : after = [] := by
      have length := document.pieces_length
      simp only [after]
      rw [List.drop_eq_nil_of_le (by omega), List.flatten_nil]
    simp [noEnding, nothing]

end LinedText

namespace SourceFile

theorem mem_table_of_text (text : Text) (p : Int) :
    p ∈ lineTableOf text ↔ p = 0 ∨ ∃ i : Nat, p = i + 1 ∧
      (text[i]? = some '\n' ∨ text[i]? = some '\r' ∧ text[i + 1]? ≠ some '\n') := by
  have ends : ∀ i : Nat, i + 1 ∈ breakEnds text ↔
      text[i]? = some '\n' ∨ text[i]? = some '\r' ∧ text[i + 1]? ≠ some '\n' := by
    intro i
    rw [mem_break_ends]
    simp only [breakEndsAt, Bool.or_eq_true, Bool.and_eq_true, beq_iff_eq, bne_iff_ne]
    refine and_iff_right_of_imp ?_
    rintro (feed | ⟨isReturn, -⟩)
    · exact (List.getElem?_eq_some_iff.mp feed).1
    · exact (List.getElem?_eq_some_iff.mp isReturn).1
  rw [lineTableOf, line_starts_eq, List.map_cons, List.mem_cons]
  refine or_congr Iff.rfl ?_
  constructor
  · intro member
    obtain ⟨stop, listed, rfl⟩ := List.mem_map.mp member
    obtain ⟨i, rfl⟩ := Nat.exists_eq_succ_of_ne_zero (Nat.ne_of_gt (break_ends_positive text stop listed))
    exact ⟨i, rfl, (ends i).mp listed⟩
  · rintro ⟨i, rfl, isEnd⟩
    exact List.mem_map.mpr ⟨i + 1, (ends i).mpr isEnd, rfl⟩

end SourceFile

-- The table cuts a text into its lines with their endings, and the content of an offset's line is that
-- line without its ending.
theorem lines_cut_exactly (text : Text) (name path : Option Text) (derivedFrom : Option SourceFile) (file : SourceFile)
    (made : SourceFile.make text name path derivedFrom = .ok file) (bound : DigitBound) :
    file.lineTable.Pairwise (· < ·) ∧
      (∀ p : Int, p ∈ file.lineTable ↔ p = 0 ∨ ∃ i : Nat, p = i + 1 ∧
        (text[i]? = some '\n' ∨ text[i]? = some '\r' ∧ text[i + 1]? ≠ some '\n')) ∧
      (slicesAt text file.lineTable).flatten = text ∧
      ∃ document : LinedText, slicesAt text file.lineTable = document.pieces ∧
        ∀ offset, file.Inside offset → ∃ (line : Nat) (start : Int) (content rest : Text),
          file.place offset bound = .ok ⟨⟨line, offset - start + 1⟩, content⟩ ∧
          HoldsOffset file.lineTable line start offset ∧ document.lines[line - 1]? = some content ∧
          text.drop offset.toNat = content.drop (offset - start).toNat ++ rest ∧
          ∀ c ∈ rest.head?, SourceFile.isLineEnd c = true := by
  obtain ⟨sameText, table⟩ := SourceFile.make_fields _ _ _ _ file made
  have proper := SourceFile.own_table_proper file table
  obtain ⟨document, rfl⟩ := lined_text_exists text
  rw [sameText] at table
  have cut := document.slices_at_table
  rw [← table] at cut
  refine ⟨?_, ?_, ?_, document, cut, ?_⟩
  · rw [table]
    exact SourceFile.table_of_text_increasing document.text
  · intro p
    rw [table, SourceFile.mem_table_of_text]
  · rw [cut]
    rfl
  · intro offset inside
    obtain ⟨line, start, holds, placed⟩ := SourceFile.place_inside file bound proper offset inside
    have held := holds
    rw [table] at held
    obtain ⟨listed, startEq⟩ := document.start_of_line line start offset held
    have numbered := holds.numbered
    have inLines : line - 1 < document.lines.length := by simpa [LinedText.lines, LinedText.pieces] using listed
    have content := List.getElem?_eq_getElem inLines
    have shown := document.content_of_line file sameText (by rw [table, sameText]) _ _ content
    rw [Nat.sub_add_cancel numbered, ← startEq] at shown
    obtain ⟨rest, behind, ends⟩ := document.text_behind line start offset held _ content
    exact ⟨line, start, _, rest, by rw [placed, shown], holds, content, behind, ends⟩

theorem returns_are_cut :
    let text : Text := ['a', '\r', '\r', '\n', 'b', '\r']
    let file := SourceFile.inMemory text ['f'] none
    SourceFile.make text (some ['f']) none none = .ok file ∧ 6 ∈ file.lineTable ∧
      (slicesAt text file.lineTable).flatten = text ∧
      ∃ (line : Nat) (start : Int) (content rest : Text),
        file.place 3 = .ok ⟨⟨line, 3 - start + 1⟩, content⟩ ∧ text.drop 3 = content.drop (3 - start).toNat ++ rest ∧
        ∀ c ∈ rest.head?, SourceFile.isLineEnd c = true := by
  intro text file
  have made : SourceFile.make text (some ['f']) none none = .ok file := rfl
  obtain ⟨-, entries, whole, document, -, behind⟩ := lines_cut_exactly _ _ _ _ file made .standard
  obtain ⟨line, start, content, rest, placed, -, -, remains, ends⟩ := behind 3 (by decide)
  exact ⟨made, (entries 6).mpr (.inr ⟨5, rfl, by decide⟩), whole, line, start, content, rest, placed, remains, ends⟩

end SourceLocator
