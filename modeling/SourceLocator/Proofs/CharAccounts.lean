import SourceLocator.Proofs.DecodedUnits
import SourceLocator.Proofs.ParsedText

set_option autoImplicit false

namespace SourceLocator

open Utf8

namespace Utf8

theorem char_offset_nonneg (bytes : Bytes) (position : Int) (nonneg : 0 ≤ position) :
    0 ≤ charOffset (continuations bytes) position := by
  have counted : (bytes.take position.toNat).countP isContinuation ≤ position.toNat :=
    Nat.le_trans List.countP_le_length (List.length_take_le _ _)
  rw [char_offset_eq]
  omega

theorem piece_end_whole (bytes : Bytes) : pieceEnd bytes (pieces bytes).length = bytes.length := by
  rw [pieceEnd, List.take_length, spell_pieces]

theorem char_offset_within (bytes : Bytes) (position : Int) (within : position ≤ bytes.length) :
    charOffset (continuations bytes) position ≤ (decode bytes).length := by
  have whole := char_offset_piece_end bytes (pieces bytes).length (Nat.le_refl _)
  rw [piece_end_whole] at whole
  have further := char_offset_mono bytes position bytes.length within
  rw [decode_length]
  omega

theorem units_account (bytes : Bytes) (before behind : List Piece) (cut : pieces bytes = before ++ behind) :
    (before.length : Int) - charOffset (continuations bytes) (spell before).length = before.countP isStray := by
  have front : (pieces bytes).take before.length = before := by rw [cut, List.take_left]
  have boundary := char_offset_piece_end bytes before.length (by rw [cut, List.length_append]; exact Nat.le_add_right _ _)
  rw [pieceEnd, strays, front] at boundary
  rw [boundary]
  omega

end Utf8

namespace ParsedFile

theorem start_inside (parsed : ParsedFile) (sameText : parsed.file.text = decode parsed.source) (label : SyntaxLabel)
    (nonneg : 0 ≤ label.startByte) (within : label.startByte ≤ parsed.source.length) :
    parsed.file.Inside (parsed.extent label).start := by
  rw [SourceFile.Inside, sameText]
  exact ⟨char_offset_nonneg parsed.source _ nonneg, char_offset_within parsed.source _ within⟩

theorem written_inside (parsed : ParsedFile) (cursor : Cursor) (bound : DigitBound)
    (inside : parsed.file.Inside (parsed.extent cursor.label).start)
    (writable : let position := parsed.file.positionAt (parsed.extent cursor.label).start
      [position.line, position.column].all bound.admits = true) :
    ((parsed.subject cursor).written parsed.file 0).all bound.admits = true := by
  have here : (parsed.subject cursor).extent.start = (parsed.extent cursor.label).start := rfl
  have nothing : parsed.file.unplaced (parsed.extent cursor.label).start = [] := if_pos inside
  rw [Subject.written, Int.add_zero, here, nothing, List.nil_append, Subject.quoted]
  cases (parsed.subject cursor).shownName? with
  | some name => rfl
  | none =>
      dsimp only
      rw [here, nothing, List.nil_append]
      exact writable

theorem start_resolves (parsed : ParsedFile) (cursor : Cursor)
    (table : parsed.file.lineTable = SourceFile.lineTableOf parsed.file.text)
    (inside : parsed.file.Inside (parsed.extent cursor.label).start) (bound : DigitBound) :
    let position := textPosition parsed.file.text (parsed.charOffset cursor.label.startByte)
    (∃ log, (parsed.subject cursor).lookup bound 0 = .ok (.resolved position, log)) ∧
      (∀ location log, (parsed.subject cursor).resolve bound 0 = .ok (location, log) → location.position = position) ∧
      ([position.line, position.column].all bound.admits = true →
        ∃ location log, (parsed.subject cursor).resolve bound 0 = .ok (location, log)) := by
  intro position
  have placed : parsed.file.positionAt (parsed.extent cursor.label).start = position := position_of_text _ table _
  have proper := SourceFile.own_table_proper parsed.file table
  have fileRead : (parsed.subject cursor).file = .ok parsed.file := rfl
  have resolves := parsed_subject_writes parsed cursor proper bound 0
  rw [Int.add_zero, placed] at resolves
  refine ⟨?_, ?_, ?_⟩
  · rw [Subject.subject_lookup fileRead, Subject.shift_zero, ← placed]
    exact SourceFile.lookup_inside parsed.file bound proper _ inside
  · intro location log resolved
    cases admitted : ((parsed.subject cursor).written parsed.file 0).all bound.admits with
    | true =>
        obtain ⟨other, again⟩ := resolves.admitted admitted
        cases again.symm.trans resolved
        rfl
    | false => cases (resolves.refused admitted).symm.trans resolved
  · intro writable
    rw [← placed] at writable
    exact ⟨_, resolves.admitted (parsed.written_inside cursor bound inside writable)⟩

end ParsedFile

-- The units are those that the encoding itself tells, whatever the bytes are.
theorem char_offsets_account (tree : FileTree) (parser : Parser) (path : Text) (language : Option Text)
    (content : Bytes) (parsed : ParsedFile) (stored : tree.read (Path.ofText path) = .ok content)
    (result : tree.parse parser path language = .ok (some parsed)) :
    (∃ units, (∀ other, Units content other ↔ other = units) ∧ parsed.file.text = units.map Piece.char ∧
        ∀ before behind, units = before ++ behind →
          (before.length : Int) - parsed.charOffset (spell before).length = before.countP isStray) ∧
      (∀ b : Int, parsed.charOffset (b + 1) = parsed.charOffset b ∨ parsed.charOffset (b + 1) = parsed.charOffset b + 1) ∧
      (∀ a b : Int, a ≤ b → parsed.charOffset a ≤ parsed.charOffset b) ∧
      (∀ b : Int, 0 ≤ b → b ≤ content.length → 0 ≤ parsed.charOffset b ∧ parsed.charOffset b ≤ parsed.file.text.length) ∧
      ∀ cursor : Cursor, 0 ≤ cursor.label.startByte → cursor.label.startByte ≤ content.length →
        let position := textPosition parsed.file.text (parsed.charOffset cursor.label.startByte)
        1 ≤ position.line ∧ 1 ≤ position.column ∧ ∀ bound,
          (∃ log, (parsed.subject cursor).lookup bound 0 = .ok (.resolved position, log)) ∧
          (∀ location log, (parsed.subject cursor).resolve bound 0 = .ok (location, log) → location.position = position) ∧
          ([position.line, position.column].all bound.admits = true →
            ∃ location log, (parsed.subject cursor).resolve bound 0 = .ok (location, log)) := by
  obtain ⟨file, source⟩ := tree_parse_fields tree parser path language content parsed stored result
  subst source
  have sameText : parsed.file.text = decode parsed.source := by rw [file]; rfl
  have table : parsed.file.lineTable = SourceFile.lineTableOf parsed.file.text := by rw [file]; rfl
  have proper := SourceFile.own_table_proper parsed.file table
  refine ⟨⟨pieces parsed.source, units_iff parsed.source, sameText, units_account parsed.source⟩,
    char_offset_step parsed.source, char_offset_mono parsed.source, ?_, ?_⟩
  · intro b nonneg within
    rw [sameText]
    exact ⟨char_offset_nonneg parsed.source b nonneg, char_offset_within parsed.source b within⟩
  · intro cursor nonneg within position
    have inside := parsed.start_inside sameText cursor.label nonneg within
    have placed : parsed.file.positionAt (parsed.extent cursor.label).start = position := position_of_text _ table _
    obtain ⟨line, column⟩ := SourceFile.position_positive parsed.file proper _ inside
    rw [placed] at line column
    exact ⟨line, column, parsed.start_resolves cursor table inside⟩

theorem stray_start_resolves :
    let content : Bytes := [0x80, 0xE2, 0x82, 0x28, 0xED, 0xA0, 0x80, 0xC3, 0xA9]
    let tree := FileTree.ofEntries [(['a'], .file content)]
    let parser : Parser := ⟨true, fun _ source => .lone source.length⟩
    let parsed : ParsedFile := ⟨.ofPath (decode content) ['a'], .python, content, .lone content.length⟩
    let cursor : Cursor := ⟨.node ⟨"identifier", 9, 9, true, none⟩ [], []⟩
    tree.read (Path.ofText ['a']) = .ok content ∧
      tree.parse parser ['a'] (some "python".toList) = .ok (some parsed) ∧
      (∃ units, Units content units ∧ units.length = 7 ∧ (7 : Int) - parsed.charOffset 9 = 3) ∧
      ∃ location log, (parsed.subject cursor).resolve .standard 0 = .ok (location, log) ∧ 1 ≤ location.position.line := by
  intro content tree parser parsed cursor
  have stored : tree.read (Path.ofText ['a']) = .ok content := rfl
  have result : tree.parse parser ['a'] (some "python".toList) = .ok (some parsed) := rfl
  obtain ⟨⟨units, only, -, account⟩, -, -, -, resolves⟩ :=
    char_offsets_account tree parser ['a'] _ content parsed stored result
  have whole : units = pieces content := (units_iff content units).mp ((only units).mpr rfl)
  have strays := account units [] (List.append_nil units).symm
  have seven : units.length = 7 := by rw [whole]; decide +kernel
  have nine : (spell units).length = 9 := by rw [whole]; decide +kernel
  have three : units.countP isStray = 3 := by rw [whole]; decide +kernel
  rw [seven, nine, three] at strays
  obtain ⟨line, -, resolved⟩ := resolves cursor (by decide) (by decide)
  obtain ⟨-, placed, found⟩ := resolved .standard
  obtain ⟨location, log, given⟩ := found (by decide +kernel)
  exact ⟨stored, result, ⟨units, (only units).mpr rfl, seven, strays⟩, location, log, given,
    by rw [placed location log given]; exact line⟩

end SourceLocator
