import SourceLocator.Proofs.Encoding
import SourceLocator.Proofs.OffsetAgreement
import SourceLocator.Proofs.PositionOrder
import SourceLocator.Proofs.Resolution

set_option autoImplicit false

namespace SourceLocator

open Utf8

def endedBreaks (text : Text) (offset : Int) : List Nat :=
  (breakEnds text).filter fun (stop : Nat) => decide ((stop : Int) ≤ offset)

def textPosition (text : Text) (offset : Int) : Position :=
  if 0 ≤ offset ∧ offset ≤ text.length then
    ⟨1 + (endedBreaks text offset).length, 1 + (offset - (endedBreaks text offset).getLastD 0)⟩
  else .unknown

theorem begun_lines (text : Text) (offset : Int) (nonneg : 0 ≤ offset) :
    ((SourceFile.lineTableOf text).filter fun start => decide (start ≤ offset)) =
      0 :: (endedBreaks text offset).map Int.ofNat := by
  have first : ((fun start => decide (start ≤ offset)) ∘ Int.ofNat) 0 = true := decide_eq_true nonneg
  rw [SourceFile.lineTableOf, line_starts_eq, List.filter_map, List.filter_cons, if_pos first]
  rfl

theorem last_of_integers (numbers : List Nat) : (numbers.map Int.ofNat).getLastD 0 = (numbers.getLastD 0 : Nat) := by
  rw [List.getLastD_eq_getLast?, List.getLastD_eq_getLast?, List.getLast?_map]
  cases numbers.getLast? <;> rfl

theorem position_of_text (file : SourceFile) (table : file.lineTable = SourceFile.lineTableOf file.text)
    (offset : Int) : file.positionAt offset = textPosition file.text offset := by
  rw [SourceFile.positionAt, textPosition]
  by_cases inside : file.Inside offset
  · have within : 0 ≤ offset ∧ offset ≤ file.text.length := inside
    rw [if_pos inside, if_pos within, table, begun_lines file.text offset within.1, List.getLastD_cons,
      last_of_integers, List.length_cons, List.length_map, Position.mk.injEq]
    omega
  · have beyond : ¬ (0 ≤ offset ∧ offset ≤ file.text.length) := inside
    rw [if_neg inside, if_neg beyond]

def ParsedFrom (text : Text) (parsed : ParsedFile) : Prop :=
  (∃ parser language name derivedFrom,
    ParsedFile.ofText parser text language name derivedFrom = .ok (some parsed)) ∨
  ∃ (tree : FileTree) (parser : Parser) (path : Text) (language : Option Text),
    tree.read (Path.ofText path) = .ok (encode text) ∧ tree.parse parser path language = .ok (some parsed)

theorem parsed_from_fields (text : Text) (parsed : ParsedFile) (made : ParsedFrom text parsed) :
    parsed.source = encode text ∧ parsed.file.text = text ∧
      parsed.file.lineTable = SourceFile.lineTableOf parsed.file.text := by
  rcases made with ⟨parser, language, name, derivedFrom, result⟩ | ⟨tree, parser, path, language, stored, result⟩
  · obtain ⟨file, source⟩ := parse_fields _ _ _ _ _ result
    exact ⟨source, by rw [file]; rfl, by rw [file]; rfl⟩
  · obtain ⟨file, source⟩ := tree_parse_fields _ _ _ _ _ _ stored result
    refine ⟨source, ?_, by rw [file]; rfl⟩
    rw [file]
    exact decode_encode text

theorem on_text_boundaries (text : Text) (label : SyntaxLabel) (i j : Nat) (ordered : i ≤ j)
    (bounded : j ≤ text.length) (starts : label.startByte = (encode (text.take i)).length)
    (stops : label.stopByte = (encode (text.take j)).length) : OnBoundaries (encode text) label i j where
  ordered := ordered
  bounded := by rwa [pieces_encode, List.length_map]
  starts := by rw [piece_end_encode, starts]
  stops := by rw [piece_end_encode, stops]

theorem extent_in_text (text : Text) (parsed : ParsedFile) (source : parsed.source = encode text)
    (label : SyntaxLabel) (i j : Nat) (on : OnBoundaries (encode text) label i j) :
    parsed.extent label = ⟨i, j⟩ := by
  rw [← source] at on
  rw [parsed.extent_on_boundaries label i j on, source, encoding_has_no_strays, encoding_has_no_strays]
  simp

theorem parsed_subject_writes (parsed : ParsedFile) (cursor : Cursor)
    (proper : ProperTable parsed.file.lineTable) (bound : DigitBound) (offset : Int) :
    Writes bound ((parsed.subject cursor).written parsed.file offset) ((parsed.subject cursor).resolve bound offset)
      ⟨parsed.file.positionAt ((parsed.extent cursor.label).start + offset),
        (parsed.extent cursor.label).shift offset,
        (parsed.subject cursor).display parsed.file (parsed.text cursor.label), parsed.file.reportedName⟩ := by
  have fileRead : (parsed.subject cursor).file = .ok parsed.file := rfl
  have textRead : (parsed.subject cursor).text = .ok (parsed.text cursor.label) := rfl
  have ends : (parsed.subject cursor).SearchEnds := trivial
  exact Subject.resolve_writes fileRead textRead proper ends offset

-- The node may be any node, of whatever tree the parser gives for the bytes. It has no location only
-- where an integer is too long to be put into words.
theorem parsed_text_positions (text : Text) (parsed : ParsedFile) (made : ParsedFrom text parsed)
    (cursor : Cursor) (i j : Nat) (ordered : i ≤ j) (bounded : j ≤ text.length)
    (starts : cursor.label.startByte = (encode (text.take i)).length)
    (stops : cursor.label.stopByte = (encode (text.take j)).length) (bound : DigitBound) :
    parsed.charOffset cursor.label.startByte = i ∧ parsed.charOffset cursor.label.stopByte = j ∧
      parsed.text cursor.label = slice text i j ∧
      ∀ offset,
        (((parsed.subject cursor).written parsed.file offset).all bound.admits = true →
          ∃ location log, (parsed.subject cursor).resolve bound offset = .ok (location, log) ∧
            location.extent = ⟨i + offset, j + offset⟩ ∧ location.position = textPosition text (i + offset)) ∧
        (((parsed.subject cursor).written parsed.file offset).all bound.admits = false →
          (parsed.subject cursor).resolve bound offset = .error .unwritable) := by
  obtain ⟨source, sameText, table⟩ := parsed_from_fields text parsed made
  have on := on_text_boundaries text cursor.label i j ordered bounded starts stops
  have extent := extent_in_text text parsed source cursor.label i j on
  have proper := SourceFile.own_table_proper parsed.file table
  refine ⟨congrArg Extent.start extent, congrArg Extent.stop extent, ?_, ?_⟩
  · rw [← source] at on
    rw [parsed.text_on_boundaries cursor.label i j on, source, decode_encode]
  · intro offset
    have resolves := parsed_subject_writes parsed cursor proper bound offset
    refine ⟨?_, resolves.refused⟩
    intro admitted
    obtain ⟨log, resolved⟩ := resolves.admitted admitted
    refine ⟨_, log, resolved, ?_, ?_⟩
    · rw [extent]
      rfl
    · rw [extent, position_of_text parsed.file table, sameText]

theorem second_line_positions :
    let text : Text := ['\u00e9', '\r', '\n', 'x']
    let parser : Parser := ⟨true, fun _ source => .lone source.length⟩
    let parsed : ParsedFile := ⟨.inMemory text ['m'] none, .python, encode text, .lone 5⟩
    let cursor : Cursor := ⟨.node ⟨"identifier", 4, 5, true, none⟩ [], []⟩
    ParsedFile.ofText parser text "python".toList ['m'] none = .ok (some parsed) ∧
      ∃ location log, (parsed.subject cursor).resolve .standard 1 = .ok (location, log) ∧
        location.extent = ⟨4, 5⟩ ∧ location.position = ⟨2, 2⟩ := by
  intro text parser parsed cursor
  have result : ParsedFile.ofText parser text "python".toList ['m'] none = .ok (some parsed) := rfl
  have positions := parsed_text_positions text parsed (.inl ⟨_, _, _, _, result⟩) cursor 3 4 (by decide)
    (by decide) (by decide +kernel) (by decide +kernel) .standard
  obtain ⟨location, log, resolved, extent, position⟩ := (positions.2.2.2 1).1 (by decide +kernel)
  exact ⟨result, location, log, resolved, extent, by rw [position]; decide +kernel⟩

theorem far_node_is_not_positioned :
    let far : Int := (Nat.pow 10 4300 : Nat)
    let text : Text := [' ', 'f', '(', ')']
    let stored := FileTree.ofEntries [(['a'], .file (encode text))]
    let parser : Parser := ⟨true, fun _ source => .lone source.length⟩
    let parsed : ParsedFile := ⟨.ofPath (decode (encode text)) ['a'], .python, encode text, .lone 4⟩
    let cursor : Cursor := ⟨.node ⟨"identifier", 1, 2, true, none⟩ [], []⟩
    stored.read (Path.ofText ['a']) = .ok (encode text) ∧
      stored.parse parser ['a'] (some "python".toList) = .ok (some parsed) ∧
      cursor.label.startByte = (encode (text.take 1)).length ∧
      cursor.label.stopByte = (encode (text.take 2)).length ∧
      (parsed.subject cursor).resolve .standard (far - 1) = .error .unwritable := by
  intro far text stored parser parsed cursor
  have proper : ProperTable parsed.file.lineTable := SourceFile.table_of_text_proper _
  refine ⟨rfl, rfl, by decide +kernel, by decide +kernel, ?_⟩
  apply (parsed_subject_writes parsed cursor proper .standard (far - 1)).refused
  decide +kernel

end SourceLocator
