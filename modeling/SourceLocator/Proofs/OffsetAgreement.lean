import SourceLocator.Locate
import SourceLocator.Proofs.CharOffsets

set_option autoImplicit false

namespace SourceLocator

open Utf8

theorem parse_fields (parser : Parser) (file : SourceFile) (source : Bytes) (language : Text)
    (parsed : ParsedFile) (result : ParsedFile.parse parser file source language = .ok (some parsed)) :
    parsed.file = file ∧ parsed.source = source := by
  unfold ParsedFile.parse at result
  split at result
  · split at result
    · cases result
    · cases result
      exact ⟨rfl, rfl⟩
  · cases result

theorem tree_parse_fields (tree : FileTree) (parser : Parser) (path : Text) (language : Option Text)
    (content : Bytes) (parsed : ParsedFile) (stored : tree.read (Path.ofText path) = .ok content)
    (result : tree.parse parser path language = .ok (some parsed)) :
    parsed.file = SourceFile.ofPath (decode content) path ∧ parsed.source = content := by
  have parsing : ∀ name : Text, (do
      let source ← tree.read (Path.ofText path)
      ParsedFile.parse parser (SourceFile.ofPath (decode source) path) source name) = .ok (some parsed) →
      parsed.file = SourceFile.ofPath (decode content) path ∧ parsed.source = content := by
    intro name parsedNow
    rw [stored] at parsedNow
    exact parse_fields _ _ _ _ _ parsedNow
  unfold FileTree.parse at result
  cases language with
  | some name => exact parsing name result
  | none =>
      cases known : Language.ofPath? (Path.ofText path) with
      | some language =>
          rw [known] at result
          exact parsing language.name.toList result
      | none =>
          rw [known] at result
          cases result

-- The node stretches from behind the first `i` decoded characters to behind the first `j`.
structure OnBoundaries (content : Bytes) (label : SyntaxLabel) (i j : Nat) : Prop where
  ordered : i ≤ j
  bounded : j ≤ (pieces content).length
  starts : label.startByte = pieceEnd content i
  stops : label.stopByte = pieceEnd content j

namespace ParsedFile

theorem char_offset_boundary (parsed : ParsedFile) (k : Nat) (bounded : k ≤ (pieces parsed.source).length) :
    parsed.charOffset (pieceEnd parsed.source k) = k - strays parsed.source k :=
  char_offset_piece_end parsed.source k bounded

theorem text_on_boundaries (parsed : ParsedFile) (label : SyntaxLabel) (i j : Nat)
    (on : OnBoundaries parsed.source label i j) :
    parsed.text label = slice (decode parsed.source) i j := by
  rw [text, on.starts, on.stops]
  exact decode_slice parsed.source i j on.ordered on.bounded

theorem extent_on_boundaries (parsed : ParsedFile) (label : SyntaxLabel) (i j : Nat)
    (on : OnBoundaries parsed.source label i j) :
    parsed.extent label = ⟨i - strays parsed.source i, j - strays parsed.source j⟩ := by
  rw [extent, on.starts, on.stops, char_offset_boundary parsed i (Nat.le_trans on.ordered on.bounded),
    char_offset_boundary parsed j on.bounded]

def ReadsOwnExtent (parsed : ParsedFile) (label : SyntaxLabel) : Prop :=
  parsed.text label =
    slice (decode parsed.source) (parsed.extent label).start (parsed.extent label).stop

theorem reads_own_extent (parsed : ParsedFile) (label : SyntaxLabel) (i j : Nat)
    (on : OnBoundaries parsed.source label i j) (noStray : strays parsed.source j = 0) :
    parsed.ReadsOwnExtent label := by
  have noneBefore : strays parsed.source i = 0 :=
    Nat.eq_zero_of_le_zero (noStray ▸ strays_le parsed.source i j on.ordered)
  rw [ReadsOwnExtent, text_on_boundaries parsed label i j on, extent_on_boundaries parsed label i j on,
    noStray, noneBefore]
  simp

theorem stray_misses_extent (parsed : ParsedFile) (k : Nat) (bounded : k < (pieces parsed.source).length)
    (stray : isStray (pieces parsed.source)[k] = true) (label : SyntaxLabel)
    (on : OnBoundaries parsed.source label k (k + 1)) : ¬ parsed.ReadsOwnExtent label := by
  intro reads
  have one : (slice (decode parsed.source) k (k + 1 : Nat)).length = 1 := by
    rw [slice_length, bound_ofNat, bound_ofNat, decode_length]
    omega
  have none : (slice (decode parsed.source) (parsed.extent label).start (parsed.extent label).stop).length = 0 := by
    rw [extent_on_boundaries parsed label k (k + 1) on, strays_succ parsed.source k bounded, if_pos stray,
      slice_length]
    have same : (((k + 1 : Nat) : Int) - ((strays parsed.source k + 1 : Nat) : Int)) = k - strays parsed.source k := by
      omega
    rw [same, Nat.sub_self]
  rw [ReadsOwnExtent, text_on_boundaries parsed label k (k + 1) on] at reads
  rw [reads, none] at one
  cases one

end ParsedFile

-- A node here is any node: which tree a parser gives for the content is open.
theorem offsets_agree_without_strays (tree : FileTree) (parser : Parser) (path : Text)
    (language : Option Text) (content : Bytes) (parsed : ParsedFile)
    (stored : tree.read (Path.ofText path) = .ok content)
    (result : tree.parse parser path language = .ok (some parsed)) :
    parsed.file.text = decode content ∧
      (∀ k, k ≤ (decode content).length →
        parsed.charOffset (pieceEnd content k) = k - strays content k ∧
        (parsed.charOffset (pieceEnd content k) = k ↔ strays content k = 0)) ∧
      (∀ label i j, OnBoundaries content label i j →
        parsed.text label = slice parsed.file.text i j ∧
        (strays content j = 0 → parsed.text label =
          slice parsed.file.text (parsed.extent label).start (parsed.extent label).stop)) ∧
      ((∀ label i j, OnBoundaries content label i j → parsed.text label =
          slice parsed.file.text (parsed.extent label).start (parsed.extent label).stop) ↔
        strays content (decode content).length = 0) := by
  obtain ⟨file, source⟩ := tree_parse_fields tree parser path language content parsed stored result
  subst source
  have sameText : parsed.file.text = decode parsed.source := by rw [file]; rfl
  rw [sameText, decode_length]
  refine ⟨rfl, ?_, ?_, ?_, ?_⟩
  · intro k bounded
    rw [parsed.char_offset_boundary k bounded]
    exact ⟨rfl, by omega⟩
  · intro label i j on
    exact ⟨parsed.text_on_boundaries label i j on, parsed.reads_own_extent label i j on⟩
  · intro agree
    apply Decidable.byContradiction
    intro some
    obtain ⟨k, bounded, stray⟩ := stray_of_strays parsed.source some
    have on : OnBoundaries parsed.source
        ⟨"", pieceEnd parsed.source k, pieceEnd parsed.source (k + 1), true, none⟩ k (k + 1) :=
      ⟨Nat.le_succ k, bounded, rfl, rfl⟩
    exact parsed.stray_misses_extent k bounded stray _ on (agree _ k (k + 1) on)
  · intro none label i j on
    refine parsed.reads_own_extent label i j on (Nat.eq_zero_of_le_zero ?_)
    rw [← none]
    exact strays_le parsed.source j _ on.bounded

theorem offsets_agree_cut_short :
    let content : Bytes := [0xE2, 0x82, 0x28, 0xC3, 0xA9]
    let tree := FileTree.ofEntries [(['a'], .file content)]
    let parser : Parser := ⟨true, fun _ source => .lone source.length⟩
    let parsed : ParsedFile := ⟨.ofPath (decode content) ['a'], .python, content, .lone content.length⟩
    tree.read (Path.ofText ['a']) = .ok content ∧
      tree.parse parser ['a'] (some "python".toList) = .ok (some parsed) ∧
      pieceEnd content 2 = 3 ∧ parsed.charOffset (pieceEnd content 2) = 2 := by
  intro content tree parser parsed
  have stored : tree.read (Path.ofText ['a']) = .ok content := rfl
  have result : tree.parse parser ['a'] (some "python".toList) = .ok (some parsed) := rfl
  have agree := offsets_agree_without_strays tree parser ['a'] _ content parsed stored result
  exact ⟨stored, result, by decide +kernel, (agree.2.1 2 (by decide +kernel)).2.mpr (by decide +kernel)⟩

theorem stray_byte_misses_offset :
    let content : Bytes := [0x80]
    let tree := FileTree.ofEntries [(['a'], .file content)]
    let parser : Parser := ⟨true, fun _ source => .lone source.length⟩
    let parsed : ParsedFile := ⟨.ofPath (decode content) ['a'], .python, content, .lone content.length⟩
    let label : SyntaxLabel := ⟨"module", 0, 1, true, none⟩
    tree.read (Path.ofText ['a']) = .ok content ∧
      tree.parse parser ['a'] (some "python".toList) = .ok (some parsed) ∧
      OnBoundaries content label 0 1 ∧ parsed.charOffset 1 ≠ 1 ∧
      parsed.text label ≠ slice parsed.file.text (parsed.extent label).start (parsed.extent label).stop := by
  refine ⟨rfl, rfl, ⟨by decide, ?_, ?_, ?_⟩, ?_, ?_⟩ <;> decide +kernel

end SourceLocator
