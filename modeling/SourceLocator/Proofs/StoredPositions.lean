import SourceLocator.Proofs.FileTrails
import SourceLocator.Proofs.ParsedText

set_option autoImplicit false

namespace SourceLocator

theorem admits_standard (n : Int) (few : n.natAbs.log2 < Fault.digitLimit) : DigitBound.standard.admits n = true := by
  rw [DigitBound.standard, DigitBound.admits, decide_eq_true few, Bool.true_or]

theorem admits_small (n : Int) (small : n.natAbs ≤ FileEntry.sizeLimit + 1) : DigitBound.standard.admits n = true := by
  apply admits_standard
  have fits : n.natAbs.log2 < 64 := by
    by_cases zero : n.natAbs = 0
    · rw [zero]
      decide
    · rw [Nat.log2_lt zero]
      exact Nat.lt_of_le_of_lt small (by decide)
  exact Nat.lt_trans fits (by decide)

namespace Utf8

theorem spell_length_ge (list : List Piece) (shaped : ∀ piece ∈ list, Shaped piece) :
    list.length ≤ (spell list).length := by
  induction list with
  | nil => exact Nat.zero_le _
  | cons first rest ih =>
      obtain ⟨b, tails, bytes, -⟩ := shaped first List.mem_cons_self
      have later := ih fun piece member => shaped piece (List.mem_cons_of_mem first member)
      rw [spell, List.flatMap_cons, ← spell, bytes, List.length_append, List.length_cons, List.length_cons]
      omega

theorem decode_length_le (bytes : Bytes) : (decode bytes).length ≤ bytes.length := by
  have shorter := spell_length_ge (pieces bytes) (pieces_shaped bytes)
  rwa [spell_pieces, ← decode_length] at shorter

end Utf8

theorem ended_breaks_length (text : Text) (offset : Int) : (endedBreaks text offset).length ≤ text.length + 1 :=
  calc (endedBreaks text offset).length
    _ ≤ (breakEnds text).length := List.length_filter_le _ _
    _ ≤ (List.range (text.length + 1)).length := List.length_filter_le _ _
    _ = text.length + 1 := List.length_range

namespace SourceFile

theorem position_size (file : SourceFile) (table : file.lineTable = lineTableOf file.text) (offset : Int) :
    (file.positionAt offset).line.natAbs ≤ file.text.length + 2 ∧
      (file.positionAt offset).column.natAbs ≤ file.text.length + 1 := by
  by_cases inside : file.Inside offset
  · have positive := position_positive file (own_table_proper file table) offset inside
    have within : 0 ≤ offset ∧ offset ≤ file.text.length := inside
    have fewBreaks := ended_breaks_length file.text offset
    rw [position_of_text file table, textPosition, if_pos within] at positive ⊢
    dsimp only at positive ⊢
    omega
  · rw [position_outside file offset inside]
    constructor
    · show 1 ≤ file.text.length + 2
      omega
    · show 1 ≤ file.text.length + 1
      omega

theorem stored_position_writable (file : SourceFile) (table : file.lineTable = lineTableOf file.text)
    (storable : file.text.length < FileEntry.sizeLimit) (offset : Int) :
    [(file.positionAt offset).line, (file.positionAt offset).column].all DigitBound.standard.admits = true := by
  obtain ⟨line, column⟩ := position_size file table offset
  rw [List.all_cons, List.all_cons, List.all_nil, admits_small _ (by omega), admits_small _ (by omega)]
  rfl

end SourceFile

namespace FileTree

theorem read_inside (tree : FileTree) (path : Path) (content : Bytes) (stored : tree.read path = .ok content) :
    ∃ way, tree.at? path = .ok ⟨way, .file content⟩ := by
  unfold read at stored
  split at stored
  · rename_i way held found
    cases stored
    exact ⟨way, found⟩
  · cases stored
  · cases stored

theorem regular_at (tree : FileTree) (path : Path) (regular : tree.isFile path = true) :
    ∃ way content, tree.at? path = .ok ⟨way, .file content⟩ := by
  unfold isFile at regular
  split at regular
  · rename_i place led
    obtain ⟨way, entry⟩ := place
    cases entry with
    | file content => exact ⟨way, content, led⟩
    | directory entries => cases regular
  · cases regular

theorem read_regular (tree : FileTree) (path : Path) (regular : tree.isFile path = true) :
    ∃ content, tree.read path = .ok content := by
  obtain ⟨way, content, led⟩ := tree.regular_at path regular
  exact ⟨content, by rw [read, led]⟩

theorem read_storable (tree : FileTree) (sound : tree.Sound) (path : Path) (content : Bytes)
    (stored : tree.read path = .ok content) : (Utf8.decode content).length < FileEntry.sizeLimit := by
  obtain ⟨way, led⟩ := tree.read_inside path content stored
  cases tree.led_sound path sound _ led with
  | file _ storable => exact Nat.lt_of_le_of_lt (Utf8.decode_length_le content) storable

end FileTree

end SourceLocator
