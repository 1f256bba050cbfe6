import Mathlib.Logic.IsEmpty.Defs
import SourceLocator.Proofs.PositionOrder

set_option autoImplicit false

namespace SourceLocator

inductive LineEnding where
  | feed
  | carriage
  | both
deriving DecidableEq, Repr

def LineEnding.text : LineEnding → Text
  | .feed => ['\n']
  | .carriage => ['\r']
  | .both => ['\r', '\n']

structure EndedLine where
  content : Text
  ending : LineEnding
deriving DecidableEq, Repr

def EndedLine.text (line : EndedLine) : Text := line.content ++ line.ending.text

def PlainLine (line : Text) : Prop := ∀ c ∈ line, SourceFile.isLineEnd c = false

def Merges (ending : LineEnding) : List EndedLine → Prop
  | [] => False
  | next :: _ => ending = .carriage ∧ next = ⟨[], .feed⟩

def Separated : List EndedLine → Prop
  | [] => True
  | line :: rest => ¬ Merges line.ending rest ∧ Separated rest

structure LinedText where
  ended : List EndedLine
  last : Text
  plain : ∀ line ∈ ended.map EndedLine.content ++ [last], PlainLine line
  separated : Separated ended

theorem ending_characters (ending : LineEnding) : ∀ c ∈ ending.text, SourceFile.isLineEnd c = true := by
  cases ending <;> simp [LineEnding.text, SourceFile.isLineEnd]

theorem ending_nonempty (ending : LineEnding) : 0 < ending.text.length := by
  cases ending <;> decide

theorem later_line_starts_plain (offset : Nat) (line rest : Text) (plain : PlainLine line) :
    laterLineStarts offset (line ++ rest) = laterLineStarts (offset + line.length) rest := by
  induction line generalizing offset with
  | nil => simp
  | cons c line ih =>
      have notEnd : ¬ (c = '\r' ∨ c = '\n') := by simpa [SourceFile.isLineEnd] using plain c (by simp)
      have notReturn : c ≠ '\r' := fun same => notEnd (.inl same)
      have later := ih (offset + 1) fun other member => plain other (by simp [member])
      rw [List.cons_append, laterLineStarts, if_neg notEnd, later, List.length_cons, Nat.add_assoc, Nat.add_comm 1]
      intro _ same
      exact absurd same notReturn

theorem later_line_starts_ending (offset : Nat) (ending : LineEnding) (rest : Text)
    (apart : ending = .carriage → rest.head? ≠ some '\n') :
    laterLineStarts offset (ending.text ++ rest) =
      (offset + ending.text.length) :: laterLineStarts (offset + ending.text.length) rest := by
  cases ending with
  | feed => simp [LineEnding.text, laterLineStarts]
  | both => simp [LineEnding.text, laterLineStarts]
  | carriage =>
      cases rest with
      | nil => simp [LineEnding.text, laterLineStarts]
      | cons c rest =>
          have notFeed : c ≠ '\n' := by simpa using apart rfl
          simp [LineEnding.text, laterLineStarts, notFeed]

theorem plain_head (line rest : Text) (plain : PlainLine line) (nonempty : line ≠ []) :
    (line ++ rest).head? ≠ some '\n' := by
  cases line with
  | nil => exact absurd rfl nonempty
  | cons c line =>
      have notEnd := plain c (by simp)
      intro feed
      simp [Option.some.inj feed, SourceFile.isLineEnd] at notEnd

namespace LinedText

def lines (document : LinedText) : List Text := document.ended.map EndedLine.content ++ [document.last]

def pieces (document : LinedText) : List Text := document.ended.map EndedLine.text ++ [document.last]

def text (document : LinedText) : Text := document.pieces.flatten

def lineStart (document : LinedText) (i : Nat) : Nat := (document.pieces.take i).flatten.length

end LinedText

def pieceStarts (offset : Nat) : List Text → List Nat
  | [] => []
  | piece :: rest => offset :: pieceStarts (offset + piece.length) rest

theorem piece_starts_length (offset : Nat) (pieces : List Text) : (pieceStarts offset pieces).length = pieces.length := by
  induction pieces generalizing offset with
  | nil => rfl
  | cons piece rest ih => simp [pieceStarts, ih]

theorem piece_starts_get (offset : Nat) (pieces : List Text) (i : Nat) (listed : i < pieces.length) :
    (pieceStarts offset pieces)[i]? = some (offset + (pieces.take i).flatten.length) := by
  induction pieces generalizing offset i with
  | nil => simp at listed
  | cons piece rest ih =>
      cases i with
      | zero => simp [pieceStarts]
      | succ i =>
          have later := ih (offset + piece.length) i (by simpa using listed)
          simpa [pieceStarts, Nat.add_assoc] using later

theorem following_head (ending : LineEnding) (rest : List EndedLine) (last : Text)
    (plain : ∀ line ∈ rest.map EndedLine.content ++ [last], PlainLine line) (apart : ¬ Merges ending rest)
    (isReturn : ending = .carriage) : ((rest.map EndedLine.text ++ [last]).flatten).head? ≠ some '\n' := by
  cases rest with
  | nil =>
      by_cases empty : last = []
      · simp [empty]
      · simpa using plain_head last [] (plain last (by simp)) empty
  | cons next rest =>
      obtain ⟨content, nextEnding⟩ := next
      by_cases empty : content = []
      · subst empty
        cases nextEnding with
        | feed => exact absurd ⟨isReturn, rfl⟩ apart
        | carriage => simp [EndedLine.text, LineEnding.text]
        | both => simp [EndedLine.text, LineEnding.text]
      · have head := plain_head content (nextEnding.text ++ (rest.map EndedLine.text ++ [last]).flatten)
          (plain content (by simp)) empty
        simpa [EndedLine.text] using head

theorem line_starts_of_pieces (offset : Nat) (ended : List EndedLine) (last : Text)
    (plain : ∀ line ∈ ended.map EndedLine.content ++ [last], PlainLine line) (separated : Separated ended) :
    offset :: laterLineStarts offset (ended.map EndedLine.text ++ [last]).flatten =
      pieceStarts offset (ended.map EndedLine.text ++ [last]) := by
  induction ended generalizing offset with
  | nil =>
      have whole := later_line_starts_plain offset last [] (plain last (by simp))
      simp only [List.append_nil, laterLineStarts] at whole
      simp [pieceStarts, whole]
  | cons line rest ih =>
      obtain ⟨apart, separatedRest⟩ := separated
      have plainRest : ∀ other ∈ rest.map EndedLine.content ++ [last], PlainLine other :=
        fun other member => plain other (List.mem_cons_of_mem _ member)
      have later := ih (offset + line.text.length) plainRest separatedRest
      rw [List.map_cons, List.cons_append, List.flatten_cons, pieceStarts, ← later, EndedLine.text, List.append_assoc,
        later_line_starts_plain _ _ _ (plain line.content (by simp)),
        later_line_starts_ending _ _ _ (following_head line.ending rest last plainRest apart), List.length_append,
        Nat.add_assoc]

namespace LinedText

variable (document : LinedText)

theorem table_of_pieces : SourceFile.lineTableOf document.text = (pieceStarts 0 document.pieces).map Int.ofNat :=
  congrArg (List.map Int.ofNat) (line_starts_of_pieces 0 document.ended document.last document.plain document.separated)

theorem pieces_length : document.pieces.length = document.ended.length + 1 := by simp [pieces]

theorem table_length : (SourceFile.lineTableOf document.text).length = document.ended.length + 1 := by
  rw [table_of_pieces, List.length_map, piece_starts_length, pieces_length]

theorem table_entry (i : Nat) (listed : i < document.pieces.length) :
    (SourceFile.lineTableOf document.text)[i]? = some (document.lineStart i : Int) := by
  rw [table_of_pieces, List.getElem?_map, piece_starts_get 0 document.pieces i listed]
  simp [lineStart]

theorem line_start_end : document.lineStart document.pieces.length = document.text.length := by
  rw [lineStart, List.take_length, text]

theorem text_around (i : Nat) (piece : Text) (listed : document.pieces[i]? = some piece) :
    document.text = (document.pieces.take i).flatten ++ (piece ++ (document.pieces.drop (i + 1)).flatten) := by
  obtain ⟨bound, rfl⟩ := List.getElem?_eq_some_iff.mp listed
  rw [text, ← List.flatten_cons, ← List.drop_eq_getElem_cons bound, ← List.flatten_append, List.take_append_drop]

theorem line_start_succ (i : Nat) (piece : Text) (listed : document.pieces[i]? = some piece) :
    document.lineStart (i + 1) = document.lineStart i + piece.length := by
  simp [lineStart, List.take_add_one, listed]

theorem line_start_bounded (i : Nat) : document.lineStart i ≤ document.text.length := by
  have cut := congrArg (fun pieces => pieces.flatten.length) (List.take_append_drop i document.pieces)
  simp only [List.flatten_append, List.length_append] at cut
  rw [lineStart, text]
  omega

theorem slice_piece (i : Nat) (piece : Text) (listed : document.pieces[i]? = some piece) :
    slice document.text (document.lineStart i) (document.lineStart (i + 1)) = piece := by
  have stop := document.line_start_succ i piece listed
  rw [slice_ofNat _ _ _ (document.line_start_bounded (i + 1)), stop, document.text_around i piece listed, lineStart,
    List.take_length_add_append, List.drop_left, List.take_left]

theorem table_next (i : Nat) (listed : i < document.pieces.length) :
    ((SourceFile.lineTableOf document.text)[i + 1]?).getD document.text.length = document.lineStart (i + 1) := by
  by_cases more : i + 1 < document.pieces.length
  · rw [document.table_entry (i + 1) more, Option.getD_some]
  · have count := document.table_length
    have length := document.pieces_length
    have last : i + 1 = document.pieces.length := by omega
    rw [List.getElem?_eq_none (by omega), Option.getD_none, last, line_start_end]

theorem piece_of_line (i : Nat) (line : Text) (listed : document.lines[i]? = some line) :
    ∃ ending : Text, document.pieces[i]? = some (line ++ ending) ∧
      (∀ c ∈ ending, SourceFile.isLineEnd c = true) ∧ (i < document.ended.length ↔ ending ≠ []) := by
  have bound : i < document.ended.length + 1 := by
    obtain ⟨inLines, -⟩ := List.getElem?_eq_some_iff.mp listed
    simpa [lines] using inLines
  by_cases inner : i < document.ended.length
  · have same : document.ended[i].content = line := by simpa [lines, List.getElem?_append, inner] using listed
    refine ⟨document.ended[i].ending.text, ?_, ending_characters _, fun _ empty => ?_, fun _ => inner⟩
    · simp [pieces, List.getElem?_append, inner, EndedLine.text, same]
    · have nonempty := ending_nonempty document.ended[i].ending
      simp [empty] at nonempty
  · have last : i = document.ended.length := by omega
    subst last
    have same : document.last = line := by simpa [lines] using listed
    exact ⟨[], by simp [pieces, same], by simp, by simp⟩

end LinedText

theorem drop_end_of_plain (line ending : Text) (plain : PlainLine line)
    (ends : ∀ c ∈ ending, SourceFile.isLineEnd c = true) :
    Text.dropEndWhile SourceFile.isLineEnd (line ++ ending) = line := by
  have kept : line.reverse.dropWhile SourceFile.isLineEnd = line.reverse := by
    cases reversed : line.reverse with
    | nil => rfl
    | cons c rest =>
        have member : c ∈ line := List.mem_reverse.mp (by simp [reversed])
        simp [plain c member]
  rw [Text.dropEndWhile, List.reverse_append, List.dropWhile_append_of_pos (by simpa using ends), kept,
    List.reverse_reverse]

namespace LinedText

variable (document : LinedText)

theorem line_plain (i : Nat) (line : Text) (listed : document.lines[i]? = some line) : PlainLine line :=
  document.plain line (List.mem_of_getElem? listed)

theorem content_of_line (file : SourceFile) (sameText : file.text = document.text)
    (table : file.lineTable = SourceFile.lineTableOf file.text) (i : Nat) (line : Text)
    (listed : document.lines[i]? = some line) : file.contentOf (i + 1) (document.lineStart i) = line := by
  obtain ⟨ending, piece, ends, -⟩ := document.piece_of_line i line listed
  obtain ⟨bound, -⟩ := List.getElem?_eq_some_iff.mp piece
  rw [SourceFile.contentOf, table, sameText, document.table_next i bound, document.slice_piece i _ piece,
    drop_end_of_plain line ending (document.line_plain i line listed) ends]

theorem holds_point (i j : Nat) (line : Text) (listed : document.lines[i]? = some line) (within : j ≤ line.length) :
    HoldsOffset (SourceFile.lineTableOf document.text) (i + 1) (document.lineStart i) (document.lineStart i + j : Nat) := by
  obtain ⟨ending, piece, -, inner⟩ := document.piece_of_line i line listed
  obtain ⟨bound, -⟩ := List.getElem?_eq_some_iff.mp piece
  refine ⟨by omega, document.table_entry i bound, by omega, ?_⟩
  intro next found
  obtain ⟨inTable, -⟩ := List.getElem?_eq_some_iff.mp found
  have count := document.table_length
  have nonempty := List.length_pos_iff.mpr (inner.mp (by omega))
  have stop := document.line_start_succ i _ piece
  have entry := document.table_next i bound
  rw [found, Option.getD_some] at entry
  rw [List.length_append] at stop
  omega

theorem place_point (file : SourceFile) (sameText : file.text = document.text)
    (table : file.lineTable = SourceFile.lineTableOf file.text) (bound : DigitBound) (i j : Nat) (line : Text)
    (listed : document.lines[i]? = some line) (within : j ≤ line.length) :
    file.place (document.lineStart i + j : Nat) bound = .ok ⟨⟨i + 1, j + 1⟩, line⟩ := by
  obtain ⟨ending, piece, -, -⟩ := document.piece_of_line i line listed
  have stop := document.line_start_succ i _ piece
  have bounded := document.line_start_bounded (i + 1)
  have proper := SourceFile.own_table_proper file table
  have inside : file.Inside (document.lineStart i + j : Nat) := by
    rw [SourceFile.Inside, sameText]
    rw [List.length_append] at stop
    omega
  have holds := document.holds_point i j line listed within
  rw [← sameText, ← table] at holds
  obtain ⟨number, start, held, placed⟩ := SourceFile.place_inside file bound proper _ inside
  obtain ⟨rfl, rfl⟩ := holds_offset_unique _ proper.ascending _ _ _ _ _ held holds
  rw [placed, document.content_of_line file sameText table i line listed]
  congr 3
  omega

-- A point keeps its place whatever the endings of the lines are.
theorem points_keep_places (name path : Option Text) (derivedFrom : Option SourceFile) (file : SourceFile)
    (made : SourceFile.make document.text name path derivedFrom = .ok file) (bound : DigitBound) :
    file.lineTable.length = document.lines.length ∧
      (∀ i j line, document.lines[i]? = some line → j ≤ line.length →
        file.place (document.lineStart i + j : Nat) bound = .ok ⟨⟨i + 1, j + 1⟩, line⟩) ∧
      ∀ (other : LinedText) (otherName otherPath : Option Text) (otherSource : Option SourceFile)
        (otherFile : SourceFile), other.lines = document.lines →
        SourceFile.make other.text otherName otherPath otherSource = .ok otherFile →
        ∀ i j line, document.lines[i]? = some line → j ≤ line.length →
          otherFile.place (other.lineStart i + j : Nat) bound = file.place (document.lineStart i + j : Nat) bound := by
  obtain ⟨sameText, table⟩ := SourceFile.make_fields _ _ _ _ file made
  have places := document.place_point file sameText table bound
  refine ⟨?_, places, ?_⟩
  · rw [table, sameText, table_length]
    simp [lines]
  · intro other otherName otherPath otherSource otherFile sameLines otherMade i j line listed within
    obtain ⟨otherText, otherTable⟩ := SourceFile.make_fields _ _ _ _ otherFile otherMade
    rw [places i j line listed within]
    exact other.place_point otherFile otherText otherTable bound i j line (by rw [sameLines, listed]) within

theorem mixed_endings_keep_places :
    let mixed : LinedText := ⟨[⟨['a'], .carriage⟩, ⟨[], .both⟩], ['b', 'c'],
      by simp [PlainLine, SourceFile.isLineEnd], ⟨nofun, nofun, trivial⟩⟩
    let plain : LinedText := ⟨[⟨['a'], .feed⟩, ⟨[], .feed⟩], ['b', 'c'],
      by simp [PlainLine, SourceFile.isLineEnd], ⟨nofun, nofun, trivial⟩⟩
    mixed.text = ['a', '\r', '\r', '\n', 'b', 'c'] ∧
      (SourceFile.inMemory plain.text ['f'] none).place 4 = (SourceFile.inMemory mixed.text ['f'] none).place 5 := by
  intro mixed plain
  have made : SourceFile.make mixed.text (some ['f']) none none = .ok (.inMemory mixed.text ['f'] none) := rfl
  obtain ⟨-, -, same⟩ := mixed.points_keep_places _ _ _ _ made .standard
  exact ⟨rfl, same plain (some ['f']) none none _ rfl rfl 2 1 ['b', 'c'] rfl (by decide)⟩

end LinedText

end SourceLocator
