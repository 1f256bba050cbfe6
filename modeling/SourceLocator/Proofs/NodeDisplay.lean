import SourceLocator.Proofs.Locating
import SourceLocator.Proofs.NodeNames
import SourceLocator.Proofs.Outcomes

set_option autoImplicit false

namespace SourceLocator

open Utf8

def ParsedFile.Made (parsed : ParsedFile) : Prop :=
  (∃ parser text language name derivedFrom,
    ParsedFile.ofText parser text language name derivedFrom = .ok (some parsed)) ∨
  ∃ (tree : FileTree) (parser : Parser) (path : Text) (language : Option Text),
    tree.parse parser path language = .ok (some parsed)

theorem made_table (parsed : ParsedFile) (made : parsed.Made) :
    parsed.file.lineTable = SourceFile.lineTableOf parsed.file.text := by
  rcases made with ⟨parser, text, language, name, derivedFrom, result⟩ | ⟨tree, parser, path, language, result⟩
  · obtain ⟨file, -⟩ := parse_fields _ _ _ _ _ result
    rw [file]
    rfl
  · exact tree.parsed_table parser path language parsed result

inductive Displays (parsed : ParsedFile) (rows : List SyntaxRow) (chain : List Nat) (label : SyntaxLabel) : Text → Prop
  where
  | name (i : Nat) (name : Text) (nearest : NearestNamed parsed rows chain i name) : Displays parsed rows chain label name
  | quoted (nameless : ∀ i ∈ chain, RowNameless parsed rows i) :
      Displays parsed rows chain label (parsed.file.quoteAt (parsed.text label)
        (textPosition parsed.file.text (parsed.extent label).start))

theorem empty_field_passed (parsed : ParsedFile) (rows : List SyntaxRow) (i : Nat) (nameRow : SyntaxRow)
    (first : FirstChild rows i SyntaxLabel.InNameField nameRow) (empty : parsed.text nameRow.label = []) :
    RowNameless parsed rows i := by
  rintro name ⟨row, other, present, declares, names, rfl⟩
  cases names with
  | field second =>
      have found := (first_child_iff rows i _ nameRow).mpr first
      cases Option.some.inj (found.symm.trans ((first_child_iff rows i _ other).mpr second))
      exact empty
  | identifier fieldless _ =>
      obtain ⟨before, after, split, -⟩ := first.first
      have listed : nameRow ∈ rows := by simp [split]
      exact absurd first.isWanted (fieldless nameRow listed first.below)

namespace ParsedFile

variable (parsed : ParsedFile)

theorem display_nearest (cursor : Cursor) (name : Text) (nonempty : name ≠ [])
    (found : parsed.nearestName? cursor = some name) (text : Text) :
    (parsed.subject cursor).display parsed.file text = name := by
  rw [Subject.display, Subject.shownName?, subject, found]
  cases name with
  | nil => exact absurd rfl nonempty
  | cons c name => rfl

theorem display_own_text (cursor : Cursor) (none : parsed.nearestName? cursor = none) (text : Text) :
    (parsed.subject cursor).display parsed.file text =
      parsed.file.quoteAt text (parsed.file.positionAt (parsed.extent cursor.label).start) := by
  rw [Subject.display, Subject.shownName?, subject, none]

theorem row_displays (made : parsed.Made) (rows : List SyntaxRow) (proper : ProperRows rows) (cursor : Cursor)
    (chain : List Nat) (atRows : cursor.AtRows rows chain) :
    Displays parsed rows chain cursor.label ((parsed.subject cursor).display parsed.file (parsed.text cursor.label)) := by
  rcases parsed.first_name_cases rows proper _ chain atRows with ⟨i, name, nearest, found⟩ | ⟨nameless, none⟩
  · rw [parsed.display_nearest cursor name nearest.nonempty found]
    exact .name i name nearest
  · rw [parsed.display_own_text cursor none, position_of_text parsed.file (made_table parsed made)]
    exact .quoted nameless

end ParsedFile

-- Every row of a tree has a node on the walk, and what that is resolved to.
theorem rows_show_nearest_name (parsed : ParsedFile) (made : parsed.Made) (rows : List SyntaxRow)
    (proper : ProperRows rows) (table : SyntaxTree.ofRows? rows = some parsed.root) (x : Nat) (row : SyntaxRow)
    (present : rows[x]? = some row) :
    ∃ chain cursor shown, RowChain rows x chain ∧ chain.length ≤ x + 1 ∧ cursor ∈ Cursor.walk parsed.root ∧
      cursor.AtRows rows chain ∧ Displays parsed rows chain row.label shown ∧
      (∀ i nameRow, FirstChild rows i SyntaxLabel.InNameField nameRow → parsed.text nameRow.label = [] →
        RowNameless parsed rows i) ∧
      ∀ bound offset, Writes bound ((parsed.subject cursor).written parsed.file offset)
        ((parsed.subject cursor).resolve bound offset)
        ⟨textPosition parsed.file.text ((parsed.extent row.label).start + offset), (parsed.extent row.label).shift offset,
          shown, parsed.file.reportedName⟩ := by
  obtain ⟨chain, cursor, chained, bounded, visited, atRows, here⟩ :=
    Cursor.row_visited rows proper parsed.root table x row present
  have label : cursor.label = row.label := by rw [Cursor.label, here, SyntaxTree.row_label]
  have lines := made_table parsed made
  have displays := parsed.row_displays made rows proper cursor chain atRows
  rw [label] at displays
  refine ⟨chain, cursor, _, chained, bounded, visited, atRows, displays, empty_field_passed parsed rows, ?_⟩
  intro bound offset
  have writes := parsed_subject_writes parsed cursor (SourceFile.own_table_proper parsed.file lines) bound offset
  rw [label, position_of_text parsed.file lines] at writes
  exact writes

theorem call_shows_enclosing_class :
    let inClass : SyntaxRow := ⟨⟨"class_definition", 0, 5, true, none⟩, none⟩
    let inFunction : SyntaxRow := ⟨⟨"function_definition", 2, 5, true, none⟩, some 0⟩
    let call : SyntaxRow := ⟨⟨"call", 2, 5, true, none⟩, some 2⟩
    let rows := [inClass, ⟨⟨"identifier", 0, 1, true, some "name"⟩, some 0⟩, inFunction,
      ⟨⟨"identifier", 2, 2, true, some "name"⟩, some 2⟩, ⟨⟨"identifier", 2, 3, true, none⟩, some 2⟩, call]
    let text : Text := ['C', ' ', 'f', '(', ')']
    let root := SyntaxTree.fromRow rows inClass 0
    let parser : Parser := ⟨true, fun _ _ => root⟩
    let parsed : ParsedFile := ⟨.inMemory text ['m'] none, .python, encode text, root⟩
    let cursor : Cursor := ⟨.fromRow rows call 5, [.fromRow rows inFunction 2, root]⟩
    ProperRows rows ∧ ParsedFile.ofText parser text "python".toList ['m'] none = .ok (some parsed) ∧
      cursor ∈ Cursor.walk root ∧ cursor.AtRows rows [5, 2, 0] ∧ Displays parsed rows [5, 2, 0] call.label ['C'] ∧
      ∃ log, (parsed.subject cursor).resolve .standard 1 = .ok (⟨⟨1, 4⟩, ⟨3, 6⟩, ['C'], ['m']⟩, log) := by
  intro inClass inFunction call rows text root parser parsed node
  have proper : ProperRows rows := by decide
  have result : ParsedFile.ofText parser text "python".toList ['m'] none = .ok (some parsed) := rfl
  obtain ⟨chain, cursor, shown, chained, -, visited, atRows, displays, -, resolves⟩ :=
    rows_show_nearest_name parsed (.inl ⟨_, _, _, _, _, result⟩) rows proper rfl 5 call rfl
  have whole : RowChain rows 5 [5, 2, 0] :=
    .child 5 2 _ _ rfl rfl (.child 2 0 _ _ rfl rfl (.root 0 _ rfl rfl))
  cases row_chain_unique rows 5 chain _ chained whole
  have here : cursor = node := by
    obtain ⟨tree, ancestors⟩ := cursor
    rcases atRows with _ | ⟨⟨_, ⟨⟩, rfl⟩, _ | ⟨⟨_, ⟨⟩, rfl⟩, _ | ⟨⟨_, ⟨⟩, rfl⟩, ⟨⟩⟩⟩⟩
    rfl
  subst here
  have written : ((parsed.subject node).written parsed.file 1).all DigitBound.standard.admits = true := by
    decide +kernel
  have outcome : ((parsed.subject node).resolve .standard 1).toOption.map Prod.fst =
      some ⟨⟨1, 4⟩, ⟨3, 6⟩, ['C'], ['m']⟩ := by
    decide +kernel
  obtain ⟨⟨_, log⟩, given, rfl⟩ := Option.map_eq_some_iff.mp outcome
  have resolved := ok_of_option _ _ given
  obtain ⟨others, again⟩ := (resolves .standard 1).admitted written
  have display : ['C'] = shown := congrArg (fun answer => answer.1.displayText) (Except.ok.inj (resolved.symm.trans again))
  rw [← display] at displays
  exact ⟨proper, result, visited, atRows, displays, log, resolved⟩

theorem far_function_is_not_resolved :
    let far : Int := (Nat.pow 10 4300 : Nat)
    let rows : List SyntaxRow := [⟨⟨"module", 0, 5, true, none⟩, none⟩,
      ⟨⟨"function_definition", 1, 4, true, none⟩, some 0⟩, ⟨⟨"identifier", 1, 2, true, some "name"⟩, some 1⟩]
    let text : Text := [' ', 'f', '(', ')', '\n']
    let root := SyntaxTree.fromRow rows ⟨⟨"module", 0, 5, true, none⟩, none⟩ 0
    let parser : Parser := ⟨true, fun _ _ => root⟩
    let parsed : ParsedFile := ⟨.inMemory text ['m'] none, .python, encode text, root⟩
    let node : Cursor := ⟨.fromRow rows ⟨⟨"function_definition", 1, 4, true, none⟩, some 0⟩ 1, [root]⟩
    ProperRows rows ∧ ParsedFile.ofText parser text "python".toList ['m'] none = .ok (some parsed) ∧
      node ∈ Cursor.walk root ∧ (parsed.subject node).resolve .standard (far - 1) = .error .unwritable := by
  intro far rows text root parser parsed node
  have visited : node ∈ Cursor.walk root := by
    refine Cursor.children_visited _ _ node (Cursor.stack_visited _ _ List.mem_cons_self) ?_
    exact Cursor.child_of_row rows (.atRoot root) 1 0 _ _ rfl rfl (by decide) rfl
  have proper : ProperTable parsed.file.lineTable := SourceFile.table_of_text_proper _
  refine ⟨by decide, rfl, visited, ?_⟩
  apply (parsed_subject_writes parsed node proper .standard (far - 1)).refused
  decide +kernel

end SourceLocator
