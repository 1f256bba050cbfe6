import SourceLocator.Proofs.Locating
import SourceLocator.Proofs.StoredPositions

set_option autoImplicit false

namespace SourceLocator

open Utf8

def SourceFile.rangeLocation (file : SourceFile) (extent : Extent) : Location where
  position := file.positionAt extent.start
  extent := extent
  displayText := file.quoteAt (slice file.text extent.start extent.stop) (file.positionAt extent.start)
  file := file.reportedName

namespace FileTree

theorem locate_range_stored (tree : FileTree) (path : Text) (content : Bytes) (extent : Extent)
    (stored : tree.read (Path.ofText path) = .ok content) :
    let span : Span := ⟨some (.ofPath (decode content) path), extent, none, none, none⟩
    tree.locateRange path extent = (SpanGraph.subject [span] 0 span).resolve .standard 0 := by
  obtain ⟨way, led⟩ := tree.read_inside _ content stored
  rw [locateRange, checkLength, led]
  rfl

theorem parsed_storable (tree : FileTree) (sound : tree.Sound) (parser : Parser) (path : Text)
    (language : Option Text) (parsed : ParsedFile) (result : tree.parse parser path language = .ok (some parsed)) :
    parsed.file.text.length < FileEntry.sizeLimit := by
  obtain ⟨content, stored⟩ := tree.parse_reads parser path language parsed result
  obtain ⟨sameFile, -⟩ := tree_parse_fields tree parser path language content parsed stored result
  rw [sameFile]
  exact tree.read_storable sound _ content stored

theorem locate_range_writes (tree : FileTree) (sound : tree.Sound) (path : Text) (content : Bytes) (extent : Extent)
    (stored : tree.read (Path.ofText path) = .ok content) :
    let file := SourceFile.ofPath (decode content) path
    Writes .standard (file.unplaced extent.start) (tree.locateRange path extent) (file.rangeLocation extent) := by
  intro file
  let span : Span := ⟨some file, extent, none, none, none⟩
  let subject := SpanGraph.subject [span] 0 span
  have proper : ProperTable file.lineTable := SourceFile.own_table_proper file rfl
  have fileRead : subject.file = .ok file := rfl
  have textRead : subject.text = .ok (slice file.text extent.start extent.stop) := rfl
  have ends : subject.SearchEnds := trivial
  have storable := tree.read_storable sound _ content stored
  have positions := file.stored_position_writable rfl storable extent.start
  have resolves :
      Writes .standard (subject.written file 0) (subject.resolve .standard 0) (file.rangeLocation extent) := by
    have sameLocation : file.rangeLocation extent = ⟨file.positionAt (subject.extent.start + 0), subject.extent.shift 0,
        subject.display file (slice file.text extent.start extent.stop), file.reportedName⟩ := by
      rw [Int.add_zero, Subject.shift_zero]
      rfl
    rw [sameLocation]
    exact Subject.resolve_writes fileRead textRead proper ends 0
  have same : (subject.written file 0).all DigitBound.standard.admits =
      (file.unplaced extent.start).all DigitBound.standard.admits := by
    have written : subject.written file 0 = file.unplaced (extent.start + 0) ++ (file.unplaced extent.start ++
        [(file.positionAt extent.start).line, (file.positionAt extent.start).column]) := rfl
    rw [written, Int.add_zero, List.all_append, List.all_append, positions, Bool.and_true, Bool.and_self]
  rw [tree.locate_range_stored path content extent stored]
  exact ⟨fun admitted => resolves.admitted (same.trans admitted), fun long => resolves.refused (same.trans long)⟩

end FileTree

theorem well_formed_has_no_strays (content : Bytes) (valid : wellFormed content = true) (k : Nat) :
    strays content k = 0 := by
  rw [← eq_of_beq valid]
  exact encoding_has_no_strays _ k

namespace ParsedFile

def IsNameless (parsed : ParsedFile) (cursor : Cursor) : Prop :=
  ∀ tree ∈ cursor.tree :: cursor.ancestors, ∀ name, parsed.declaredName? tree = some name → name = []

theorem first_name_none (parsed : ParsedFile) (chain : List SyntaxTree)
    (nameless : ∀ tree ∈ chain, ∀ name, parsed.declaredName? tree = some name → name = []) :
    parsed.firstName? chain = none := by
  induction chain with
  | nil => rfl
  | cons tree rest ih =>
      have later := ih fun other member => nameless other (List.mem_cons_of_mem tree member)
      rw [firstName?]
      split
      · rename_i c name declared
        cases nameless tree List.mem_cons_self _ declared
      · exact later

theorem nameless_shows_text (parsed : ParsedFile) (cursor : Cursor) (nameless : parsed.IsNameless cursor) :
    (parsed.subject cursor).shownName? = none := by
  have nearest : parsed.nearestName? cursor = none := parsed.first_name_none _ nameless
  rw [Subject.shownName?, subject, nearest]

theorem range_located (parsed : ParsedFile) (offset : Int) (cursor : Cursor) :
    let range := parsed.file.rangeLocation (parsed.located offset cursor).extent
    range.position = (parsed.located offset cursor).position ∧ range.extent = (parsed.located offset cursor).extent ∧
      range.file = (parsed.located offset cursor).file :=
  ⟨rfl, rfl, rfl⟩

theorem nameless_range_same (parsed : ParsedFile) (cursor : Cursor) (sameText : parsed.file.text = decode parsed.source)
    (valid : wellFormed parsed.source = true) (i j : Nat) (on : OnBoundaries parsed.source cursor.label i j)
    (nameless : parsed.IsNameless cursor) :
    parsed.file.rangeLocation (parsed.located 0 cursor).extent = parsed.located 0 cursor := by
  have reads := parsed.reads_own_extent cursor.label i j on (well_formed_has_no_strays parsed.source valid j)
  have unmoved : (parsed.extent cursor.label).shift 0 = parsed.extent cursor.label := Subject.shift_zero _
  rw [ReadsOwnExtent, ← sameText] at reads
  rw [SourceFile.rangeLocation, located, Subject.display, nameless_shows_text parsed cursor nameless, unmoved,
    Int.add_zero, reads]
  rfl

end ParsedFile

-- The locations of a file's nodes are its ranges' too. They show the same text where a node shows its own.
theorem located_ranges_agree (tree : FileTree) (sound : tree.Sound) (parser : Parser) (path : Text)
    (normal : (Path.ofText path).text = path) (content : Bytes)
    (stored : tree.read (Path.ofText path) = .ok content) (config : Config) (enabled : List Scalar)
    (languages : config.languages = .ok enabled)
    (isSource : isEnabledPath (FileTree.isEnabled enabled) (Path.ofText path) = true)
    (nodeTypes : List (Option Text)) (offset : Int) (findings : Findings)
    (found : tree.locate parser path config nodeTypes (some (some offset)) = .ok findings) :
    ∃ nodes, tree.selection parser ⟨config, nodeTypes, some offset⟩ path = .ok nodes ∧
      findings.locations = nodes.map (fun node => node.1.located offset node.2) ∧
      ∀ parsed cursor, (parsed, cursor) ∈ nodes →
        let location := parsed.located offset cursor
        ∃ range log, tree.locateRange path location.extent = .ok (range, log) ∧
          range.position = location.position ∧ range.extent = location.extent ∧ range.file = location.file ∧
          (offset = 0 → wellFormed content = true → (∃ i j, OnBoundaries content cursor.label i j) →
            parsed.IsNameless cursor → range = location) := by
  obtain ⟨way, led⟩ := tree.read_inside _ content stored
  let query : Query := ⟨config, nodeTypes, some offset⟩
  have searched : tree.search path config nodeTypes (some (some offset)) = .ok (query, [Path.ofText path].map .ok) := by
    rw [FileTree.search_led _ led languages, tree.walk_file _ _ _ way content led, if_pos isSource]
    rfl
  cases selected : tree.selection parser query path with
  | error fault =>
      rw [FileTree.locate_walked parser nodeTypes _ query _ searched, List.map_cons, normal,
        FileTree.locate_file_unselected fault selected] at found
      cases found
  | ok nodes =>
      have finds := FileTree.locate_finds parser nodeTypes _ query _ searched offset rfl (fun _ => nodes)
        (fun file member => by rw [List.mem_singleton.mp member, normal, selected])
      obtain ⟨writable, locations⟩ := finds.succeeds findings found
      refine ⟨nodes, rfl, locations.trans (List.flatMap_singleton _ _), ?_⟩
      intro parsed cursor member location
      have result := FileTree.mem_selection nodes selected cursor member
      obtain ⟨sameFile, sameSource⟩ := tree_parse_fields tree parser path none content parsed stored result
      have start : (parsed.file.unplaced location.extent.start).all DigitBound.standard.admits = true := by
        have written := writable _ List.mem_cons_self _ member
        rw [ParsedFile.Writable, Subject.written, List.all_append, Bool.and_eq_true] at written
        exact written.1
      rw [sameFile] at start
      obtain ⟨log, ranged⟩ := (tree.locate_range_writes sound path content location.extent stored).admitted start
      rw [← sameFile] at ranged
      obtain ⟨position, extent, file⟩ := parsed.range_located offset cursor
      refine ⟨_, log, ranged, position, extent, file, ?_⟩
      rintro rfl valid ⟨i, j, on⟩ nameless
      rw [← sameSource] at valid on
      exact parsed.nameless_range_same cursor (by rw [sameFile, sameSource]; rfl) valid i j on nameless

theorem accented_call_ranges_agree :
    let content : Bytes := encode ['#', '\u00e9', '\n', 'f', '(', ')']
    let path : Text := "a.py".toList
    let tree := FileTree.ofEntries [(path, .file content)]
    let root : SyntaxTree := .node ⟨"call", 4, 7, true, none⟩ []
    let parser : Parser := ⟨true, fun _ _ => root⟩
    let types : List (Option Text) := [some "call".toList]
    ∃ findings range log, tree.locate parser path .standard types (some (some 0)) = .ok findings ∧
      tree.locateRange path ⟨3, 6⟩ = .ok (range, log) ∧ findings.locations = [range] := by
  intro content path tree root parser types
  let parsed : ParsedFile := ⟨.ofPath (decode content) path, .python, content, root⟩
  have sound : tree.Sound := FileEntry.lone_file_sound _ _ (by decide +kernel) (by decide +kernel)
  have stored : tree.read (Path.ofText path) = .ok content := rfl
  have searched : (tree.locate parser path .standard types (some (some 0))).isOk = true := by decide +kernel
  cases found : tree.locate parser path .standard types (some (some 0)) with
  | error failure =>
      rw [found] at searched
      cases searched
  | ok findings =>
      obtain ⟨nodes, selected, locations, ranges⟩ := located_ranges_agree tree sound parser path (by decide +kernel)
        content stored .standard _ rfl (by decide +kernel) types 0 findings found
      have result : tree.parse parser path none = .ok (some parsed) := rfl
      have chosen : tree.selection parser ⟨.standard, types, some 0⟩ path = .ok [(parsed, .atRoot root)] :=
        FileTree.selection_leaf result [.text "call"] rfl rfl (by decide +kernel)
      have one : nodes = [(parsed, .atRoot root)] := Except.ok.inj (selected.symm.trans chosen)
      subst one
      obtain ⟨range, log, ranged, -, -, -, equal⟩ := ranges parsed _ List.mem_cons_self
      have on : OnBoundaries content (Cursor.atRoot root).label 3 6 := by constructor <;> decide +kernel
      have nameless : parsed.IsNameless (.atRoot root) := by
        intro tree member name declared
        rw [List.mem_singleton.mp member] at declared
        cases declared
      have same := equal rfl (by decide +kernel) ⟨3, 6, on⟩ nameless
      have extent : (parsed.located 0 (.atRoot root)).extent = ⟨3, 6⟩ := by decide +kernel
      rw [extent] at ranged
      exact ⟨findings, range, log, rfl, ranged, by rw [locations, same]; rfl⟩

end SourceLocator
