import Mathlib.Data.List.Forall2
import SourceLocator.Proofs.Locating
import SourceLocator.Proofs.NestedTrees
import SourceLocator.Proofs.Outcomes

set_option autoImplicit false

namespace SourceLocator

-- Locations in a text of this length, in the order of their starts. Those at unknown positions come
-- first where they are before the text, and last where they are behind it.
structure SourceOrdered (length : Nat) (locations : List Location) : Prop where
  starts : locations.Pairwise fun a b => a.extent.start ≤ b.extent.start
  positions : (locations.filter fun location => !location.position.isUnknown).Pairwise fun a b =>
    (a.position.compare b.position).isLE = true
  parted : ∃ before known behind, locations = before ++ known ++ behind ∧
    (∀ location ∈ before, location.position = .unknown ∧ location.extent.start < 0) ∧
    (∀ location ∈ known, location.position ≠ .unknown) ∧
    ∀ location ∈ behind, location.position = .unknown ∧ length < location.extent.start

theorem ascending_parts {α : Type} (key : α → Int) (items : List α)
    (ascending : items.Pairwise fun a b => key a ≤ key b) (border : Int) :
    ∃ below above, items = below ++ above ∧ (∀ item ∈ below, key item < border) ∧ ∀ item ∈ above, border ≤ key item := by
  induction items with
  | nil => exact ⟨[], [], rfl, nofun, nofun⟩
  | cons first rest ih =>
      obtain ⟨least, ascendingRest⟩ := List.pairwise_cons.mp ascending
      by_cases isBelow : key first < border
      · obtain ⟨below, above, rfl, allBelow, allAbove⟩ := ih ascendingRest
        exact ⟨first :: below, above, rfl, List.forall_mem_cons.mpr ⟨isBelow, allBelow⟩, allAbove⟩
      · have start := Int.not_lt.mp isBelow
        refine ⟨[], first :: rest, rfl, nofun, List.forall_mem_cons.mpr ⟨start, ?_⟩⟩
        exact fun item member => Int.le_trans start (least item member)

theorem unknown_iff (position : Position) : position.isUnknown = true ↔ position = .unknown := by
  rw [Position.isUnknown, beq_iff_eq]

namespace SourceFile

variable (file : SourceFile)

theorem position_ascends (proper : ProperTable file.lineTable) (a b : Int) (le : a ≤ b) (first : file.Inside a)
    (second : file.Inside b) : ((file.positionAt a).compare (file.positionAt b)).isLE = true := by
  rcases Int.lt_or_eq_of_le le with less | same
  · have firstPlaced : file.Places none a (file.positionAt a) := file.place_position none proper a first
    have secondPlaced : file.Places none b (file.positionAt b) := file.place_position none proper b second
    rw [(file.places_order none proper a b _ _ firstPlaced secondPlaced).mp less]
    rfl
  · subst same
    simp [Position.compare, comparePair]

theorem source_ordered (proper : ProperTable file.lineTable) (locations : List Location)
    (placed : ∀ location ∈ locations, location.position = file.positionAt location.extent.start)
    (ascending : locations.Pairwise fun a b => a.extent.start ≤ b.extent.start) :
    SourceOrdered file.text.length locations := by
  have unknown : ∀ location ∈ locations, location.position = .unknown ↔
      location.extent.start < 0 ∨ file.text.length < location.extent.start := by
    intro location member
    rw [placed location member, position_unknown_iff file proper, Inside]
    omega
  refine ⟨ascending, ?_, ?_⟩
  · refine List.pairwise_filter.mpr (ascending.imp_of_mem ?_)
    intro a b aListed bListed le aKnown bKnown
    have inside : ∀ location ∈ locations, (!location.position.isUnknown) = true →
        file.Inside location.extent.start := by
      intro location member known
      have notUnknown : location.position ≠ .unknown := by simpa [← unknown_iff] using known
      rw [placed location member] at notUnknown
      exact Decidable.of_not_not (mt (position_unknown_iff file proper _).mpr notUnknown)
    rw [placed a aListed, placed b bListed]
    exact position_ascends file proper _ _ le (inside a aListed aKnown) (inside b bListed bKnown)
  · obtain ⟨before, rest, rfl, isBefore, notBefore⟩ :=
      ascending_parts (fun location => location.extent.start) locations ascending 0
    obtain ⟨known, behind, rfl, notBehind, isBehind⟩ :=
      ascending_parts (fun location => location.extent.start) rest (List.pairwise_append.mp ascending).2.1
        (file.text.length + 1)
    refine ⟨before, known, behind, (List.append_assoc _ _ _).symm, ?_, ?_, ?_⟩
    · intro location member
      have start := isBefore location member
      exact ⟨(unknown location (by simp [member])).mpr (.inl start), start⟩
    · intro location member isUnknown
      have fromStart := notBefore location (by simp [member])
      have toEnd := notBehind location member
      have outside := (unknown location (by simp [member])).mp isUnknown
      omega
    · intro location member
      have start : file.text.length < location.extent.start := isBehind location member
      exact ⟨(unknown location (by simp [member])).mpr (.inr start), start⟩

end SourceFile

namespace ParsedFile

variable (parsed : ParsedFile)

theorem located_ascends (nested : parsed.root.WellNested) (isWanted : String → Bool) (offset : Int) :
    ((parsed.find isWanted).map (parsed.located offset)).Pairwise fun a b => a.extent.start ≤ b.extent.start := by
  refine List.pairwise_map.mpr (((Cursor.walk_ascends parsed.root nested).filter _).imp ?_)
  intro a b le
  exact Int.add_le_add_right (Utf8.char_offset_mono parsed.source _ _ le) offset

theorem located_in_order (proper : ProperTable parsed.file.lineTable) (nested : parsed.root.WellNested)
    (isWanted : String → Bool) (offset : Int) :
    SourceOrdered parsed.file.text.length ((parsed.find isWanted).map (parsed.located offset)) := by
  refine parsed.file.source_ordered proper _ ?_ (parsed.located_ascends nested isWanted offset)
  intro location member
  obtain ⟨cursor, -, rfl⟩ := List.mem_map.mp member
  rfl

end ParsedFile

namespace FileTree

theorem located_nodes (parsed : ParsedFile) (proper : ProperTable parsed.file.lineTable) (types : List Scalar)
    (offset : Option Int) (path : Text) (report : Findings) (found : locateNodes parsed types offset path = .ok report) :
    report.locations =
      (parsed.find fun type => types.contains (.ofString type)).map (parsed.located (offset.getD 0)) := by
  cases offset with
  | some moved =>
      have finds := locate_nodes_finds parsed proper types moved path
      exact (finds.succeeds report found).2
  | none =>
      rw [locateNodes] at found
      cases nodes : parsed.find fun type => types.contains (.ofString type) with
      | nil =>
          rw [nodes] at found
          cases found
          rfl
      | cons cursor rest =>
          rw [nodes] at found
          cases found

theorem located_file {tree : FileTree} {parser : Parser} {query : Query} {path : Text} (report : Findings)
    (found : tree.locateFile parser query path = .ok report) (parsed : ParsedFile)
    (result : tree.parse parser path none = .ok (some parsed)) :
    ∃ types, wantedTypes query parsed.language = .ok types ∧ report.locations =
      (parsed.find fun type => types.contains (.ofString type)).map (parsed.located (query.offset.getD 0)) := by
  have proper := SourceFile.own_table_proper parsed.file (tree.parsed_table parser path none parsed result)
  rw [locate_file_parsed result] at found
  obtain ⟨types, wanted, located⟩ := bind_ok _ _ report found
  exact ⟨types, map_error_ok _ _ types wanted, located_nodes parsed proper types query.offset path report located⟩

end FileTree

namespace Findings

def joined (reports : List Findings) : Findings :=
  ⟨reports.flatMap locations, reports.flatMap grammars, reports.flatMap log⟩

theorem collect_iff (outcomes : List (Except Failure Findings)) (findings : Findings) :
    collect outcomes = .ok findings ↔ ∃ reports : List Findings, outcomes = reports.map .ok ∧ findings = joined reports := by
  induction outcomes generalizing findings with
  | nil =>
      constructor
      · rintro ⟨⟩
        exact ⟨[], rfl, rfl⟩
      · rintro ⟨reports, none, rfl⟩
        rw [List.map_eq_nil_iff.mp none.symm]
        rfl
  | cons outcome rest ih =>
      constructor
      · intro found
        cases outcome with
        | error failure => cases found
        | ok first =>
            rw [collect] at found
            cases later : collect rest with
            | error failure =>
                rw [later] at found
                cases found
            | ok others =>
                rw [later] at found
                cases found
                obtain ⟨reports, rfl, rfl⟩ := (ih others).mp later
                exact ⟨first :: reports, rfl, rfl⟩
      · rintro ⟨reports, each, rfl⟩
        obtain ⟨first, others, rfl, rfl, later⟩ := List.map_eq_cons_iff.mp each.symm
        rw [collect, (ih (joined others)).mpr ⟨others, later.symm, rfl⟩]
        rfl

theorem collect_found (outcomes : List (Except Failure Findings)) (findings : Findings)
    (found : collect outcomes = .ok findings) :
    ∃ reports : List Findings, outcomes = reports.map .ok ∧ findings.locations = reports.flatMap Findings.locations := by
  obtain ⟨reports, each, rfl⟩ := (collect_iff outcomes findings).mp found
  exact ⟨reports, each, rfl⟩

end Findings

namespace FileTree

theorem searched_files (files : List (Except Fault Path)) (search : Path → Except Failure Findings)
    (reports : List Findings)
    (found : (files.map fun file => do search (← file.mapError Failure.ofFault)) = reports.map Except.ok) :
    ∃ paths, files = paths.map .ok ∧ List.Forall₂ (fun path report => search path = .ok report) paths reports := by
  induction files generalizing reports with
  | nil =>
      rw [List.map_nil, eq_comm, List.map_eq_nil_iff] at found
      subst found
      exact ⟨[], rfl, .nil⟩
  | cons file rest ih =>
      obtain ⟨report, others, rfl, here, later⟩ := List.map_eq_cons_iff.mp found.symm
      obtain ⟨paths, rfl, searched⟩ := ih others later.symm
      cases file with
      | error fault => cases here
      | ok path => exact ⟨path :: paths, rfl, .cons here.symm searched⟩

end FileTree

-- Each file's locations are its wanted nodes', one behind the other. A file of ill-formed bytes is in
-- order as well: only the tree has to be well nested.
theorem locations_in_source_order (tree : FileTree) (parser : Parser) (path : Text) (config : Config)
    (nodeTypes : List (Option Text)) (offset : Option (Option Int)) (findings : Findings)
    (found : tree.locate parser path config nodeTypes offset = .ok findings) :
    ∃ query files reports, tree.search path config nodeTypes offset = .ok (query, files.map .ok) ∧
      findings.locations = reports.flatMap Findings.locations ∧
      List.Forall₂ (fun file report => tree.locateFile parser query file.text = .ok report ∧
        ∀ parsed, tree.parse parser file.text none = .ok (some parsed) →
          ∃ types, FileTree.wantedTypes query parsed.language = .ok types ∧
            report.locations = (parsed.find fun type => types.contains (.ofString type)).map
              (parsed.located (query.offset.getD 0)) ∧
            (parsed.root.WellNested → SourceOrdered parsed.file.text.length report.locations)) files reports := by
  obtain ⟨⟨query, entries⟩, searched, collected⟩ := bind_ok _ _ findings found
  obtain ⟨reports, each, locations⟩ := Findings.collect_found _ findings collected
  obtain ⟨files, rfl, reported⟩ :=
    FileTree.searched_files entries (fun file => tree.locateFile parser query file.text) reports each
  refine ⟨query, files, reports, map_error_ok _ _ _ searched, locations, reported.imp ?_⟩
  intro file report here
  refine ⟨here, ?_⟩
  intro parsed result
  have proper := SourceFile.own_table_proper parsed.file (tree.parsed_table parser file.text none parsed result)
  obtain ⟨types, wanted, located⟩ := FileTree.located_file report here parsed result
  refine ⟨types, wanted, located, ?_⟩
  intro nested
  rw [located]
  exact parsed.located_in_order proper nested _ _

theorem moved_calls_in_source_order :
    let content : Bytes := Utf8.encode ['f', '('] ++ 0xff :: Utf8.encode ['g', '(', ')', ')']
    let path : Text := "a.py".toList
    let tree := FileTree.ofEntries [(path, .file content)]
    let root : SyntaxTree := .node ⟨"call", 0, 7, true, none⟩ [.node ⟨"call", 3, 6, true, none⟩ []]
    let parser : Parser := ⟨true, fun _ _ => root⟩
    ∃ findings, tree.locate parser path .standard [some "call".toList] (some (some (-1))) = .ok findings ∧
      findings.locations.map Location.position = [.unknown, ⟨1, 3⟩] ∧ SourceOrdered 7 findings.locations := by
  intro content path tree root parser
  let parsed : ParsedFile := ⟨.ofPath (Utf8.decode content) path, .python, content, root⟩
  let outcome := tree.locate parser path .standard [some "call".toList] (some (some (-1)))
  have positions : outcome.toOption.map (fun findings => findings.locations.map Location.position) =
      some [.unknown, ⟨1, 3⟩] := by decide +kernel
  obtain ⟨findings, given, placed⟩ := Option.map_eq_some_iff.mp positions
  have found : outcome = .ok findings := ok_of_option outcome findings given
  have led : tree.at? (Path.ofText path) = .ok ⟨[path], .file content⟩ := rfl
  obtain ⟨query, files, reports, searched, locations, each⟩ :=
    locations_in_source_order tree parser path .standard _ _ findings found
  have whole : tree.search path .standard [some "call".toList] (some (some (-1))) =
      .ok (⟨.standard, [some "call".toList], some (-1)⟩, [.ok (Path.ofText path)]) := by
    rw [FileTree.search_led _ led rfl, tree.walk_file _ _ _ [path] content led, if_pos (by decide +kernel)]
  obtain ⟨rfl, walked⟩ := Prod.mk.inj (Except.ok.inj (searched.symm.trans whole))
  obtain ⟨file, rfl, same⟩ := List.map_eq_singleton_iff.mp walked
  cases same
  cases each with
  | cons here none =>
      cases none
      have inner : (SyntaxTree.node ⟨"call", 3, 6, true, none⟩ []).WellNested := .node _ _ (by decide) nofun .nil nofun
      have nested : root.WellNested := by
        refine .node _ _ (by decide) ?_ (List.pairwise_singleton _ _) (by simpa using inner)
        simp [SyntaxLabel.Within, SyntaxTree.label]
      have length : parsed.file.text.length = 7 := by decide +kernel
      have normal : (Path.ofText path).text = path := by decide +kernel
      have result : tree.parse parser path none = .ok (some parsed) := rfl
      rw [normal] at here
      obtain ⟨-, -, -, inOrder⟩ := here.2 parsed result
      have ordered := inOrder nested
      rw [List.flatMap_singleton] at locations
      rw [length, ← locations] at ordered
      exact ⟨findings, found, placed, ordered⟩

end SourceLocator
