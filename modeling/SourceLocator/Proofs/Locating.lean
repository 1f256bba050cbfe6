import SourceLocator.Locate
import SourceLocator.Proofs.ParsedText

set_option autoImplicit false

namespace SourceLocator

structure Finds (outcome : Except Failure Findings) (writable : Prop) (locations : List Location) : Prop where
  found : writable → ∃ grammars log, outcome = .ok ⟨locations, grammars, log⟩
  refused : ¬ writable → ∃ log, outcome = .error ⟨.unwritable, log⟩

namespace Finds

variable {outcome : Except Failure Findings} {writable : Prop} {locations : List Location}

theorem succeeds (finds : Finds outcome writable locations) (findings : Findings) (ok : outcome = .ok findings) :
    writable ∧ findings.locations = locations := by
  by_cases written : writable
  · obtain ⟨grammars, log, same⟩ := finds.found written
    cases ok.symm.trans same
    exact ⟨written, rfl⟩
  · obtain ⟨log, fails⟩ := finds.refused written
    cases ok.symm.trans fails

theorem collect {α : Type} (items : List α) (search : α → Except Failure Findings) (good : α → Prop)
    (result : α → List Location) (each : ∀ item ∈ items, Finds (search item) (good item) (result item)) :
    Finds (Findings.collect (items.map search)) (∀ item ∈ items, good item) (items.flatMap result) := by
  induction items with
  | nil => exact ⟨fun _ => ⟨[], [], rfl⟩, fun none => absurd (fun item member => nomatch member) none⟩
  | cons first rest ih =>
      have here := each first List.mem_cons_self
      have later := ih fun item member => each item (List.mem_cons_of_mem first member)
      rw [List.map_cons, List.flatMap_cons, List.forall_mem_cons]
      by_cases start : good first
      · obtain ⟨grammars, log, found⟩ := here.found start
        rw [found, Findings.collect]
        constructor
        · intro all
          obtain ⟨more, further, others⟩ := later.found all.2
          exact ⟨grammars ++ more, log ++ further, by rw [others]; rfl⟩
        · intro some
          obtain ⟨further, fails⟩ := later.refused fun all => some ⟨start, all⟩
          exact ⟨log ++ further, by rw [fails]; rfl⟩
      · obtain ⟨log, fails⟩ := here.refused start
        rw [fails, Findings.collect]
        exact ⟨fun all => absurd all.1 start, fun _ => ⟨log, rfl⟩⟩

end Finds

namespace ParsedFile

def Writable (parsed : ParsedFile) (offset : Int) (cursor : Cursor) : Prop :=
  ((parsed.subject cursor).written parsed.file offset).all DigitBound.standard.admits = true

instance (parsed : ParsedFile) (offset : Int) (cursor : Cursor) : Decidable (parsed.Writable offset cursor) :=
  inferInstanceAs
    (Decidable (((parsed.subject cursor).written parsed.file offset).all DigitBound.standard.admits = true))

def located (parsed : ParsedFile) (offset : Int) (cursor : Cursor) : Location where
  position := parsed.file.positionAt ((parsed.extent cursor.label).start + offset)
  extent := (parsed.extent cursor.label).shift offset
  displayText := (parsed.subject cursor).display parsed.file (parsed.text cursor.label)
  file := parsed.file.reportedName

end ParsedFile

namespace FileTree

theorem locate_node_finds (parsed : ParsedFile) (proper : ProperTable parsed.file.lineTable) (offset : Int)
    (cursor : Cursor) :
    Finds ((locateNode parsed (some offset) cursor).mapError .ofFault) (parsed.Writable offset cursor)
      [parsed.located offset cursor] := by
  have writes := parsed_subject_writes parsed cursor proper .standard offset
  constructor
  · intro writable
    obtain ⟨log, resolved⟩ := writes.admitted writable
    refine ⟨[], log, ?_⟩
    rw [locateNode, resolved]
    rfl
  · intro long
    refine ⟨[], ?_⟩
    rw [locateNode, writes.refused ((Bool.not_eq_true _).mp long)]
    rfl

theorem locate_nodes_finds (parsed : ParsedFile) (proper : ProperTable parsed.file.lineTable) (types : List Scalar)
    (offset : Int) (path : Text) :
    let nodes := parsed.find fun type => types.contains (.ofString type)
    Finds (locateNodes parsed types (some offset) path) (∀ cursor ∈ nodes, parsed.Writable offset cursor)
      (nodes.map (parsed.located offset)) := by
  intro nodes
  have each := Finds.collect nodes (fun cursor => (locateNode parsed (some offset) cursor).mapError .ofFault)
    (parsed.Writable offset) (fun cursor => [parsed.located offset cursor])
    fun cursor _ => locate_node_finds parsed proper offset cursor
  rw [← List.map_eq_flatMap] at each
  rw [locateNodes]
  constructor
  · intro writable
    obtain ⟨grammars, log, found⟩ := each.found writable
    exact ⟨_, _, by rw [found]; rfl⟩
  · intro long
    obtain ⟨log, fails⟩ := each.refused long
    exact ⟨log, by rw [fails]; rfl⟩

def selection (tree : FileTree) (parser : Parser) (query : Query) (path : Text) :
    Except Fault (List (ParsedFile × Cursor)) := do
  match ← tree.parse parser path none with
  | none => return []
  | some parsed =>
    let types ← wantedTypes query parsed.language
    return (parsed.find fun type => types.contains (.ofString type)).map fun cursor => (parsed, cursor)

theorem parse_reads (tree : FileTree) (parser : Parser) (path : Text) (language : Option Text) (parsed : ParsedFile)
    (result : tree.parse parser path language = .ok (some parsed)) :
    ∃ content, tree.read (Path.ofText path) = .ok content := by
  cases stored : tree.read (Path.ofText path) with
  | ok content => exact ⟨content, rfl⟩
  | error fault =>
      unfold parse at result
      rw [stored] at result
      split at result <;> cases result

theorem parsed_table (tree : FileTree) (parser : Parser) (path : Text) (language : Option Text) (parsed : ParsedFile)
    (result : tree.parse parser path language = .ok (some parsed)) :
    parsed.file.lineTable = SourceFile.lineTableOf parsed.file.text := by
  obtain ⟨content, stored⟩ := tree.parse_reads parser path language parsed result
  obtain ⟨file, -⟩ := tree_parse_fields tree parser path language content parsed stored result
  rw [file]
  rfl

section Parsed

variable {tree : FileTree} {parser : Parser} {query : Query} {path : Text} {parsed : ParsedFile}

theorem selection_parsed (result : tree.parse parser path none = .ok (some parsed)) :
    tree.selection parser query path = do
      let types ← wantedTypes query parsed.language
      return (parsed.find fun type => types.contains (.ofString type)).map fun cursor => (parsed, cursor) := by
  rw [selection, result]
  rfl

theorem selection_wanted (result : tree.parse parser path none = .ok (some parsed)) (types : List Scalar)
    (wanted : wantedTypes query parsed.language = .ok types) :
    tree.selection parser query path =
      .ok ((parsed.find fun type => types.contains (.ofString type)).map fun cursor => (parsed, cursor)) := by
  rw [selection_parsed result, wanted]
  rfl

theorem walk_leaf (root : SyntaxTree) (leaf : root.children = []) : Cursor.walk root = [.atRoot root] := by
  have childless : (Cursor.atRoot root).children = [] := by
    rw [Cursor.children, Cursor.atRoot, leaf]
    rfl
  rw [Cursor.walk, Cursor.visit, childless, List.nil_append, Cursor.visit]

theorem selection_leaf (result : tree.parse parser path none = .ok (some parsed)) (types : List Scalar)
    (wanted : wantedTypes query parsed.language = .ok types) (leaf : parsed.root.children = [])
    (isWanted : types.contains (.ofString parsed.root.label.type) = true) :
    tree.selection parser query path = .ok [(parsed, .atRoot parsed.root)] := by
  have kept : types.contains (.ofString (Cursor.atRoot parsed.root).label.type) = true := isWanted
  rw [selection_wanted result types wanted, ParsedFile.find, walk_leaf parsed.root leaf, List.filter_cons, if_pos kept]
  rfl

theorem locate_file_parsed (result : tree.parse parser path none = .ok (some parsed)) :
    tree.locateFile parser query path =
      ((wantedTypes query parsed.language).mapError .ofFault >>= fun types =>
        locateNodes parsed types query.offset path) := by
  rw [locateFile, result]
  rfl

theorem selection_cases (nodes : List (ParsedFile × Cursor)) (selected : tree.selection parser query path = .ok nodes) :
    tree.parse parser path none = .ok none ∧ nodes = [] ∨
      ∃ parsed types, tree.parse parser path none = .ok (some parsed) ∧
        wantedTypes query parsed.language = .ok types ∧
        nodes = (parsed.find fun type => types.contains (.ofString type)).map fun cursor => (parsed, cursor) := by
  cases result : tree.parse parser path none with
  | error fault =>
      rw [selection, result] at selected
      cases selected
  | ok parsed? =>
      cases parsed? with
      | none =>
          rw [selection, result] at selected
          cases selected
          exact .inl ⟨rfl, rfl⟩
      | some parsed =>
          rw [selection_parsed result] at selected
          cases wanted : wantedTypes query parsed.language with
          | error fault =>
              rw [wanted] at selected
              cases selected
          | ok types =>
              rw [wanted] at selected
              cases selected
              exact .inr ⟨parsed, types, rfl, wanted, rfl⟩

theorem mem_selection (nodes : List (ParsedFile × Cursor)) (selected : tree.selection parser query path = .ok nodes)
    (cursor : Cursor) (member : (parsed, cursor) ∈ nodes) : tree.parse parser path none = .ok (some parsed) := by
  obtain ⟨-, rfl⟩ | ⟨other, types, result, -, rfl⟩ := selection_cases nodes selected
  · cases member
  · obtain ⟨_, -, same⟩ := List.mem_map.mp member
    cases same
    exact result

theorem locate_file_finds (offset : Int) (moved : query.offset = some offset) (nodes : List (ParsedFile × Cursor))
    (selected : tree.selection parser query path = .ok nodes) :
    Finds (tree.locateFile parser query path) (∀ node ∈ nodes, node.1.Writable offset node.2)
      (nodes.map fun node => node.1.located offset node.2) := by
  obtain ⟨nothing, rfl⟩ | ⟨parsed, types, result, wanted, rfl⟩ := selection_cases nodes selected
  · rw [locateFile, nothing]
    exact ⟨fun _ => ⟨[], [], rfl⟩, fun some => absurd (fun node member => nomatch member) some⟩
  · have proper := SourceFile.own_table_proper parsed.file (tree.parsed_table parser path none parsed result)
    rw [locate_file_parsed result, moved, wanted, List.forall_mem_map, List.map_map]
    exact locate_nodes_finds parsed proper types offset path

theorem locate_file_unselected (fault : Fault) (fails : tree.selection parser query path = .error fault) :
    tree.locateFile parser query path = .error (.ofFault fault) := by
  cases result : tree.parse parser path none with
  | error other =>
      rw [selection, result] at fails
      rw [locateFile, result]
      cases fails
      rfl
  | ok parsed? =>
      cases parsed? with
      | none =>
          rw [selection, result] at fails
          cases fails
      | some parsed =>
          rw [selection_parsed result] at fails
          rw [locate_file_parsed result]
          cases wanted : wantedTypes query parsed.language with
          | error other =>
              rw [wanted] at fails
              cases fails
              rfl
          | ok types =>
              rw [wanted] at fails
              cases fails

end Parsed

def isEnabled (enabled : List Scalar) (language : Language) : Bool := enabled.contains (.ofString language.name)

section Searched

variable {tree : FileTree} {path : Text} {config : Config} {enabled : List Scalar}

theorem search_led (place : Place) (led : tree.at? (Path.ofText path) = .ok place)
    (languages : config.languages = .ok enabled) (nodeTypes : List (Option Text)) (offset : Option Int) :
    tree.search path config nodeTypes (some offset) = .ok (⟨config, nodeTypes, offset⟩,
      tree.walk listingLimit (Path.ofText path) (isEnabled enabled)) := by
  rw [search, checkLength, contains, led, languages]
  rfl

theorem locate_walked (parser : Parser) (nodeTypes : List (Option Text)) (offset : Option (Option Int)) (query : Query)
    (paths : List Path) (searched : tree.search path config nodeTypes offset = .ok (query, paths.map .ok)) :
    tree.locate parser path config nodeTypes offset =
      Findings.collect (paths.map fun file => tree.locateFile parser query file.text) := by
  rw [locate, searched]
  change Findings.collect ((paths.map Except.ok).map _) = _
  rw [List.map_map]
  rfl

theorem locate_finds (parser : Parser) (nodeTypes : List (Option Text)) (asked : Option (Option Int)) (query : Query)
    (paths : List Path) (searched : tree.search path config nodeTypes asked = .ok (query, paths.map .ok))
    (offset : Int) (moved : query.offset = some offset) (nodes : Path → List (ParsedFile × Cursor))
    (selected : ∀ file ∈ paths, tree.selection parser query file.text = .ok (nodes file)) :
    Finds (tree.locate parser path config nodeTypes asked)
      (∀ file ∈ paths, ∀ node ∈ nodes file, node.1.Writable offset node.2)
      (paths.flatMap fun file => (nodes file).map fun node => node.1.located offset node.2) := by
  rw [locate_walked parser nodeTypes asked query paths searched]
  exact Finds.collect paths _ _ _ fun file member => locate_file_finds offset moved (nodes file) (selected file member)

theorem walk_file (limit : Nat) (enabled : Language → Bool) (path : Path) (way : List Text) (content : Bytes)
    (led : tree.at? path = .ok ⟨way, .file content⟩) :
    tree.walk limit path enabled = if isEnabledPath enabled path then [.ok path] else [] := by
  rw [walk, sourceFiles, led]
  dsimp only
  split <;> rfl

end Searched

end FileTree

end SourceLocator
