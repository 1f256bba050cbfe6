import SourceLocator.Proofs.DepthFirst
import SourceLocator.Proofs.SourceOrder

set_option autoImplicit false

namespace SourceLocator

structure Chooses (config : Config) (nodeTypes : List (Option Text)) (language : Language)
    (isWanted : String → Bool) : Prop where
  asked : nodeTypes ≠ [] → ∀ type, isWanted type = true ↔ some type.toList ∈ nodeTypes
  unasked : nodeTypes = [] → ∃ listed, config.nodeTypes language.name = .ok listed ∧
    (listed ≠ [] → ∀ type, isWanted type = true ↔ Value.text type ∈ listed) ∧
    (listed = [] → ∀ type, isWanted type = true ↔ type ∈ language.declarationTypes)

def MovesBy (config : Config) (asked : Option (Option Int)) (offset : Option Int) : Prop :=
  asked = some offset ∨ asked = none ∧ ∃ configured, config.offset = .ok configured ∧ offset = some configured

namespace Scalar

theorem same_text_iff (scalar : Scalar) (text : Writing) : scalar.same (.text text) = true ↔ scalar = .text text := by
  rw [same, beq_iff_eq]
  constructor
  · intro sameKey
    cases scalar with
    | real value =>
        unfold key at sameKey
        cases value with
        | finite negative mantissa exponent =>
            dsimp only at sameKey
            split at sameKey <;> cases sameKey
        | infinite negative => cases sameKey
        | nan => cases sameKey
    | moment value =>
        unfold key at sameKey
        split at sameKey <;> cases sameKey
    | text other =>
        cases sameKey
        rfl
    | null => cases sameKey
    | bool value => cases sameKey
    | int value => cases sameKey
    | strayNan place => cases sameKey
    | bytes value => cases sameKey
    | date value => cases sameKey
    | pair first second => cases sameKey
  · rintro rfl
    rfl

theorem text_distinct_iff (text : Writing) (scalars : List Scalar) :
    Scalar.text text ∈ distinct scalars ↔ Scalar.text text ∈ scalars := by
  induction scalars with
  | nil => rfl
  | cons first rest ih =>
      rw [distinct, List.mem_cons, List.mem_filter, ih, List.mem_cons]
      by_cases here : Scalar.text text = first
      · simp [here]
      · have other : first.same (.text text) = false := by
          rw [← Bool.not_eq_true, same_text_iff]
          exact Ne.symm here
        simp [here, other]

end Scalar

theorem of_string_injective (a b : String) (same : Scalar.ofString a = Scalar.ofString b) : a = b := by
  injection same with same
  injection same with same
  exact String.toList_injective same

namespace Value

theorem scalar_text_iff (value : Value) (text : Writing) :
    value.toScalar = .ok (.text text) ↔ value = .scalar (.text text) := by
  constructor
  · intro read
    cases value with
    | scalar s =>
        cases read
        rfl
    | pair first second =>
        obtain ⟨_, -, read⟩ := bind_ok _ _ _ read
        obtain ⟨_, -, read⟩ := bind_ok _ _ _ read
        cases read
    | list items => cases read
    | set items => cases read
    | mapping fields => cases read
    | knot graph number => cases read
  · rintro rfl
    rfl

theorem listed_scalars (items : List Value) (scalars : List Scalar) (read : (Value.list items).scalars = .ok scalars) :
    (scalars = [] ↔ items = []) ∧
      ∀ text, Scalar.text text ∈ scalars ↔ Value.scalar (.text text) ∈ items := by
  have read : (items.mapM toScalar >>= fun found => .ok (Scalar.distinct found)) = .ok scalars := read
  obtain ⟨found, mapped, same⟩ := bind_ok _ _ scalars read
  cases same
  obtain ⟨forward, backward⟩ := mapped_members items toScalar found mapped
  constructor
  · cases items with
    | nil =>
        cases mapped
        simp [Scalar.distinct]
    | cons item rest =>
        obtain ⟨result, member, -⟩ := forward item List.mem_cons_self
        cases found with
        | nil => cases member
        | cons first others => simp [Scalar.distinct]
  · intro text
    rw [Scalar.text_distinct_iff]
    constructor
    · intro member
      obtain ⟨item, listed, read⟩ := backward _ member
      rwa [(scalar_text_iff item text).mp read] at listed
    · intro member
      obtain ⟨result, listed, read⟩ := forward _ member
      cases read
      exact listed

end Value

theorem asked_types (nodeTypes : List (Option Text)) (types : List Scalar)
    (read : nodeTypes.mapM FileTree.askedType = .ok types) :
    (nodeTypes ≠ [] → types ≠ []) ∧ ∀ text : Text, Scalar.text (.text text) ∈ types ↔ some text ∈ nodeTypes := by
  obtain ⟨forward, backward⟩ := mapped_members nodeTypes FileTree.askedType types read
  constructor
  · rintro asked rfl
    obtain ⟨item, rest, rfl⟩ := List.exists_cons_of_ne_nil asked
    obtain ⟨_, none, -⟩ := forward item List.mem_cons_self
    cases none
  · intro text
    constructor
    · intro member
      obtain ⟨item, listed, read⟩ := backward _ member
      cases item with
      | none => cases read
      | some other =>
          cases read
          exact listed
    · intro member
      obtain ⟨_, listed, read⟩ := forward _ member
      cases read
      exact listed

theorem wanted_types_choose (query : Query) (language : Language) (types : List Scalar)
    (wanted : FileTree.wantedTypes query language = .ok types) :
    Chooses query.config query.nodeTypes language fun type => types.contains (.ofString type) := by
  unfold FileTree.wantedTypes at wanted
  by_cases unasked : query.nodeTypes = []
  · rw [if_pos (List.isEmpty_iff.mpr unasked)] at wanted
    obtain ⟨listed, configured, wanted⟩ := bind_ok _ _ types wanted
    obtain ⟨found, read, same⟩ := bind_ok _ _ types wanted
    obtain ⟨emptyIff, members⟩ := Value.listed_scalars listed found read
    cases same
    refine ⟨fun asked => absurd unasked asked, fun _ => ⟨listed, configured, fun some type => ?_, fun none type => ?_⟩⟩
    · rw [if_neg (mt List.isEmpty_iff.mp (mt emptyIff.mp some)), List.contains_iff_mem]
      exact members (.ofString type)
    · rw [if_pos (List.isEmpty_iff.mpr (emptyIff.mpr none)), List.contains_iff_mem]
      refine ⟨fun member => ?_, List.mem_map_of_mem⟩
      obtain ⟨declared, listed, same⟩ := List.mem_map.mp member
      rwa [← of_string_injective declared type same]
  · rw [if_neg (mt List.isEmpty_iff.mp unasked)] at wanted
    obtain ⟨found, read, same⟩ := bind_ok _ _ types wanted
    obtain ⟨nonempty, members⟩ := asked_types query.nodeTypes found read
    cases same
    refine ⟨fun asked type => ?_, fun none => absurd none unasked⟩
    rw [if_neg (mt List.isEmpty_iff.mp (nonempty asked)), List.contains_iff_mem]
    exact members type.toList

namespace FileTree

variable {tree : FileTree} {parser : Parser} {config : Config} {nodeTypes : List (Option Text)}
  {asked : Option (Option Int)}

theorem nodes_resolved (parsed : ParsedFile) (offset : Option Int) (nodes : List Cursor) (reports : List Findings)
    (each : (nodes.map fun cursor => (locateNode parsed offset cursor).mapError Failure.ofFault) = reports.map .ok) :
    List.Forall₂ (fun cursor location => ∃ moved log, offset = some moved ∧
      (parsed.subject cursor).resolve .standard moved = .ok (location, log)) nodes
      (reports.flatMap Findings.locations) := by
  induction nodes generalizing reports with
  | nil =>
      rw [List.map_eq_nil_iff.mp each.symm]
      exact .nil
  | cons cursor rest ih =>
      obtain ⟨report, others, rfl, here, later⟩ := List.map_eq_cons_iff.mp each.symm
      have located := map_error_ok _ _ report here.symm
      cases offset with
      | none => cases located
      | some moved =>
          obtain ⟨⟨location, log⟩, resolved, same⟩ := bind_ok _ _ report located
          cases same
          exact .cons ⟨moved, log, rfl, resolved⟩ (ih others later.symm)

inductive FileReport (tree : FileTree) (parser : Parser) (config : Config) (nodeTypes : List (Option Text))
    (asked : Option (Option Int)) (path : Text) : Findings → Prop where
  | unparsed (missing : parser.installed = false) : FileReport tree parser config nodeTypes asked path .empty
  | parsed (parsed : ParsedFile) (isWanted : String → Bool) (locations : List Location) (log : Log)
      (offset : Option Int) (result : tree.parse parser path none = .ok (some parsed))
      (chosen : Chooses config nodeTypes parsed.language isWanted) (moves : MovesBy config asked offset)
      (resolved : List.Forall₂ (fun cursor location => ∃ moved log, offset = some moved ∧
        (parsed.subject cursor).resolve .standard moved = .ok (location, log)) (parsed.find isWanted) locations) :
      FileReport tree parser config nodeTypes asked path ⟨locations, [parsed.language.grammar], log⟩

theorem unparsed_missing (path : Text) (result : tree.parse parser path none = .ok none) :
    parser.installed = false := by
  unfold parse at result
  cases known : Language.ofPath? (Path.ofText path) with
  | none =>
      rw [known] at result
      cases result
  | some language =>
      rw [known] at result
      obtain ⟨source, -, parsed⟩ := bind_ok (tree.read (Path.ofText path)) _ none result
      rw [ParsedFile.parse, language_of_name] at parsed
      cases installed : parser.installed with
      | false => rfl
      | true =>
          rw [installed] at parsed
          cases parsed

theorem file_report (query : Query) (path : Text) (report : Findings)
    (found : tree.locateFile parser query path = .ok report) (asks : MovesBy query.config asked query.offset) :
    FileReport tree parser query.config query.nodeTypes asked path report := by
  obtain ⟨parsed, result, found⟩ := bind_ok _ _ report found
  have result := map_error_ok _ _ _ result
  cases parsed with
  | none =>
      cases found
      exact .unparsed (unparsed_missing path result)
  | some parsed =>
      obtain ⟨types, wanted, found⟩ := bind_ok _ _ report found
      obtain ⟨nodes, collected, same⟩ := bind_ok _ _ report found
      obtain ⟨reports, each, rfl⟩ := (Findings.collect_iff _ nodes).mp collected
      cases same
      have chosen := wanted_types_choose query _ types (map_error_ok _ _ _ wanted)
      exact .parsed parsed _ _ _ query.offset result chosen asks (nodes_resolved parsed query.offset _ reports each)

theorem search_moved (path : Text) (offset : Option Int) (moves : MovesBy config asked offset) :
    tree.search path config nodeTypes asked = tree.search path config nodeTypes (some offset) := by
  rcases moves with rfl | ⟨rfl, configured, read, rfl⟩
  · rfl
  · rw [search, search, read]
    rfl

theorem search_moves_by (path : Text) (result : Query × List (Except Fault Path))
    (searched : tree.search path config nodeTypes asked = .ok result) : ∃ offset, MovesBy config asked offset := by
  cases asked with
  | some offset => exact ⟨offset, .inl rfl⟩
  | none =>
      cases configured : config.offset with
      | ok offset => exact ⟨some offset, .inr ⟨rfl, offset, configured, rfl⟩⟩
      | error fault =>
          rw [search, configured] at searched
          cases searched

theorem contained_length (path : Path) (contained : tree.contains path = true) : tree.checkLength path = .ok () := by
  unfold contains at contained
  split at contained
  · rename_i led
    rw [checkLength, led]
  · cases contained

theorem search_iff (path : Text) (query : Query) (files : List (Except Fault Path)) :
    tree.search path config nodeTypes asked = .ok (query, files) ↔
      tree.contains (Path.ofText path) = true ∧ ∃ offset enabled, MovesBy config asked offset ∧
        config.languages = .ok enabled ∧ query = ⟨config, nodeTypes, offset⟩ ∧
        files = tree.walk listingLimit (Path.ofText path) (isEnabled enabled) := by
  constructor
  · intro searched
    obtain ⟨offset, moves⟩ := search_moves_by path _ searched
    rw [search_moved path offset moves, search] at searched
    obtain ⟨-, -, searched⟩ := bind_ok (tree.checkLength (Path.ofText path)) _ _ searched
    cases contained : tree.contains (Path.ofText path) with
    | false =>
        rw [contained] at searched
        cases searched
    | true =>
        rw [contained] at searched
        obtain ⟨enabled, languages, same⟩ := bind_ok config.languages _ _ searched
        cases same
        exact ⟨rfl, offset, enabled, moves, languages, rfl, rfl⟩
  · rintro ⟨contained, offset, enabled, moves, languages, rfl, rfl⟩
    rw [search_moved path offset moves, search, contained_length _ contained, contained, languages]
    rfl

theorem walkable_of_walk (sound : tree.Sound) (limit : Nat) (path : Path) (enabled : Language → Bool)
    (files : List Path) (walked : tree.walk limit path enabled = files.map .ok) : tree.Walkable limit path := by
  by_contra stuck
  have directory : ∃ way entries, tree.at? path = .ok ⟨way, .directory entries⟩ := by
    by_contra none
    exact stuck fun way entries names entry led _ => absurd ⟨way, entries, led⟩ none
  obtain ⟨way, entries, led⟩ := directory
  obtain ⟨front, fault, rest, -, -, stopped⟩ := walk_stops tree limit path (tree.led_sound path sound _ led) way led stuck
  have failed : Except.error fault ∈ files.map Except.ok := by
    rw [← walked, stopped]
    exact List.mem_append_right _ List.mem_cons_self
  obtain ⟨_, -, same⟩ := List.mem_map.mp failed
  cases same

theorem search_file (sound : tree.Sound) (path : Text) (query : Query) (files : List Path)
    (searched : tree.search path config nodeTypes asked = .ok (query, files.map .ok)) (file : Path)
    (member : file ∈ files) : tree.search file.text config nodeTypes asked = .ok (query, [.ok file]) := by
  obtain ⟨-, offset, enabled, moves, languages, rfl, walked⟩ := (search_iff path query _).mp searched
  have walkable := walkable_of_walk sound _ _ _ files walked.symm
  have listed : file ∈ tree.sourceFiles (Path.ofText path) (isEnabled enabled) := by
    have whole := walked.trans (walk_whole walkable (isEnabled enabled))
    have mapped : Except.ok file ∈ (tree.sourceFiles (Path.ofText path) (isEnabled enabled)).map Except.ok :=
      whole ▸ List.mem_map_of_mem member
    obtain ⟨_, listed, same⟩ := List.mem_map.mp mapped
    cases same
    exact listed
  have source := source_file_listed sound path walkable (isEnabled enabled) file listed
  obtain ⟨content, stored⟩ := source.stored
  obtain ⟨way, led⟩ := tree.read_inside file content stored
  refine (search_iff file.text _ _).mpr ⟨?_, offset, enabled, moves, languages, rfl, ?_⟩
  · rw [source.printed, contains, led]
  · rw [source.printed, tree.walk_file _ (isEnabled enabled) file way content led, if_pos source.enabled]

theorem locate_lone (path : Text) (query : Query) (file : Path) (report : Findings)
    (searched : tree.search path config nodeTypes asked = .ok (query, [.ok file]))
    (found : tree.locateFile parser query file.text = .ok report) :
    tree.locate parser path config nodeTypes asked = .ok report := by
  rw [locate_walked parser nodeTypes asked query [file] searched, List.map_singleton, found]
  simp [Findings.collect, Findings.append, Findings.empty]

end FileTree

-- Nothing passes from one file to the next: what is located in a directory is what is located in its source files
-- one by one.
theorem located_file_by_file (tree : FileTree) (sound : tree.Sound) (parser : Parser) (path : Text) (config : Config)
    (nodeTypes : List (Option Text)) (asked : Option (Option Int)) (findings : Findings)
    (found : tree.locate parser path config nodeTypes asked = .ok findings) :
    ∃ enabled files reports, config.languages = .ok enabled ∧
      tree.walk FileTree.listingLimit (Path.ofText path) (FileTree.isEnabled enabled) = files.map .ok ∧
      findings.locations = reports.flatMap Findings.locations ∧
      findings.grammars = reports.flatMap Findings.grammars ∧
      List.Forall₂ (fun file report => tree.locate parser file.text config nodeTypes asked = .ok report ∧
        FileTree.FileReport tree parser config nodeTypes asked file.text report) files reports := by
  obtain ⟨⟨query, entries⟩, searched, collected⟩ := bind_ok _ _ findings found
  have searched := map_error_ok _ _ _ searched
  obtain ⟨reports, each, rfl⟩ := (Findings.collect_iff _ findings).mp collected
  obtain ⟨files, rfl, reported⟩ :=
    FileTree.searched_files entries (fun file => tree.locateFile parser query file.text) reports each
  obtain ⟨-, offset, enabled, moves, languages, rfl, walked⟩ := (FileTree.search_iff path query _).mp searched
  have alone : ∀ file ∈ files, tree.search file.text config nodeTypes asked =
      .ok (⟨config, nodeTypes, offset⟩, [.ok file]) := FileTree.search_file sound path _ files searched
  refine ⟨enabled, files, reports, languages, walked.symm, rfl, rfl, ?_⟩
  refine ((List.forall₂_and_left files reports).mpr ⟨alone, reported⟩).imp ?_
  rintro file report ⟨searched, found⟩
  have contributed := FileTree.file_report _ file.text report found moves
  exact ⟨FileTree.locate_lone file.text _ file report searched found, contributed⟩

theorem mixed_languages_file_by_file :
    let call : Bytes := Utf8.encode "f()".toList
    let entries : Entries := [("a.py".toList, .file call), ("b.rb".toList, .file call)]
    let tree := FileTree.ofEntries entries
    let parser : Parser := ⟨true, fun _ source => .lone source.length⟩
    let types := Config.mappingOf [("python", .list [.text "root"])]
    let config := Config.overDefaults [(.ofString "locate", Config.mappingOf [("node_types", types)])]
    ∃ findings reports, tree.locate parser ".".toList config [] (some (some 0)) = .ok findings ∧
      findings.grammars = ["python", "ruby"] ∧ findings.locations.map Location.extent = [⟨0, 3⟩] ∧
      findings.locations = reports.flatMap Findings.locations ∧
      List.Forall₂ (fun file report => tree.locate parser file config [] (some (some 0)) = .ok report)
        ["a.py".toList, "b.rb".toList] reports := by
  intro call entries tree parser types config
  let enabled : List Scalar := Config.defaultLanguages.map .ofString
  let files : List Path := [⟨[], ["a.py".toList]⟩, ⟨[], ["b.rb".toList]⟩]
  have each : ∀ entry ∈ entries, entry.2.Sound := by
    simp only [entries, List.forall_mem_cons]
    exact ⟨.file call (by decide +kernel), .file call (by decide +kernel), nofun⟩
  have sound : tree.Sound := .directory entries (by decide +kernel) (by decide +kernel) each
  have led : tree.at? (Path.ofText ".".toList) = .ok ⟨[], .directory entries⟩ := rfl
  have walked : tree.walk FileTree.listingLimit (Path.ofText ".".toList) (FileTree.isEnabled enabled) =
      files.map .ok := by
    have sorted : FileEntry.byName entries = entries := List.mergeSort_of_pairwise (by decide +kernel)
    have python : isEnabledPath (FileTree.isEnabled enabled) ⟨[], ["a.py".toList]⟩ = true := by decide +kernel
    have ruby : isEnabledPath (FileTree.isEnabled enabled) ⟨[], ["b.rb".toList]⟩ = true := by decide +kernel
    have walkable := FileTree.walkable_below tree FileTree.listingLimit _ [] led (by decide +kernel)
    rw [FileTree.walk_of_walkable tree FileTree.listingLimit _ sound [] led walkable, FileEntry.pruned_walk_visits,
      sorted]
    simp only [entries, List.flatMap_cons, List.flatMap_nil, FileEntry.visit, python, ruby]
    rfl
  have languages : config.languages = .ok enabled := rfl
  have searched := FileTree.search_led _ led languages [] (some 0)
  rw [walked] at searched
  let outcome := tree.locate parser ".".toList config [] (some (some 0))
  have locates := FileTree.locate_walked parser [] (some (some 0)) _ files searched
  have report : outcome.toOption.map (fun findings => (findings.grammars, findings.locations.map Location.extent)) =
      some (["python", "ruby"], [⟨0, 3⟩]) := by
    change (tree.locate parser ".".toList config [] (some (some 0))).toOption.map _ = _
    rw [locates]
    decide +kernel
  obtain ⟨findings, given, placed⟩ := Option.map_eq_some_iff.mp report
  have found : outcome = .ok findings := ok_of_option outcome findings given
  obtain ⟨grammars, extents⟩ := Prod.mk.inj placed
  obtain ⟨_, others, reports, known, same, locations, -, reported⟩ :=
    located_file_by_file tree sound parser _ config _ _ findings found
  cases languages.symm.trans known
  have sameFiles : others = files :=
    List.map_injective_iff.mpr (fun _ _ ok => Except.ok.inj ok) (same.symm.trans walked)
  subst sameFiles
  refine ⟨findings, reports, found, grammars, extents, locations, ?_⟩
  have single : List.Forall₂ (fun file report => tree.locate parser file config [] (some (some 0)) = .ok report)
      (files.map Path.text) reports :=
    List.forall₂_map_left_iff.mpr (reported.imp fun _ _ contributed => contributed.1)
  exact single

end SourceLocator
