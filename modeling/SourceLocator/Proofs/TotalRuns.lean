import SourceLocator.Proofs.ArgumentIntegers
import SourceLocator.Proofs.AtomicOutput
import SourceLocator.Proofs.EncodedReports
import SourceLocator.Proofs.LoadedConfig
import SourceLocator.Proofs.ReportedFaults
import SourceLocator.Proofs.SourceWalk
import SourceLocator.Proofs.WellTyped

set_option autoImplicit false

namespace SourceLocator

open Utf8

namespace SourceFile

theorem looked_up_writable (file : SourceFile) (storable : file.text.length < FileEntry.sizeLimit) (offset : Int)
    (admitted : (file.unplaced offset).all DigitBound.standard.admits = true) :
    DigitBound.standard.admits offset = true := by
  by_cases inside : file.Inside offset
  · obtain ⟨nonneg, bounded⟩ : 0 ≤ offset ∧ offset ≤ file.text.length := inside
    exact admits_small offset (by omega)
  · rw [unplaced, if_neg inside] at admitted
    simpa using admitted

theorem numbers_writable (file : SourceFile) (table : file.lineTable = lineTableOf file.text)
    (storable : file.text.length < FileEntry.sizeLimit) (extent : Extent)
    (start : (file.unplaced extent.start).all DigitBound.standard.admits = true)
    (stop : DigitBound.standard.admits extent.stop = true) (displayText name : Text) :
    (Report.numbers ⟨file.positionAt extent.start, extent, displayText, name⟩).all
      DigitBound.standard.admits = true := by
  have position := file.stored_position_writable table storable extent.start
  have numbers : ∀ position : Position, Report.numbers ⟨position, extent, displayText, name⟩ =
      [position.line, position.column] ++ [extent.start, extent.stop] := fun _ => rfl
  rw [numbers, List.all_append, position, List.all_cons, List.all_cons, List.all_nil,
    file.looked_up_writable storable extent.start start, stop]
  rfl

end SourceFile

namespace Command

def Action.IsComplete : Action → Prop
  | .nodes _ nodeTypes offset => none ∉ nodeTypes ∧ offset ≠ some none
  | .range _ start _ => start ≠ none

def Action.WithinLimits (files : FileTree) : Action → Prop
  | .nodes path _ _ => files.checkLength (Path.ofText path) = .ok () ∧
      files.Walkable FileTree.listingLimit (Path.ofText path)
  | .range file _ _ => files.checkLength (Path.ofText file) = .ok ()

def Moves (config : Config) (asked : Option (Option Int)) (offset : Int) : Prop :=
  asked = some (some offset) ∨ asked = none ∧ config.offset = .ok offset

def FewDigits (files : FileTree) (parser : Parser) (invocation : Invocation) (config : Config) : Prop :=
  ∀ path nodeTypes asked enabled offset, invocation.action = .nodes path nodeTypes asked →
    config.languages = .ok enabled → Moves config asked offset →
    ∀ file ∈ files.sourceFiles (Path.ofText path) (FileTree.isEnabled enabled), ∀ nodes,
      files.selection parser ⟨config, nodeTypes, some offset⟩ file.text = .ok nodes →
      ∀ parsed cursor, (parsed, cursor) ∈ nodes → parsed.Writable offset cursor ∧
        (wantsJson config invocation.format = .ok true →
          DigitBound.standard.admits (parsed.located offset cursor).extent.stop = true)

def IsStrict (files : FileTree) (output : Option Text) : Prop :=
  nonEmpty? output = none → files.locale.printsForeign = false

def Encodable (files : FileTree) (parser : Parser) (invocation : Invocation) (config : Config) : Prop :=
  IsStrict files invocation.output → ∀ locations log, findLocations files parser config invocation.action = .ok (locations, log) →
    wantsJson config invocation.format = .ok false → ∀ location ∈ locations,
      files.locale.isPlain location.file = true ∧ files.locale.isPlain location.displayText = true

structure WellTypedRun (files : FileTree) (parser : Parser) (arguments : List Text) (invocation : Invocation)
    (config : Config) : Prop where
  sound : files.Sound
  accepted : readArguments arguments = .ok invocation
  loaded : loadConfig files invocation = .ok config
  typed : config.WellTyped
  output : ∀ path, nonEmpty? invocation.output = some path → files.Writable (Path.ofText path)
  complete : invocation.action.IsComplete
  within : invocation.action.WithinLimits files
  few : FewDigits files parser invocation config
  encodable : Encodable files parser invocation config

def Reports (files : FileTree) (config : Config) (invocation : Invocation) (locations : List Location)
    (ending : Ending) : Prop :=
  ∃ report after stdout stderr, ending = .ok 0 ⟨after, stdout, stderr⟩ ∧
    render config invocation.format locations = .ok report ∧
    match nonEmpty? invocation.output with
    | none => stdout = report ∧ after = files
    | some path => stdout = [] ∧ files.write (Path.ofText path) (encode report) = .ok after

section Run

variable {files : FileTree} {parser : Parser} {arguments : List Text} {invocation : Invocation} {config : Config}

theorem typed_settings (run : WellTypedRun files parser arguments invocation config) :
    ∃ threshold, settings files invocation = .ok (config, threshold) := by
  obtain ⟨name, level, read, known⟩ := Config.typed_level run.typed
  have chosen : ∃ threshold, chooseLevel config invocation.verbose = .ok threshold := by
    rw [chooseLevel]
    split
    · exact ⟨_, rfl⟩
    · exact ⟨level, by rw [read]; exact known⟩
  obtain ⟨threshold, chosen⟩ := chosen
  refine ⟨threshold, ?_⟩
  rw [settings, run.loaded]
  change (chooseLevel config invocation.verbose >>= fun threshold => pure (config, threshold)) = _
  rw [chosen]
  rfl

theorem typed_wants_json (typed : config.WellTyped) (format : Option Text) :
    ∃ isJson, wantsJson config format = .ok isJson := by
  unfold wantsJson
  cases nonEmpty? format with
  | some format => exact ⟨_, rfl⟩
  | none =>
      obtain ⟨part, fields, read, mapping⟩ := Config.typed_reporting typed
      have field : part.fieldD "format" (.text "text") =
          .ok ((fields.get? (.text (.text "format".toList))).getD (.text "text")) := by
        rw [Value.fieldD, Value.field?, mapping]
        rfl
      rw [read]
      change ∃ isJson, (part.fieldD "format" (.text "text") >>= _) = .ok isJson
      rw [field]
      generalize (fields.get? (.text (.text "format".toList))).getD (.text "text") = setting
      cases setting <;> exact ⟨_, rfl⟩

theorem typed_render (run : WellTypedRun files parser arguments invocation config) (locations : List Location)
    (log : Log) (found : findLocations files parser config invocation.action = .ok (locations, log))
    (numbers : wantsJson config invocation.format = .ok true →
      (locations.flatMap Report.numbers).all DigitBound.standard.admits = true) :
    ∃ report, render config invocation.format locations = .ok report ∧
      (IsStrict files invocation.output → files.locale.isPlain report = true) := by
  obtain ⟨isJson, wants⟩ := typed_wants_json run.typed invocation.format
  rw [render, wants]
  cases isJson with
  | true =>
      refine ⟨Report.json locations, ?_, fun _ => Report.json_is_plain files.locale locations⟩
      change Report.writeJson .standard locations = _
      rw [Report.writeJson, DigitBound.write, if_pos (numbers wants)]
  | false =>
      obtain ⟨length, measured⟩ := Config.typed_display_length run.typed
      refine ⟨Report.text length locations, ?_, fun strict => Report.text_is_plain files.locale length locations
        (run.encodable strict locations log found wants)⟩
      change (config.displayLength >>= fun length => Report.writeText .standard length locations) = _
      rw [measured]
      exact found_text_written files run.sound parser config invocation.action locations log found length

theorem located_reports (run : WellTypedRun files parser arguments invocation config)
    (parses : Parses parser invocation.action) (locations : List Location) (log : Log)
    (found : findLocations files parser config invocation.action = .ok (locations, log))
    (numbers : wantsJson config invocation.format = .ok true →
      (locations.flatMap Report.numbers).all DigitBound.standard.admits = true) :
    Reports files config invocation locations (runOn files parser arguments) := by
  obtain ⟨threshold, settled⟩ := typed_settings run
  obtain ⟨report, rendered, plain⟩ := typed_render run locations log found numbers
  have located : Located files parser invocation config threshold locations log := ⟨settled, parses, found⟩
  rw [run_on_accepted files parser arguments invocation run.accepted, perform_located located,
    finish_rendered report _ rendered, delivery]
  cases target : nonEmpty? invocation.output with
  | none =>
      have prints : files.locale.prints report = true := by
        rw [Locale.prints]
        cases foreign : files.locale.printsForeign with
        | true => rfl
        | false => rw [plain fun _ => foreign, Bool.or_true]
      dsimp only
      rw [if_pos prints]
      refine ⟨report, files, report, _, rfl, rendered, ?_⟩
      rw [target]
      exact ⟨rfl, rfl⟩
  | some path =>
      obtain ⟨after, saved, -⟩ :=
        write_delivers files run.sound (Path.ofText path) (run.output path target) (encode report)
      have strict : IsStrict files invocation.output := by
        intro toStdout
        cases toStdout.symm.trans target
      dsimp only
      rw [Locale.encode, if_pos (plain strict), saving, saved]
      refine ⟨report, after, [], _, rfl, rendered, ?_⟩
      rw [target]
      exact ⟨rfl, saved⟩

theorem refused_ends (run : WellTypedRun files parser arguments invocation config)
    (parses : Parses parser invocation.action) (fault : Fault) (log : Log)
    (fails : findLocations files parser config invocation.action = .error ⟨fault, log⟩)
    (reported : isReported fault = true) : ∃ world, runOn files parser arguments = .ok 1 world := by
  obtain ⟨threshold, settled⟩ := typed_settings run
  have meets : Meets files parser invocation .locating fault := ⟨config, threshold, log, settled, parses, fails⟩
  obtain ⟨records, ended⟩ := guarded_fault_reported meets rfl reported
  exact ⟨_, (run_on_accepted files parser arguments invocation run.accepted).trans ended⟩

theorem range_parses (file : Text) (start stop : Option Int) (action : invocation.action = .range file start stop) :
    Parses parser invocation.action := by
  rw [action]
  rfl

theorem installed_parses (installed : parser.installed = true) : Parses parser invocation.action := by
  rw [Parses, installed, Bool.not_true, Bool.and_false]

theorem range_integers_writable (run : WellTypedRun files parser arguments invocation config) (file : Text)
    (start : Int) (stop : Option Int) (action : invocation.action = .range file (some start) stop) :
    DigitBound.standard.admits start = true ∧ DigitBound.standard.admits (stop.getD start) = true := by
  obtain ⟨startRead, stopRead⟩ := range_arguments_read arguments invocation run.accepted file _ stop action
  have writable : ∀ n, IsRead n → DigitBound.standard.admits n = true := fun n ⟨text, read⟩ =>
    read_integer_writable text n read
  refine ⟨writable start (startRead start rfl), ?_⟩
  cases stop with
  | none => exact writable start (startRead start rfl)
  | some stop => exact writable stop (stopRead stop rfl)

theorem range_reported (run : WellTypedRun files parser arguments invocation config) (file : Text)
    (start : Int) (stop : Option Int) (action : invocation.action = .range file (some start) stop)
    (content : Bytes) (stored : files.read (Path.ofText file) = .ok content) :
    let source := SourceFile.ofPath (decode content) file
    Reports files config invocation [source.rangeLocation ⟨start, stop.getD start⟩] (runOn files parser arguments) := by
  intro source
  obtain ⟨startWritable, stopWritable⟩ := range_integers_writable run file start stop action
  have unplaced : (source.unplaced start).all DigitBound.standard.admits = true := by
    rw [SourceFile.unplaced]
    split
    · rfl
    · rw [List.all_cons, startWritable]
      rfl
  obtain ⟨log, ranged⟩ :=
    (files.locate_range_writes run.sound file content ⟨start, stop.getD start⟩ stored).admitted unplaced
  have found : findLocations files parser config invocation.action =
      .ok ([source.rangeLocation ⟨start, stop.getD start⟩], log) := by
    rw [action, findLocations, findRange, ranged]
    rfl
  apply located_reports run (range_parses file (some start) stop action) _ log found
  intro _
  rw [List.flatMap_singleton]
  exact source.numbers_writable rfl (files.read_storable run.sound _ content stored) ⟨start, stop.getD start⟩ unplaced
    stopWritable _ _

theorem locate_range_absent (path : Text) (extent : Extent) (within : files.checkLength (Path.ofText path) = .ok ())
    (absent : files.isFile (Path.ofText path) = false) :
    files.locateRange path extent = .error (.fileNotFound path) := by
  rw [FileTree.locateRange, within]
  rw [FileTree.isFile] at absent
  cases led : files.at? (Path.ofText path) with
  | error fault => rfl
  | ok place =>
      obtain ⟨way, entry⟩ := place
      cases entry with
      | directory entries => rfl
      | file content =>
          rw [led] at absent
          cases absent

theorem range_refused (run : WellTypedRun files parser arguments invocation config) (file : Text)
    (start : Int) (stop : Option Int) (action : invocation.action = .range file (some start) stop)
    (absent : files.isFile (Path.ofText file) = false) : ∃ world, runOn files parser arguments = .ok 1 world := by
  have within : files.checkLength (Path.ofText file) = .ok () := by
    have within := run.within
    rw [action] at within
    exact within
  have fails : findLocations files parser config invocation.action = .error ⟨.fileNotFound file, []⟩ := by
    rw [action, findLocations, findRange, locate_range_absent file _ within absent]
    rfl
  exact refused_ends run (range_parses file (some start) stop action) _ [] fails rfl

theorem moves_some (typed : config.WellTyped) (asked : Option (Option Int)) (numbered : asked ≠ some none) :
    ∃ offset, Moves config asked offset := by
  cases asked with
  | none =>
      obtain ⟨offset, read⟩ := Config.typed_offset typed
      exact ⟨offset, .inr ⟨rfl, read⟩⟩
  | some given =>
      cases given with
      | none => exact absurd rfl numbered
      | some offset => exact ⟨offset, .inl rfl⟩

theorem search_moves (path : Text) (nodeTypes : List (Option Text)) (asked : Option (Option Int)) (offset : Int)
    (moves : Moves config asked offset) :
    files.search path config nodeTypes asked = files.search path config nodeTypes (some (some offset)) := by
  rcases moves with rfl | ⟨rfl, read⟩
  · rfl
  · rw [FileTree.search, FileTree.search, read]
    rfl

theorem absent_not_searched (path : Text) (nodeTypes : List (Option Text)) (offset : Int)
    (within : files.checkLength (Path.ofText path) = .ok ()) (absent : files.contains (Path.ofText path) = false) :
    files.search path config nodeTypes (some (some offset)) = .error (.pathNotFound path) := by
  rw [FileTree.search, within, absent]
  rfl

theorem contains_led (path : Path) (contained : files.contains path = true) : ∃ place, files.at? path = .ok place := by
  rw [FileTree.contains] at contained
  cases led : files.at? path with
  | ok place => exact ⟨place, rfl⟩
  | error fault =>
      rw [led] at contained
      cases contained

variable {path : Text} {nodeTypes : List (Option Text)} {asked : Option (Option Int)}

theorem search_within (run : WellTypedRun files parser arguments invocation config)
    (action : invocation.action = .nodes path nodeTypes asked) :
    files.checkLength (Path.ofText path) = .ok () ∧ files.Walkable FileTree.listingLimit (Path.ofText path) := by
  have within := run.within
  rwa [action] at within

theorem search_complete (run : WellTypedRun files parser arguments invocation config)
    (action : invocation.action = .nodes path nodeTypes asked) : none ∉ nodeTypes ∧ asked ≠ some none := by
  have complete := run.complete
  rwa [action] at complete

theorem nodes_selected (run : WellTypedRun files parser arguments invocation config)
    (action : invocation.action = .nodes path nodeTypes asked) (installed : parser.installed = true)
    (enabled : List Scalar) (offset : Int) (file : Path)
    (listed : file ∈ files.sourceFiles (Path.ofText path) (FileTree.isEnabled enabled)) :
    (∃ parsed, files.parse parser file.text none = .ok (some parsed)) ∧
      ∃ nodes, files.selection parser ⟨config, nodeTypes, some offset⟩ file.text = .ok nodes := by
  obtain ⟨-, walkable⟩ := search_within run action
  obtain ⟨named, -⟩ := search_complete run action
  have source := FileTree.source_file_listed run.sound path walkable _ file listed
  obtain ⟨parsed, result⟩ := FileTree.source_file_parsed _ file source parser installed
  obtain ⟨configPath, -, loaded⟩ := bind_ok _ _ _ run.loaded
  obtain ⟨fields, has⟩ := Config.loaded_node_types files configPath config loaded
  obtain ⟨types, wanted⟩ :=
    typed_wanted_types ⟨config, nodeTypes, some offset⟩ run.typed fields has named parsed.language
  exact ⟨⟨parsed, result⟩, _, FileTree.selection_wanted result types wanted⟩

theorem node_numbers_writable (run : WellTypedRun files parser arguments invocation config) (text : Text)
    (parsed : ParsedFile) (result : files.parse parser text none = .ok (some parsed)) (offset : Int) (cursor : Cursor)
    (writable : parsed.Writable offset cursor)
    (stop : DigitBound.standard.admits (parsed.located offset cursor).extent.stop = true) :
    (Report.numbers (parsed.located offset cursor)).all DigitBound.standard.admits = true := by
  have storable := files.parsed_storable run.sound parser text none parsed result
  rw [ParsedFile.Writable, Subject.written, List.all_append, Bool.and_eq_true] at writable
  exact parsed.file.numbers_writable (files.parsed_table parser text none parsed result) storable _ writable.1 stop _ _

theorem nodes_reported (run : WellTypedRun files parser arguments invocation config)
    (action : invocation.action = .nodes path nodeTypes asked) (installed : parser.installed = true)
    (contained : files.contains (Path.ofText path) = true) (enabled : List Scalar)
    (languages : config.languages = .ok enabled) (offset : Int) (moves : Moves config asked offset)
    (nodes : Path → List (ParsedFile × Cursor))
    (selected : ∀ file ∈ files.sourceFiles (Path.ofText path) (FileTree.isEnabled enabled),
      files.selection parser ⟨config, nodeTypes, some offset⟩ file.text = .ok (nodes file)) :
    let locations := (files.sourceFiles (Path.ofText path) (FileTree.isEnabled enabled)).flatMap fun file =>
      (nodes file).map fun node => node.1.located offset node.2
    Reports files config invocation locations (runOn files parser arguments) := by
  intro locations
  obtain ⟨-, walkable⟩ := search_within run action
  obtain ⟨place, led⟩ := contains_led _ contained
  have searched := FileTree.search_led place led languages nodeTypes (some offset)
  rw [FileTree.walk_whole walkable, ← search_moves path nodeTypes asked offset moves] at searched
  have few : ∀ file ∈ files.sourceFiles (Path.ofText path) (FileTree.isEnabled enabled), ∀ node ∈ nodes file,
      node.1.Writable offset node.2 ∧ (wantsJson config invocation.format = .ok true →
        DigitBound.standard.admits (node.1.located offset node.2).extent.stop = true) :=
    fun file listed node member => run.few path nodeTypes asked enabled offset action languages moves file listed
      (nodes file) (selected file listed) node.1 node.2 member
  have finds := FileTree.locate_finds parser nodeTypes asked _ _ searched offset rfl nodes selected
  obtain ⟨grammars, log, located⟩ := finds.found fun file listed node member => (few file listed node member).1
  have found : findLocations files parser config invocation.action = .ok (locations, log) := by
    rw [action, findLocations, located]
    rfl
  apply located_reports run (installed_parses installed) _ log found
  intro isJson
  rw [List.all_flatMap, List.all_eq_true]
  intro location member
  obtain ⟨file, listed, inFile⟩ := List.mem_flatMap.mp member
  obtain ⟨⟨parsed, cursor⟩, node, rfl⟩ := List.mem_map.mp inFile
  obtain ⟨writable, stop⟩ := few file listed _ node
  have result := FileTree.mem_selection (nodes file) (selected file listed) cursor node
  exact node_numbers_writable run file.text parsed result offset cursor writable (stop isJson)

theorem nodes_refused (run : WellTypedRun files parser arguments invocation config)
    (action : invocation.action = .nodes path nodeTypes asked) (installed : parser.installed = true)
    (absent : files.contains (Path.ofText path) = false) : ∃ world, runOn files parser arguments = .ok 1 world := by
  obtain ⟨within, -⟩ := search_within run action
  obtain ⟨-, numbered⟩ := search_complete run action
  obtain ⟨offset, moves⟩ := moves_some run.typed asked numbered
  have fails : findLocations files parser config invocation.action = .error ⟨.pathNotFound path, []⟩ := by
    rw [action, findLocations, FileTree.locate, search_moves path nodeTypes asked offset moves,
      absent_not_searched path nodeTypes offset within absent]
    rfl
  exact refused_ends run (installed_parses installed) _ [] fails rfl

theorem unparsed_ends (run : WellTypedRun files parser arguments invocation config)
    (missing : ¬ Parses parser invocation.action) : ∃ world, runOn files parser arguments = .ok 1 world := by
  obtain ⟨threshold, settled⟩ := typed_settings run
  exact ⟨_, by rw [run_on_accepted files parser arguments invocation run.accepted, perform_settled settled,
    proceed_unparsed missing]⟩

def ReportsNodes (files : FileTree) (parser : Parser) (config : Config) (invocation : Invocation) (path : Text)
    (nodeTypes : List (Option Text)) (asked : Option (Option Int)) (ending : Ending) : Prop :=
  ∃ enabled offset, config.languages = .ok enabled ∧ Moves config asked offset ∧
    ∃ nodes : Path → List (ParsedFile × Cursor),
      let sources := files.sourceFiles (Path.ofText path) (FileTree.isEnabled enabled)
      (∀ file ∈ sources, (∃ parsed, files.parse parser file.text none = .ok (some parsed)) ∧
        files.selection parser ⟨config, nodeTypes, some offset⟩ file.text = .ok (nodes file)) ∧
      Reports files config invocation
        (sources.flatMap fun file => (nodes file).map fun node => node.1.located offset node.2) ending

theorem contained_nodes_reported (run : WellTypedRun files parser arguments invocation config)
    (action : invocation.action = .nodes path nodeTypes asked) (installed : parser.installed = true)
    (contained : files.contains (Path.ofText path) = true) :
    ReportsNodes files parser config invocation path nodeTypes asked (runOn files parser arguments) := by
  obtain ⟨-, numbered⟩ := search_complete run action
  obtain ⟨enabled, languages⟩ := Config.typed_languages run.typed
  obtain ⟨offset, moves⟩ := moves_some run.typed asked numbered
  let query : Query := ⟨config, nodeTypes, some offset⟩
  let nodes (file : Path) : List (ParsedFile × Cursor) :=
    match files.selection parser query file.text with
    | .ok nodes => nodes
    | .error _ => []
  have selected : ∀ file ∈ files.sourceFiles (Path.ofText path) (FileTree.isEnabled enabled),
      (∃ parsed, files.parse parser file.text none = .ok (some parsed)) ∧
      files.selection parser query file.text = .ok (nodes file) := by
    intro file listed
    obtain ⟨parsed, found, chosen⟩ := nodes_selected run action installed enabled offset file listed
    have same : nodes file = found := by
      dsimp only [nodes, query]
      rw [chosen]
    rw [same]
    exact ⟨parsed, chosen⟩
  exact ⟨enabled, offset, languages, moves, nodes, selected,
    nodes_reported run action installed contained enabled languages offset moves nodes
      fun file listed => (selected file listed).2⟩

theorem nodes_total (run : WellTypedRun files parser arguments invocation config)
    (action : invocation.action = .nodes path nodeTypes asked) (installed : parser.installed = true) :
    (∃ world, runOn files parser arguments = .ok (if files.contains (Path.ofText path) then 0 else 1) world) ∧
      (files.contains (Path.ofText path) = true →
        ReportsNodes files parser config invocation path nodeTypes asked (runOn files parser arguments)) := by
  cases contained : files.contains (Path.ofText path) with
  | false => exact ⟨nodes_refused run action installed contained, nofun⟩
  | true =>
      have reports := contained_nodes_reported run action installed contained
      refine ⟨?_, fun _ => reports⟩
      obtain ⟨_, _, -, -, _, -, report, after, stdout, stderr, ended, -⟩ := reports
      exact ⟨_, ended⟩

theorem range_total (run : WellTypedRun files parser arguments invocation config) (file : Text)
    (start : Int) (stop : Option Int) (action : invocation.action = .range file (some start) stop) :
    (∃ world, runOn files parser arguments = .ok (if files.isFile (Path.ofText file) then 0 else 1) world) ∧
      ∀ content, files.read (Path.ofText file) = .ok content →
        ∃ location, Reports files config invocation [location] (runOn files parser arguments) ∧
          (location.position = .unknown ↔ start < 0 ∨ (decode content).length < start) := by
  have each : ∀ content, files.read (Path.ofText file) = .ok content →
      ∃ location, Reports files config invocation [location] (runOn files parser arguments) ∧
        (location.position = .unknown ↔ start < 0 ∨ (decode content).length < start) := by
    intro content stored
    let source := SourceFile.ofPath (decode content) file
    refine ⟨source.rangeLocation ⟨start, stop.getD start⟩, range_reported run file start stop action content stored, ?_⟩
    have unknown := source.position_unknown_iff (SourceFile.own_table_proper source rfl) start
    have inside : source.Inside start ↔ 0 ≤ start ∧ start ≤ (decode content).length := Iff.rfl
    rw [SourceFile.rangeLocation, unknown, inside]
    omega
  refine ⟨?_, each⟩
  cases regular : files.isFile (Path.ofText file) with
  | false => exact range_refused run file start stop action regular
  | true =>
      obtain ⟨content, stored⟩ := files.read_regular _ regular
      obtain ⟨location, ⟨report, after, stdout, stderr, ended, -⟩, -⟩ := each content stored
      exact ⟨_, ended⟩

theorem typed_run_ends (run : WellTypedRun files parser arguments invocation config) :
    ∃ code world, runOn files parser arguments = .ok code world := by
  have complete := run.complete
  cases action : invocation.action with
  | range file start stop =>
      rw [action] at complete
      cases start with
      | none => exact absurd rfl complete
      | some start => exact ⟨_, (range_total run file start stop action).1⟩
  | nodes path nodeTypes asked =>
      cases installed : parser.installed with
      | true => exact ⟨_, (nodes_total run action installed).1⟩
      | false =>
          refine ⟨1, unparsed_ends run ?_⟩
          rw [Parses, action, installed]
          exact nofun

end Run

-- No fault gets out of a run under a well-typed configuration. The code says whether there was something to
-- look at, and the report has one location for a range, and one for each selected node.
theorem well_typed_run_is_total (files : FileTree) (parser : Parser) (arguments : List Text) (invocation : Invocation)
    (config : Config) (run : WellTypedRun files parser arguments invocation config) :
    (∃ code world, runOn files parser arguments = .ok code world) ∧
      (∀ file start stop, invocation.action = .range file (some start) stop →
        (∃ world, runOn files parser arguments = .ok (if files.isFile (Path.ofText file) then 0 else 1) world) ∧
        ∀ content, files.read (Path.ofText file) = .ok content →
          ∃ location, Reports files config invocation [location] (runOn files parser arguments) ∧
            (location.position = .unknown ↔ start < 0 ∨ (decode content).length < start)) ∧
      ∀ path nodeTypes asked, invocation.action = .nodes path nodeTypes asked → parser.installed = true →
        (∃ world, runOn files parser arguments = .ok (if files.contains (Path.ofText path) then 0 else 1) world) ∧
        (files.contains (Path.ofText path) = true →
          ReportsNodes files parser config invocation path nodeTypes asked (runOn files parser arguments)) :=
  ⟨typed_run_ends run, fun file start stop action => range_total run file start stop action,
    fun _ _ _ action installed => nodes_total run action installed⟩

theorem moved_call_run_is_total :
    let path : Text := "/a.py".toList
    let home : Text := "home".toList
    let source : Bytes := encode "f()".toList
    let files : FileTree := ⟨.directory [(home, .directory []), ("a.py".toList, .file source)], [home], .utf8⟩
    let root : SyntaxTree := .node ⟨"call", 0, 3, true, none⟩ []
    let parser : Parser := ⟨true, fun _ _ => root⟩
    let arguments : List Text := ["locate", path, "-t", "call", "--offset", "9"]
    ∃ world, runOn files parser arguments = .ok 0 world := by
  intro path home source files root parser arguments
  let types : List (Option Text) := [some "call".toList]
  let invocation : Invocation := ⟨.nodes path types (some (some 9)), false, none, none, none⟩
  let parsed : ParsedFile := ⟨.ofPath (decode source) path, .python, source, root⟩
  have storable : (FileEntry.file source).Sound := .file _ (by decide +kernel)
  have sound : files.Sound :=
    .directory _ (by decide +kernel) (by decide +kernel) (by simpa using ⟨FileEntry.empty_directory_sound, storable⟩)
  have loaded : loadConfig files invocation = .ok .standard := by
    have unnamed : configPath files invocation = .ok none := ok_of_option _ _ (by decide +kernel)
    rw [loadConfig, unnamed]
    rfl
  have led : files.at? (Path.ofText path) = .ok ⟨["a.py".toList], .file source⟩ := rfl
  have few : FewDigits files parser invocation .standard := by
    rintro _ _ _ enabled offset ⟨⟩ - (⟨⟨⟩⟩ | ⟨⟨⟩, -⟩) file listed nodes selected other cursor member
    have alone : file = Path.ofText path := by
      rw [FileTree.sourceFiles, led] at listed
      dsimp only at listed
      split at listed
      · exact List.mem_singleton.mp listed
      · cases listed
    have printed : (Path.ofText path).text = path := by decide +kernel
    rw [alone, printed] at selected
    have result : files.parse parser path none = .ok (some parsed) := rfl
    have chosen : files.selection parser ⟨.standard, types, some 9⟩ path = .ok [(parsed, .atRoot root)] :=
      FileTree.selection_leaf result [.text "call"] rfl rfl (by decide +kernel)
    cases selected.symm.trans chosen
    cases List.mem_singleton.mp member
    exact ⟨by decide +kernel, fun _ => by decide +kernel⟩
  have run : WellTypedRun files parser arguments invocation .standard :=
    { sound, accepted := rfl, loaded, typed := Config.standard_typed, output := by rintro _ ⟨⟩
      complete := ⟨by decide, by decide⟩, within := ⟨rfl, by rintro way entries names entry ⟨⟩⟩, few
      encodable := fun _ _ _ _ _ _ _ => ⟨Locale.utf8_is_plain _, Locale.utf8_is_plain _⟩ }
  exact ((well_typed_run_is_total files parser arguments invocation .standard run).2.2 path types _ rfl rfl).1

theorem long_path_and_dashes_escape :
    let path : Text := List.replicate 256 'b'
    let config : Text := "c.json".toList
    let files := FileTree.ofEntries [(config, .file (encode "\x7b\x7d".toList))]
    let parser : Parser := ⟨true, fun _ source => .lone source.length⟩
    let long : Invocation := ⟨.range path (some 0) none, false, some config, none, none⟩
    let dashed : Invocation := ⟨.range config none none, false, some config, none, none⟩
    (loadConfig files long = .ok .standard ∧ loadConfig files dashed = .ok .standard) ∧
      (readArguments ["offset", path, "0", "-c", config] = .ok long ∧ files.isFile (Path.ofText path) = false ∧
        ∃ world, runOn files parser ["offset", path, "0", "-c", config] = .error .nameTooLong world) ∧
      readArguments ["offset", "-c", config, config, "--", "--"] = .ok dashed ∧
        files.isFile (Path.ofText config) = true ∧
        ∃ world, runOn files parser ["offset", "-c", config, config, "--", "--"] = .error .wrongKind world := by
  intro path config files parser long dashed
  have loaded : ∀ invocation : Invocation, invocation.config = some config →
      loadConfig files invocation = .ok .standard := by
    rintro ⟨action, verbose, _, format, output⟩ ⟨⟩
    have steps : loadConfig files ⟨action, verbose, some config, format, output⟩ =
        (Config.decode (encode ['\x7b', '\x7d']) >>= fun text =>
          Config.document true text >>= Config.ofDocument config) := rfl
    rw [steps, Config.decode_encoded _ rfl]
    rfl
  exact ⟨⟨loaded long rfl, loaded dashed rfl⟩,
    ⟨rfl, by decide +kernel, Ending.of_escaped _ _ (by decide +kernel)⟩,
    rfl, by decide +kernel, Ending.of_escaped _ _ (by decide +kernel)⟩

end Command

end SourceLocator
