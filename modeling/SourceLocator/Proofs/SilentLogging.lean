import SourceLocator.Proofs.EmptiedFiles
import SourceLocator.Proofs.FileByFile
import SourceLocator.Proofs.LoadedConfig
import SourceLocator.Proofs.TotalRuns
import SourceLocator.Proofs.VerboseArguments

set_option autoImplicit false

namespace SourceLocator

namespace Config

def SameOutsideLogging (config other : Config) : Prop := ∀ name, name ≠ "logging" → config.part name = other.part name

namespace SameOutsideLogging

variable {config other : Config}

theorem refl (config : Config) : SameOutsideLogging config config := fun _ _ => rfl

theorem languages (same : SameOutsideLogging config other) : config.languages = other.languages := by
  rw [Config.languages, same "languages" (by decide), ← Config.languages]

theorem nodeTypes (same : SameOutsideLogging config other) (language : Text) :
    config.nodeTypes language = other.nodeTypes language := by
  rw [Config.nodeTypes, same "locate" (by decide), ← Config.nodeTypes]

theorem offset (same : SameOutsideLogging config other) : config.offset = other.offset := by
  rw [Config.offset, same "locate" (by decide), ← Config.offset]

theorem reporting (same : SameOutsideLogging config other) : config.reporting = other.reporting :=
  same "reporting" (by decide)

theorem displayLength (same : SameOutsideLogging config other) : config.displayLength = other.displayLength := by
  rw [Config.displayLength, same.reporting, ← Config.displayLength]

theorem overlaid (fields others : Fields Value)
    (same : ∀ name : String, name ≠ "logging" → fields.get? (.ofString name) = others.get? (.ofString name)) :
    SameOutsideLogging (overDefaults fields) (overDefaults others) := by
  intro name outside
  have merged : (Fields.merge defaultFields fields).get? (.ofString name) =
      (Fields.merge defaultFields others).get? (.ofString name) := by
    cases known : defaultFields.get? (.ofString name) with
    | none => rw [Fields.merged_get_new _ _ _ known, Fields.merged_get_new _ _ _ known, same name outside]
    | some old =>
        rw [Fields.merged_get _ _ _ old known, Fields.merged_get _ _ _ old known, Fields.laid, Fields.laid,
          same name outside]
  exact congrArg (fun given : Option Value => Except.ok (given.getD .emptyMapping)) merged

end SameOutsideLogging

end Config

def Query.withConfig (query : Query) (config : Config) : Query := { query with config }

namespace FileTree

variable {hidden : List Text → Bool} {tree other : FileTree} {config changed : Config}

theorem search_configured (path : Text) (nodeTypes : List (Option Text)) :
    tree.search path config nodeTypes none =
      config.offset >>= fun offset => tree.search path config nodeTypes (some (some offset)) := by
  rw [search]
  cases config.offset <;> rfl

theorem search_same (same : SameBut hidden tree other) (sameConfig : config.SameOutsideLogging changed) (path : Text)
    (nodeTypes : List (Option Text)) (offset : Option (Option Int)) :
    other.search path changed nodeTypes offset =
      (tree.search path config nodeTypes offset).map fun found => (found.1.withConfig changed, found.2) := by
  have given : ∀ offset : Option Int, other.search path changed nodeTypes (some offset) =
      (tree.search path config nodeTypes (some offset)).map fun found => (found.1.withConfig changed, found.2) := by
    intro offset
    rw [search, search, ← same.check_length, ← same.contains, ← sameConfig.languages]
    refine bind_carried_last _ _ _ _ fun _ => bind_carried_last _ _ _ _ fun _ => ?_
    split
    · rfl
    · refine bind_carried_last _ _ _ _ fun enabled => ?_
      rw [← same.walk]
      rfl
  cases offset with
  | some offset => exact given offset
  | none =>
      rw [search_configured, search_configured, ← sameConfig.offset]
      exact bind_carried_last _ _ _ _ fun offset => given (some offset)

theorem parse_same (same : SameBut hidden tree other) (parser : Parser) (path : Text) (language : Option Text)
    (seen : Unhidden hidden tree (Path.ofText path)) :
    tree.parse parser path language = other.parse parser path language := by
  unfold parse
  rw [same.read (Path.ofText path) seen]

theorem wanted_types_same (sameConfig : config.SameOutsideLogging changed) (query : Query)
    (asked : query.config = config) (language : Language) :
    wantedTypes query language = wantedTypes (query.withConfig changed) language := by
  rw [wantedTypes, wantedTypes, asked, sameConfig.nodeTypes]
  rfl

theorem locate_file_same (same : SameBut hidden tree other) (sameConfig : config.SameOutsideLogging changed)
    (parser : Parser) (query : Query) (asked : query.config = config) (path : Text)
    (seen : Unhidden hidden tree (Path.ofText path)) :
    tree.locateFile parser query path = other.locateFile parser (query.withConfig changed) path := by
  rw [locateFile, locateFile, ← parse_same same parser path none seen]
  simp only [← wanted_types_same sameConfig query asked]
  rfl

theorem locate_same (same : SameBut hidden tree other) (sameConfig : config.SameOutsideLogging changed)
    (parser : Parser) (path : Text) (nodeTypes : List (Option Text)) (offset : Option (Option Int))
    (seen : ∀ query sources source, tree.search path config nodeTypes offset = .ok (query, sources) →
      .ok source ∈ sources → Unhidden hidden tree (Path.ofText source.text)) :
    tree.locate parser path config nodeTypes offset = other.locate parser path changed nodeTypes offset := by
  rw [locate, locate, search_same same sameConfig]
  refine translated_same _ _ _ _ _ fun found searched => ?_
  obtain ⟨query, sources⟩ := found
  obtain ⟨-, _, _, -, -, rfl, -⟩ := (search_iff path query sources).mp searched
  refine congrArg Findings.collect (List.map_congr_left fun file listed => bind_same _ _ _ fun source given => ?_)
  obtain rfl := map_error_ok file _ source given
  exact locate_file_same same sameConfig parser _ rfl source.text (seen _ sources source searched listed)

theorem locate_range_same (same : SameBut hidden tree other) (path : Text) (extent : Extent)
    (seen : Unhidden hidden tree (Path.ofText path)) :
    tree.locateRange path extent = other.locateRange path extent := by
  have length := same.check_length (Path.ofText path)
  cases checked : tree.checkLength (Path.ofText path) with
  | error fault =>
      rw [locateRange, locateRange, ← length, checked]
      rfl
  | ok _ =>
      cases regular : tree.isFile (Path.ofText path) with
      | false =>
          rw [Command.locate_range_absent path extent checked regular,
            Command.locate_range_absent path extent (length ▸ checked) (same.is_file _ ▸ regular)]
      | true =>
          obtain ⟨content, stored⟩ := tree.read_regular _ regular
          rw [tree.locate_range_stored path content extent stored,
            other.locate_range_stored path content extent (same.read _ seen ▸ stored)]

end FileTree

namespace Command

open FileTree (SameBut Unhidden)

inductive Action.Reads (files : FileTree) (config : Config) : Action → Path → Prop where
  | range (file : Text) (start stop : Option Int) : Reads files config (.range file start stop) (Path.ofText file)
  | source (path : Text) (nodeTypes : List (Option Text)) (offset : Option (Option Int)) (query : Query)
      (sources : List (Except Fault Path)) (source : Path)
      (searched : files.search path config nodeTypes offset = .ok (query, sources)) (listed : .ok source ∈ sources) :
      Reads files config (.nodes path nodeTypes offset) (Path.ofText source.text)

structure SameTask (invocation other : Invocation) : Prop where
  action : invocation.action = other.action
  format : invocation.format = other.format
  output : invocation.output = other.output

structure Agree (related : FileTree → FileTree → Prop) (ending other : Ending) : Prop where
  code : ending.code? = other.code?
  escaped : ending.escaped? = other.escaped?
  stdout : ending.world.stdout = other.world.stdout
  files : related ending.world.files other.world.files

inductive SameWrites (files others : FileTree) : FileTree → FileTree → Prop where
  | nothing : SameWrites files others files others
  | report (path : Path) (content : Bytes) (after changed : FileTree) (written : files.write path content = .ok after)
      (rewritten : others.write path content = .ok changed) : SameWrites files others after changed

theorem same_writes_eq (files after changed : FileTree) (writes : SameWrites files files after changed) :
    after = changed := by
  cases writes with
  | nothing => rfl
  | report path content _ _ written rewritten => exact Except.ok.inj (written.symm.trans rewritten)

section Runs

variable {hidden : List Text → Bool} {files others : FileTree} {parser : Parser} {invocation other : Invocation}
  {config changed : Config} {threshold level : Level}

theorem find_range_same (same : SameBut hidden files others) (file : Text) (start stop : Option Int)
    (seen : Unhidden hidden files (Path.ofText file)) :
    findRange files file start stop = findRange others file start stop := by
  cases start with
  | some start => rw [findRange, findRange, FileTree.locate_range_same same file _ seen]
  | none => rw [findRange, findRange, same.check_length, same.is_file]

theorem find_locations_same (same : SameBut hidden files others) (sameConfig : config.SameOutsideLogging changed)
    (action : Action) (unread : ∀ path, action.Reads files config path → Unhidden hidden files path) :
    findLocations files parser config action = findLocations others parser changed action := by
  cases action with
  | nodes path nodeTypes offset =>
      rw [findLocations, findLocations, FileTree.locate_same same sameConfig]
      intro query sources source searched listed
      exact unread _ (.source path nodeTypes offset query sources source searched listed)
  | range file start stop =>
      rw [findLocations, findLocations, find_range_same same file start stop (unread _ (.range file start stop))]

theorem render_same (sameConfig : config.SameOutsideLogging changed) (format : Option Text)
    (locations : List Location) : render config format locations = render changed format locations := by
  rw [render, render, wantsJson, wantsJson, sameConfig.reporting, sameConfig.displayLength]

theorem refused_agree (failure : Failure) :
    Agree (SameWrites files others) (refused files threshold failure) (refused others level failure) := by
  rw [refused, refused]
  split <;> exact ⟨rfl, rfl, rfl, .nothing⟩

theorem finish_same (sameConfig : config.SameOutsideLogging changed) (task : SameTask invocation other)
    (locations : List Location) : finish config invocation locations = finish changed other locations := by
  rw [finish, finish, task.format, task.output, render_same sameConfig]

theorem saving_agree (same : SameBut hidden files others) (path : Path) (encoded : Except Fault Bytes)
    (log complaints : Text) :
    Agree (SameWrites files others) (saving files log path encoded) (saving others complaints path encoded) := by
  cases encoded with
  | ok content =>
      rw [saving, saving]
      obtain ⟨fault, failed, refailed⟩ | ⟨after, changed, written, rewritten⟩ := same.write_ends path content
      · rw [failed, refailed]
        exact ⟨rfl, rfl, rfl, .nothing⟩
      · rw [written, rewritten]
        exact ⟨rfl, rfl, rfl, .report _ _ after changed written rewritten⟩
  | error refusal =>
      rw [saving, saving]
      obtain ⟨fault, failed, refailed⟩ | ⟨after, changed, opened, reopened⟩ := same.write_ends path []
      · rw [failed, refailed]
        exact ⟨rfl, rfl, rfl, .nothing⟩
      · rw [opened, reopened]
        exact ⟨rfl, rfl, rfl, .report _ _ after changed opened reopened⟩

theorem delivery_agree (same : SameBut hidden files others) (output : Option Text) (report log complaints : Text) :
    Agree (SameWrites files others) (delivery files log output report) (delivery others complaints output report) := by
  rw [delivery, delivery, ← same.locale]
  split
  · split <;> exact ⟨rfl, rfl, rfl, .nothing⟩
  · exact saving_agree same _ _ log complaints

theorem finish_agree (same : SameBut hidden files others) (locations : List Location) (log complaints : Text) :
    Agree (SameWrites files others) ((finish config invocation locations).run ⟨files, [], log⟩)
      ((finish config invocation locations).run ⟨others, [], complaints⟩) := by
  cases rendered : render config invocation.format locations with
  | error fault =>
      rw [finish_unrendered fault rendered, finish_unrendered fault rendered]
      exact ⟨rfl, rfl, rfl, .nothing⟩
  | ok report =>
      rw [finish_rendered report log rendered, finish_rendered report complaints rendered]
      exact delivery_agree same invocation.output report log complaints

theorem perform_agree (same : SameBut hidden files others) (sameConfig : config.SameOutsideLogging changed)
    (task : SameTask invocation other) (settled : settings files invocation = .ok (config, threshold))
    (resettled : settings others other = .ok (changed, level))
    (unread : ∀ path, invocation.action.Reads files config path → Unhidden hidden files path) :
    Agree (SameWrites files others) ((perform parser invocation).run (.ofFiles files))
      ((perform parser other).run (.ofFiles others)) := by
  have foundSame : findLocations files parser config invocation.action =
      findLocations others parser changed invocation.action :=
    find_locations_same same sameConfig invocation.action unread
  by_cases parses : Parses parser invocation.action
  · have otherParses : Parses parser other.action := task.action ▸ parses
    cases found : findLocations files parser config invocation.action with
    | error failure =>
        have otherFound := task.action ▸ foundSame.symm.trans found
        rw [perform_settled settled, proceed_parses parses, found, report_refuses, perform_settled resettled,
          proceed_parses otherParses, otherFound, report_refuses]
        exact refused_agree failure
    | ok value =>
        obtain ⟨locations, log⟩ := value
        have otherFound := task.action ▸ foundSame.symm.trans found
        rw [perform_located ⟨settled, parses, found⟩, perform_located ⟨resettled, otherParses, otherFound⟩,
          ← finish_same sameConfig task]
        exact finish_agree same locations _ _
  · rw [perform_settled settled, proceed_unparsed parses, perform_settled resettled,
      proceed_unparsed (task.action ▸ parses)]
    exact ⟨rfl, rfl, rfl, .nothing⟩

theorem loud_settled (settled : settings files invocation = .ok (config, threshold)) :
    settings files invocation.loud = .ok (config, .debug) := by
  obtain ⟨loaded, read, rest⟩ := bind_ok _ _ _ settled
  obtain ⟨_, _, same⟩ := bind_ok _ _ _ rest
  cases same
  have again : loadConfig files invocation.loud = .ok config := read
  rw [settings, again]
  rfl

theorem perform_agree_here (sameConfig : config.SameOutsideLogging changed) (task : SameTask invocation other)
    (settled : settings files invocation = .ok (config, threshold))
    (resettled : settings files other = .ok (changed, level)) :
    Agree Eq ((perform parser invocation).run (.ofFiles files)) ((perform parser other).run (.ofFiles files)) := by
  have agree : Agree (SameWrites files files) ((perform parser invocation).run (.ofFiles files))
      ((perform parser other).run (.ofFiles files)) :=
    perform_agree (rfl : SameBut (fun _ => false) files files) sameConfig task settled resettled fun _ _ _ _ _ => rfl
  exact { agree with files := same_writes_eq files _ _ agree.files }

end Runs

-- Whether records are asked for, by the flag or by a level, is seen on the stream for errors only. Configurations that
-- differ in the part on logging are told apart by nothing else, be they different files or different contents
-- of a file that is not looked into for locations.
theorem logging_is_silent (files : FileTree) (parser : Parser) (arguments : List Text) (invocation : Invocation)
    (config : Config) (threshold : Level) (accepted : readArguments arguments = .ok invocation)
    (settled : settings files invocation = .ok (config, threshold)) :
    (∀ name ∈ verboseFlag.names, readArguments (name.toList :: arguments) = .ok invocation.loud) ∧
    (∀ louder, readArguments louder = .ok invocation.loud →
      Agree Eq (runOn files parser arguments) (runOn files parser louder)) ∧
    ∀ (further : List Text) (other : Invocation) (changed : Config) (level : Level),
      readArguments further = .ok other → SameTask invocation other → config.SameOutsideLogging changed →
      (settings files other = .ok (changed, level) →
        Agree Eq (runOn files parser arguments) (runOn files parser further)) ∧
      ∀ (hidden : List Text → Bool) (others : FileTree), SameBut hidden files others →
        (∀ path, invocation.action.Reads files config path → Unhidden hidden files path) →
        settings others other = .ok (changed, level) →
        Agree (SameWrites files others) (runOn files parser arguments) (runOn others parser further) := by
  rw [run_on_accepted files parser arguments invocation accepted]
  refine ⟨fun name named => ?_, fun louder loudly => ?_, fun further other changed level read task sameConfig => ?_⟩
  · rw [verbose_read name named, accepted]
    rfl
  · rw [run_on_accepted files parser louder _ loudly]
    exact perform_agree_here (.refl config) ⟨rfl, rfl, rfl⟩ settled (loud_settled settled)
  · constructor
    · intro resettled
      rw [run_on_accepted files parser further other read]
      exact perform_agree_here sameConfig task settled resettled
    · intro hidden others same unread resettled
      rw [run_on_accepted others parser further other read]
      exact perform_agree same sameConfig task settled resettled unread

def tellsLevel (level : String) : Json → Bool
  | .object [(part, .object [(setting, .string value)])] =>
    part == .ofString "logging" && setting == .ofString "level" && value == .ofString level
  | _ => false

def levelFields (level : String) : Fields Value :=
  [(.ofString "logging", Config.mappingOf [("level", .text level)])]

theorem level_document (path : Text) (level : String) (json : Json) (tells : tellsLevel level json = true) :
    Config.ofDocument path (.ofJson json) = .ok (.overDefaults (levelFields level)) := by
  unfold tellsLevel at tells
  split at tells
  · simp only [Bool.and_eq_true, beq_iff_eq] at tells
    obtain ⟨⟨rfl, rfl⟩, rfl⟩ := tells
    rfl
  · cases tells

theorem level_settled (files : FileTree) (invocation : Invocation) (path text : Text) (level : String)
    (threshold : Level) (named : invocation.config = some path) (filled : path ≠ [])
    (suffix : Config.isJsonPath (Path.ofText path) = true)
    (stored : files.read (Path.ofText path) = .ok (Utf8.encode text)) (lines : Config.unifyLineEnds text = text)
    (tells : (Json.readWithin Config.jsonLimits text).toOption.any (tellsLevel level) = true)
    (known : chooseLevel (.overDefaults (levelFields level)) invocation.verbose = .ok threshold) :
    settings files invocation = .ok (.overDefaults (levelFields level), threshold) := by
  obtain ⟨json, read, told⟩ := (Option.any_eq_true _ _).mp tells
  have given : configPath files invocation = .ok (some path) := by
    obtain ⟨c, rest, rfl⟩ := List.exists_cons_of_ne_nil filled
    rw [configPath, named]
    rfl
  have loaded : loadConfig files invocation = .ok (.overDefaults (levelFields level)) := by
    rw [loadConfig, given]
    change Config.load files (some path) = _
    rw [Config.load_named files path filled, Config.load_file files path _ text stored (Config.decode_encoded text lines), suffix,
      Config.document, if_pos rfl, ok_of_option _ json read]
    exact level_document path level json told
  rw [settings, loaded]
  change (chooseLevel (.overDefaults (levelFields level)) invocation.verbose >>= _) = _
  rw [known]
  rfl

theorem levels_same_outside (first second : String) :
    (Config.overDefaults (levelFields first)).SameOutsideLogging (.overDefaults (levelFields second)) := by
  have absent : ∀ level name : String, name ≠ "logging" → (levelFields level).get? (.ofString name) = none := by
    intro level name outside
    have apart : (Scalar.ofString "logging").same (.ofString name) = false := by
      refine Bool.eq_false_iff.mpr fun same => outside ?_
      exact (of_string_injective "logging" name ((Scalar.same_text_iff _ _).mp same)).symm
    rw [levelFields, Fields.get_cons, apart]
    rfl
  exact .overlaid _ _ fun name outside => (absent first name outside).trans (absent second name outside).symm

theorem range_outside_agrees_at_two_levels :
    let error : Text := "\x7b\"logging\": \x7b\"level\": \"error\"\x7d\x7d".toList
    let debug : Text := "\x7b\"logging\": \x7b\"level\": \"debug\"\x7d\x7d".toList
    let first : Text := "first.json".toList
    let second : Text := "second.json".toList
    let written : Text → FileTree := fun text => .ofEntries [(['a'], .file (Utf8.encode ['a', 'b'])),
      (first, .file (Utf8.encode text)), (second, .file (Utf8.encode debug))]
    let parser : Parser := ⟨true, fun _ source => .lone source.length⟩
    let quiet := runOn (written error) parser ["offset", "a", "5", "-c", first]
    (quiet.code? = some 0 ∧ quiet.world.stderr = []) ∧
      Agree Eq quiet (runOn (written error) parser ["-v", "offset", "a", "5", "-c", first]) ∧
      Agree Eq quiet (runOn (written error) parser ["offset", "a", "5", "-c", second]) ∧
      (runOn (written debug) parser ["offset", "a", "5", "-c", first]).world.stderr ≠ [] ∧
      Agree (SameWrites (written error) (written debug)) quiet
        (runOn (written debug) parser ["offset", "a", "5", "-c", first]) := by
  intro error debug first second written parser quiet
  let invocation : Text → Invocation := fun config => ⟨.range ['a'] (some 5) none, false, some config, none, none⟩
  have settled := level_settled (written error) (invocation first) first error "error" .error rfl (by decide)
    (by decide +kernel) rfl rfl (by decide +kernel) (ok_of_option _ _ (by decide +kernel))
  have settledSecond := level_settled (written error) (invocation second) second debug "debug" .debug rfl (by decide)
    (by decide +kernel) rfl rfl (by decide +kernel) (ok_of_option _ _ (by decide +kernel))
  have settledOther := level_settled (written debug) (invocation first) first debug "debug" .debug rfl (by decide)
    (by decide +kernel) rfl rfl (by decide +kernel) (ok_of_option _ _ (by decide +kernel))
  have sameOutside := levels_same_outside "error" "debug"
  obtain ⟨front, louder, others⟩ := logging_is_silent (written error) parser ["offset", "a", "5", "-c", first]
    (invocation first) _ .error rfl settled
  have alike : SameBut (fun way => way == [first]) (written error) (written debug) := by
    have roots : (written error).root.emptied (fun way => way == [first]) =
        (written debug).root.emptied fun way => way == [first] := by
      simp only [written, FileTree.ofEntries, FileEntry.emptied, FileEntry.emptiedEntries, beq_self_eq_true, if_true]
    exact congrArg (fun root => (⟨root, [], .utf8⟩ : FileTree)) roots
  refine ⟨⟨by decide +kernel, by decide +kernel⟩, louder _ (front "-v" (by decide)), ?_, by decide +kernel, ?_⟩
  · exact (others ["offset", "a", "5", "-c", second] (invocation second) _ .debug rfl ⟨rfl, rfl, rfl⟩ sameOutside).1
      settledSecond
  · refine (others ["offset", "a", "5", "-c", first] (invocation first) _ .debug rfl ⟨rfl, rfl, rfl⟩ sameOutside).2 _ _
      alike ?_ settledOther
    rintro path ⟨⟩ way content led
    have here : (written error).at? (Path.ofText ['a']) = .ok ⟨[['a']], .file (Utf8.encode ['a', 'b'])⟩ := rfl
    cases here.symm.trans led
    decide +kernel

end Command

end SourceLocator
