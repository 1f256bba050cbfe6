import SourceLocator.Proofs.FileWrites
import SourceLocator.Proofs.Outcomes
import SourceLocator.Proofs.RunCourses
import SourceLocator.Proofs.WrittenPlaces

set_option autoImplicit false

namespace SourceLocator

inductive PathFault : Fault → Prop where
  | missing : PathFault .missing
  | notDirectory : PathFault .notDirectory
  | isDirectory : PathFault .isDirectory
  | nameTooLong : PathFault .nameTooLong
  | zeroInPath : PathFault .zeroInPath

namespace FileEntry

theorem absence_fault (locale : Locale) (name : Text) : PathFault (absence locale name) := by
  unfold absence
  split
  · exact .nameTooLong
  · exact .missing

theorem follow_fault (locale : Locale) (passed : List (Text × FileEntry)) (here : FileEntry) (names : List Text)
    (fault : Fault) (fails : follow locale passed here names = .error fault) : PathFault fault := by
  induction names generalizing passed here with
  | nil => cases fails
  | cons name rest ih =>
      cases here with
      | file content =>
          cases fails
          exact .notDirectory
      | directory entries =>
          by_cases up : name = parentName
          · subst up
            cases passed with
            | cons last outer =>
                rw [follow_parent] at fails
                exact ih outer last.2 fails
            | nil =>
                rw [follow_top] at fails
                exact ih [] _ fails
          · cases listed : entries.lookup name with
            | none =>
                rw [follow_absent passed entries name up listed] at fails
                cases fails
                exact absence_fault locale name
            | some below =>
                rw [follow_name passed entries name below up listed] at fails
                exact ih _ below fails

end FileEntry

namespace FileTree

theorem at_fault (tree : FileTree) (path : Path) (fault : Fault) (fails : tree.at? path = .error fault) :
    PathFault fault := by
  unfold at? at fails
  split at fails
  · cases fails
    exact .zeroInPath
  · split at fails
    · cases fails
      exact .nameTooLong
    · exact FileEntry.follow_fault tree.locale [] tree.root (tree.names path) fault fails

theorem write_fault (tree : FileTree) (path : Path) (content : Bytes) (fault : Fault)
    (fails : tree.write path content = .error fault) : PathFault fault := by
  unfold write at fails
  split at fails
  · cases fails
  · cases fails
    exact .isDirectory
  · cases fails
    exact .zeroInPath
  · cases fails
    exact .nameTooLong
  · cases parent : tree.at? path.parent with
    | error other =>
        rw [parent] at fails
        cases fails
        exact at_fault tree path.parent fault parent
    | ok place =>
        rw [parent] at fails
        obtain ⟨way, entry⟩ := place
        cases entry <;> cases fails
        exact .notDirectory

end FileTree

namespace Command

inductive Stage where
  | loading
  | leveling
  | locating
  | formatting
  | writing
deriving DecidableEq, Repr

def Stage.isGuarded : Stage → Bool
  | .loading | .leveling | .locating => true
  | .formatting | .writing => false

def Meets (files : FileTree) (parser : Parser) (invocation : Invocation) : Stage → Fault → Prop
  | .loading, fault => loadConfig files invocation = .error fault
  | .leveling, fault => ∃ config, loadConfig files invocation = .ok config ∧
      chooseLevel config invocation.verbose = .error fault
  | .locating, fault => ∃ config threshold log, settings files invocation = .ok (config, threshold) ∧
      Parses parser invocation.action ∧ findLocations files parser config invocation.action = .error ⟨fault, log⟩
  | .formatting, fault => ∃ config threshold locations log,
      Located files parser invocation config threshold locations log ∧
        render config invocation.format locations = .error fault
  | .writing, fault => ∃ config threshold locations log report world,
      Located files parser invocation config threshold locations log ∧
        render config invocation.format locations = .ok report ∧
        delivery files (log.emitted threshold) invocation.output report = .error fault world

section Stages

variable {files : FileTree} {parser : Parser} {invocation : Invocation} {stage : Stage} {fault : Fault}

theorem refused_reports (threshold : Level) (log : Log) (reported : isReported fault = true) :
    refused files threshold ⟨fault, log⟩ = .ok 1 ⟨files, [], log.emitted threshold ++ errorLine fault.message⟩ := by
  rw [refused, reported]
  rfl

theorem guarded_fault_reported (meets : Meets files parser invocation stage fault)
    (guarded : stage.isGuarded = true) (reported : isReported fault = true) :
    ∃ records, (perform parser invocation).run (.ofFiles files) =
      .ok 1 ⟨files, [], records ++ errorLine fault.message⟩ := by
  cases stage with
  | loading =>
      have fails : settings files invocation = .error fault := by
        have meets : loadConfig files invocation = .error fault := meets
        rw [settings, meets]
        rfl
      exact ⟨_, by rw [perform_unsettled fault fails, Failure.ofFault, refused_reports _ _ reported]⟩
  | leveling =>
      obtain ⟨config, loaded, unknown⟩ := meets
      have fails : settings files invocation = .error fault := by
        have after : settings files invocation = do return (config, ← chooseLevel config invocation.verbose) := by
          rw [settings, loaded]
          rfl
        rw [after, unknown]
        rfl
      exact ⟨_, by rw [perform_unsettled fault fails, Failure.ofFault, refused_reports _ _ reported]⟩
  | locating =>
      obtain ⟨config, threshold, log, settled, parses, fails⟩ := meets
      exact ⟨_, by
        rw [perform_settled settled, proceed_parses parses, fails, report_refuses, refused_reports _ _ reported]⟩
  | formatting => cases guarded
  | writing => cases guarded

theorem delivery_leaves (records : Text) (output : Option Text) (report : Text) (world : World)
    (course : Delivery files records output report (.error fault world)) :
    ∃ after, world = ⟨after, [], records⟩ ∧ (fault ≠ .unencodable → after = files) := by
  cases course with
  | unprinted toStdout foreign => exact ⟨files, rfl, fun _ => rfl⟩
  | opened path after toFile foreign written => exact ⟨after, rfl, fun encodable => absurd rfl encodable⟩
  | unopened path content fault toFile fails => exact ⟨files, rfl, fun _ => rfl⟩

theorem unguarded_fault_escapes (meets : Meets files parser invocation stage fault)
    (unguarded : stage.isGuarded = false) :
    ∃ after records, (perform parser invocation).run (.ofFiles files) = .error fault ⟨after, [], records⟩ ∧
      (fault ≠ .unencodable → after = files) := by
  cases stage with
  | loading => cases unguarded
  | leveling => cases unguarded
  | locating => cases unguarded
  | formatting =>
      obtain ⟨config, threshold, locations, log, located, fails⟩ := meets
      exact ⟨files, _, by rw [perform_located located, finish_unrendered fault fails], fun _ => rfl⟩
  | writing =>
      obtain ⟨config, threshold, locations, log, report, world, located, rendered, fails⟩ := meets
      have course := delivery_course files (log.emitted threshold) invocation.output report
      rw [fails] at course
      obtain ⟨after, rfl, kept⟩ := delivery_leaves _ _ report world course
      refine ⟨after, log.emitted threshold, ?_, kept⟩
      rw [perform_located located, finish_rendered report _ rendered, fails]

theorem refused_escape (threshold : Level) (failure : Failure) (world : World)
    (escapes : refused files threshold failure = .error fault world) : isReported fault = false := by
  unfold refused at escapes
  split at escapes
  · cases escapes
  · rename_i notReported
    cases escapes
    simpa using notReported

theorem escape_is_late (world : World) (reported : isReported fault = true)
    (escapes : (perform parser invocation).run (.ofFiles files) = .error fault world) :
    ∃ stage, stage.isGuarded = false ∧ Meets files parser invocation stage fault := by
  have course := perform_course files parser invocation
  generalize (perform parser invocation).run (.ofFiles files) = ending at course escapes
  have refusal : ∀ threshold failure, refused files threshold failure ≠ .error fault world := by
    intro threshold failure same
    rw [refused_escape threshold failure world same] at reported
    cases reported
  cases course with
  | unsettled other fails => exact absurd escapes (refusal _ _)
  | unparsed config threshold settled noParser => cases escapes
  | unlocated config threshold failure settled parses fails => exact absurd escapes (refusal _ _)
  | unrendered config threshold locations log other located fails =>
      cases escapes
      exact ⟨.formatting, rfl, config, threshold, locations, log, located, fails⟩
  | rendered config threshold locations log report located rendered =>
      exact ⟨.writing, rfl, config, threshold, locations, log, report, world, located, rendered, escapes⟩

theorem delivery_fault (records : Text) (output : Option Text) (report : Text) (world : World)
    (course : Delivery files records output report (.error fault world)) :
    PathFault fault ∨ fault = .unencodable ∧ files.locale.isPlain report = false := by
  cases course with
  | unprinted toStdout foreign => exact .inr ⟨rfl, foreign⟩
  | opened path after toFile foreign written => exact .inr ⟨rfl, foreign⟩
  | unopened path content _ toFile fails => exact .inl (files.write_fault _ content fault fails)

theorem wants_json_fault (config : Config) (format : Option Text) (fails : wantsJson config format = .error fault) :
    fault = .notMapping := by
  have fieldFault : ∀ (value : Value) (name : Text) (standard : Value) (other : Fault),
      value.fieldD name standard = .error other → other = .notMapping := by
    intro value name standard other fails
    unfold Value.fieldD Value.field? at fails
    cases mapping : value.fields? with
    | some fields =>
        rw [mapping] at fails
        cases fails
    | none =>
        rw [mapping] at fails
        cases fails
        rfl
  unfold wantsJson at fails
  cases chosen : nonEmpty? format with
  | some format =>
      rw [chosen] at fails
      cases fails
  | none =>
      rw [chosen] at fails
      cases reporting : config.reporting with
      | error other =>
          rw [reporting] at fails
          cases fails
          exact fieldFault _ _ _ fault reporting
      | ok mapping =>
          rw [reporting] at fails
          change (mapping.fieldD "format" (.text "text") >>= _) = _ at fails
          cases named : mapping.fieldD "format" (.text "text") with
          | error other =>
              rw [named] at fails
              cases fails
              exact fieldFault _ _ _ fault named
          | ok setting =>
              rw [named] at fails
              cases setting <;> cases fails

theorem render_fault (config : Config) (format : Option Text) (locations : List Location)
    (fails : render config format locations = .error fault) (reported : isReported fault = true) :
    wantsJson config format = .ok true ∧ fault = .unwritable ∧
        (locations.flatMap Report.numbers).all DigitBound.standard.admits = false ∨
      wantsJson config format = .ok false ∧ (config.displayLength = .error fault ∨
        ∃ length, Report.writeText .standard length locations = .error fault) := by
  unfold render at fails
  cases wants : wantsJson config format with
  | error other =>
      rw [wants] at fails
      cases fails
      rw [wants_json_fault config format wants] at reported
      cases reported
  | ok isJson =>
      rw [wants] at fails
      cases isJson with
      | true =>
          change Report.writeJson .standard locations = _ at fails
          rw [Report.writeJson, DigitBound.write] at fails
          split at fails
          · cases fails
          · rename_i unwritable
            cases fails
            exact .inl ⟨rfl, rfl, by simpa using unwritable⟩
      | false =>
          change (config.displayLength >>= fun length => Report.writeText .standard length locations) = _ at fails
          cases measured : config.displayLength with
          | ok length =>
              rw [measured] at fails
              exact .inr ⟨rfl, .inr ⟨length, fails⟩⟩
          | error other =>
              rw [measured] at fails
              cases fails
              exact .inr ⟨rfl, .inl rfl⟩

theorem unwritten_text (config : Config) (threshold : Level) (locations : List Location) (log : Log)
    (located : Located files parser invocation config threshold locations log) (length : Int)
    (fails : Report.writeText .standard length locations = .error fault) : fault = .unwritable ∧ ¬ files.Sound := by
  constructor
  · rw [Report.write_text_writes, DigitBound.write] at fails
    split at fails
    · cases fails
    · exact (Except.error.inj fails).symm
  · intro sound
    have written := found_text_written files sound parser config invocation.action locations log located.found length
    cases fails.symm.trans written

end Stages

-- Up to locating, every fault of the reported kinds is said and ends the run. In making and writing the
-- report the same faults get out: those are the integers that the report cannot hold, a display length that
-- is no integer, an output file without a directory or with a zero in its path, and a report that cannot be
-- encoded. Only the last of them leaves something behind, which is the output file.
theorem reported_until_located (files : FileTree) (parser : Parser) (arguments : List Text) (invocation : Invocation)
    (accepted : readArguments arguments = .ok invocation) :
    (∀ stage fault, Meets files parser invocation stage fault → isReported fault = true →
        if stage.isGuarded then
          ∃ records, runOn files parser arguments = .ok 1 ⟨files, [], records ++ errorLine fault.message⟩
        else ∃ after records, runOn files parser arguments = .error fault ⟨after, [], records⟩ ∧
          (fault ≠ .unencodable → after = files)) ∧
      (∀ fault world, runOn files parser arguments = .error fault world → isReported fault = true →
        ∃ stage, stage.isGuarded = false ∧ Meets files parser invocation stage fault) ∧
      (∀ fault, Meets files parser invocation .formatting fault → isReported fault = true →
        ∃ config threshold locations log, Located files parser invocation config threshold locations log ∧
          (wantsJson config invocation.format = .ok true ∧ fault = .unwritable ∧
              (locations.flatMap Report.numbers).all DigitBound.standard.admits = false ∨
            wantsJson config invocation.format = .ok false ∧
              (config.displayLength = .error fault ∨ fault = .unwritable ∧ ¬ files.Sound))) ∧
      ∀ fault, Meets files parser invocation .writing fault → isReported fault = true →
        fault = .missing ∨ fault = .zeroInPath ∨ fault = .unencodable ∧
          ∃ config threshold locations log report, Located files parser invocation config threshold locations log ∧
            render config invocation.format locations = .ok report ∧ files.locale.isPlain report = false := by
  rw [run_on_accepted files parser arguments invocation accepted]
  refine ⟨?_, ?_, ?_, ?_⟩
  · intro stage fault meets reported
    cases guarded : stage.isGuarded with
    | true => exact guarded_fault_reported meets guarded reported
    | false => exact unguarded_fault_escapes meets guarded
  · intro fault world escapes reported
    exact escape_is_late world reported escapes
  · rintro fault ⟨config, threshold, locations, log, located, fails⟩ reported
    refine ⟨config, threshold, locations, log, located, ?_⟩
    rcases render_fault config _ locations fails reported with json | ⟨text, unmeasured | ⟨length, unwritten⟩⟩
    · exact .inl json
    · exact .inr ⟨text, .inl unmeasured⟩
    · exact .inr ⟨text, .inr (unwritten_text config threshold locations log located length unwritten)⟩
  · rintro fault ⟨config, threshold, locations, log, report, world, located, rendered, fails⟩ reported
    have course := delivery_course files (log.emitted threshold) invocation.output report
    rw [fails] at course
    rcases delivery_fault _ _ report world course with inPath | ⟨unencodable, foreign⟩
    · cases inPath with
      | missing => exact .inl rfl
      | zeroInPath => exact .inr (.inl rfl)
      | notDirectory => cases reported
      | isDirectory => cases reported
      | nameTooLong => cases reported
    · exact .inr (.inr ⟨unencodable, config, threshold, locations, log, report, located, rendered, foreign⟩)

theorem listed_config_is_reported :
    let files := FileTree.ofEntries [(['a'], .file []), ("c.json".toList, .file (Utf8.encode "[]".toList))]
    let parser : Parser := ⟨false, fun _ source => .lone source.length⟩
    let arguments : List Text := ["offset", ['a'], ['0'], "-c", "c.json"]
    ∃ records, runOn files parser arguments =
      .ok 1 ⟨files, [], records ++ errorLine "Config file must contain a mapping: c.json".toList⟩ := by
  intro files parser arguments
  let invocation : Invocation := ⟨.range ['a'] (some 0) none, false, some "c.json".toList, none, none⟩
  have accepted : readArguments arguments = .ok invocation := rfl
  have meets : Meets files parser invocation .loading (.configNotMapping "c.json".toList) :=
    error_of_option _ _ (by decide +kernel)
  exact (reported_until_located files parser arguments invocation accepted).1 .loading _ meets rfl

theorem late_faults_escape :
    let source : Text × FileEntry := (['a'], .file [])
    let config : Text × FileEntry := ("locscan.json".toList,
      .file (Utf8.encode "\x7b\"reporting\": \x7b\"display_text_max_length\": \"x\"\x7d\x7d".toList))
    let parser : Parser := ⟨false, fun _ source => .lone source.length⟩
    (∃ world, runOn (.ofEntries [source, config]) parser ["offset".toList, ['a'], ['0']] =
        .error (.notInteger "'x'".toList 10) world) ∧
      ∃ world, runOn (.ofEntries [source]) parser ["offset".toList, ['a'], ['0'], "-o".toList, "b/c".toList] =
        .error .missing world := by
  intro source config parser
  exact ⟨Ending.of_escaped _ _ (by decide +kernel), Ending.of_escaped _ _ (by decide +kernel)⟩

end Command

end SourceLocator
