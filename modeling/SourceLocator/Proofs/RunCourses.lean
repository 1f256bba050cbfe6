import SourceLocator.Command

set_option autoImplicit false

namespace SourceLocator.Command

abbrev Ending := EStateM.Result Fault World Nat

def runOn (files : FileTree) (parser : Parser) (arguments : List Text) : Ending :=
  (execute parser arguments).run (.ofFiles files)

def Ending.code? : Ending → Option Nat
  | .ok code _ => some code
  | .error _ _ => none

def Ending.escaped? : Ending → Option Fault
  | .ok _ _ => none
  | .error fault _ => some fault

def Ending.world : Ending → World
  | .ok _ world => world
  | .error _ world => world

theorem Ending.of_code (ending : Ending) (code : Nat) (ends : ending.code? = some code) :
    ∃ world, ending = .ok code world := by
  cases ending with
  | ok other world =>
      cases ends
      exact ⟨world, rfl⟩
  | error fault world => cases ends

theorem Ending.of_escaped (ending : Ending) (fault : Fault) (escapes : ending.escaped? = some fault) :
    ∃ world, ending = .error fault world := by
  cases ending with
  | ok code world => cases escapes
  | error other world =>
      cases escapes
      exact ⟨world, rfl⟩

def refused (files : FileTree) (threshold : Level) (failure : Failure) : Ending :=
  let records := failure.log.emitted threshold
  if isReported failure.fault then .ok 1 ⟨files, [], records ++ errorLine failure.fault.message⟩
  else .error failure.fault ⟨files, [], records⟩

def Parses (parser : Parser) (action : Action) : Prop := (needsParser action && !parser.installed) = false

structure Located (files : FileTree) (parser : Parser) (invocation : Invocation) (config : Config)
    (threshold : Level) (locations : List Location) (log : Log) : Prop where
  settled : settings files invocation = .ok (config, threshold)
  parses : Parses parser invocation.action
  found : findLocations files parser config invocation.action = .ok (locations, log)

def saving (files : FileTree) (records : Text) (path : Path) (encoded : Except Fault Bytes) : Ending :=
  match encoded with
  | .ok content =>
    match files.write path content with
    | .ok after => .ok 0 ⟨after, [], records⟩
    | .error fault => .error fault ⟨files, [], records⟩
  | .error refusal =>
    match files.write path [] with
    | .ok after => .error refusal ⟨after, [], records⟩
    | .error fault => .error fault ⟨files, [], records⟩

def delivery (files : FileTree) (records : Text) (output : Option Text) (report : Text) : Ending :=
  match nonEmpty? output with
  | none =>
    if files.locale.prints report then .ok 0 ⟨files, report, records⟩
    else .error .unencodable ⟨files, [], records⟩
  | some path => saving files records (Path.ofText path) (files.locale.encode report)

inductive Delivery (files : FileTree) (records : Text) (output : Option Text) (report : Text) : Ending → Prop where
  | printed (toStdout : nonEmpty? output = none) : Delivery files records output report (.ok 0 ⟨files, report, records⟩)
  | unprinted (toStdout : nonEmpty? output = none) (foreign : files.locale.isPlain report = false) :
      Delivery files records output report (.error .unencodable ⟨files, [], records⟩)
  | saved (path : Text) (after : FileTree) (toFile : nonEmpty? output = some path)
      (written : files.write (Path.ofText path) (Utf8.encode report) = .ok after) :
      Delivery files records output report (.ok 0 ⟨after, [], records⟩)
  | opened (path : Text) (after : FileTree) (toFile : nonEmpty? output = some path)
      (foreign : files.locale.isPlain report = false) (written : files.write (Path.ofText path) [] = .ok after) :
      Delivery files records output report (.error .unencodable ⟨after, [], records⟩)
  | unopened (path : Text) (content : Bytes) (fault : Fault) (toFile : nonEmpty? output = some path)
      (fails : files.write (Path.ofText path) content = .error fault) :
      Delivery files records output report (.error fault ⟨files, [], records⟩)

theorem saving_course (files : FileTree) (records : Text) (output : Option Text) (report path : Text)
    (toFile : nonEmpty? output = some path) :
    Delivery files records output report
      (saving files records (Path.ofText path) (files.locale.encode report)) := by
  rw [Locale.encode]
  cases plain : files.locale.isPlain report with
  | true =>
      rw [if_pos rfl, saving]
      cases written : files.write (Path.ofText path) (Utf8.encode report) with
      | ok after => exact .saved path after toFile written
      | error fault => exact .unopened path _ fault toFile written
  | false =>
      rw [if_neg Bool.false_ne_true, saving]
      cases written : files.write (Path.ofText path) [] with
      | ok after => exact .opened path after toFile plain written
      | error fault => exact .unopened path [] fault toFile written

theorem delivery_course (files : FileTree) (records : Text) (output : Option Text) (report : Text) :
    Delivery files records output report (delivery files records output report) := by
  unfold delivery
  split
  · rename_i toStdout
    split
    · exact .printed toStdout
    · rename_i unprinted
      rw [Locale.prints, Bool.or_eq_true, not_or] at unprinted
      exact .unprinted toStdout (Bool.eq_false_iff.mpr unprinted.2)
  · rename_i path toFile
    exact saving_course files records output report path toFile

inductive Course (files : FileTree) (parser : Parser) (invocation : Invocation) : Ending → Prop where
  | unsettled (fault : Fault) (fails : settings files invocation = .error fault) :
      Course files parser invocation (refused files .critical (.ofFault fault))
  | unparsed (config : Config) (threshold : Level) (settled : settings files invocation = .ok (config, threshold))
      (noParser : ¬ Parses parser invocation.action) :
      Course files parser invocation
        (.ok 1 ⟨files, [], Log.emitted threshold [noParserRecord] ++ errorLine noParserMessage⟩)
  | unlocated (config : Config) (threshold : Level) (failure : Failure)
      (settled : settings files invocation = .ok (config, threshold)) (parses : Parses parser invocation.action)
      (fails : findLocations files parser config invocation.action = .error failure) :
      Course files parser invocation (refused files threshold failure)
  | unrendered (config : Config) (threshold : Level) (locations : List Location) (log : Log) (fault : Fault)
      (located : Located files parser invocation config threshold locations log)
      (fails : render config invocation.format locations = .error fault) :
      Course files parser invocation (.error fault ⟨files, [], log.emitted threshold⟩)
  | rendered (config : Config) (threshold : Level) (locations : List Location) (log : Log) (report : Text)
      (located : Located files parser invocation config threshold locations log)
      (rendered : render config invocation.format locations = .ok report) :
      Course files parser invocation (delivery files (log.emitted threshold) invocation.output report)

section Steps

variable {files : FileTree} {parser : Parser} {invocation : Invocation} {config : Config} {threshold : Level}
  {locations : List Location} {log : Log}

theorem report_refuses {α : Type} (failure : Failure) (next : α → Run Nat) :
    (report threshold (.error failure) next).run (.ofFiles files) = refused files threshold failure := by
  obtain ⟨fault, log⟩ := failure
  unfold report refused
  cases reported : isReported fault <;> simp [reported] <;> rfl

theorem perform_begins : (perform parser invocation).run (.ofFiles files) =
    (report .critical ((settings files invocation).mapError .ofFault) fun settled =>
      proceed parser invocation settled.1 settled.2).run (.ofFiles files) := rfl

theorem perform_unsettled (fault : Fault) (fails : settings files invocation = .error fault) :
    (perform parser invocation).run (.ofFiles files) = refused files .critical (.ofFault fault) := by
  rw [perform_begins, fails]
  exact report_refuses (.ofFault fault) _

theorem perform_settled (settled : settings files invocation = .ok (config, threshold)) :
    (perform parser invocation).run (.ofFiles files) =
      (proceed parser invocation config threshold).run (.ofFiles files) := by
  rw [perform_begins, settled]
  rfl

theorem proceed_unparsed (noParser : ¬ Parses parser invocation.action) :
    (proceed parser invocation config threshold).run (.ofFiles files) =
      .ok 1 ⟨files, [], Log.emitted threshold [noParserRecord] ++ errorLine noParserMessage⟩ := by
  have missing : (needsParser invocation.action && !parser.installed) = true := Bool.not_eq_false _ ▸ noParser
  rw [proceed, missing]
  rfl

theorem proceed_parses (parses : Parses parser invocation.action) :
    (proceed parser invocation config threshold).run (.ofFiles files) =
      (report threshold (findLocations files parser config invocation.action) fun (locations, log) => do
        complain (log.emitted threshold)
        finish config invocation locations).run (.ofFiles files) := by
  have present : (needsParser invocation.action && !parser.installed) = false := parses
  rw [proceed, present]
  rfl

theorem perform_located (located : Located files parser invocation config threshold locations log) :
    (perform parser invocation).run (.ofFiles files) =
      (finish config invocation locations).run ⟨files, [], log.emitted threshold⟩ := by
  rw [perform_settled located.settled, proceed_parses located.parses, located.found]
  rfl

theorem replace_run (path : Path) (content : Bytes) (world : World) :
    (replace path content).run world =
      match world.files.write path content with
      | .ok files => .ok () { world with files }
      | .error fault => .error fault world := by
  have steps : (replace path content).run world =
      (do
        let files ← MonadExcept.ofExcept (world.files.write path content)
        modify fun world => { world with files } : Run Unit).run world := rfl
  rw [steps]
  cases world.files.write path content <;> rfl

theorem then_run {α : Type} (first : Run Unit) (next : Run α) (world : World) :
    (do first; next : Run α).run world =
      match first.run world with
      | .ok _ world => next.run world
      | .error fault world => .error fault world := by
  change EStateM.bind first (fun _ => next) world = _
  unfold EStateM.bind EStateM.run
  cases first world <;> rfl

theorem save_run (path : Path) (text records : Text) :
    (do save path text; return 0 : Run Nat).run ⟨files, [], records⟩ =
      saving files records path (files.locale.encode text) := by
  have begins : (save path text).run ⟨files, [], records⟩ =
      (saveEncoded path (files.locale.encode text)).run ⟨files, [], records⟩ := rfl
  rw [then_run, begins]
  cases files.locale.encode text with
  | ok content =>
      rw [saveEncoded, replace_run, saving]
      cases files.write path content <;> rfl
  | error fault =>
      rw [saveEncoded, then_run, replace_run, saving]
      cases files.write path [] <;> rfl

theorem print_run (text records : Text) :
    (do print text; return 0 : Run Nat).run ⟨files, [], records⟩ =
      if files.locale.prints text then .ok 0 ⟨files, text, records⟩
      else .error .unencodable ⟨files, [], records⟩ := by
  have begins : (print text).run ⟨files, [], records⟩ =
      (do
        if !files.locale.prints text then throw .unencodable
        modify fun world => { world with stdout := world.stdout ++ text } : Run Unit).run ⟨files, [], records⟩ := rfl
  rw [then_run, begins]
  cases files.locale.prints text <;> rfl

theorem deliver_run (output : Option Text) (report records : Text) :
    (do deliver output report; return 0 : Run Nat).run ⟨files, [], records⟩ =
      delivery files records output report := by
  rw [deliver, delivery]
  cases nonEmpty? output with
  | none => exact print_run report records
  | some path => exact save_run (Path.ofText path) report records

theorem finish_unrendered (fault : Fault) (fails : render config invocation.format locations = .error fault)
    (world : World) : (finish config invocation locations).run world = .error fault world := by
  rw [finish, fails]
  rfl

theorem finish_rendered (report records : Text) (rendered : render config invocation.format locations = .ok report) :
    (finish config invocation locations).run ⟨files, [], records⟩ =
      delivery files records invocation.output report := by
  rw [finish, rendered, ← deliver_run]
  rfl

theorem located_course (located : Located files parser invocation config threshold locations log) :
    Course files parser invocation ((perform parser invocation).run (.ofFiles files)) := by
  rw [perform_located located]
  cases rendered : render config invocation.format locations with
  | error fault =>
      rw [finish_unrendered fault rendered]
      exact .unrendered config threshold locations log fault located rendered
  | ok report =>
      rw [finish_rendered report _ rendered]
      exact .rendered config threshold locations log report located rendered

end Steps

theorem perform_course (files : FileTree) (parser : Parser) (invocation : Invocation) :
    Course files parser invocation ((perform parser invocation).run (.ofFiles files)) := by
  cases settled : settings files invocation with
  | error fault =>
      rw [perform_unsettled fault settled]
      exact .unsettled fault settled
  | ok value =>
      obtain ⟨config, threshold⟩ := value
      by_cases parses : Parses parser invocation.action
      · cases found : findLocations files parser config invocation.action with
        | error failure =>
            rw [perform_settled settled, proceed_parses parses, found, report_refuses]
            exact .unlocated config threshold failure settled parses found
        | ok value =>
            obtain ⟨locations, log⟩ := value
            exact located_course ⟨settled, parses, found⟩
      · rw [perform_settled settled, proceed_unparsed parses]
        exact .unparsed config threshold settled parses

theorem run_on_accepted (files : FileTree) (parser : Parser) (arguments : List Text) (invocation : Invocation)
    (accepted : readArguments arguments = .ok invocation) :
    runOn files parser arguments = (perform parser invocation).run (.ofFiles files) := by
  rw [runOn, execute, accepted]

end SourceLocator.Command
