import SourceLocator.Proofs.FileWrites
import SourceLocator.Proofs.RunCourses

set_option autoImplicit false

namespace SourceLocator.Command

def World.Untouched (files : FileTree) (world : World) : Prop := world.files = files ∧ world.stdout = []

def Opened (files : FileTree) (parser : Parser) (invocation : Invocation) (world : World) : Prop :=
  ∃ config threshold locations log report path, Located files parser invocation config threshold locations log ∧
    render config invocation.format locations = .ok report ∧ files.locale.isPlain report = false ∧
    nonEmpty? invocation.output = some path ∧ files.write (Path.ofText path) [] = .ok world.files ∧ world.stdout = []

theorem refused_untouched (files : FileTree) (threshold : Level) (failure : Failure) :
    (refused files threshold failure).world.Untouched files := by
  unfold refused
  split <;> exact ⟨rfl, rfl⟩

theorem course_touches (files : FileTree) (parser : Parser) (invocation : Invocation) (ending : Ending)
    (course : Course files parser invocation ending) :
    ending.code? = some 0 ∨ ending.world.Untouched files ∨
      ending.escaped? = some .unencodable ∧ Opened files parser invocation ending.world := by
  cases course with
  | unsettled fault fails => exact .inr (.inl (refused_untouched files _ _))
  | unparsed config threshold settled noParser => exact .inr (.inl ⟨rfl, rfl⟩)
  | unlocated config threshold failure settled parses fails => exact .inr (.inl (refused_untouched files threshold failure))
  | unrendered config threshold locations log fault located fails => exact .inr (.inl ⟨rfl, rfl⟩)
  | rendered config threshold locations log report located rendered =>
      have delivers := delivery_course files (log.emitted threshold) invocation.output report
      generalize delivery files (log.emitted threshold) invocation.output report = ending at delivers
      cases delivers with
      | printed toStdout => exact .inl rfl
      | unprinted toStdout foreign => exact .inr (.inl ⟨rfl, rfl⟩)
      | saved path after toFile written => exact .inl rfl
      | opened path after toFile foreign written =>
          exact .inr (.inr ⟨rfl, config, threshold, locations, log, report, path, located, rendered, foreign, toFile,
            written, rfl⟩)
      | unopened path content fault toFile fails => exact .inr (.inl ⟨rfl, rfl⟩)

theorem run_touches (files : FileTree) (parser : Parser) (arguments : List Text) :
    (runOn files parser arguments).code? = some 0 ∨ (runOn files parser arguments).world.Untouched files ∨
      (runOn files parser arguments).escaped? = some .unencodable ∧ ∃ invocation,
        readArguments arguments = .ok invocation ∧ Opened files parser invocation (runOn files parser arguments).world := by
  cases read : readArguments arguments with
  | ok invocation =>
      rw [run_on_accepted files parser arguments invocation read]
      refine (course_touches files parser invocation _ (perform_course files parser invocation)).imp_right ?_
      exact Or.imp_right fun ⟨escapes, opened⟩ => ⟨escapes, invocation, rfl, opened⟩
  | error stop =>
      rw [runOn, execute, read]
      cases stop with
      | rejected => exact .inr (.inl ⟨rfl, rfl⟩)
      | helpWanted => exact .inl rfl
      | versionWanted =>
          dsimp only
          rw [World.ofFiles, print_run]
          split
          · exact .inl rfl
          · exact .inr (.inl ⟨rfl, rfl⟩)

theorem failed_untouched (files : FileTree) (parser : Parser) (arguments : List Text) (code : Nat) (world : World)
    (ends : runOn files parser arguments = .ok code world) (failed : code ≠ 0) : world.Untouched files := by
  have touches := run_touches files parser arguments
  rw [ends] at touches
  rcases touches with zero | untouched | ⟨escapes, -⟩
  · exact absurd (Option.some.inj zero) failed
  · exact untouched
  · cases escapes

theorem escaped_opens (files : FileTree) (parser : Parser) (arguments : List Text) (fault : Fault) (world : World)
    (escapes : runOn files parser arguments = .error fault world) :
    world.Untouched files ∨ fault = .unencodable ∧
      ∃ invocation, readArguments arguments = .ok invocation ∧ Opened files parser invocation world := by
  have touches := run_touches files parser arguments
  rw [escapes] at touches
  rcases touches with ends | untouched | ⟨unencodable, opened⟩
  · cases ends
  · exact .inl untouched
  · exact .inr ⟨Option.some.inj unencodable, opened⟩

theorem refused_fails (files : FileTree) (threshold : Level) (failure : Failure) (world : World) :
    refused files threshold failure ≠ .ok 0 world := by
  unfold refused
  split <;> exact nofun

theorem printed_report (files : FileTree) (parser : Parser) (invocation : Invocation) (world : World)
    (toStdout : nonEmpty? invocation.output = none)
    (printed : (perform parser invocation).run (.ofFiles files) = .ok 0 world) :
    ∃ config threshold locations log report, Located files parser invocation config threshold locations log ∧
      render config invocation.format locations = .ok report ∧ world = ⟨files, report, log.emitted threshold⟩ := by
  have course := perform_course files parser invocation
  generalize (perform parser invocation).run (.ofFiles files) = ending at course printed
  cases course with
  | unsettled fault fails => exact absurd printed (refused_fails files _ _ world)
  | unparsed config threshold settled noParser => cases printed
  | unlocated config threshold failure settled parses fails => exact absurd printed (refused_fails files _ _ world)
  | unrendered config threshold locations log fault located fails => cases printed
  | rendered config threshold locations log report located rendered =>
      refine ⟨config, threshold, locations, log, report, located, rendered, ?_⟩
      rw [delivery, toStdout] at printed
      dsimp only at printed
      split at printed <;> cases printed
      rfl

theorem located_redirected (files : FileTree) (parser : Parser) (invocation : Invocation) (output : Option Text)
    (config : Config) (threshold : Level) (locations : List Location) (log : Log)
    (located : Located files parser invocation config threshold locations log) :
    Located files parser { invocation with output } config threshold locations log :=
  ⟨located.settled, located.parses, located.found⟩

def Delivered (files : FileTree) (path : Path) (content : Bytes) (after : FileTree) : Prop :=
  ∃ target, after.at? path = .ok ⟨target, .file content⟩ ∧
    ∀ names other, names ≠ target → ((names, other) ∈ after.files ↔ (names, other) ∈ files.files)

theorem redirected_saves (files : FileTree) (parser : Parser) (invocation : Invocation) (world : World) (path : Text)
    (named : path ≠ []) (toStdout : nonEmpty? invocation.output = none)
    (printed : (perform parser invocation).run (.ofFiles files) = .ok 0 world) :
    (perform parser { invocation with output := some path }).run (.ofFiles files) =
      saving files world.stderr (Path.ofText path) (files.locale.encode world.stdout) := by
  obtain ⟨config, threshold, locations, log, report, located, rendered, rfl⟩ :=
    printed_report files parser invocation world toStdout printed
  let redirected : Invocation := { invocation with output := some path }
  have again : Located files parser redirected config threshold locations log :=
    located_redirected files parser invocation _ config threshold locations log located
  have renders : render config redirected.format locations = .ok report := rendered
  have toFile : nonEmpty? redirected.output = some path := by
    cases path with
    | nil => exact absurd rfl named
    | cons c rest => rfl
  rw [perform_located again, finish_rendered report _ renders, delivery, toFile]

theorem write_delivers (files : FileTree) (sound : files.Sound) (path : Path) (writable : files.Writable path)
    (content : Bytes) : ∃ after, files.write path content = .ok after ∧ Delivered files path content after := by
  obtain ⟨way, entries, parent⟩ := FileTree.directory_at writable.inDirectory
  obtain ⟨-, -, saved⟩ := FileTree.write_inside writable way entries parent content
  refine ⟨_, saved, way ++ [path.name], FileTree.written_place writable way entries parent content, ?_⟩
  intro names other different
  exact FileTree.written_files writable sound way entries parent content other names different

-- A report that would be printed is delivered into any file that can be written, the ones it was made from
-- included. If it cannot be encoded the file is left empty, and that is all that a run changes that does not
-- succeed.
theorem output_is_atomic (files : FileTree) (parser : Parser) (sound : files.Sound) :
    (∀ arguments code world, runOn files parser arguments = .ok code world → code ≠ 0 → world.Untouched files) ∧
    (∀ arguments fault world, runOn files parser arguments = .error fault world →
      world.Untouched files ∨ fault = .unencodable ∧
        ∃ invocation, readArguments arguments = .ok invocation ∧ Opened files parser invocation world) ∧
    ∀ plain aimed invocation path world, readArguments plain = .ok invocation →
      nonEmpty? invocation.output = none → readArguments aimed = .ok { invocation with output := some path } →
      path ≠ [] → files.Writable (Path.ofText path) → runOn files parser plain = .ok 0 world →
      (files.locale.isPlain world.stdout = true → ∃ after,
        runOn files parser aimed = .ok 0 ⟨after, [], world.stderr⟩ ∧
          Delivered files (Path.ofText path) (Utf8.encode world.stdout) after) ∧
      (files.locale.isPlain world.stdout = false → ∃ after,
        runOn files parser aimed = .error .unencodable ⟨after, [], world.stderr⟩ ∧
          Delivered files (Path.ofText path) [] after) := by
  refine ⟨failed_untouched files parser, escaped_opens files parser, ?_⟩
  intro plain aimed invocation path world readPlain toStdout readAimed named writable printed
  rw [run_on_accepted files parser plain invocation readPlain] at printed
  have ends : runOn files parser aimed =
      saving files world.stderr (Path.ofText path) (files.locale.encode world.stdout) := by
    rw [run_on_accepted files parser aimed _ readAimed]
    exact redirected_saves files parser invocation world path named toStdout printed
  constructor
  · intro plainReport
    obtain ⟨after, saved, delivered⟩ :=
      write_delivers files sound (Path.ofText path) writable (Utf8.encode world.stdout)
    refine ⟨after, ?_, delivered⟩
    rw [ends, Locale.encode, if_pos plainReport, saving, saved]
  · intro foreign
    obtain ⟨after, opened, delivered⟩ := write_delivers files sound (Path.ofText path) writable []
    refine ⟨after, ?_, delivered⟩
    rw [ends, Locale.encode, if_neg (Bool.eq_false_iff.mp foreign), saving, opened]

theorem source_is_overwritten :
    let files : FileTree := ⟨.directory [("home".toList, .directory [(['a'], .file [0x78])])], ["home".toList], .utf8⟩
    let parser : Parser := ⟨false, fun _ source => .lone source.length⟩
    let plain : List Text := ["offset", ['a'], ['0']]
    let aimed : List Text := ["offset", ['a'], ['0'], "-o", "/home/a"]
    ∃ world after, runOn files parser plain = .ok 0 world ∧ runOn files parser aimed = .ok 0 ⟨after, [], world.stderr⟩ ∧
      Delivered files (Path.ofText "/home/a") (Utf8.encode world.stdout) after := by
  intro files parser plain aimed
  have sound : files.Sound := .directory _ (by simp) (by decide +kernel)
    (List.forall_mem_singleton.mpr (FileEntry.lone_file_sound _ _ (by decide +kernel) (by decide)))
  have writable : files.Writable (Path.ofText "/home/a") := by constructor <;> decide +kernel
  obtain ⟨world, printed⟩ := (runOn files parser plain).of_code 0 (by decide +kernel)
  obtain ⟨-, -, redirects⟩ := output_is_atomic files parser sound
  obtain ⟨delivers, -⟩ := redirects plain aimed ⟨.range ['a'] (some 0) none, false, none, none, none⟩ "/home/a"
    world rfl rfl rfl (by decide) writable printed
  obtain ⟨after, saved, delivered⟩ := delivers (Locale.utf8_is_plain _)
  exact ⟨world, after, printed, saved, delivered⟩

def strayLocale : Locale where
  isForeign := (· == 'ÿ')
  printsForeign := true
  foreign_not_ascii := by
    intro c foreign
    rw [beq_iff_eq.mp foreign]
    decide

theorem long_and_foreign_names_escape :
    let stray : Text := ['ÿ']
    let files : FileTree := ⟨.directory [(['a'], .file []), (stray, .file [])], [], strayLocale⟩
    let parser : Parser := ⟨false, fun _ source => .lone source.length⟩
    let path : Text := List.replicate 256 'b'
    let long := runOn files parser ["offset", ['a'], ['0'], "-o", path]
    let foreign := runOn files parser ["offset", stray, ['0'], "-o", "new"]
    (files.isDirectory (Path.ofText path) = false ∧ files.isDirectory (Path.ofText path).parent = true ∧
      (runOn files parser ["offset", ['a'], ['0']]).code? = some 0 ∧ long.escaped? = some .nameTooLong) ∧
    (files.contains (Path.ofText "new") = false ∧ (runOn files parser ["offset", stray, ['0']]).code? = some 0 ∧
      foreign.escaped? = some .unencodable ∧ foreign.world.files.isFile (Path.ofText "new") = true) := by
  intro stray files parser path long foreign
  exact ⟨⟨by decide +kernel, by decide +kernel, by decide +kernel, by decide +kernel⟩,
    by decide +kernel, by decide +kernel, by decide +kernel, by decide +kernel⟩

end SourceLocator.Command
