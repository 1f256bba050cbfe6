import SourceLocator.Command.Arguments
import SourceLocator.Config.Load
import SourceLocator.Locate
import SourceLocator.Location.Report

/-!
A run of the program on a tree of files. It ends with an exit code, or, where a fault is not one that
is reported, with the fault. A run changes the world as it goes, and a fault takes back nothing of
what was done before it. Files change only where the report is saved at the end.
-/

set_option autoImplicit false

namespace SourceLocator.Command

def versionText : Text := "locscan 1.0.0\n"

structure World where
  files : FileTree
  stdout : Text
  -- Usage and help texts are left out.
  stderr : Text

def World.ofFiles (files : FileTree) : World := ⟨files, [], []⟩

abbrev Run := EStateM Fault World

def print (text : Text) : Run Unit := do
  if !(← get).files.locale.prints text then throw .unencodable
  modify fun world => { world with stdout := world.stdout ++ text }

-- Every character can be said here; a foreign one is spelled out.
def complain (text : Text) : Run Unit :=
  modify fun world => { world with stderr := world.stderr ++ text }

def replace (path : Path) (content : Bytes) : Run Unit := do
  let files ← MonadExcept.ofExcept ((← get).files.write path content)
  modify fun world => { world with files }

-- The file is opened, and empty then, before its text is encoded.
def saveEncoded (path : Path) : Except Fault Bytes → Run Unit
  | .ok content => replace path content
  | .error fault => do
    replace path []
    throw fault

def save (path : Path) (text : Text) : Run Unit := do
  saveEncoded path ((← get).files.locale.encode text)

-- The number from which on a code is refused as a number already, and not as a character.
def codeLimit : Nat := 0x80000000

def isReported : Fault → Bool
  | .unnamedFile | .unsupportedLanguage _ | .unsupportedPath _ | .pathNotFound _ | .fileNotFound _
  | .configNotFound _ | .configNotMapping _ | .locateNotMapping _ | .nodeTypesNotLists _
  | .notInteger _ _ | .notReal _ | .tooManyDigits _ | .unwritable | .notNumber | .badTime _
  | .unknownLevel _ | .missing | .zeroInPath | .unencodable | .malformedUtf8 | .malformedJson
  | .malformedYaml => true
  | .notCharacter code => code < codeLimit
  | .offsetOutside _ _ | .emptyLineTable | .detached | .nameUnreadable _ | .endlessParents
  | .notMapping | .wrongKind | .tooLarge | .emptyNumber | .notTruth | .infiniteNumber | .notTime
  | .tooDeep | .nameTooLong | .isDirectory | .notDirectory => false

def errorLine (message : Text) : Text := "Error: ".toList ++ message ++ ['\n']

def parserLogger : String := "locscan.parsing.treesitter"

def noParserRecord : Record :=
  { level := .warning, logger := parserLogger
    message := "tree_sitter_languages is not installed; source files cannot be parsed" }

def noParserMessage : Text :=
  "parsing requires tree_sitter_languages (pip install 'locscan[treesitter]')"

-- Goes on with a value. Behind the records made before it, a fault is said if it is one of those, which
-- ends the run, and passed on otherwise.
def report {α : Type} (threshold : Level) (outcome : Except Failure α) (next : α → Run Nat) : Run Nat :=
  match outcome with
  | .ok value => next value
  | .error ⟨fault, log⟩ => do
    complain (log.emitted threshold)
    if !isReported fault then throw fault
    complain (errorLine fault.message)
    return 1

def Action.configRoot : Action → Text
  | .nodes path _ _ => if path.isEmpty then currentDirectory else path
  | .range file _ _ => if file.isEmpty then currentDirectory else file

def nonEmpty? : Option Text → Option Text
  | some (c :: rest) => some (c :: rest)
  | _ => none

def configPath (files : FileTree) (invocation : Invocation) : Except Fault (Option Text) :=
  match nonEmpty? invocation.config with
  | some path => .ok (some path)
  | none => do
    let found ← Config.find? files (Path.ofText invocation.action.configRoot)
    return found.map Path.text

def loadConfig (files : FileTree) (invocation : Invocation) : Except Fault Config := do
  Config.load files (← configPath files invocation)

def chooseLevel (config : Config) (verbose : Bool) : Except Fault Level := do
  if verbose then return .debug
  Level.ofName (← config.logLevel)

def settings (files : FileTree) (invocation : Invocation) : Except Fault (Config × Level) := do
  let config ← loadConfig files invocation
  return (config, ← chooseLevel config invocation.verbose)

def findRange (files : FileTree) (file : Text) (start stop : Option Int) :
    Except Fault (List Location × Log) := do
  match start with
  | some start =>
    let (location, log) ← files.locateRange file ⟨start, stop.getD start⟩
    return ([location], log)
  | none =>
    files.checkLength (Path.ofText file)
    throw (if files.isFile (Path.ofText file) then .wrongKind else .fileNotFound file)

def findLocations (files : FileTree) (parser : Parser) (config : Config) :
    Action → Except Failure (List Location × Log)
  | .nodes path nodeTypes offset => do
    let findings ← files.locate parser path config nodeTypes offset
    return (findings.locations, findings.log)
  | .range file start stop => (findRange files file start stop).mapError .ofFault

def wantsJson (config : Config) (format : Option Text) : Except Fault Bool :=
  match nonEmpty? format with
  | some format => .ok (format == "json".toList)
  | none => do
    match ← (← config.reporting).fieldD "format" (.text "text") with
    | .scalar s => return s == .ofString "json"
    | _ => return false

def render (config : Config) (format : Option Text) (locations : List Location) :
    Except Fault Text := do
  if ← wantsJson config format then return ← Report.writeJson .standard locations
  Report.writeText .standard (← config.displayLength) locations

def deliver (output : Option Text) (report : Text) : Run Unit :=
  match nonEmpty? output with
  | none => print report
  | some path => save (Path.ofText path) report

def needsParser : Action → Bool
  | .nodes _ _ _ => true
  | .range _ _ _ => false

def finish (config : Config) (invocation : Invocation) (locations : List Location) : Run Nat := do
  deliver invocation.output (← MonadExcept.ofExcept (render config invocation.format locations))
  return 0

def proceed (parser : Parser) (invocation : Invocation) (config : Config) (threshold : Level) : Run Nat := do
  if needsParser invocation.action && !parser.installed then
    complain (Log.emitted threshold [noParserRecord] ++ errorLine noParserMessage)
    return 1
  report threshold (findLocations (← get).files parser config invocation.action) fun (locations, log) => do
    complain (log.emitted threshold)
    finish config invocation locations

def perform (parser : Parser) (invocation : Invocation) : Run Nat := do
  report .critical ((settings (← get).files invocation).mapError .ofFault) fun (config, threshold) =>
    proceed parser invocation config threshold

def execute (parser : Parser) (arguments : List Text) : Run Nat :=
  match readArguments arguments with
  | .ok invocation => perform parser invocation
  | .error .versionWanted => do
    print versionText
    return 0
  | .error .helpWanted => return 0
  | .error .rejected => return 2

structure Outcome where
  exitCode : Nat
  stdout : Text
  -- Rejected arguments are answered with a usage text instead.
  stderr : Option Text
  files : FileTree

def run (files : FileTree) (parser : Parser) (arguments : List Text) : Except Fault Outcome :=
  match (execute parser arguments).run (.ofFiles files) with
  | .ok code world => .ok ⟨code, world.stdout, if code = 2 then none else some world.stderr, world.files⟩
  | .error fault _ => .error fault

end SourceLocator.Command
