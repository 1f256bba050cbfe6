import SourceLocator.Number.Integer

/-!
The command line. Options may stand before, between or behind the other arguments of a command, long
ones may be shortened as far as they stay unique, and after a double dash nothing is an option.

An argument is classified by itself first. Then the arguments are taken in order: each run of plain
ones between two options fills as many of the open slots as it can.
-/

set_option autoImplicit false

namespace SourceLocator.Command

inductive Setting where
  | help
  | version
  | verbose
  | nodeType
  | offset
  | config
  | format
  | output
deriving DecidableEq, Repr

structure Flag where
  setting : Setting
  names : List String
  takesValue : Bool
deriving DecidableEq, Repr

def helpFlag : Flag := ⟨.help, ["-h", "--help"], false⟩

def outputFlags : List Flag :=
  [⟨.config, ["-c", "--config"], true⟩, ⟨.format, ["-f", "--format"], true⟩,
   ⟨.output, ["-o", "--output"], true⟩]

def generalFlags : List Flag :=
  [helpFlag, ⟨.version, ["--version"], false⟩, ⟨.verbose, ["-v", "--verbose"], false⟩]

def locateFlags : List Flag :=
  [helpFlag, ⟨.nodeType, ["-t", "--node-type"], true⟩, ⟨.offset, ["--offset"], true⟩] ++ outputFlags

def rangeFlags : List Flag := helpFlag :: outputFlags

def formats : List Text := ["text", "json"]

inductive Slot where
  | path
  | file
  | start
  | stop
deriving DecidableEq, Repr

def Slot.required : Slot → Bool
  | .file | .start => true
  | .path | .stop => false

def locateSlots : List Slot := [.path]

def rangeSlots : List Slot := [.file, .start, .stop]

structure Given where
  path : Option Text := none
  file : Option Text := none
  -- Given without a number where the place was taken by a double dash.
  start : Option (Option Int) := none
  stop : Option Int := none
  -- A type given by a double dash is none at all.
  nodeTypes : List (Option Text) := []
  offset : Option (Option Int) := none
  config : Option Text := none
  format : Option Text := none
  output : Option Text := none
  verbose : Bool := false
  surplus : Bool := false

inductive Stop where
  | rejected
  | helpWanted
  | versionWanted
deriving DecidableEq, Repr

structure Attached where
  value : Text
  long : Bool
deriving DecidableEq, Repr

inductive Argument where
  | plain (text : Text)
  | dashes
  | option (flag : Option Flag) (attached : Option Attached)
deriving DecidableEq, Repr

def Flag.isNamed (flag : Flag) (name : Text) : Bool := flag.names.contains (String.ofList name)

def Flag.hasNameStarting (flag : Flag) (pfx : Text) : Bool :=
  flag.names.any fun name => Text.startsWith name.toList pfx

def isLong (name : Text) : Bool := Text.startsWith name "--"

def cutAtEquals (text : Text) : Text × Option Attached :=
  match text.dropWhile (· != '=') with
  | [] => (text, none)
  | _ :: value => (text.takeWhile (· != '='), some ⟨value, isLong text⟩)

-- The flags that an argument may mean: by its letter with a value straight behind it, or by the
-- beginning of a long name.
def candidates (flags : List Flag) (text : Text) : List (Flag × Option Attached) :=
  if isLong text then
    let (name, attached) := cutAtEquals text
    (flags.filter (·.hasNameStarting name)).map (·, attached)
  else (flags.filter (·.isNamed (text.take 2))).map (·, some ⟨text.drop 2, false⟩)

def isNegativeNumber : Text → Bool
  | '-' :: rest =>
    let rest := match rest.reverse with
      | '\n' :: front => front.reverse
      | _ => rest
    match rest.dropWhile isDecimal with
    | [] => !rest.isEmpty
    | '.' :: places => !places.isEmpty && places.all isDecimal
    | _ => false
  | _ => false

-- Classifies an argument with a dash in front and more behind it. One that may mean two options is
-- rejected; one that means none is plain if it is a negative number or has a space in it.
def classifyDashed (flags : List Flag) (text : Text) : Except Stop Argument :=
  let (name, attached) := cutAtEquals text
  match flags.find? (·.isNamed text), flags.find? (·.isNamed name) with
  | some flag, _ => .ok (.option (some flag) none)
  | none, some flag => .ok (.option (some flag) attached)
  | none, none =>
    match candidates flags text with
    | [(flag, attached)] => .ok (.option (some flag) attached)
    | _ :: _ :: _ => .error .rejected
    | [] =>
      if isNegativeNumber text || text.contains ' ' then .ok (.plain text)
      else .ok (.option none none)

def classify (flags : List Flag) (text : Text) : Except Stop Argument :=
  match text with
  | '-' :: _ :: _ => classifyDashed flags text
  | _ => .ok (.plain text)

-- Classifies arguments up to the first double dash; all behind it are plain.
def classifyAll (flags : List Flag) : List Text → Except Stop (List Argument)
  | [] => .ok []
  | text :: rest =>
    if text = ['-', '-'] then .ok (.dashes :: rest.map .plain)
    else do return (← classify flags text) :: (← classifyAll flags rest)

namespace Given

def readInt (text : Text) : Except Stop Int :=
  match Text.readInteger text with
  | .ok n => .ok n
  | .error _ => .error .rejected

def turnOn (given : Given) : Setting → Except Stop Given
  | .help => .error .helpWanted
  | .version => .error .versionWanted
  | .verbose => .ok { given with verbose := true }
  | _ => .ok given

-- Sets what an option with a value sets. A double dash as value says nothing.
def give (given : Given) (setting : Setting) (value : Text) : Except Stop Given :=
  let said := if value = ['-', '-'] then none else some value
  match setting with
  | .nodeType => .ok { given with nodeTypes := given.nodeTypes ++ [said] }
  | .offset => do return { given with offset := some (← said.mapM readInt) }
  | .config => .ok { given with config := said }
  | .format =>
    if said.all formats.contains then .ok { given with format := said } else .error .rejected
  | .output => .ok { given with output := said }
  | _ => .ok given

def fill (given : Given) (slot : Slot) (taken : List Text) : Except Stop Given :=
  match slot, taken.erase ['-', '-'] with
  | .path, value :: _ => .ok { given with path := some value }
  | .file, value :: _ => .ok { given with file := some value }
  | .start, value :: _ => do return { given with start := some (some (← readInt value)) }
  | .start, [] => .ok { given with start := some none }
  | .stop, value :: _ => do return { given with stop := some (← readInt value) }
  | _, [] => .ok given

def leaveOver (given : Given) (run : List Argument) : Given :=
  { given with surplus := given.surplus || !run.isEmpty }

end Given

def takeDashes : List Argument → List Text × List Argument
  | .dashes :: run => ([['-', '-']], run)
  | run => ([], run)

def takePlain : List Argument → List Text × List Argument
  | .plain text :: run => ([text], run)
  | run => ([], run)

-- Fills slots from a run of plain arguments, each slot with one of them and the double dash next to
-- it, as far as the run goes. Gives the slots that are still open.
def fillSlots (given : Given) : List Slot → List Argument → Except Stop (Given × List Slot)
  | [], run => .ok (given.leaveOver run, [])
  | slot :: slots, run => do
    let (before, rest) := takeDashes run
    let (value, rest) := takePlain rest
    let (behind, rest) := takeDashes rest
    if value.isEmpty && slot.required then return (given.leaveOver run, slot :: slots)
    fillSlots (← given.fill slot (before ++ value ++ behind)) slots rest

def fillRun (given : Given) (slots : List Slot) (run : List Argument) : Except Stop (Given × List Slot) :=
  if run.isEmpty then .ok (given, slots) else fillSlots given slots run

structure Use where
  flag : Flag
  value : Option Text
deriving DecidableEq, Repr

def Given.use (given : Given) (use : Use) : Except Stop Given :=
  match use.value with
  | some value => given.give use.flag.setting value
  | none => given.turnOn use.flag.setting

def Use.lacksValue (use : Use) : Bool := use.flag.takesValue && use.value.isNone

def letterUses (flags : List Flag) (flag : Flag) : Text → Except Stop (List Use)
  | [] => .ok [⟨flag, none⟩]
  | letter :: rest =>
    if flag.takesValue then .ok [⟨flag, some (letter :: rest)⟩]
    else match flags.find? (·.isNamed ['-', letter]) with
      | none => .error .rejected
      | some next => do return ⟨flag, none⟩ :: (← letterUses flags next rest)

-- The flags that an option stands for. The last one may lack its value.
def usesOf (flags : List Flag) (flag : Flag) : Option Attached → Except Stop (List Use)
  | none => .ok [⟨flag, none⟩]
  | some attached =>
    if flag.takesValue then .ok [⟨flag, some attached.value⟩]
    else if attached.long || attached.value.isEmpty then .error .rejected
    else letterUses flags flag attached.value

def useAll (given : Given) (uses : List Use) (value : Option Text) : Except Stop Given :=
  match uses.getLast? with
  | some last =>
    if last.lacksValue then
      if value.isNone then .error .rejected
      else (uses.dropLast ++ [{ last with value }]).foldlM Given.use given
    else uses.foldlM Given.use given
  | none => .ok given

-- Takes the classified arguments of a command. `run` holds the plain ones since the last option.
def takeAll (flags : List Flag) (given : Given) (slots : List Slot) (run : List Argument) :
    List Argument → Except Stop (Given × List Slot)
  | [] => fillSlots given slots run
  | .option flag attached :: rest => do
    let (given, slots) ← fillRun given slots run
    match flag, rest with
    | none, rest => takeAll flags (given.leaveOver [.dashes]) slots [] rest
    | some flag, .plain value :: rest =>
      let uses ← usesOf flags flag attached
      let given ← useAll given uses (some value)
      takeAll flags given slots (if uses.any Use.lacksValue then [] else [.plain value]) rest
    | some flag, rest => do
      takeAll flags (← useAll given (← usesOf flags flag attached) none) slots [] rest
  | argument :: rest => takeAll flags given slots (run ++ [argument]) rest

inductive Action where
  | nodes (path : Text) (nodeTypes : List (Option Text)) (offset : Option (Option Int))
  | range (file : Text) (start : Option Int) (stop : Option Int)
deriving DecidableEq, Repr

structure Invocation where
  action : Action
  verbose : Bool
  config : Option Text
  format : Option Text
  output : Option Text
deriving DecidableEq, Repr

def readCommand (flags : List Flag) (slots : List Slot) (given : Given) (arguments : List Text) :
    Except Stop Given := do
  let (given, slots) ← takeAll flags given slots [] (← classifyAll flags arguments)
  if given.surplus || slots.any Slot.required then throw .rejected
  return given

def currentDirectory : Text := ['.']

def invoke (given : Given) (name : Text) (arguments : List Text) : Except Stop Invocation := do
  if name = "locate".toList then
    let given ← readCommand locateFlags locateSlots given arguments
    return ⟨.nodes (given.path.getD currentDirectory) given.nodeTypes given.offset, given.verbose,
      given.config, given.format, given.output⟩
  else if name = "offset".toList then
    let given ← readCommand rangeFlags rangeSlots given arguments
    return ⟨.range (given.file.getD []) given.start.join given.stop, given.verbose, given.config,
      given.format, given.output⟩
  else throw .rejected

def takeCommand (given : Given) : List (Argument × Text) → Except Stop Invocation
  | [] => .error .rejected
  | (.option none _, _) :: rest => takeCommand (given.leaveOver [.dashes]) rest
  | (.option (some flag) attached, _) :: rest => do
    takeCommand (← useAll given (← usesOf generalFlags flag attached) none) rest
  | (_, name) :: rest => invoke given name (rest.map Prod.snd)

def readArguments (arguments : List Text) : Except Stop Invocation := do
  takeCommand {} ((← classifyAll generalFlags arguments).zip arguments)

end SourceLocator.Command
