import SourceLocator.Calendar
import SourceLocator.Text.Writing

/-!
Why an operation has no answer, and the words for it. A fault that comes from looking something up
is recoverable: where there is a second way to an answer, it is taken.
-/

set_option autoImplicit false

namespace SourceLocator

-- A name that could not be read. Whoever provides the name gives the label.
structure NameFailure where
  label : String
  recoverable : Bool
deriving DecidableEq, Repr

inductive Fault where
  | unnamedFile
  | offsetOutside (offset : Int) (length : Nat)
  | emptyLineTable
  | detached
  | nameUnreadable (failure : NameFailure)
  | endlessParents
  | unsupportedLanguage (name : Text)
  | unsupportedPath (path : Text)
  | pathNotFound (path : Text)
  | fileNotFound (path : Text)
  | configNotFound (path : Text)
  | configNotMapping (path : Text)
  | locateNotMapping (path : Text)
  | nodeTypesNotLists (path : Text)
  | notMapping
  | wrongKind
  -- A text, of which there is the quoted form, is no number.
  | notInteger (quotation : Text) (base : Nat)
  | notReal (quotation : Text)
  | tooManyDigits (count : Nat)
  | unwritable
  | tooLarge
  | emptyNumber
  | notTruth
  | notNumber
  | infiniteNumber
  | notCharacter (code : Nat)
  | notTime
  | badTime (fault : CalendarFault)
  -- Collections are inside one another, or refer to one another, more often than is followed.
  | tooDeep
  | unknownLevel (level : Writing)
  | missing
  | isDirectory
  | notDirectory
  | zeroInPath
  | nameTooLong
  -- A text cannot be encoded as UTF-8.
  | unencodable
  | malformedUtf8
  | malformedJson
  | malformedYaml
deriving DecidableEq, Repr

namespace Fault

def isRecoverable : Fault → Bool
  | .offsetOutside _ _ => true
  | .emptyLineTable => true
  | .nameUnreadable failure => failure.recoverable
  | _ => false

-- How many digits an integer may have where it is read from a text or written into one.
def digitLimit : Nat := 4300

def digitLimitText : Text :=
  "Exceeds the limit (".toList ++ Text.ofNat digitLimit ++
    " digits) for integer string conversion".toList

def digitLimitAdvice : Text := "; use sys.set_int_max_str_digits() to increase the limit"

def nestingLimit : Nat := 990

def deeper : Nat → Except Fault Nat
  | 0 => .error .tooDeep
  | depth + 1 => .ok depth

def quotationLimit : Nat := 200

-- The words for a fault; the kinds of malformed document are named between angle brackets.
def message : Fault → Text
  | .unnamedFile => "SourceFile needs a name or a path"
  | .offsetOutside offset length =>
    "offset ".toList ++ Text.ofInt offset ++ " outside of text of length ".toList ++
      Text.ofNat length
  | .emptyLineTable => "empty line table"
  | .detached => "no containing file"
  | .nameUnreadable failure => failure.label
  | .endlessParents => "endless chain of parents"
  | .unsupportedLanguage name => "Unsupported language: ".toList ++ name
  | .unsupportedPath path => "Unsupported language for path: ".toList ++ path
  | .pathNotFound path => "Path not found: ".toList ++ path
  | .fileNotFound path => "File not found: ".toList ++ path
  | .configNotFound path => "Config file not found: ".toList ++ path
  | .configNotMapping path => "Config file must contain a mapping: ".toList ++ path
  | .locateNotMapping path => "locate must be a mapping: ".toList ++ path
  | .nodeTypesNotLists path =>
    "locate.node_types must map languages to lists of node types: ".toList ++ path
  | .notMapping => "not a mapping"
  | .wrongKind => "value of the wrong kind"
  | .notInteger quotation base =>
    "invalid literal for int() with base ".toList ++ Text.ofNat base ++ ": ".toList ++
      quotation.take quotationLimit
  | .notReal quotation => "could not convert string to float: ".toList ++ quotation
  | .tooManyDigits count =>
    digitLimitText ++ ": value has ".toList ++ Text.ofNat count ++ " digits".toList ++
      digitLimitAdvice
  | .unwritable => digitLimitText ++ digitLimitAdvice
  | .tooLarge => "integer too large for a real number"
  | .emptyNumber => "empty number"
  | .notTruth => "neither true nor false"
  | .notNumber => "cannot convert float NaN to integer"
  | .infiniteNumber => "cannot convert float infinity to integer"
  | .notCharacter _ => "chr() arg not in range(0x110000)"
  | .notTime => "no time"
  | .badTime fault => fault.message
  | .tooDeep => "nested too deeply"
  | .unknownLevel level => "Unknown level: ".toList ++ level.quoted
  | .missing => "no such file or directory"
  | .isDirectory => "is a directory"
  | .notDirectory => "not a directory"
  | .zeroInPath => "embedded null byte"
  | .nameTooLong => "file name too long"
  | .unencodable => "surrogates not allowed"
  | .malformedUtf8 => "<UnicodeDecodeError>"
  | .malformedJson => "<JSONDecodeError>"
  | .malformedYaml => "<YAMLError>"

end Fault

end SourceLocator
