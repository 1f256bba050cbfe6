import SourceLocator.Files.Locale
import SourceLocator.Text.Lower

/-!
Paths as sequences of names. Empty and `.` segments say nothing and vanish; `..` stays, since what
it leads to depends on the files.
-/

set_option autoImplicit false

namespace SourceLocator

-- A path from the current directory, or from a root: one leading slash or just two.
structure Path where
  root : Text
  parts : List Text
deriving DecidableEq, Repr

namespace Path

def rootOf : Text → Text
  | '/' :: '/' :: '/' :: _ => ['/']
  | '/' :: '/' :: _ => ['/', '/']
  | '/' :: _ => ['/']
  | _ => []

def saysNothing (segment : Text) : Bool := segment.isEmpty || segment == ['.']

def ofText (text : Text) : Path :=
  ⟨rootOf text, (Text.splitBy (· == '/') text).filter fun segment => !saysNothing segment⟩

-- The path as it is printed; the current directory is a dot.
def text (path : Path) : Text :=
  if path.root.isEmpty && path.parts.isEmpty then ['.']
  else path.root ++ Text.join ['/'] path.parts

def lengthLimit : Nat := 4095

def isTooLong (locale : Locale) (path : Path) : Bool := lengthLimit < locale.byteCount path.text

def name (path : Path) : Text := path.parts.getLastD []

def parent (path : Path) : Path := { path with parts := path.parts.dropLast }

def append (path : Path) (parts : List Text) : Path := { path with parts := path.parts ++ parts }

-- What a name has from its last dot on, if there is something on both sides of that dot.
def suffixOf (name : Text) : Text :=
  let extension := (name.reverse.takeWhile (· != '.')).reverse
  let stem := name.take (name.length - extension.length - 1)
  if extension.isEmpty || extension.length == name.length || stem.isEmpty then []
  else '.' :: extension

def suffix (path : Path) : Text := suffixOf path.name

def foldedSuffix (path : Path) : Text := path.suffix.lower

end Path

end SourceLocator
