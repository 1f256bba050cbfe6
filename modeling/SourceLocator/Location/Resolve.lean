import SourceLocator.Location
import SourceLocator.Log
import SourceLocator.Source.File

/-!
Resolving a subject, that is a stretch of a source file with the nearest name around it, into a
location. An offset outside the text is no fault here: the position is then unknown. The name is
what is displayed, or failing that the text of the stretch with its position. An offset outside the
text and a displayed position are written down, so they are a fault where they have too many digits;
without a bound on the digits this does not happen.
-/

set_option autoImplicit false

namespace SourceLocator

-- What resolution reads. The text and the name are read only where they are shown.
structure Subject where
  file : Except Fault SourceFile
  extent : Extent
  text : Except Fault Text
  nearestName : Except Fault (Option Text)

inductive Lookup where
  | resolved (position : Position)
  | outOfRange (extent : Extent)
deriving DecidableEq, Repr

namespace Lookup

def position : Lookup → Position
  | .resolved position => position
  | .outOfRange _ => .unknown

end Lookup

def resolverLogger : String := "locscan.core.resolver"

def outOfRangeRecord (file : SourceFile) (extent : Extent) (fault : Fault) : Record :=
  { level := .debug, logger := resolverLogger
    message := "No line/column for range ".toList ++ extent.text ++ " in ".toList ++ file.name ++
      ": ".toList ++ fault.message }

namespace SourceFile

-- Looks up where an extent starts. Only an offset outside the text is absorbed.
def lookup (file : SourceFile) (bound : DigitBound) (extent : Extent) :
    Except Fault (Lookup × Log) :=
  match file.place extent.start bound with
  | .ok place => .ok (.resolved place.position, [])
  | .error (.offsetOutside offset length) =>
    .ok (.outOfRange extent, [outOfRangeRecord file extent (.offsetOutside offset length)])
  | .error fault => .error fault

def quoteAt (file : SourceFile) (text : Text) (position : Position) : Text :=
  '\x27' :: text ++ "' at (".toList ++ Text.ofInt position.line ++ ',' ::
    Text.ofInt position.column ++ ") in ".toList ++ file.path

end SourceFile

-- The text that `primary` gives, or what `fallback` gives if there is none, if it is empty, or if
-- looking it up failed.
def orElseText {α : Type} (primary : Except Fault (Option Text)) (found : Text → α)
    (fallback : Except Fault α) : Except Fault α :=
  match primary with
  | .ok (some (c :: rest)) => .ok (found (c :: rest))
  | .ok _ => fallback
  | .error fault => if fault.isRecoverable then fallback else .error fault

namespace Subject

def lookup (subject : Subject) (bound : DigitBound) (offset : Int) :
    Except Fault (Lookup × Log) := do
  (← subject.file).lookup bound (subject.extent.shift offset)

def textAt (subject : Subject) (bound : DigitBound) (position : Position) : Except Fault Text := do
  let text ← subject.text
  let file ← subject.file
  bound.write [position.line, position.column] (file.quoteAt text position)

def fallbackText (subject : Subject) (bound : DigitBound) : Except Fault (Text × Log) := do
  let (lookup, log) ← subject.lookup bound 0
  return (← subject.textAt bound lookup.position, log)

def displayText (subject : Subject) (bound : DigitBound) : Except Fault (Text × Log) :=
  orElseText subject.nearestName (·, []) (subject.fallbackText bound)

def reportedFile (subject : Subject) : Except Fault Text := do
  return (← subject.file).reportedName

def resolve (subject : Subject) (bound : DigitBound) (offset : Int) :
    Except Fault (Location × Log) := do
  let (lookup, log) ← subject.lookup bound offset
  let (displayText, more) ← subject.displayText bound
  let file ← subject.reportedFile
  return (⟨lookup.position, subject.extent.shift offset, displayText, file⟩, log ++ more)

end Subject

end SourceLocator
