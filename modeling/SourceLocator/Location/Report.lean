import SourceLocator.Json.Printer
import SourceLocator.Location
import SourceLocator.Text.Blank

/-!
Reports on locations: one line of text for each, or a JSON document with a summary.
-/

set_option autoImplicit false

namespace SourceLocator.Report

def ellipsis : Text := "..."

def display (length : Int) (location : Location) : Text :=
  Text.truncate location.displayText.flatten length ellipsis

def line (length : Int) (location : Location) : Text :=
  location.compact ++ ' ' :: ' ' :: display length location ++ ['\n']

def text (length : Int) (locations : List Location) : Text := locations.flatMap (line length)

def writeLine (bound : DigitBound) (length : Int) (location : Location) : Except Fault Text := do
  return (← location.writeCompact bound) ++ ' ' :: ' ' :: display length location

-- Puts the lines together with line feeds between them, and one at the end if there are any.
def writeText (bound : DigitBound) (length : Int) (locations : List Location) : Except Fault Text := do
  let lines ← locations.mapM (writeLine bound length)
  return if lines.isEmpty then [] else Text.join ['\n'] lines ++ ['\n']

def record (location : Location) : Json :=
  .ofMembers
    [("file_path", .text location.file), ("line", .int location.position.line),
     ("column", .int location.position.column), ("start", .int location.extent.start),
     ("end", .int location.extent.stop), ("display_text", .text location.displayText)]

def summary (locations : List Location) : Json :=
  .ofMembers
    [("count", .int locations.length),
     ("unknown_positions", .int (locations.countP fun location => location.position.isUnknown))]

def document (locations : List Location) : Json :=
  .ofMembers [("summary", summary locations), ("locations", .array (locations.map record))]

def json (locations : List Location) : Text := (document locations).print

def numbers (location : Location) : List Int :=
  [location.position.line, location.position.column, location.extent.start, location.extent.stop]

def writeJson (bound : DigitBound) (locations : List Location) : Except Fault Text :=
  bound.write (locations.flatMap numbers) (json locations)

end SourceLocator.Report
