import SourceLocator.Fault
import SourceLocator.Files.Path
import SourceLocator.Source.LineTable
import SourceLocator.Source.Position

/-!
Source files, and the line and column of an offset in one. A file that was generated or transformed
may remember the file it came from. Line tables normally come from the text, but a file may be given
another one, and the search works on whatever table there is.
-/

set_option autoImplicit false

namespace SourceLocator

structure SourceFile where
  text : Text
  name : Text
  -- The full path, or the invented name of a file that exists only in memory.
  path : Text
  lineTable : List Int
  derivedFrom : Option SourceFile := none

structure LinePlace where
  position : Position
  content : Text
deriving DecidableEq, Repr

namespace SourceFile

def lineTableOf (text : Text) : List Int := (lineStarts text).map Int.ofNat

-- A file from its text and a name or a path; whichever is missing comes from the other one.
def make (text : Text) (name path : Option Text) (derivedFrom : Option SourceFile) :
    Except Fault SourceFile :=
  match name, path with
  | none, none => .error .unnamedFile
  | some name, path => .ok ⟨text, name, path.getD name, lineTableOf text, derivedFrom⟩
  | none, some path => .ok ⟨text, (Path.ofText path).name, path, lineTableOf text, derivedFrom⟩

def ofPath (text path : Text) : SourceFile :=
  ⟨text, (Path.ofText path).name, path, lineTableOf text, none⟩

def inMemory (text name : Text) (derivedFrom : Option SourceFile) : SourceFile :=
  ⟨text, name, name, lineTableOf text, derivedFrom⟩

def reportedName (file : SourceFile) : Text :=
  match file.derivedFrom with
  | some source => source.name
  | none => file.name

def describe (file : SourceFile) : Text :=
  "SourceFile(name=".toList ++ file.name.quoted ++ ", path=".toList ++ file.path.quoted ++ [')']

def isLineEnd (c : Char) : Bool := c == '\r' || c == '\n'

-- The line and column of an offset. The last entry of the table that is not above the offset gives
-- the line; where none is, the search wraps to the table's last entry. An offset outside the text
-- is written into the fault that says so, which takes that it can be written.
def place (file : SourceFile) (offset : Int) (bound : DigitBound := .standard) :
    Except Fault LinePlace :=
  let length := file.text.length
  if offset < 0 ∨ length < offset then
    .error (if bound.admits offset then .offsetOutside offset length else .unwritable)
  else
    let count := countUpTo file.lineTable offset
    let entry := if count = 0 then file.lineTable.getLast? else file.lineTable[count - 1]?
    match entry with
    | none => .error .emptyLineTable
    | some lineStart =>
      let lineEnd := (file.lineTable[count]?).getD length
      let content := Text.dropEndWhile isLineEnd (slice file.text lineStart lineEnd)
      .ok ⟨⟨count, offset - lineStart + 1⟩, content⟩

end SourceFile

end SourceLocator
