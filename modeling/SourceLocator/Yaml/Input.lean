import SourceLocator.Text

/-!
What is still to be read of a YAML text, with the place reached. Lines end at line feeds, next lines,
and line and paragraph separators.
-/

set_option autoImplicit false

namespace SourceLocator.Yaml

structure Input where
  rest : Text
  index : Nat
  line : Nat
  column : Nat
deriving Repr

def isBreak (c : Char) : Bool := c == '\n' || c == '\u0085' || c == '\u2028' || c == '\u2029'

def isSpaceOrTab (c : Char) : Bool := c == ' ' || c == '\t'

def endsWord : Text → Bool
  | [] => true
  | c :: _ => isSpaceOrTab c || isBreak c

def endsField : Text → Bool
  | [] => true
  | c :: _ => c == ' ' || isBreak c

-- A line end as it counts in a scalar: the two separators stay what they are.
def breakText (c : Char) : Text := if c == '\u2028' || c == '\u2029' then [c] else ['\n']

def startsMarker (text : Text) : Bool :=
  (Text.startsWith text "---" || Text.startsWith text "...") && endsWord (text.drop 3)

namespace Input

def ofText (text : Text) : Input := ⟨text, 0, 0, 0⟩

-- Goes past one character. A byte order mark takes no column.
def next (input : Input) : Input :=
  match input.rest with
  | [] => input
  | c :: rest =>
    if isBreak c then ⟨rest, input.index + 1, input.line + 1, 0⟩
    else ⟨rest, input.index + 1, input.line, if c = '\uFEFF' then input.column else input.column + 1⟩

def skip (input : Input) : Nat → Input
  | 0 => input
  | n + 1 => input.next.skip n

def skipTo (input : Input) (rest : Text) : Input := input.skip (input.rest.length - rest.length)

def skipWhile (input : Input) (p : Char → Bool) : Input :=
  input.skip (input.rest.takeWhile p).length

def skipBreak? (input : Input) : Option (Text × Input) :=
  match input.rest with
  | c :: _ => if isBreak c then some (breakText c, input.next) else none
  | [] => none

def skipSpaces (input : Input) : Input := input.skipWhile (· == ' ')

def skipComment (input : Input) : Input :=
  if input.rest.head? = some '#' then input.skipWhile (!isBreak ·) else input

def atMarker (input : Input) (marker : Text) : Bool :=
  input.column = 0 && Text.startsWith input.rest marker && endsWord (input.rest.drop 3)

end Input

end SourceLocator.Yaml
