import SourceLocator.Fault
import SourceLocator.Text.Digit
import SourceLocator.Yaml.Input

/-!
Scalars between quotes. A line end inside one reads as a space, and further line ends as themselves;
between double quotes a backslash begins an escape.
-/

set_option autoImplicit false

namespace SourceLocator.Yaml.Quoted

def simpleEscapes : List (Char × Char) :=
  [('0', '\x00'), ('a', '\x07'), ('b', '\x08'), ('t', '\t'), ('\t', '\t'), ('n', '\n'),
   ('v', '\x0b'), ('f', '\x0c'), ('r', '\r'), ('e', '\x1b'), (' ', ' '), ('\x22', '\x22'),
   ('\\', '\\'), ('/', '/'), ('N', '\u0085'), ('_', '\u00a0'), ('L', '\u2028'), ('P', '\u2029')]

def escapeWidths : List (Char × Nat) := [('x', 2), ('u', 4), ('U', 8)]

def codeItem (code : Nat) : Except Fault Utf16.Item :=
  if code < 0x10000 then .ok (.unit code)
  else if code < 0x110000 then .ok (.char (Char.ofNat code))
  else .error (.notCharacter code)

def breaks : Nat → Text → Except Fault (Text × Text)
  | 0, _ => .error .malformedYaml
  | fuel + 1, text =>
    if startsMarker text then .error .malformedYaml
    else
      match text.dropWhile isSpaceOrTab with
      | c :: rest =>
        if isBreak c then do
          let (more, rest) ← breaks fuel rest
          return (breakText c ++ more, rest)
        else .ok ([], c :: rest)
      | [] => .ok ([], [])

def blanks (fuel : Nat) (text : Text) : Except Fault (Text × Text) :=
  match text.dropWhile isSpaceOrTab with
  | [] => .error .malformedYaml
  | c :: rest =>
    if isBreak c then do
      let (more, rest) ← breaks fuel rest
      let first := if breakText c != ['\n'] then breakText c else if more.isEmpty then [' '] else []
      return (first ++ more, rest)
    else .ok (text.takeWhile isSpaceOrTab, c :: rest)

def escape (fuel : Nat) : Text → Except Fault (List Utf16.Item × Text)
  | [] => .error .malformedYaml
  | c :: rest =>
    match simpleEscapes.lookup c, escapeWidths.lookup c with
    | some char, _ => .ok ([.char char], rest)
    | none, some width => do
      let digits := (rest.take width).filterMap hexValue?
      if digits.length < width then throw .malformedYaml
      return ([← codeItem (ofDigits 16 digits)], rest.drop width)
    | none, none =>
      if isBreak c then do
        let (more, rest) ← breaks fuel rest
        return (more.map .char, rest)
      else .error .malformedYaml

def items (double : Bool) : Nat → Text → Except Fault (List Utf16.Item × Text)
  | 0, _ => .error .malformedYaml
  | _ + 1, [] => .error .malformedYaml
  | fuel + 1, c :: rest =>
    let continueWith (front : List Utf16.Item) (rest : Text) :
        Except Fault (List Utf16.Item × Text) := do
      let (more, rest) ← items double fuel rest
      return (front ++ more, rest)
    if c = '\x27' ∧ !double then
      match rest with
      | '\x27' :: rest => continueWith [.char '\x27'] rest
      | rest => .ok ([], rest)
    else if c = '\x22' ∧ double then .ok ([], rest)
    else if c = '\\' ∧ double then do
      let (front, rest) ← escape fuel rest
      continueWith front rest
    else if isSpaceOrTab c || isBreak c then do
      let (front, rest) ← blanks fuel (c :: rest)
      continueWith (front.map .char) rest
    else continueWith [.char c] rest

def read (double : Bool) (text : Text) : Except Fault (Writing × Text) := do
  let (items, rest) ← items double (text.length + 1) text
  return (.ofPoints (items.map Utf16.Item.point), rest)

end SourceLocator.Yaml.Quoted
