import SourceLocator.Yaml.Input

/-!
Scalars without quotes. They end at a colon or a comment that a blank sets off, inside brackets also
at what separates entries, and may go on in lines that are indented enough.
-/

set_option autoImplicit false

namespace SourceLocator.Yaml.Plain

def separators : Text := ",?[]\x7b\x7d"

def endsAtColon (inFlow : Bool) (rest : Text) : Bool :=
  endsWord rest || (inFlow && (",[]\x7b\x7d".toList.any fun c => rest.head? == some c))

def chunk (inFlow : Bool) : Text → Text
  | [] => []
  | c :: rest =>
    if endsWord [c] || (c == ':' && endsAtColon inFlow rest) || (inFlow && separators.contains c)
    then []
    else c :: chunk inFlow rest

def emptyLines : Nat → Input → Option Text × Input
  | 0, input => (some [], input)
  | fuel + 1, input =>
    let input := input.skipSpaces
    match input.skipBreak? with
    | none => (some [], input)
    | some (lineEnd, input) =>
      if startsMarker input.rest then (none, input)
      else
        let (more, input) := emptyLines fuel input
        (more.map (lineEnd ++ ·), input)

structure Gap where
  text : Text
  input : Input
  isBroken : Bool

def gap (fuel : Nat) (input : Input) : Gap :=
  let after := input.skipSpaces
  match after.skipBreak? with
  | none => ⟨input.rest.takeWhile (· == ' '), after, false⟩
  | some (lineEnd, after) =>
    if startsMarker after.rest then ⟨[], after, true⟩
    else
      match emptyLines fuel after with
      | (none, after) => ⟨[], after, true⟩
      | (some lines, after) =>
        let first := if lineEnd != ['\n'] then lineEnd else if lines.isEmpty then [' '] else []
        ⟨first ++ lines, after, true⟩

-- A scalar from here on. Gives its text, where it ends, and whether it ends on a later line than
-- its last chunk.
def readFrom (inFlow : Bool) (indent : Int) (before : Text) :
    Nat → Input → Bool → Text × Input × Bool
  | 0, input, broken => ([], input, broken)
  | fuel + 1, input, broken =>
    let front := chunk inFlow input.rest
    if input.rest.head? = some '#' ∨ front.isEmpty then ([], input, broken)
    else
      let gap := gap fuel (input.skip front.length)
      if gap.text.isEmpty ∨ (!inFlow ∧ (gap.input.column : Int) < indent) then
        (before ++ front, gap.input, gap.isBroken)
      else
        let (more, input, broken) := readFrom inFlow indent gap.text fuel gap.input gap.isBroken
        (before ++ front ++ more, input, broken)

def read (inFlow : Bool) (indent : Int) (fuel : Nat) (input : Input) : Text × Input × Bool :=
  readFrom inFlow indent [] fuel input false

end SourceLocator.Yaml.Plain
