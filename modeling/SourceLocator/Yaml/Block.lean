import SourceLocator.Fault
import SourceLocator.Yaml.Input

/-!
Block scalars: the lines below a bar or an angle bracket that are indented alike. The bar keeps the
line ends between them; the angle bracket folds each single one into a space.
-/

set_option autoImplicit false

namespace SourceLocator.Yaml.Block

inductive Chomping where
  | strip
  | clip
  | keep
deriving DecidableEq, Repr

def chomping? (c : Char) : Option Chomping :=
  if c = '+' then some .keep else if c = '-' then some .strip else none

def increment? (c : Char) : Option Nat := if c.isDigit then some (c.toNat - 0x30) else none

structure Header where
  chomping : Chomping
  increment : Option Nat
deriving Repr

def header (text : Text) : Header × Text :=
  match text with
  | a :: b :: rest =>
    match chomping? a, increment? a, chomping? b, increment? b with
    | some chomping, _, _, some increment => (⟨chomping, some increment⟩, rest)
    | some chomping, _, _, none => (⟨chomping, none⟩, b :: rest)
    | none, some increment, some chomping, _ => (⟨chomping, some increment⟩, rest)
    | none, some increment, none, _ => (⟨.clip, some increment⟩, b :: rest)
    | none, none, _, _ => (⟨.clip, none⟩, text)
  | [a] =>
    match chomping? a, increment? a with
    | some chomping, _ => (⟨chomping, none⟩, [])
    | none, some increment => (⟨.clip, some increment⟩, [])
    | none, none => (⟨.clip, none⟩, text)
  | [] => (⟨.clip, none⟩, [])

def leadingLines : Nat → Input → Nat → Text × Nat × Input
  | 0, input, greatest => ([], greatest, input)
  | fuel + 1, input, greatest =>
    let input := input.skipSpaces
    let greatest := max greatest input.column
    match input.skipBreak? with
    | none => ([], greatest, input)
    | some (lineEnd, input) =>
      let (more, greatest, input) := leadingLines fuel input greatest
      (lineEnd ++ more, greatest, input)

def skipIndent (indent : Nat) (input : Input) : Input :=
  input.skip ((input.rest.takeWhile (· == ' ')).length.min (indent - input.column))

def emptyLines (indent : Nat) : Nat → Input → Text × Input
  | 0, input => ([], input)
  | fuel + 1, input =>
    let input := skipIndent indent input
    match input.skipBreak? with
    | none => ([], input)
    | some (lineEnd, input) =>
      let (more, input) := emptyLines indent fuel input
      (lineEnd ++ more, input)

def startsBlank (input : Input) : Bool :=
  match input.rest with
  | c :: _ => isSpaceOrTab c
  | [] => false

-- What stands for the line end between two lines with `breaks` empty lines between them.
def joint (folded : Bool) (lineEnd breaks : Text) (betweenBlanks : Bool) : Text :=
  if folded && lineEnd == ['\n'] && !betweenBlanks then if breaks.isEmpty then [' '] else []
  else lineEnd

def lines (folded : Bool) (chomping : Chomping) (indent : Nat) :
    Nat → Input → Text → Text × Input
  | 0, input, _ => ([], input)
  | fuel + 1, input, before =>
    let content := input.rest.takeWhile (!isBreak ·)
    let after := input.skip content.length
    let (lineEnd, after) := after.skipBreak?.getD ([], after)
    let (breaks, after) := emptyLines indent fuel after
    if after.column = indent && !after.rest.isEmpty then
      let between := joint folded lineEnd breaks (startsBlank input || startsBlank after)
      let (more, after) := lines folded chomping indent fuel after breaks
      (before ++ content ++ between ++ more, after)
    else
      let ending := match chomping with
        | .strip => []
        | .clip => lineEnd
        | .keep => lineEnd ++ breaks
      (before ++ content ++ ending, after)

def read (folded : Bool) (outer : Int) (input : Input) : Except Fault (Text × Input) := do
  let (header, rest) := header input.rest
  if header.increment = some 0 then throw .malformedYaml
  let input := input.skipTo rest
  if !endsField input.rest then throw .malformedYaml
  let input := input.skipSpaces.skipComment
  if !(input.rest.isEmpty || input.skipBreak?.isSome) then throw .malformedYaml
  let input := input.next
  let fuel := input.rest.length + 1
  let least := (max 1 (outer + 1)).toNat
  let (before, indent, input) := match header.increment with
    | some increment =>
      let indent := least + increment - 1
      let (breaks, input) := emptyLines indent fuel input
      (breaks, indent, input)
    | none =>
      let (breaks, greatest, input) := leadingLines fuel input 0
      (breaks, max least greatest, input)
  if input.column = indent && !input.rest.isEmpty then
    return lines folded header.chomping indent fuel input before
  return (if header.chomping = .keep then before else [], input)

end SourceLocator.Yaml.Block
