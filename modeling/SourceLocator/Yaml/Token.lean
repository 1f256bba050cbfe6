import SourceLocator.Number.Integer
import SourceLocator.Text.Utf8
import SourceLocator.Yaml.Block
import SourceLocator.Yaml.Plain
import SourceLocator.Yaml.Quoted

/-!
The tokens of a YAML text. Indentation shows as start and end tokens of block collections. A key
needs no mark in front of it: where a colon follows on the same line, the tokens that say so are put
in before the token that turned out to be a key.
-/

set_option autoImplicit false

namespace SourceLocator.Yaml

inductive Directive where
  | version (major : Int)
  | tag (handle expansion : Text)
  | other
deriving DecidableEq, Repr

inductive Token where
  | directive (directive : Directive)
  | documentStart
  | documentEnd
  | blockSequenceStart
  | blockMappingStart
  | blockEnd
  | flowSequenceStart
  | flowSequenceEnd
  | flowMappingStart
  | flowMappingEnd
  | entry
  | separator
  | key
  | value
  | alias (name : Text)
  | anchor (name : Text)
  | tag (handle : Option Text) (suffix : Text)
  | scalar (text : Writing) (plain : Bool)
  -- What follows is no token, for the reason that the fault gives.
  | unreadable (fault : Fault)
deriving DecidableEq, Repr

structure KeyCandidate where
  position : Nat
  index : Nat
  line : Nat
  column : Nat
  required : Bool
deriving Repr

structure Scan where
  input : Input
  tokens : Array Token
  flowDepth : Nat
  indent : Int
  outerIndents : List Int
  allowKey : Bool
  candidates : List (Nat × KeyCandidate)

def keyLimit : Nat := 1024

namespace Scan

def ofText (text : Text) : Scan :=
  let input := Input.ofText text
  let input := if text.head? = some '\uFEFF' then input.next else input
  ⟨input, #[], 0, -1, [], true, []⟩

def inFlow (scan : Scan) : Bool := scan.flowDepth != 0

def emit (scan : Scan) (token : Token) : Scan := { scan with tokens := scan.tokens.push token }

def skip (scan : Scan) (n : Nat) : Scan := { scan with input := scan.input.skip n }

def here (scan : Scan) : Int := scan.input.column

-- Goes past blanks, comments and line ends. Outside brackets a key may begin on a new line.
def toNextToken (scan : Scan) : Nat → Scan
  | 0 => scan
  | fuel + 1 =>
    let input := scan.input.skipSpaces.skipComment
    match input.skipBreak? with
    | none => { scan with input }
    | some (_, input) =>
      { scan with input, allowKey := scan.allowKey || !scan.inFlow }.toNextToken fuel

def isStale (scan : Scan) (candidate : KeyCandidate) : Bool :=
  candidate.line != scan.input.line || keyLimit < scan.input.index - candidate.index

def dropStale (scan : Scan) : Except Fault Scan :=
  if scan.candidates.any fun (_, candidate) => scan.isStale candidate && candidate.required then
    .error .malformedYaml
  else
    .ok { scan with
      candidates := scan.candidates.filter fun (_, candidate) => !scan.isStale candidate }

def candidate? (scan : Scan) : Option KeyCandidate := scan.candidates.lookup scan.flowDepth

def withoutCandidate (scan : Scan) : Scan :=
  { scan with candidates := scan.candidates.filter fun (depth, _) => depth != scan.flowDepth }

def dropCandidate (scan : Scan) : Except Fault Scan :=
  match scan.candidate? with
  | some candidate => if candidate.required then .error .malformedYaml else .ok scan.withoutCandidate
  | none => .ok scan

def saveCandidate (scan : Scan) : Except Fault Scan := do
  if !scan.allowKey then return scan
  let candidate : KeyCandidate :=
    { position := scan.tokens.size, index := scan.input.index, line := scan.input.line
      column := scan.input.column, required := !scan.inFlow && scan.indent == scan.here }
  let scan ← scan.dropCandidate
  return { scan with candidates := (scan.flowDepth, candidate) :: scan.candidates }

def unwind (scan : Scan) (column : Int) : Scan :=
  if scan.inFlow then scan
  else
    let indents := scan.indent :: scan.outerIndents
    let ended := indents.takeWhile (column < ·)
    match indents.drop ended.length with
    | indent :: outerIndents =>
      { scan with
        tokens := scan.tokens ++ Array.replicate ended.length .blockEnd, indent, outerIndents }
    | [] => scan

-- Begins a block collection at a column, unless one has begun there already.
def beginBlock (scan : Scan) (column position : Nat) (start : Token) : Scan :=
  if !scan.inFlow && scan.indent < column then
    { scan with
      indent := column, outerIndents := scan.indent :: scan.outerIndents
      tokens := scan.tokens.insertIdx! position start }
  else scan

def beginHere (scan : Scan) (start : Token) : Scan :=
  scan.beginBlock scan.input.column scan.tokens.size start

def mark (scan : Scan) (token : Token) (width : Nat) (allowKey : Bool) : Except Fault Scan := do
  return (({ ← scan.dropCandidate with allowKey }).skip width).emit token

def documentMarker (scan : Scan) (token : Token) : Except Fault Scan :=
  (scan.unwind (-1)).mark token 3 false

def flowStart (scan : Scan) (token : Token) : Except Fault Scan := do
  let scan ← scan.saveCandidate
  return ({ scan with flowDepth := scan.flowDepth + 1, allowKey := true }.skip 1).emit token

def flowEnd (scan : Scan) (token : Token) : Except Fault Scan := do
  if !scan.inFlow then throw .malformedYaml
  let scan ← scan.dropCandidate
  return ({ scan with flowDepth := scan.flowDepth - 1, allowKey := false }.skip 1).emit token

def blockMark (scan : Scan) (start token : Token) (allowKey : Bool) : Except Fault Scan := do
  if !scan.inFlow && !scan.allowKey then throw .malformedYaml
  (scan.beginHere start).mark token 1 allowKey

-- A colon. It makes a key of the candidate at its depth, if there is one.
def colon (scan : Scan) : Except Fault Scan := do
  match scan.candidate? with
  | some candidate =>
    let scan := scan.withoutCandidate
    let scan := { scan with tokens := scan.tokens.insertIdx! candidate.position .key }
    let scan := scan.beginBlock candidate.column candidate.position .blockMappingStart
    return ({ scan with allowKey := false }.skip 1).emit .value
  | none => scan.blockMark .blockMappingStart .value (!scan.inFlow)

def isNameChar (c : Char) : Bool := c.isAlphanum || c == '-' || c == '_'

def anchorName (scan : Scan) (token : Text → Token) : Except Fault Scan := do
  let scan ← scan.saveCandidate
  let behind := scan.input.rest.drop 1
  let name := behind.takeWhile isNameChar
  let rest := behind.drop name.length
  let ends := endsWord rest || ("?:,]\x7d%@\x60".toList.any fun c => rest.head? == some c)
  if name.isEmpty || !ends then throw .malformedYaml
  return ({ scan with allowKey := false }.skip (name.length + 1)).emit (token name)

def isTagChar (c : Char) : Bool := c.isAlphanum || "-;/?:@&=+$,_.!~*'()[]%".toList.contains c

def unescapeTag : Text → Except Fault Bytes
  | [] => .ok []
  | '%' :: a :: b :: rest =>
    match hexValue? a, hexValue? b with
    | some high, some low => do return UInt8.ofNat (16 * high + low) :: (← unescapeTag rest)
    | _, _ => .error .malformedYaml
  | c :: rest =>
    if c = '%' then .error .malformedYaml else do return UInt8.ofNat c.toNat :: (← unescapeTag rest)

def tagText (text : Text) : Except Fault (Text × Text) := do
  let front := text.takeWhile isTagChar
  if front.isEmpty then throw .malformedYaml
  let bytes ← unescapeTag front
  if !Utf8.wellFormed bytes then throw .malformedYaml
  return (Utf8.decode bytes, text.drop front.length)

def tagHandle (text : Text) : Except Fault (Text × Text) :=
  match text with
  | '!' :: rest =>
    if rest.head? = some ' ' then .ok (['!'], rest)
    else
      let name := rest.takeWhile isNameChar
      match rest.drop name.length with
      | '!' :: behind => .ok ('!' :: name ++ ['!'], behind)
      | _ => .error .malformedYaml
  | _ => .error .malformedYaml

def tagToken (text : Text) : Except Fault (Token × Text) := do
  match text.drop 1 with
  | '<' :: rest =>
    let (suffix, rest) ← tagText rest
    match rest with
    | '>' :: rest => return (.tag none suffix, rest)
    | _ => throw .malformedYaml
  | rest =>
    if endsWord rest then return (.tag none ['!'], rest)
    let word := rest.takeWhile fun c => c != ' ' && !isBreak c
    let (handle, rest) ← if word.contains '!' then tagHandle text else pure (['!'], rest)
    let (suffix, rest) ← tagText rest
    return (.tag (some handle) suffix, rest)

def tag (scan : Scan) : Except Fault Scan := do
  let scan ← scan.saveCandidate
  let (token, rest) ← tagToken scan.input.rest
  if !endsField rest then throw .malformedYaml
  return { scan with allowKey := false, input := scan.input.skipTo rest }.emit token

def number (text : Text) : Except Fault (Int × Text) := do
  let digits := text.takeWhile Char.isDigit
  if digits.isEmpty then throw .malformedYaml
  return (← Text.readInteger digits, text.drop digits.length)

def dropSpaces (text : Text) : Text := text.dropWhile (· == ' ')

def directiveContent (name rest : Text) : Except Fault (Directive × Text) := do
  if name = "YAML".toList then
    let (major, rest) ← number (dropSpaces rest)
    let '.' :: rest := rest | throw .malformedYaml
    let (_, rest) ← number rest
    return (.version major, rest)
  else if name = "TAG".toList then
    let (handle, rest) ← tagHandle (dropSpaces rest)
    if rest.head? != some ' ' then throw .malformedYaml
    let (expansion, rest) ← tagText (dropSpaces rest)
    return (.tag handle expansion, rest)
  else return (.other, rest.dropWhile (!isBreak ·))

def directive (scan : Scan) : Except Fault Scan := do
  let scan ← { (scan.unwind (-1)) with allowKey := false }.dropCandidate
  let behind := scan.input.rest.drop 1
  let name := behind.takeWhile isNameChar
  let rest := behind.drop name.length
  if name.isEmpty || !endsField rest then throw .malformedYaml
  let (directive, rest) ← directiveContent name rest
  if !endsField rest then throw .malformedYaml
  let input := (scan.input.skipTo rest).skipSpaces.skipComment
  if !(input.rest.isEmpty || input.skipBreak?.isSome) then throw .malformedYaml
  return { scan with input := input.next }.emit (.directive directive)

def block (scan : Scan) (folded : Bool) : Except Fault Scan := do
  let scan ← { scan with allowKey := true }.dropCandidate
  let (text, input) ← Block.read folded scan.indent scan.input.next
  return { scan with input }.emit (.scalar text false)

def quoted (scan : Scan) (double : Bool) : Except Fault Scan := do
  let scan ← scan.saveCandidate
  let (text, rest) ← Quoted.read double (scan.input.rest.drop 1)
  return { scan with allowKey := false, input := scan.input.skipTo rest }.emit (.scalar text false)

def plain (scan : Scan) (fuel : Nat) : Except Fault Scan := do
  let scan ← scan.saveCandidate
  let (text, input, broken) := Plain.read scan.inFlow (scan.indent + 1) fuel scan.input
  return { scan with input, allowKey := broken }.emit (.scalar text true)

-- The characters that no plain scalar begins with, or only before a character that is no blank.
def indicators : Text := "-?:,[]\x7b\x7d#&*!|>'\x22%@\x60"

def startsPlain (scan : Scan) (c : Char) (rest : Text) : Bool :=
  !(endsWord [c] || indicators.contains c) ||
    (!endsWord rest && (c == '-' || (!scan.inFlow && (c == '?' || c == ':'))))

def token (scan : Scan) (fuel : Nat) (c : Char) (rest : Text) : Except Fault Scan :=
  if c = '%' ∧ scan.input.column = 0 then scan.directive
  else if scan.input.atMarker "---" then scan.documentMarker .documentStart
  else if scan.input.atMarker "..." then scan.documentMarker .documentEnd
  else if c = '[' then scan.flowStart .flowSequenceStart
  else if c = '\x7b' then scan.flowStart .flowMappingStart
  else if c = ']' then scan.flowEnd .flowSequenceEnd
  else if c = '\x7d' then scan.flowEnd .flowMappingEnd
  else if c = ',' then scan.mark .separator 1 true
  else if c = '-' ∧ endsWord rest then scan.blockMark .blockSequenceStart .entry true
  else if c = '?' ∧ (scan.inFlow ∨ endsWord rest) then
    scan.blockMark .blockMappingStart .key (!scan.inFlow)
  else if c = ':' ∧ (scan.inFlow ∨ endsWord rest) then scan.colon
  else if c = '*' then scan.anchorName .alias
  else if c = '&' then scan.anchorName .anchor
  else if c = '!' then scan.tag
  else if c = '|' ∧ !scan.inFlow then scan.block false
  else if c = '>' ∧ !scan.inFlow then scan.block true
  else if c = '\x27' then scan.quoted false
  else if c = '\x22' then scan.quoted true
  else if scan.startsPlain c rest then scan.plain fuel
  else .error .malformedYaml

-- The scan after its next tokens, and whether the text has ended. Its end ends all block
-- collections. The fuel has to be more than the characters that are left.
def step (scan : Scan) (fuel : Nat) : Except Fault (Scan × Bool) := do
  let scan ← (scan.toNextToken fuel).dropStale
  let scan := scan.unwind scan.here
  match scan.input.rest with
  | [] => return (← (scan.unwind (-1)).dropCandidate, true)
  | c :: rest => return (← scan.token fuel c rest, false)

-- The tokens before the first one that may still turn out to be a key.
def settled (scan : Scan) : List Token :=
  let positions := scan.candidates.filterMap fun (_, candidate) =>
    if scan.isStale candidate then none else some candidate.position
  scan.tokens.toList.take (positions.foldl min scan.tokens.size)

-- All the tokens, or those that are settled before a fault. Each takes a character at least.
def finish (scan : Scan) : Nat → List Token
  | 0 => [.unreadable .malformedYaml]
  | fuel + 1 =>
    match scan.step (fuel + 1) with
    | .ok (scan, ended) => if ended then scan.tokens.toList else scan.finish fuel
    | .error fault => scan.settled ++ [.unreadable fault]

end Scan

def isTextChar (c : Char) : Bool :=
  let n := c.toNat
  n == 0x09 || n == 0x0A || n == 0x0D || (0x20 ≤ n && n ≤ 0x7E) || n == 0x85 ||
    (0xA0 ≤ n && n ≤ 0xD7FF) || (0xE000 ≤ n && n ≤ 0xFFFD) || 0x10000 ≤ n

def tokens (text : Text) : List Token :=
  if text.all isTextChar then (Scan.ofText text).finish (text.length + 1)
  else [.unreadable .malformedYaml]

end SourceLocator.Yaml
