import SourceLocator.Yaml.Kind
import SourceLocator.Yaml.Token

/-!
The one document of a YAML text, as nodes that refer to each other by number. Where a node may be left
out, an empty scalar stands for it. A name stands for the node that it was given to from that node's
beginning on, so a node may be inside several others, and also inside itself.
-/

set_option autoImplicit false

namespace SourceLocator.Yaml

inductive Content where
  | scalar (writing : Writing)
  | sequence (items : List Nat)
  | mapping (pairs : List (Nat × Nat))
deriving Repr, Inhabited

structure Node where
  kind : Kind
  content : Content
deriving Repr, Inhabited

abbrev Nodes := Array Node

structure Document where
  nodes : Nodes
  root : Nat
deriving Repr

def bareTag : Text := ['!']

def Kind.ofWriting : Writing → Kind
  | .text value => .ofText value
  | .halved _ => .text

-- The type of a scalar. Without a tag only that of a plain one depends on its text.
def Kind.ofScalar (tag : Option Text) (writing : Writing) (plain : Bool) : Kind :=
  match tag with
  | none => if plain then .ofWriting writing else .text
  | some tag => if tag = bareTag then .ofWriting writing else .ofTag tag

def Kind.ofCollection (tag : Option Text) (default : Kind) : Kind :=
  (tag.filter (· != bareTag)).elim default Kind.ofTag

structure Reading where
  tokens : List Token
  handles : List (Text × Text)
  anchors : List (Text × Nat)
  nodes : Nodes
  depth : Nat

abbrev Reader := StateT Reading (Except Fault)

def depthLimit : Nat := 490

namespace Reader

def next? : Reader (Option Token) := do
  match (← get).tokens with
  | .unreadable fault :: _ => throw fault
  | tokens => return tokens.head?

def advance : Reader Unit := modify fun reading => { reading with tokens := reading.tokens.tail }

def nextIs (tokens : List Token) : Reader Bool := do return (← next?).any tokens.contains

def take (token : Token) : Reader Bool := do
  if (← next?) == some token then
    advance
    return true
  else return false

def expect (token : Token) : Reader Unit := do
  if !(← take token) then throw .malformedYaml

def named (name : Text) : Reader Nat := do
  match (← get).anchors.lookup name with
  | some number => return number
  | none => throw .malformedYaml

def add (node : Node) : Reader Nat :=
  modifyGet fun reading => (reading.nodes.size, { reading with nodes := reading.nodes.push node })

-- Adds a node that may have a name. No two nodes have the same one.
def addNamed (anchor : Option Text) (node : Node) : Reader Nat := do
  let some name := anchor | add node
  if ((← get).anchors.lookup name).isSome then throw .malformedYaml
  let number ← add node
  modify fun reading => { reading with anchors := (name, number) :: reading.anchors }
  return number

def addScalar (anchor tag : Option Text) (writing : Writing) (plain : Bool) : Reader Nat :=
  addNamed anchor ⟨.ofScalar tag writing plain, .scalar writing⟩

def addEmpty : Reader Nat := add ⟨.null, .scalar (.text [])⟩

def fill (number : Nat) (content : Content) : Reader Unit :=
  modify fun reading =>
    { reading with nodes := reading.nodes.modify number fun node => { node with content } }

def inside {α : Type} (read : Reader α) : Reader α := do
  let depth := (← get).depth
  if depthLimit ≤ depth then throw .tooDeep
  modify fun reading => { reading with depth := depth + 1 }
  let result ← read
  modify fun reading => { reading with depth }
  return result

def sequence (anchor tag : Option Text) (items : Reader (List Nat)) : Reader Nat := do
  let number ← addNamed anchor ⟨.ofCollection tag .sequence, .sequence []⟩
  fill number (.sequence (← inside items))
  return number

def mapping (anchor tag : Option Text) (pairs : Reader (List (Nat × Nat))) : Reader Nat := do
  let number ← addNamed anchor ⟨.ofCollection tag .mapping, .mapping []⟩
  fill number (.mapping (← inside pairs))
  return number

def anchor? : Reader (Option Text) := do
  match ← next? with
  | some (.anchor name) =>
    advance
    return some name
  | _ => return none

def tag? : Reader (Option (Option Text × Text)) := do
  match ← next? with
  | some (.tag handle suffix) =>
    advance
    return some (handle, suffix)
  | _ => return none

def wholeTag (handle : Option Text) (suffix : Text) : Reader Text := do
  let some handle := handle | return suffix
  match (← get).handles.lookup handle with
  | some expansion => return expansion ++ suffix
  | none => throw .malformedYaml

def properties : Reader (Option Text × Option Text) := do
  let early ← anchor?
  let tag ← tag?
  let anchor ← if early.isNone && tag.isSome then anchor? else pure early
  match tag with
  | some (handle, suffix) => return (anchor, some (← wholeTag handle suffix))
  | none => return (anchor, none)

mutual
-- A node. Each node inside another and each one behind another takes a unit of fuel. A sequence may
-- stand at the indentation of the mapping that holds it.
def node : Nat → Bool → Reader Nat
  | 0, _ => throw .malformedYaml
  | fuel + 1, indentless => do
    if let some (.alias name) ← next? then
      advance
      return ← named name
    let (anchor, tag) ← properties
    match ← next? with
    | some (.scalar writing plain) =>
      let number ← addScalar anchor tag writing plain
      advance
      return number
    | some .flowSequenceStart => sequence anchor tag do
      advance
      flowItems fuel true
    | some .flowMappingStart => mapping anchor tag do
      advance
      flowPairs fuel true
    | some .blockSequenceStart => sequence anchor tag do
      advance
      let items ← blockItems fuel [.entry, .blockEnd]
      expect .blockEnd
      return items
    | some .blockMappingStart => mapping anchor tag do
      advance
      blockPairs fuel
    | token =>
      if indentless && token == some .entry then
        sequence anchor tag (blockItems fuel [.entry, .key, .value, .blockEnd])
      else if anchor.isSome || tag.isSome then addScalar anchor tag (.text []) tag.isNone
      else throw .malformedYaml

def nodeBefore : Nat → Bool → List Token → Reader Nat
  | 0, _, _ => throw .malformedYaml
  | fuel + 1, indentless, ends => do
    if ← nextIs ends then addEmpty else node fuel indentless

def blockItems : Nat → List Token → Reader (List Nat)
  | 0, _ => throw .malformedYaml
  | fuel + 1, ends => do
    if ← take .entry then
      let item ← nodeBefore fuel false ends
      return item :: (← blockItems fuel ends)
    else return []

def blockPairs : Nat → Reader (List (Nat × Nat))
  | 0 => throw .malformedYaml
  | fuel + 1 => do
    if ← take .key then
      let key ← nodeBefore fuel true [.key, .value, .blockEnd]
      let value ←
        if ← take .value then nodeBefore fuel true [.key, .value, .blockEnd] else addEmpty
      return (key, value) :: (← blockPairs fuel)
    else
      expect .blockEnd
      return []

def flowPair : Nat → Token → Reader (Nat × Nat)
  | 0, _ => throw .malformedYaml
  | fuel + 1, close => do
    let key ← nodeBefore fuel false [.value, .separator, close]
    let value ← if ← take .value then nodeBefore fuel false [.separator, close] else addEmpty
    return (key, value)

-- The items of a sequence in brackets with the closing one. A pair is a mapping by itself.
def flowItems : Nat → Bool → Reader (List Nat)
  | 0, _ => throw .malformedYaml
  | fuel + 1, first => do
    if ← take .flowSequenceEnd then return []
    if !first then expect .separator
    if ← take .key then
      let pair ← mapping none none do return [← flowPair fuel .flowSequenceEnd]
      return pair :: (← flowItems fuel false)
    else if ← take .flowSequenceEnd then return []
    else
      let item ← node fuel false
      return item :: (← flowItems fuel false)

def flowPairs : Nat → Bool → Reader (List (Nat × Nat))
  | 0, _ => throw .malformedYaml
  | fuel + 1, first => do
    if ← take .flowMappingEnd then return []
    if !first then expect .separator
    if ← take .key then
      let pair ← flowPair fuel .flowMappingEnd
      return pair :: (← flowPairs fuel false)
    else if ← take .flowMappingEnd then return []
    else
      let key ← node fuel false
      return (key, ← addEmpty) :: (← flowPairs fuel false)
end

def standardHandles : List (Text × Text) :=
  [(['!'], ['!']), ("!!".toList, "tag:yaml.org,2002:".toList)]

def directives : Nat → Bool → Reader Unit
  | 0, _ => throw .malformedYaml
  | fuel + 1, versioned => do
    let some (.directive directive) ← next? | return
    advance
    match directive with
    | .version major =>
      if versioned || major != 1 then throw .malformedYaml
      directives fuel true
    | .tag handle expansion =>
      if ((← get).handles.lookup handle).isSome then throw .malformedYaml
      modify fun reading => { reading with handles := (handle, expansion) :: reading.handles }
      directives fuel versioned
    | .other => directives fuel versioned

def isDirective : Token → Bool
  | .directive _ => true
  | _ => false

def document (fuel : Nat) : Reader Nat := do
  let withStandard (reading : Reading) : Reading :=
    { reading with handles := reading.handles ++ standardHandles }
  let token ← next?
  if token.any isDirective || token == some .documentStart then
    directives fuel false
    modify withStandard
    expect .documentStart
    let token ← next?
    if token.all isDirective || token == some .documentStart || token == some .documentEnd then
      addEmpty
    else node fuel false
  else
    modify withStandard
    node fuel false

def skipDocumentEnds : Nat → Reader Unit
  | 0 => return
  | fuel + 1 => do if ← take .documentEnd then skipDocumentEnds fuel

def document? (fuel : Nat) : Reader (Option Document) := do
  if (← next?).isNone then return none
  let root ← document fuel
  skipDocumentEnds fuel
  if (← next?).isNone then return some ⟨(← get).nodes, root⟩
  directives fuel false
  throw .malformedYaml

end Reader

def Document.read? (text : Text) : Except Fault (Option Document) :=
  let tokens := tokens text
  (Reader.document? (4 * tokens.length + 4)).run' ⟨tokens, [], [], #[], 0⟩

end SourceLocator.Yaml
