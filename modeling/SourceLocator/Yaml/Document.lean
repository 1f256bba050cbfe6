import SourceLocator.Config.Graph
import SourceLocator.Yaml.Merge

/-!
What a document amounts to. A collection is there, with a number, before its parts are: they are put
into it in the order of the numbers, so of several faults the one that is nearest to the root comes
first, and of those at one depth the first in the text.
-/

set_option autoImplicit false

namespace SourceLocator.Yaml

namespace Nodes

-- What a node says as a scalar: a mapping says what is at its key `=`, down to some depth.
def writing (nodes : Nodes) : Nat → Nat → Except Fault Writing
  | 0, _ => .error .tooDeep
  | depth + 1, number =>
    match nodes.content number with
    | .scalar writing => .ok writing
    | .sequence _ => .error .malformedYaml
    | .mapping pairs =>
      match pairs.find? fun (key, _) => nodes.kind key == .scalarOf with
      | some (_, value) => nodes.writing depth value
      | none => .error .malformedYaml

def isScalar (nodes : Nodes) (number : Nat) : Bool :=
  match nodes.content number with
  | .scalar _ => true
  | _ => false

-- The value of a node as a scalar. Only what is written as a scalar can be a time.
def scalar (nodes : Nodes) (number : Nat) : Except Fault Scalar := do
  let kind := nodes.kind number
  if !kind.isScalar then throw .malformedYaml
  let writing ← nodes.writing linkLimit number
  if kind = .time ∧ !nodes.isScalar number then throw .wrongKind
  kind.read number writing

end Nodes

structure Building where
  nodes : Nodes
  parts : Array (Option Part)
  owners : Array Nat
  pairCount : Nat

abbrev Builder := StateT Building (Except Fault)

namespace Builder

def meet (number : Nat) : Builder Part := do
  let nodes := (← get).nodes
  if (nodes.kind number).isCollection then
    modifyGet fun building =>
      (.collection building.owners.size, { building with owners := building.owners.push number })
  else return .scalar (← nodes.scalar number)

-- What a node is. Where a node comes again, it is the same as before.
def part (number : Nat) : Builder Part := do
  if let some (some part) := (← get).parts[number]? then return part
  let part ← meet number
  modify fun building => { building with parts := building.parts.setIfInBounds number (some part) }
  return part

def key (number : Nat) : Builder Scalar := do
  match ← part number with
  | .scalar scalar => return scalar
  | .collection _ => throw .malformedYaml

def fields (number : Nat) : Builder (Fields Part) := do
  let nodes ← (← get).nodes.settle (← get).pairCount number
  modify fun building => { building with nodes }
  return Fields.ofList (← (nodes.pairs number).mapM fun (name, value) => do
    let name ← key name
    return (name, ← part value))

def pair (number : Nat) : Builder (Part × Part) := do
  match (← get).nodes.content number with
  | .mapping [(first, second)] => return (← part first, ← part second)
  | _ => throw .malformedYaml

def collection (number : Nat) : Builder Collection := do
  let nodes := (← get).nodes
  match nodes.kind number, nodes.content number with
  | .sequence, .sequence items => return .list (← items.mapM part)
  | .pairs, .sequence items => return .pairs (← items.mapM pair)
  | .mapping, .mapping _ => return .mapping (← fields number)
  | .set, .mapping _ => return .set ((← fields number).map Prod.fst)
  | _, _ => throw .malformedYaml

-- The collections from the next number on. Each takes a unit of fuel.
def collections : Nat → Graph → Builder Graph
  | 0, graph => return graph
  | fuel + 1, graph => do
    let some number := (← get).owners[graph.size]? | return graph
    collections fuel (graph.push (← collection number))

end Builder

-- What the root of a document is, and the document's collections. No node is two of them.
def Document.build (document : Document) : Except Fault (Graph × Part) := do
  let nodes := document.nodes
  let start : Building := ⟨nodes, Array.replicate nodes.size none, #[], nodes.pairCount⟩
  let (root, building) ← (Builder.part document.root).run start
  let graph ← (Builder.collections nodes.size #[]).run' building
  return (graph, root)

def read (text : Text) : Except Fault (Graph × Part) := do
  match ← Document.read? text with
  | none => return (#[], .scalar .null)
  | some document => document.build

end SourceLocator.Yaml
