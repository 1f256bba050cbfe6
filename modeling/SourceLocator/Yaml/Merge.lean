import SourceLocator.Yaml.Node

/-!
Mappings that take in others. At a key `<<` a mapping names another one, or a sequence of them, whose
pairs come before its own; of several the last one comes first. The key `=` of a mapping becomes a text
as soon as its pairs are looked at.
-/

set_option autoImplicit false

namespace SourceLocator.Yaml

def linkLimit : Nat := 985

abbrev Pairs := List (Nat × Nat)

namespace Nodes

def kind (nodes : Nodes) (number : Nat) : Kind := (nodes[number]?).elim .other Node.kind

def content (nodes : Nodes) (number : Nat) : Content :=
  (nodes[number]?).elim (.sequence []) Node.content

def pairs (nodes : Nodes) (number : Nat) : Pairs :=
  match nodes.content number with
  | .mapping pairs => pairs
  | _ => []

def withPairs (nodes : Nodes) (number : Nat) (pairs : Pairs) : Nodes :=
  nodes.modify number fun node => { node with content := .mapping pairs }

def withTextKey (nodes : Nodes) (number : Nat) : Nodes :=
  nodes.modify number fun node =>
    if node.kind = .scalarOf then { node with kind := .text } else node

def pairCount (nodes : Nodes) : Nat :=
  nodes.foldl (fun count node =>
    match node.content with
    | .mapping pairs => count + pairs.length
    | _ => count) 0

def sourcePairs (settle : Nat → Nodes → Except Fault Nodes) (nodes : Nodes) (source : Nat) :
    Except Fault (Pairs × Nodes) := do
  match nodes.content source with
  | .mapping _ =>
    let nodes ← settle source nodes
    return (nodes.pairs source, nodes)
  | _ => throw .malformedYaml

def takenPairs (settle : Nat → Nodes → Except Fault Nodes) (nodes : Nodes) (source : Nat) :
    Except Fault (Pairs × Nodes) :=
  match nodes.content source with
  | .sequence items =>
    items.foldlM
      (fun (taken, nodes) item => do
        let (pairs, nodes) ← sourcePairs settle nodes item
        return (pairs ++ taken, nodes))
      ([], nodes)
  | _ => sourcePairs settle nodes source

-- Settles the pairs of a mapping from an index on, after some pairs have been taken in. Each key
-- `<<` is gone before its value is looked at, so a mapping may take in itself; each takes a unit of
-- fuel.
def settleFrom : Nat → Nat → Nat → Pairs → Nat → Nodes → Except Fault Nodes
  | 0, _, _, _, _, nodes => .ok nodes
  | fuel + 1, depth, index, taken, number, nodes => do
    let pairs := nodes.pairs number
    let own := (pairs.drop index).takeWhile fun (key, _) => nodes.kind key != .merge
    let nodes := own.foldl (fun nodes (key, _) => nodes.withTextKey key) nodes
    let index := index + own.length
    match pairs.drop index with
    | [] => return nodes.withPairs number (taken ++ pairs)
    | (_, source) :: rest =>
      let nodes := nodes.withPairs number (pairs.take index ++ rest)
      let (more, nodes) ← takenPairs
        (fun source nodes => do settleFrom fuel (← Fault.deeper depth) 0 [] source nodes)
        nodes source
      settleFrom fuel depth index (taken ++ more) number nodes

def settle (fuel : Nat) (nodes : Nodes) (number : Nat) : Except Fault Nodes :=
  settleFrom (fuel + 1) linkLimit 0 [] number nodes

end Nodes

end SourceLocator.Yaml
