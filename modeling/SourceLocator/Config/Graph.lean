import SourceLocator.Config.SlotOrder

/-!
Collections that refer to each other by number, so that one may hold itself. A display of such a
collection ends where it would have to begin again.
-/

set_option autoImplicit false

namespace SourceLocator

inductive Part where
  | scalar (value : Scalar)
  | collection (number : Nat)
deriving DecidableEq, Repr, Inhabited

inductive Collection where
  | list (items : List Part)
  | pairs (items : List (Part × Part))
  | set (items : List Scalar)
  | mapping (fields : Fields Part)
deriving Repr, Inhabited

abbrev Graph := Array Collection

namespace Collection

def placeholder : Collection → Text
  | .mapping _ => ['\x7b', '.', '.', '.', '\x7d']
  | _ => "[...]"

def displaySet (items : List Scalar) : Except Fault Text := do
  if items.isEmpty then return "set()".toList
  return Scalar.displayBetween '\x7b' (← (Scalar.slotOrder items).mapM Scalar.display) '\x7d'

def displayField (key : Scalar) (value : Except Fault Text) : Except Fault Text := do
  return (← key.display) ++ ": ".toList ++ (← value)

def display (part : Part → Except Fault Text) : Collection → Except Fault Text
  | .list items => do return Scalar.displayBetween '[' (← items.mapM part) ']'
  | .pairs items => do
    let texts ← items.mapM fun (first, second) => do
      return Scalar.displayPair (← part first) (← part second)
    return Scalar.displayBetween '[' texts ']'
  | .set items => displaySet items
  | .mapping fields => do
    let texts ← fields.mapM fun (key, value) => displayField key (part value)
    return Scalar.displayBetween '\x7b' texts '\x7d'

def parts : Collection → List Part
  | .list items => items
  | .pairs items => items.flatMap fun (first, second) => [first, second]
  | .set _ => []
  | .mapping fields => fields.map Prod.snd

end Collection

namespace Graph

-- The display of a part inside some collections, of which none is entered inside itself.
def displayPart (graph : Graph) : Nat → List Nat → Part → Except Fault Text
  | _, _, .scalar value => value.display
  | 0, _, .collection _ => .error .tooDeep
  | depth + 1, outer, .collection number =>
    match graph[number]? with
    | none => .ok []
    | some collection =>
      if outer.contains number then .ok collection.placeholder
      else collection.display (displayPart graph depth (number :: outer))

def display (graph : Graph) (depth : Nat) (number : Nat) : Except Fault Text :=
  displayPart graph depth [] (.collection number)

end Graph

end SourceLocator
