import SourceLocator.Config.Graph
import SourceLocator.Json

/-!
The values of a configuration: scalars, lists, pairs, sets, and mappings from scalars. A document can
also put a collection into itself; then the value is a graph with a place in it.
-/

set_option autoImplicit false

namespace SourceLocator

inductive Value where
  | scalar (value : Scalar)
  | list (items : List Value)
  | pair (first second : Value)
  | set (items : List Scalar)
  | mapping (fields : List (Scalar × Value))
  | knot (graph : Graph) (number : Nat)
deriving Inhabited

def Part.value (graph : Graph) : Part → Value
  | .scalar value => .scalar value
  | .collection number => .knot graph number

namespace Value

def text (value : String) : Value := .scalar (.ofString value)

def int (value : Int) : Value := .scalar (.int value)

def emptyMapping : Value := .mapping []

def ofCollection (part : Part → Value) : Collection → Value
  | .list items => .list (items.map part)
  | .pairs items => .list (items.map fun (first, second) => .pair (part first) (part second))
  | .set items => .set items
  | .mapping fields => .mapping (fields.map fun (key, value) => (key, part value))

def opened : Value → Value
  | .knot graph number => (graph[number]?).elim emptyMapping (ofCollection (Part.value graph))
  | value => value

def isList (value : Value) : Bool :=
  match value.opened with
  | .list _ => true
  | _ => false

-- The fields of a mapping; anything else has none at all.
def fields? (value : Value) : Option (Fields Value) :=
  match value.opened with
  | .mapping fields => some fields
  | _ => none

def field? (value : Value) (name : Text) : Except Fault (Option Value) :=
  match value.fields? with
  | some fields => .ok (fields.get? (.text name))
  | none => .error .notMapping

def fieldD (value : Value) (name : Text) (default : Value) : Except Fault Value := do
  return (← value.field? name).getD default

-- The items of a collection: of a text its characters, of bytes their numbers, of a mapping its
-- keys.
def items (value : Value) : Except Fault (List Value) :=
  match value.opened with
  | .list items => .ok items
  | .pair first second => .ok [first, second]
  | .set items => .ok (items.map .scalar)
  | .mapping fields => .ok (fields.map fun (key, _) => .scalar key)
  | .scalar (.text writing) => .ok (writing.pieces.map fun piece => .scalar (.text piece))
  | .scalar (.bytes bytes) => .ok (bytes.map fun b => .int b.toNat)
  | .scalar _ | .knot _ _ => .error .wrongKind

def toScalar : Value → Except Fault Scalar
  | .scalar s => .ok s
  | .pair first second => do return .pair (← toScalar first) (← toScalar second)
  | _ => .error .wrongKind

def scalars (value : Value) : Except Fault (List Scalar) := do
  let items ← value.items
  return Scalar.distinct (← items.mapM toScalar)

def toInt (value : Value) : Except Fault Int := do (← value.toScalar).toInt

mutual
def displayInside (depth : Nat) : Value → Except Fault Text
  | .scalar s => s.display
  | .list items => do
    return Scalar.displayBetween '[' (← displayItems (← Fault.deeper depth) items) ']'
  | .pair first second => do
    let depth ← Fault.deeper depth
    return Scalar.displayPair (← displayInside depth first) (← displayInside depth second)
  | .set items => Collection.displaySet items
  | .mapping fields => do
    return Scalar.displayBetween '\x7b' (← displayFields (← Fault.deeper depth) fields) '\x7d'
  | .knot graph number => graph.display depth number
termination_by structural value => value
def displayItems (depth : Nat) : List Value → Except Fault (List Text)
  | [] => .ok []
  | item :: rest => do return (← displayInside depth item) :: (← displayItems depth rest)
termination_by structural items => items
def displayFields (depth : Nat) : List (Scalar × Value) → Except Fault (List Text)
  | [] => .ok []
  | (key, value) :: rest => do
    return (← Collection.displayField key (displayInside depth value)) ::
      (← displayFields depth rest)
termination_by structural fields => fields
end

def display : Value → Except Fault Writing
  | .scalar (.text writing) => .ok writing
  | .scalar (.date date) => .ok (.text date.text)
  | .scalar (.moment moment) => .ok (.text moment.text)
  | value => do return .text (← value.displayInside Fault.nestingLimit)

mutual
def ofJson : Json → Value
  | .null => .scalar .null
  | .bool value => .scalar (.bool value)
  | .int value => .scalar (.int value)
  | .real value => .scalar (.real value)
  | .string value => .scalar (.text value)
  | .array items => .list (ofItems items)
  | .object members => .mapping (Fields.ofList (ofMembers members))
termination_by structural json => json
def ofItems : List Json → List Value
  | [] => []
  | item :: rest => ofJson item :: ofItems rest
termination_by structural items => items
def ofMembers : List (Writing × Json) → List (Scalar × Value)
  | [] => []
  | (name, value) :: rest => (.text name, ofJson value) :: ofMembers rest
termination_by structural members => members
end

end Value

end SourceLocator
