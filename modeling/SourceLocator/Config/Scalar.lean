import SourceLocator.Number.Integer
import SourceLocator.Number.Shortest

/-!
The scalars of a configuration, which are also what its mappings have as keys. Two scalars are the
same key if they are equal as numbers, as texts, as bytes or as times, so `1`, `1.0` and `true` are
one key. What is not a number equals nothing but itself.
-/

set_option autoImplicit false

namespace SourceLocator

inductive Scalar where
  | null
  | bool (value : Bool)
  | int (value : Int)
  -- A real number. All that are `nan` by that word are the same.
  | real (value : Binary64)
  -- What came out as no number at one place of a document, and is the same only as itself.
  | strayNan (place : Nat)
  | text (value : Writing)
  | bytes (value : Bytes)
  | date (value : Date)
  | moment (value : Moment)
  | pair (first second : Scalar)
deriving DecidableEq, Repr, Inhabited

inductive Key where
  | null
  | whole (value : Int)
  | broken (value : Binary64)
  | strayNan (place : Nat)
  | text (value : Writing)
  | bytes (value : Bytes)
  | date (value : Date)
  | clock (value : Moment)
  | instant (microseconds : Int)
  | pair (first second : Key)
deriving DecidableEq, Repr

namespace Scalar

def ofString (text : String) : Scalar := .text (.ofString text)

def key : Scalar → Key
  | .null => .null
  | .bool value => .whole (if value then 1 else 0)
  | .int value => .whole value
  | .real (.finite negative mantissa exponent) =>
    if 0 ≤ exponent then .whole (Binary64.truncate negative mantissa exponent)
    else .broken (.finite negative mantissa exponent)
  | .real value => .broken value
  | .strayNan place => .strayNan place
  | .text value => .text value
  | .bytes value => .bytes value
  | .date value => .date value
  | .moment value =>
    match value.zone with
    | some zone => .instant (value.instant zone)
    | none => .clock value
  | .pair first second => .pair first.key second.key

def same (a b : Scalar) : Bool := a.key == b.key

def displayBetween (left : Char) (items : List Text) (right : Char) : Text :=
  left :: Text.join ", " items ++ [right]

def displayPair (first second : Text) : Text := displayBetween '(' [first, second] ')'

def display : Scalar → Except Fault Text
  | .null => .ok "None"
  | .bool true => .ok "True"
  | .bool false => .ok "False"
  | .int value => writeInteger value
  | .real value => .ok (Shortest.standard.write value)
  | .strayNan _ => .ok (Shortest.standard.write .nan)
  | .text value => .ok value.quoted
  | .bytes value => .ok (Text.quotedBytes value)
  | .date value => .ok value.display
  | .moment value => .ok value.display
  | .pair first second => do return displayPair (← first.display) (← second.display)

def distinct : List Scalar → List Scalar
  | [] => []
  | scalar :: rest => scalar :: (distinct rest).filter fun other => !scalar.same other

def asciiText (bytes : Bytes) : Text :=
  bytes.map fun b => if b ≤ 0x7F then Char.ofNat b.toNat else '\uFFFD'

-- Code points as a text, in which a half of a surrogate pair is no digit.
def writtenText (writing : Writing) : Text :=
  match writing with
  | .text value => value
  | .halved points => points.map fun n => if Utf16.isSurrogate n then '\uFFFD' else Char.ofNat n

-- Fractions are cut off; a text has to be an integer as a whole.
def toInt : Scalar → Except Fault Int
  | .bool value => .ok (if value then 1 else 0)
  | .int value => .ok value
  | .real .nan => .error .notNumber
  | .real (.infinite _) => .error .infiniteNumber
  | .real (.finite negative mantissa exponent) => .ok (Binary64.truncate negative mantissa exponent)
  | .strayNan _ => .error .notNumber
  | .text value => readIntegerAs value.quoted 10 (writtenText value)
  | .bytes value =>
    readIntegerAs (Text.quotedBytes (value.take Fault.quotationLimit)) 10 (asciiText value)
  | .null | .date _ | .moment _ | .pair _ _ => .error .wrongKind

end Scalar

abbrev Fields (α : Type) := List (Scalar × α)

namespace Fields

variable {α : Type}

def get? (fields : Fields α) (key : Scalar) : Option α :=
  (fields.find? fun (other, _) => other.same key).map Prod.snd

-- Sets a key: where it is already, or else at the end.
def set : Fields α → Scalar → α → Fields α
  | [], key, value => [(key, value)]
  | (other, old) :: rest, key, value =>
    if other.same key then (other, value) :: rest else (other, old) :: set rest key value

def ofList (pairs : List (Scalar × α)) : Fields α :=
  pairs.foldl (fun fields (key, value) => fields.set key value) []

end Fields

end SourceLocator
