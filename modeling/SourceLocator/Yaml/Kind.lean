import SourceLocator.Config.Scalar
import SourceLocator.Number.Real
import SourceLocator.Text.Base64
import SourceLocator.Text.Lower
import SourceLocator.Yaml.Timestamp

/-!
The types of nodes, from their tags or from the texts of untagged scalars, and the values that texts
have as scalars of a type.
-/

set_option autoImplicit false

namespace SourceLocator.Yaml

inductive Kind where
  | null
  | truth
  | int
  | real
  | text
  | time
  | bytes
  | sequence
  | mapping
  | set
  | pairs
  | merge
  | scalarOf
  | other
deriving DecidableEq, Repr, Inhabited

namespace Kind

def standardTags : List (String × Kind) :=
  [("null", .null), ("bool", .truth), ("int", .int), ("float", .real), ("str", .text),
   ("timestamp", .time), ("binary", .bytes), ("seq", .sequence), ("map", .mapping), ("set", .set),
   ("pairs", .pairs), ("omap", .pairs), ("merge", .merge), ("value", .scalarOf)]

def isCollection : Kind → Bool
  | .sequence | .mapping | .set | .pairs => true
  | _ => false

def isScalar : Kind → Bool
  | .null | .truth | .int | .real | .text | .time | .bytes => true
  | _ => false

def ofTag (tag : Text) : Kind :=
  match standardTags.find? fun (name, _) => tag == ("tag:yaml.org,2002:" ++ name).toList with
  | some (_, kind) => kind
  | none => .other

def isOneOf (words : List String) (text : Text) : Bool := words.any (·.toList == text)

def nullWords : List String := ["", "~", "null", "Null", "NULL"]

def truthWords : List String :=
  ["yes", "Yes", "YES", "true", "True", "TRUE", "on", "On", "ON",
   "no", "No", "NO", "false", "False", "FALSE", "off", "Off", "OFF"]

def infiniteWords : List String := [".inf", ".Inf", ".INF"]

def nanWords : List String := [".nan", ".NaN", ".NAN"]

def markWords : List String := ["!", "&", "*"]

def isRun (p : Char → Bool) (text : Text) : Bool := text.all fun c => p c || c == '_'

def isOctal (c : Char) : Bool := '0' ≤ c && c ≤ '7'

def isBinary (c : Char) : Bool := c == '0' || c == '1'

def isHex (c : Char) : Bool := (hexValue? c).isSome

def isSixtieth : Text → Bool
  | [c] => c.isDigit
  | [c, d] => '0' ≤ c && c ≤ '5' && d.isDigit
  | _ => false

def colonParts (text : Text) : List Text := Text.splitBy (· == ':') text

def hasSixtieths (text : Text) : Bool :=
  match colonParts text with
  | _ :: part :: rest => (part :: rest).all isSixtieth
  | _ => false

def firstPart (text : Text) : Text := text.takeWhile (· != ':')

def isWhole : Text → Bool
  | [] => false
  | c :: rest => c.isDigit && isRun Char.isDigit rest

def isInt : Text → Bool
  | ['0'] => true
  | '0' :: 'b' :: digits => !digits.isEmpty && isRun isBinary digits
  | '0' :: 'x' :: digits => !digits.isEmpty && isRun isHex digits
  | '0' :: digits => isRun isOctal digits
  | digits => isWhole (firstPart digits) && (!digits.contains ':' || hasSixtieths digits)

def isExponent : Text → Bool
  | [] => true
  | c :: sign :: digits =>
    (c == 'e' || c == 'E') && (sign == '-' || sign == '+') && !digits.isEmpty &&
      digits.all Char.isDigit
  | _ => false

def isPlaces (text : Text) : Bool := isExponent (text.dropWhile fun c => c.isDigit || c == '_')

def isReal (text : Text) : Bool :=
  let whole := text.takeWhile (· != '.')
  match text.drop whole.length with
  | '.' :: places =>
    if whole.contains ':' then
      isWhole (firstPart whole) && hasSixtieths whole && isRun Char.isDigit places
    else isWhole whole && isPlaces places
  | _ => false

def isBroken : Text → Bool
  | '.' :: c :: places => c.isDigit && isPlaces places
  | _ => false

-- A line feed at the end of a longer text does not count for its type.
def withoutLastBreak (text : Text) : Text :=
  if text.length > 1 ∧ text.getLast? = some '\n' then text.dropLast else text

def ofText (scalar : Text) : Kind :=
  let text := withoutLastBreak scalar
  let (_, unsigned) := splitSign text
  if isOneOf nullWords text then .null
  else if isOneOf truthWords text then .truth
  else if isInt unsigned then .int
  else if isReal unsigned || isBroken text then .real
  else if isOneOf infiniteWords unsigned || isOneOf nanWords text then .real
  else if Timestamp.isImplied text then .time
  else if text = "<<".toList then .merge
  else if text = "=".toList then .scalarOf
  else if isOneOf markWords text then .other
  else .text

end Kind

def ofSixtieths (parts : List Int) : Int := parts.foldl (fun n part => n * 60 + part) 0

abbrev Quotation := Text → Text

def readInt (quote : Quotation) (base : Nat) (text : Text) : Except Fault Int :=
  readIntegerAs (quote text) base text

def unsignedInt (quote : Quotation) (text : Text) : Except Fault Int :=
  match text with
  | [] => .error .emptyNumber
  | ['0'] => .ok 0
  | '0' :: 'b' :: digits => readInt quote 2 digits
  | '0' :: 'x' :: digits => readInt quote 16 digits
  | '0' :: _ => readInt quote 8 text
  | _ => do return ofSixtieths (← (Kind.colonParts text).mapM (readInt quote 10))

def withoutUnderscores (text : Text) : Text := text.filter (· != '_')

def toInt (quote : Quotation) (text : Text) : Except Fault Int := do
  let (negative, digits) := splitSign (withoutUnderscores text)
  let n ← unsignedInt quote digits
  return if negative then -n else n

def readReal (quote : Quotation) (text : Text) : Except Fault Binary64 :=
  match text.toReal? with
  | some x => .ok x
  | none => .error (.notReal (quote text))

def sumSixtieths (sum : Binary64) (unit : Nat) : List Binary64 → Except Fault Binary64
  | [] => .ok sum
  | part :: rest =>
    if Binary64.ofFraction false unit 1 = .infinite false then .error .tooLarge
    else sumSixtieths (sum.add (part.timesNat unit)) (unit * 60) rest

def nanWord : Text := ".nan"

def unsignedReal (quote : Quotation) (text : Text) : Except Fault Binary64 := do
  if text = ".inf".toList then return .infinite false
  if text = nanWord then return .nan
  if !text.contains ':' then return ← readReal quote text
  let parts ← (Kind.colonParts text).mapM (readReal quote)
  sumSixtieths (.finite false 0 0) 1 parts.reverse

-- The value of a text as a real number. No number is the same as another one, unless both are
-- written by the word for it.
def toReal (quote : Quotation) (place : Nat) (text : Text) : Except Fault Scalar := do
  let text := (withoutUnderscores text).lower
  if text.isEmpty then throw .emptyNumber
  let (negative, digits) := splitSign text
  let x ← unsignedReal quote digits
  if x = .nan ∧ digits ≠ nanWord then return .strayNan place
  return .real (if negative then x.negate else x)

def toTruth (text : Text) : Except Fault Bool :=
  let word := text.lower
  if Kind.isOneOf ["yes", "true", "on"] word then .ok true
  else if Kind.isOneOf ["no", "false", "off"] word then .ok false
  else .error .notTruth

def toTime (text : Text) : Except Fault Scalar :=
  match Timestamp.ofText? text with
  | none => .error .notTime
  | some stamp =>
    match stamp.read with
    | .ok (_, some moment) => .ok (.moment moment)
    | .ok (date, none) => .ok (.date date)
    | .error fault => .error (.badTime fault)

def toBytes (text : Text) : Except Fault Scalar :=
  match if text.all fun c => c.toNat ≤ 0x7F then Base64.decode? text else none with
  | some bytes => .ok (.bytes bytes)
  | none => .error .malformedYaml

def Kind.readText (kind : Kind) (quote : Quotation) (place : Nat) (text : Text) :
    Except Fault Scalar :=
  match kind with
  | .null => .ok .null
  | .truth => Scalar.bool <$> toTruth text
  | .int => Scalar.int <$> toInt quote text
  | .real => toReal quote place text
  | .text => .ok (Scalar.text (Writing.text text))
  | .time => toTime text
  | .bytes => toBytes text
  | _ => .error .malformedYaml

-- The value of a scalar of a type. A half of a surrogate pair belongs to no word and no number.
def Kind.read (kind : Kind) (place : Nat) (writing : Writing) : Except Fault Scalar :=
  match writing with
  | .text value => kind.readText Text.quoted place value
  | .halved points =>
    if kind = .text then .ok (Scalar.text writing)
    else
      let first := Writing.standIn points
      kind.readText (fun piece => (Writing.ofStandIns first piece).quoted) place
        (Writing.withStandIns first points)

end SourceLocator.Yaml
