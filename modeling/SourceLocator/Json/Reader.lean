import SourceLocator.Fault
import SourceLocator.Json
import SourceLocator.Text.Digit

/-!
Reading JSON. Beside the standard's numbers there are `NaN`, `Infinity` and `-Infinity`; control
characters in strings, leading zeros and trailing commas are refused. How long integers may be and how
deep collections may lie is up to who reads.
-/

set_option autoImplicit false

namespace SourceLocator.Json

structure Limits where
  digits : Option Nat
  depth : Option Nat
deriving DecidableEq, Repr

def Limits.inside (limits : Limits) : Except Fault Limits :=
  match limits.depth with
  | none => .ok limits
  | some depth => do return { limits with depth := some (← Fault.deeper depth) }

def Limits.unlimited : Limits := ⟨none, none⟩

def expected {α : Type} : Option α → Except Fault α
  | some value => .ok value
  | none => .error .malformedJson

def isSpace (c : Char) : Bool := c == ' ' || c == '\t' || c == '\n' || c == '\r'

def skipSpace (text : Text) : Text := text.dropWhile isSpace

def simpleEscape? (c : Char) : Option Char :=
  [('\x22', '\x22'), ('\\', '\\'), ('/', '/'), ('b', '\x08'), ('f', '\x0c'), ('n', '\n'),
   ('r', '\r'), ('t', '\t')].lookup c

def stringItems : Text → Option (List Utf16.Item × Text)
  | [] => none
  | '\x22' :: rest => some ([], rest)
  | '\\' :: 'u' :: a :: b :: c :: d :: rest => do
    let digits := [← hexValue? a, ← hexValue? b, ← hexValue? c, ← hexValue? d]
    let (items, rest) ← stringItems rest
    return (.unit (ofDigits 16 digits) :: items, rest)
  | '\\' :: c :: rest => do
    let char ← simpleEscape? c
    let (items, rest) ← stringItems rest
    return (.char char :: items, rest)
  | c :: rest => do
    if c.toNat < 0x20 then none
    let (items, rest) ← stringItems rest
    return (.char c :: items, rest)

def readString (text : Text) : Except Fault (Writing × Text) := do
  let (items, rest) ← expected (stringItems text)
  return (.ofPoints (Utf16.join items), rest)

def digitsOf (text : Text) : List Nat := text.map fun c => c.toNat - 0x30

def whole? (text : Text) : Option (Text × Text) :=
  match text with
  | '0' :: rest => some (['0'], rest)
  | text =>
    let digits := text.takeWhile Char.isDigit
    if digits.isEmpty then none else some (digits, text.dropWhile Char.isDigit)

def fraction (text : Text) : Text × Text :=
  match text with
  | '.' :: rest =>
    let digits := rest.takeWhile Char.isDigit
    if digits.isEmpty then ([], text) else (digits, rest.dropWhile Char.isDigit)
  | text => ([], text)

def exponent? (text : Text) : Option (Int × Text) := do
  let rest ← match text with
    | 'e' :: rest => some rest
    | 'E' :: rest => some rest
    | _ => none
  let (sign, rest) : Int × Text := match rest with
    | '-' :: rest => (-1, rest)
    | '+' :: rest => (1, rest)
    | rest => (1, rest)
  let digits := rest.takeWhile Char.isDigit
  if digits.isEmpty then none
  else some (sign * ofDigits 10 (digitsOf digits), rest.dropWhile Char.isDigit)

def readNumber (limits : Limits) (negative : Bool) (text : Text) : Except Fault (Json × Text) := do
  let (digits, rest) ← expected (whole? text)
  let (places, rest) := fraction rest
  let mantissa := ofDigits 10 (digitsOf (digits ++ places))
  match exponent? rest with
  | some (power, rest) =>
    return (.real (Binary64.ofDecimal negative mantissa (power - places.length)), rest)
  | none =>
    if !places.isEmpty then
      return (.real (Binary64.ofDecimal negative mantissa (-places.length)), rest)
    else if limits.digits.any (· < digits.length) then throw (.tooManyDigits digits.length)
    else return (.int (if negative then -mantissa else mantissa), rest)

def words : List (Text × Json) :=
  [("null", .null), ("true", .bool true), ("false", .bool false), ("NaN", .real .nan),
   ("Infinity", .real (.infinite false)), ("-Infinity", .real (.infinite true))]

def readScalar (limits : Limits) (text : Text) : Except Fault (Json × Text) :=
  match words.find? fun (word, _) => Text.startsWith text word with
  | some (word, value) => .ok (value, text.drop word.length)
  | none =>
    match text with
    | '-' :: rest => readNumber limits true rest
    | text => readNumber limits false text

mutual
-- The value at the front of a text; each value inside another takes one unit of fuel.
def readValue (limits : Limits) : Nat → Text → Except Fault (Json × Text)
  | 0, _ => .error .malformedJson
  | fuel + 1, text =>
    match text with
    | '\x22' :: rest => do
      let (value, rest) ← readString rest
      return (.string value, rest)
    | '[' :: rest => do
      let limits ← limits.inside
      match skipSpace rest with
      | ']' :: rest => return (.array [], rest)
      | rest =>
        let (items, rest) ← readItems limits fuel rest
        return (.array items, rest)
    | '\x7b' :: rest => do
      let limits ← limits.inside
      match skipSpace rest with
      | '\x7d' :: rest => return (.object [], rest)
      | rest =>
        let (members, rest) ← readMembers limits fuel rest
        return (.object members, rest)
    | text => readScalar limits text
def readItems (limits : Limits) : Nat → Text → Except Fault (List Json × Text)
  | 0, _ => .error .malformedJson
  | fuel + 1, text => do
    let (item, rest) ← readValue limits fuel text
    match skipSpace rest with
    | ']' :: rest => return ([item], rest)
    | ',' :: rest =>
      let (items, rest) ← readItems limits fuel (skipSpace rest)
      return (item :: items, rest)
    | _ => throw .malformedJson
def readMembers (limits : Limits) : Nat → Text → Except Fault (List (Writing × Json) × Text)
  | 0, _ => .error .malformedJson
  | fuel + 1, text => do
    let '\x22' :: rest := text | throw .malformedJson
    let (name, rest) ← readString rest
    let ':' :: rest := skipSpace rest | throw .malformedJson
    let (value, rest) ← readValue limits fuel (skipSpace rest)
    match skipSpace rest with
    | '\x7d' :: rest => return ([(name, value)], rest)
    | ',' :: rest =>
      let (members, rest) ← readMembers limits fuel (skipSpace rest)
      return ((name, value) :: members, rest)
    | _ => throw .malformedJson
end

-- Reads a document within limits. No value is nested deeper than its text is long.
def readWithin (limits : Limits) (text : Text) : Except Fault Json := do
  let (value, rest) ← readValue limits (text.length + 1) (skipSpace text)
  if (skipSpace rest).isEmpty then return value else throw .malformedJson

def read? (text : Text) : Option Json := (readWithin .unlimited text).toOption

end SourceLocator.Json
