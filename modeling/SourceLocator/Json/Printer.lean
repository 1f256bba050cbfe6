import SourceLocator.Json
import SourceLocator.Number.Shortest
import SourceLocator.Text.Quoted
import SourceLocator.Text.Utf16

/-!
Printing JSON in ASCII. What is not printable ASCII is escaped by its UTF-16 units. Nested values
stand on lines of their own, two spaces deeper than what holds them; empty ones stay on one line.
-/

set_option autoImplicit false

namespace SourceLocator.Json

def escapeUnit (unit : Nat) : Text := '\\' :: 'u' :: hexDigits 4 unit

def escapeChar (c : Char) : Text :=
  if c = '\x22' then ['\\', '\x22']
  else if c = '\\' then ['\\', '\\']
  else if c = '\n' then ['\\', 'n']
  else if c = '\r' then ['\\', 'r']
  else if c = '\t' then ['\\', 't']
  else if c = '\x08' then ['\\', 'b']
  else if c = '\x0c' then ['\\', 'f']
  else if 0x20 ≤ c.toNat ∧ c.toNat ≤ 0x7E then [c]
  else (Utf16.units c).flatMap escapeUnit

def escapePoint (point : Nat) : Text :=
  if Utf16.isSurrogate point then escapeUnit point else escapeChar (Char.ofNat point)

def escape : Writing → Text
  | .text value => value.flatMap escapeChar
  | .halved points => points.flatMap escapePoint

def printString (writing : Writing) : Text := '\x22' :: escape writing ++ ['\x22']

-- Numbers that JSON has no form for are named.
def numberFormat : Shortest.Format :=
  { Shortest.standard with nan := "NaN", infinite := "Infinity" }

def indent (depth : Nat) : Text := '\n' :: List.replicate (2 * depth) ' '

mutual
def printAt (depth : Nat) : Json → Text
  | .null => "null"
  | .bool true => "true"
  | .bool false => "false"
  | .int value => Text.ofInt value
  | .real value => numberFormat.write value
  | .string value => printString value
  | .array [] => "[]"
  | .array (item :: rest) =>
    '[' :: indent (depth + 1) ++ printAt (depth + 1) item ++ printItems (depth + 1) rest ++
      indent depth ++ [']']
  | .object [] => ['\x7b', '\x7d']
  | .object ((name, value) :: rest) =>
    '\x7b' :: indent (depth + 1) ++ printString name ++ ": ".toList ++ printAt (depth + 1) value ++
      printMembers (depth + 1) rest ++ indent depth ++ ['\x7d']
termination_by structural value => value
def printItems (depth : Nat) : List Json → Text
  | [] => []
  | item :: rest => ',' :: indent depth ++ printAt depth item ++ printItems depth rest
termination_by structural items => items
def printMembers (depth : Nat) : List (Writing × Json) → Text
  | [] => []
  | (name, value) :: rest =>
    ',' :: indent depth ++ printString name ++ ": ".toList ++ printAt depth value ++
      printMembers depth rest
termination_by structural members => members
end

def print (value : Json) : Text := printAt 0 value

end SourceLocator.Json
