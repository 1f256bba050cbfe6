import SourceLocator.Text.Quoted
import SourceLocator.Text.Upper
import SourceLocator.Text.Utf16

/-!
What the strings of a document write. An escape can write any code point, also half of a surrogate
pair without the other half, and with such a half in it a string is no text.
-/

set_option autoImplicit false

namespace SourceLocator

inductive Writing where
  | text (value : Text)
  -- Code points, some of which are halves of surrogate pairs.
  | halved (points : List Nat)
deriving DecidableEq, Repr, Inhabited

instance : Coe Text Writing := ⟨.text⟩

namespace Writing

def ofString (value : String) : Writing := .text value.toList

def points : Writing → List Nat
  | .text value => value.map Char.toNat
  | .halved points => points

def ofPoints (points : List Nat) : Writing :=
  if points.any Utf16.isSurrogate then .halved points else .text (points.map Char.ofNat)

def isEmpty (writing : Writing) : Bool := writing.points.isEmpty

def pieces (writing : Writing) : List Writing := writing.points.map fun point => ofPoints [point]

def escapePoint (quote : Char) (point : Nat) : Text :=
  if Utf16.isSurrogate point then '\\' :: 'u' :: hexDigits 4 point
  else Text.escapeQuoted quote (Char.ofNat point)

def quoted : Writing → Text
  | .text value => value.quoted
  | .halved points =>
    let quote := Text.quoteFor ((points.filter (!Utf16.isSurrogate ·)).map Char.ofNat)
    quote :: points.flatMap (escapePoint quote) ++ [quote]

def upper : Writing → Writing
  | .text value => .text value.upper
  | .halved points => .halved (points.flatMap upperPoint)

def halfCount : Nat := 0x800

-- The first of as many private characters in a row as there are halves, of which none is among some
-- code points.
def standIn (points : List Nat) : Nat :=
  let blocks := (List.range 31).map fun i => 0xF0000 + halfCount * i
  (blocks.find? fun first => !points.any fun n => first ≤ n && n < first + halfCount).getD 0xF0000

def withStandIns (first : Nat) (points : List Nat) : Text :=
  points.map fun n => Char.ofNat (if Utf16.isSurrogate n then n - 0xD800 + first else n)

def ofStandIns (first : Nat) (text : Text) : Writing :=
  ofPoints (text.map fun c =>
    if first ≤ c.toNat ∧ c.toNat < first + halfCount then c.toNat - first + 0xD800 else c.toNat)

end Writing

end SourceLocator
