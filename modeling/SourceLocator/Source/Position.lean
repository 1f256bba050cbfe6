import SourceLocator.Number.Integer

/-!
Positions and extents: where a finding starts, in lines and columns from 1, and which characters it
spans. Both are ordered by their first part, then by their second.
-/

set_option autoImplicit false

namespace SourceLocator

-- A line and a column, or `-1:-1` where they could not be determined.
structure Position where
  line : Int
  column : Int
deriving DecidableEq, Repr

structure Extent where
  start : Int
  stop : Int
deriving DecidableEq, Repr

def colonPair (a b : Int) : Text := Text.ofInt a ++ ':' :: Text.ofInt b

def comparePair (a b c d : Int) : Ordering := (compare a c).then (compare b d)

namespace Position

def unknown : Position := ⟨-1, -1⟩

def isUnknown (p : Position) : Bool := p == unknown

def text (p : Position) : Text := colonPair p.line p.column

def write (bound : DigitBound) (p : Position) : Except Fault Text :=
  bound.write [p.line, p.column] p.text

def compare (p q : Position) : Ordering := comparePair p.line p.column q.line q.column

end Position

namespace Extent

def shift (e : Extent) (offset : Int) : Extent := ⟨e.start + offset, e.stop + offset⟩

def text (e : Extent) : Text := colonPair e.start e.stop

def write (bound : DigitBound) (e : Extent) : Except Fault Text :=
  bound.write [e.start, e.stop] e.text

def compare (e f : Extent) : Ordering := comparePair e.start e.stop f.start f.stop

end Extent

end SourceLocator
