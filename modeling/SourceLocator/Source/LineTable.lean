import SourceLocator.Text

/-!
The line table of a text: the offsets at which its lines start. A line ends after a line feed, a
carriage return, or a carriage return with a line feed, which counts once.
-/

set_option autoImplicit false

namespace SourceLocator

def laterLineStarts (offset : Nat) : Text → List Nat
  | [] => []
  | '\r' :: '\n' :: rest => (offset + 2) :: laterLineStarts (offset + 2) rest
  | c :: rest =>
    if c = '\r' ∨ c = '\n' then (offset + 1) :: laterLineStarts (offset + 1) rest
    else laterLineStarts (offset + 1) rest

def lineStarts (text : Text) : List Nat := 0 :: laterLineStarts 0 text

-- Bisection between `low` and `high` for the first entry above `x`. On a table that does not ascend
-- the answer is the index at which the halving ends.
def bisect (table : Array Int) (x : Int) (low high : Nat) : Nat :=
  if low < high then
    let middle := (low + high) / 2
    if x < table.getD middle 0 then bisect table x low middle
    else bisect table x (middle + 1) high
  else low
termination_by high - low

-- How many entries of an ascending table are at most `x`.
def countUpTo (table : List Int) (x : Int) : Nat := bisect table.toArray x 0 table.length

end SourceLocator
