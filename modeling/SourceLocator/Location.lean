import SourceLocator.Source.Position

/-!
Locations: what a finding says about where it is. A location is a value of its own and refers to
no file or tree.
-/

set_option autoImplicit false

namespace SourceLocator

structure Location where
  position : Position
  extent : Extent
  -- For people to read; nothing depends on it.
  displayText : Text
  file : Text
deriving DecidableEq, Repr

namespace Location

def compact (location : Location) : Text := location.file ++ ':' :: location.position.text

def writeCompact (bound : DigitBound) (location : Location) : Except Fault Text := do
  return location.file ++ ':' :: (← location.position.write bound)

end Location

end SourceLocator
