import SourceLocator.Config.Scalar

/-!
The order in which the numbers of a set are displayed. Each number has a mark, and equal numbers have the
same one. The numbers lie in slots, about twice as many as there are numbers, and are displayed slot by
slot. The end of a mark says at which slot the search for a free one begins; the rest of the mark leads it
elsewhere.
-/

set_option autoImplicit false

namespace SourceLocator

abbrev Slots := Array (Option Scalar)

namespace Slots

-- How many slots there are for some numbers: eight, or the next power of two above their double.
def countFor (numbers : Nat) : Nat :=
  if numbers < 5 then 8 else Nat.pow 2 ((2 * numbers).log2 + 1)

def runLength : Nat := 10

def isFree (slots : Slots) (slot : Nat) : Bool :=
  match slots[slot]? with
  | some none => true
  | _ => false

def freeInRun? (slots : Slots) (start : Nat) : Option Nat :=
  let length := if start + runLength ≤ slots.size then runLength else 1
  (List.range' start length).find? slots.isFree

-- The first free slot from one on, when some of a mark is left. Each run takes a unit of fuel.
def free? (slots : Slots) : Nat → Nat → Nat → Option Nat
  | 0, _, _ => none
  | fuel + 1, rest, start =>
    match slots.freeInRun? start with
    | some slot => some slot
    | none => free? slots fuel (rest / 32) ((start * 5 + 1 + rest / 32) % slots.size)

def markRuns : Nat := 13

-- Puts a number with a mark into a free slot. Once the mark is used up the search comes to every
-- slot.
def put (slots : Slots) (mark : Nat) (number : Scalar) : Slots :=
  match slots.free? (markRuns + slots.size) mark (mark % slots.size) with
  | some slot => slots.setIfInBounds slot (some number)
  | none => slots

def numbers (slots : Slots) : List Scalar := slots.toList.filterMap id

end Slots

namespace Scalar

def markModulus : Nat := Nat.pow 2 61 - 1

def infiniteMark : Nat := 314159

-- A mark as a number without a sign. Minus one has the mark of minus two.
def signedMark (negative : Bool) (residue : Nat) : Nat :=
  let size := residue % markModulus
  if !negative || size == 0 then size else Nat.pow 2 64 - max 2 size

-- The mark of a number. Two to the power of 61 counts as one.
def mark? : Scalar → Option Nat
  | .bool value => some (if value then 1 else 0)
  | .int value => some (signedMark (value < 0) value.natAbs)
  | .real (.finite negative mantissa exponent) =>
    some (signedMark negative (mantissa * Nat.pow 2 (exponent % 61).toNat))
  | .real (.infinite negative) => some (signedMark negative infiniteMark)
  | .null | .real .nan | .strayNan _ | .text _ | .bytes _ | .date _ | .moment _ | .pair _ _ => none

-- The scalars of a set in the order in which they are displayed: numbers slot by slot, and a set
-- that holds anything else as it came.
def slotOrder (scalars : List Scalar) : List Scalar :=
  match scalars.mapM mark? with
  | none => scalars
  | some marks =>
    let slots : Slots := Array.replicate (Slots.countFor scalars.length) none
    ((marks.zip scalars).foldl (fun slots (mark, scalar) => slots.put mark scalar) slots).numbers

end Scalar

end SourceLocator
