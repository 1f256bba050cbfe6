import SourceLocator.Text

/-!
UTF-16 units, in which escapes write characters. A character outside the basic plane takes a pair of
surrogates; one without its partner is no character, but still a code point.
-/

set_option autoImplicit false

namespace SourceLocator.Utf16

def units (c : Char) : List Nat :=
  let n := c.toNat
  if n < 0x10000 then [n]
  else [0xD800 + (n - 0x10000) / 0x400, 0xDC00 + (n - 0x10000) % 0x400]

def isHigh (n : Nat) : Bool := 0xD800 ≤ n && n < 0xDC00

def isLow (n : Nat) : Bool := 0xDC00 ≤ n && n < 0xE000

def isSurrogate (n : Nat) : Bool := isHigh n || isLow n

def pair (high low : Nat) : Nat := 0x10000 + (high - 0xD800) * 0x400 + (low - 0xDC00)

inductive Item where
  | char (c : Char)
  | unit (n : Nat)
deriving DecidableEq, Repr

def Item.point : Item → Nat
  | .char c => c.toNat
  | .unit n => n

-- The code points of written items, neighbouring units of one pair put together.
def join : List Item → List Nat
  | [] => []
  | .unit high :: .unit low :: rest =>
    if isHigh high && isLow low then pair high low :: join rest else high :: join (.unit low :: rest)
  | item :: rest => item.point :: join rest

end SourceLocator.Utf16
