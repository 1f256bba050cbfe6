import SourceLocator.Number.Binary64

/-!
The shortest decimal of a binary number: among the decimals that read back as the number those with
the fewest digits, and of these the nearest. The search goes through the decimal grids of 1, 2, …
17 digits; on each only the two neighbours of the number can be the nearest point.
-/

set_option autoImplicit false

namespace SourceLocator.Shortest

-- A positive number with the numbers that read back as it: those between `below` and `above` over
-- the common denominator, the ends included or not.
structure Interval where
  below : Nat
  value : Nat
  above : Nat
  den : Nat
  closed : Bool
deriving Repr

-- The interval of `mantissa · 2 ^ exponent`. Its lower half is narrower where the number is the
-- least with its exponent.
def interval (mantissa : Nat) (exponent : Int) : Interval :=
  let shift := min (Binary64.precision - 1 - mantissa.log2) (exponent - Binary64.leastExponent).toNat
  let m := mantissa * Nat.pow 2 shift
  let e := exponent - shift
  let narrow := m = Nat.pow 2 (Binary64.precision - 1) ∧ Binary64.leastExponent < e
  let (unit, den) := Binary64.scaled 1 1 (-(e - 2))
  { below := (4 * m - if narrow then 1 else 2) * unit, value := 4 * m * unit
    above := (4 * m + 2) * unit, den, closed := m % 2 = 0 }

def Interval.contains (i : Interval) (digits : Nat) (power : Int) : Bool :=
  let point := if power < 0 then digits * i.den else digits * Nat.pow 10 power.toNat * i.den
  let scale := if power < 0 then Nat.pow 10 (-power).toNat else 1
  if i.closed then i.below * scale ≤ point && point ≤ i.above * scale
  else i.below * scale < point && point < i.above * scale

def Interval.magnitude (i : Interval) : Int :=
  if i.den ≤ i.value then ((Nat.toDigits 10 (i.value / i.den)).length : Int) - 1
  else
    let places := (Nat.toDigits 10 (i.den / i.value)).length - 1
    if i.den ≤ i.value * Nat.pow 10 places then -places else -(places + 1)

-- The nearer of the value's neighbours on the grid of `10 ^ power`, if it is in the interval.
def Interval.onGrid? (i : Interval) (power : Int) : Option Nat :=
  let num := if power < 0 then i.value * Nat.pow 10 (-power).toNat else i.value
  let den := if power < 0 then i.den else i.den * Nat.pow 10 power.toNat
  let low := num / den
  let nearest := Binary64.roundDiv num den
  let other := if nearest = low then low + 1 else low
  if i.contains nearest power then some nearest
  else if i.contains other power then some other
  else none

def Interval.search (i : Interval) (magnitude : Int) : Nat → Nat → Nat × Int
  | 0, _ => (0, 0)
  | fuel + 1, count =>
    let power := magnitude - (count - 1)
    match i.onGrid? power with
    | some digits => (digits, power)
    | none => i.search magnitude fuel (count + 1)

def decimal (mantissa : Nat) (exponent : Int) : Nat × Int :=
  let i := interval mantissa exponent
  i.search i.magnitude 17 1

structure Format where
  positionalFrom : Int
  positionalBelow : Int
  exponentMark : Text
  exponentWidth : Nat
  nan : Text
  infinite : Text

-- Positional from 10⁻⁴ to below 10¹⁶, always with a fraction; otherwise with a signed exponent of
-- at least two digits.
def standard : Format :=
  { positionalFrom := -4, positionalBelow := 16, exponentMark := "e", exponentWidth := 2
    nan := "nan", infinite := "inf" }

def dropTrailingZeros (digits : Text) : Text := Text.dropEndWhile (· == '0') digits

def Format.positional (digits : Text) (point : Int) : Text :=
  if point ≤ 0 then '0' :: '.' :: List.replicate (-point).toNat '0' ++ digits
  else
    let whole := digits.take point.toNat
    let rest := digits.drop point.toNat
    whole ++ List.replicate (point.toNat - whole.length) '0' ++
      '.' :: (if rest.isEmpty then ['0'] else rest)

def Format.scientific (format : Format) (digits : Text) (exponent : Int) : Text :=
  let power := Text.ofNat exponent.natAbs
  digits.take 1 ++ (if digits.length ≤ 1 then [] else '.' :: digits.drop 1) ++
    format.exponentMark ++ (if exponent < 0 then '-' else '+') ::
      List.replicate (format.exponentWidth - power.length) '0' ++ power

def Format.magnitude (format : Format) (mantissa : Nat) (exponent : Int) : Text :=
  if mantissa = 0 then Format.positional ['0'] 1
  else
    let (n, power) := decimal mantissa exponent
    let all := Text.ofNat n
    let digits := dropTrailingZeros all
    let first := power + all.length - 1
    if format.positionalFrom ≤ first ∧ first < format.positionalBelow then
      Format.positional digits (first + 1)
    else format.scientific digits first

def Format.write (format : Format) : Binary64 → Text
  | .nan => format.nan
  | .infinite negative => if negative then '-' :: format.infinite else format.infinite
  | .finite negative mantissa exponent =>
    let text := format.magnitude mantissa exponent
    if negative then '-' :: text else text

end SourceLocator.Shortest
