import SourceLocator.Text.Digit

/-!
Numbers in the binary interchange format of 64 bits, held exactly as a sign, a mantissa and a power
of two. Rounding goes to the nearest such number and to the even one of two that are equally near;
every operation here is the exact result, rounded once.
-/

set_option autoImplicit false

namespace SourceLocator

-- A finite number is `± mantissa · 2 ^ exponent`, with an odd mantissa or as `0 · 2 ^ 0`.
inductive Binary64 where
  | nan
  | infinite (negative : Bool)
  | finite (negative : Bool) (mantissa : Nat) (exponent : Int)
deriving DecidableEq, Repr

namespace Binary64

def precision : Nat := 53

def leastExponent : Int := -1074

def greatestExponent : Int := 971

-- The quotient of two numbers, rounded to the nearest; a half goes to the even neighbour.
def roundDiv (num den : Nat) : Nat :=
  let q := num / den
  let r := num % den
  if 2 * r < den then q else if den < 2 * r then q + 1 else if q % 2 = 0 then q else q + 1

def scaled (num den : Nat) (exponent : Int) : Nat × Nat :=
  if exponent < 0 then (num * Nat.pow 2 (-exponent).toNat, den)
  else (num, den * Nat.pow 2 exponent.toNat)

-- The exponent with which a positive fraction has a mantissa of full length, but not less than the
-- least one.
def exponentFor (num den : Nat) : Int :=
  let guess : Int := num.log2 - den.log2 - (precision - 1)
  let (n, d) := scaled num den guess
  max leastExponent (if n / d < Nat.pow 2 (precision - 1) then guess - 1 else guess)

def normalize (negative : Bool) : Nat → Nat → Int → Binary64
  | 0, mantissa, exponent => .finite negative mantissa exponent
  | fuel + 1, mantissa, exponent =>
    if mantissa = 0 then .finite negative 0 0
    else if mantissa % 2 = 0 then normalize negative fuel (mantissa / 2) (exponent + 1)
    else .finite negative mantissa exponent

def make (negative : Bool) (mantissa : Nat) (exponent : Int) : Binary64 :=
  normalize negative (precision + 1) mantissa exponent

def ofFraction (negative : Bool) (num den : Nat) : Binary64 :=
  if num = 0 then .finite negative 0 0
  else
    let exponent := exponentFor num den
    let (n, d) := scaled num den exponent
    let mantissa := roundDiv n d
    if greatestExponent < exponent ∨
        (exponent = greatestExponent ∧ mantissa = Nat.pow 2 precision) then
      .infinite negative
    else make negative mantissa exponent

-- The number nearest to `digits · 10 ^ power`. Every number from `10 ^ 310` on is infinite and
-- every one below `10 ^ (-400)` is zero, whatever its digits.
def ofDecimal (negative : Bool) (digits : Nat) (power : Int) : Binary64 :=
  if digits = 0 then .finite negative 0 0
  else if 310 ≤ power then .infinite negative
  else if power + (Nat.toDigits 10 digits).length ≤ -400 then .finite negative 0 0
  else if power < 0 then ofFraction negative digits (Nat.pow 10 (-power).toNat)
  else ofFraction negative (digits * Nat.pow 10 power.toNat) 1

def fraction (mantissa : Nat) (exponent : Int) : Nat × Nat := scaled mantissa 1 (-exponent)

def truncate (negative : Bool) (mantissa : Nat) (exponent : Int) : Int :=
  let (num, den) := fraction mantissa exponent
  if negative then -((num / den : Nat) : Int) else (num / den : Nat)

def negate : Binary64 → Binary64
  | .nan => .nan
  | .infinite negative => .infinite !negative
  | .finite negative mantissa exponent => .finite (!negative) mantissa exponent

def mantissaAt (negative : Bool) (mantissa : Nat) (exponent least : Int) : Int :=
  let m : Int := (mantissa * Nat.pow 2 (exponent - least).toNat : Nat)
  if negative then -m else m

def ofScaled (mantissa : Int) (exponent : Int) : Binary64 :=
  let (num, den) := scaled mantissa.natAbs 1 (-exponent)
  ofFraction (mantissa < 0) num den

-- The sum. Two zeros have a zero without a sign, unless both have one.
def add : Binary64 → Binary64 → Binary64
  | .finite s m e, .finite t n f =>
    if m = 0 ∧ n = 0 then .finite (s && t) 0 0
    else
      let least := min e f
      ofScaled (mantissaAt s m e least + mantissaAt t n f least) least
  | .infinite s, .infinite t => if s = t then .infinite s else .nan
  | .infinite s, .finite _ _ _ => .infinite s
  | .finite _ _ _, .infinite t => .infinite t
  | .nan, _ => .nan
  | _, .nan => .nan

-- The product with a positive integer that is itself rounded first.
def timesNat (x : Binary64) (n : Nat) : Binary64 :=
  match x, ofFraction false n 1 with
  | .finite s m e, .finite _ k f =>
    let (num, den) := scaled (m * k) 1 (-(e + f))
    ofFraction s num den
  | .finite s _ _, _ => .infinite s
  | x, _ => x

end Binary64

end SourceLocator
