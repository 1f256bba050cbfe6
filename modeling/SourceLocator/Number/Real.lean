import SourceLocator.Number.Binary64
import SourceLocator.Number.Integer

/-!
Reading a real number from a text: blanks around it, a sign, and decimal digits of any script with a
point and an exponent, or a word for what is not finite, in any letter case.
-/

set_option autoImplicit false

namespace SourceLocator

def decimals (text : Text) : List Nat := text.filterMap digitValue?

def splitDecimals (text : Text) : Text × Text := (text.takeWhile isDecimal, text.dropWhile isDecimal)

def exponentOf? : Text → Option Int
  | [] => some 0
  | c :: rest => do
    if c.toLower != 'e' then none
    let (negative, digits) := splitSign rest
    if digits.isEmpty || !digits.all isDecimal then none
    let n := ofDigits 10 (decimals digits)
    return if negative then -n else n

def unsignedReal? (negative : Bool) (text : Text) : Option Binary64 := do
  let (whole, rest) := splitDecimals text
  let (places, rest) := match rest with
    | '.' :: rest => splitDecimals rest
    | rest => ([], rest)
  if whole.isEmpty && places.isEmpty then none
  let power ← exponentOf? rest
  return .ofDecimal negative (ofDigits 10 (decimals (whole ++ places))) (power - places.length)

def Text.toReal? (text : Text) : Option Binary64 :=
  let (negative, body) := splitSign (trimNumber text)
  let word := String.ofList (body.map Char.toLower)
  if word = "nan" then some .nan
  else if word = "inf" ∨ word = "infinity" then some (.infinite negative)
  else unsignedReal? negative body

end SourceLocator
