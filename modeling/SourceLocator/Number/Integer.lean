import SourceLocator.Fault
import SourceLocator.Text.Blank
import SourceLocator.Text.Digit

/-!
Reading an integer from a text: blanks around it, a sign, and digits with single underscores between
them. The digits are decimal ones of any script, and in bases above ten also letters. In a base that
is no power of two the number of digits is limited, whether they are read or written. What writes
integers into a text says which bound it keeps, so that it can also be considered without any.
-/

set_option autoImplicit false

namespace SourceLocator

def plainDigit (c : Char) : Char :=
  match digitValue? c with
  | some d => Char.ofNat (0x30 + d)
  | none => c

def digitIn? (base : Nat) (c : Char) : Option Nat := (hexValue? c).filter (· < base)

-- The blanks that may stand around a number: the four separator controls are not among them.
def isNumberBlank (c : Char) : Bool := isBlank c && !(0x1C ≤ c.toNat && c.toNat ≤ 0x1F)

def trimNumber (text : Text) : Text := Text.dropEndWhile isNumberBlank (text.dropWhile isNumberBlank)

def splitSign : Text → Bool × Text
  | '-' :: rest => (true, rest)
  | '+' :: rest => (false, rest)
  | rest => (false, rest)

def baseMark? (base : Nat) : Option Char := [(2, 'b'), (8, 'o'), (16, 'x')].lookup base

def dropBaseMark (base : Nat) (text : Text) : Text :=
  match text with
  | '0' :: c :: rest =>
    if baseMark? base == some c.toLower then
      match rest with
      | '_' :: rest => rest
      | rest => rest
    else text
  | text => text

def isLimitedBase (base : Nat) : Bool := (baseMark? base).isNone

def isParted (run : Text) : Bool := (Text.splitBy (· == '_') run).all fun piece => !piece.isEmpty

-- The integer that a text writes in a base of at most sixteen. The digits at its front are counted
-- before anything behind them is looked at.
def readIntegerAs (quotation : Text) (base : Nat) (text : Text) : Except Fault Int :=
  let (negative, unsigned) := splitSign (trimNumber (text.map plainDigit))
  let body := dropBaseMark base unsigned
  let run := body.takeWhile fun c => (digitIn? base c).isSome || c == '_'
  let digits := run.filterMap (digitIn? base)
  if !isParted run then .error (.notInteger quotation base)
  else if isLimitedBase base ∧ Fault.digitLimit < digits.length then
    .error (.tooManyDigits digits.length)
  else if run.length ≠ body.length then .error (.notInteger quotation base)
  else
    let n := ofDigits base digits
    .ok (if negative then -n else n)

def Text.readInteger (text : Text) : Except Fault Int := readIntegerAs text.quoted 10 text

-- How many digits an integer may have where it is written; without a number, any.
abbrev DigitBound := Option Nat

namespace DigitBound

def standard : DigitBound := some Fault.digitLimit

-- Whether an integer has no more digits than the bound. Few bits spare the comparison.
def admits : DigitBound → Int → Bool
  | none, _ => true
  | some digits, n => decide (n.natAbs.log2 < digits) || decide (n.natAbs < Nat.pow 10 digits)

@[inline] def write (bound : DigitBound) (integers : List Int) (text : Text) : Except Fault Text :=
  if integers.all bound.admits then .ok text else .error .unwritable

end DigitBound

def writeInteger (n : Int) : Except Fault Text := DigitBound.standard.write [n] (Text.ofInt n)

end SourceLocator
