import SourceLocator.Text

/-!
Bytes written in base 64, four digits for each three bytes. What is no digit says nothing; equals
signs that fill up the last four end the writing.
-/

set_option autoImplicit false

namespace SourceLocator.Base64

def digit? (c : Char) : Option Nat :=
  if 'A' ≤ c ∧ c ≤ 'Z' then some (c.toNat - 'A'.toNat)
  else if 'a' ≤ c ∧ c ≤ 'z' then some (c.toNat - 'a'.toNat + 26)
  else if '0' ≤ c ∧ c ≤ '9' then some (c.toNat - '0'.toNat + 52)
  else if c = '+' then some 62
  else if c = '/' then some 63
  else none

-- The digits of a text, `place` digits behind a full four and with `fill` equals signs behind the
-- last of them. There are none if the last four are not full.
def digits? (place fill : Nat) : Text → Option (List Nat)
  | [] => if place = 0 then some [] else none
  | '=' :: rest =>
    if place < 2 then digits? place fill rest
    else if 4 ≤ place + fill + 1 then some []
    else digits? place (fill + 1) rest
  | c :: rest =>
    match digit? c with
    | none => digits? place fill rest
    | some d => (digits? ((place + 1) % 4) 0 rest).map (d :: ·)

def bytes : List Nat → Bytes
  | a :: b :: c :: d :: rest =>
    UInt8.ofNat (a * 4 + b / 16) :: UInt8.ofNat (b % 16 * 16 + c / 4) :: UInt8.ofNat (c % 4 * 64 + d) ::
      bytes rest
  | [a, b, c] => [UInt8.ofNat (a * 4 + b / 16), UInt8.ofNat (b % 16 * 16 + c / 4)]
  | [a, b] => [UInt8.ofNat (a * 4 + b / 16)]
  | _ => []

def decode? (text : Text) : Option Bytes := (digits? 0 0 text).map bytes

end SourceLocator.Base64
