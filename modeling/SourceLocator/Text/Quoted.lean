import SourceLocator.Text.Printing

/-!
Quoted texts and bytes, for messages. The quote is a single one unless the text holds single quotes and no
double one; the quote, the backslash and whatever does not print are escaped.
-/

set_option autoImplicit false

namespace SourceLocator

def hexDigits (width n : Nat) : Text :=
  let digits := Nat.toDigits 16 n
  List.replicate (width - digits.length) '0' ++ digits

namespace Text

def quoteFor (text : Text) : Char :=
  if text.contains '\x27' && !text.contains '"' then '"' else '\x27'

def escapeQuoted (quote c : Char) : Text :=
  if c = quote ∨ c = '\\' then ['\\', c]
  else if c = '\n' then ['\\', 'n']
  else if c = '\r' then ['\\', 'r']
  else if c = '\t' then ['\\', 't']
  else if isPrinting c then [c]
  else if c.toNat ≤ 0xFF then '\\' :: 'x' :: hexDigits 2 c.toNat
  else if c.toNat ≤ 0xFFFF then '\\' :: 'u' :: hexDigits 4 c.toNat
  else '\\' :: 'U' :: hexDigits 8 c.toNat

def quoted (text : Text) : Text :=
  let quote := quoteFor text
  quote :: text.flatMap (escapeQuoted quote) ++ [quote]

def escapeByte (quote : Char) (b : UInt8) : Text :=
  if 0x7F ≤ b then '\\' :: 'x' :: hexDigits 2 b.toNat else escapeQuoted quote (Char.ofNat b.toNat)

def quotedBytes (bytes : Bytes) : Text :=
  let quote := quoteFor (bytes.map fun b => Char.ofNat b.toNat)
  'b' :: quote :: bytes.flatMap (escapeByte quote) ++ [quote]

end Text

end SourceLocator
