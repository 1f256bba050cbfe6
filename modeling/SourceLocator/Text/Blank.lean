import SourceLocator.Text

/-!
The blank characters: the separators and the control characters that Unicode counts as white space
in running text. A text's words are its longest runs without a blank.
-/

set_option autoImplicit false

namespace SourceLocator

def isBlank (c : Char) : Bool :=
  let n := c.toNat
  (0x09 ≤ n && n ≤ 0x0D) || (0x1C ≤ n && n ≤ 0x20) || (0x2000 ≤ n && n ≤ 0x200A) ||
  [0x85, 0xA0, 0x1680, 0x2028, 0x2029, 0x202F, 0x205F, 0x3000].contains n

namespace Text

def words (text : Text) : List Text := (splitBy isBlank text).filter fun piece => !piece.isEmpty

def flatten (text : Text) : Text := join [' '] text.words

end Text

end SourceLocator
