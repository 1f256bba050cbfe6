import SourceLocator.Fault
import SourceLocator.Text.Utf8

/-!
Names are bytes to a file system and texts to a run. A byte of a name that is in no character of
UTF-8 is told by a foreign character, which nothing else is written with. A text that has one cannot
be encoded.
-/

set_option autoImplicit false

namespace SourceLocator

structure Locale where
  isForeign : Char → Bool
  -- Whether a foreign character is printed, as the byte that it stands for.
  printsForeign : Bool
  foreign_not_ascii : ∀ c, isForeign c = true → 0x80 ≤ c.toNat

namespace Locale

-- All names are in UTF-8.
def utf8 : Locale := ⟨fun _ => false, true, nofun⟩

def isPlain (locale : Locale) (text : Text) : Bool := !text.any locale.isForeign

def prints (locale : Locale) (text : Text) : Bool := locale.printsForeign || locale.isPlain text

def encode (locale : Locale) (text : Text) : Except Fault Bytes :=
  if locale.isPlain text then .ok (Utf8.encode text) else .error .unencodable

def byteCount (locale : Locale) (name : Text) : Nat :=
  (Utf8.encode (name.filter (!locale.isForeign ·))).length + name.countP locale.isForeign

theorem plain_iff (locale : Locale) (text : Text) :
    locale.isPlain text = true ↔ ∀ c ∈ text, locale.isForeign c = false := by
  simp [isPlain]

theorem utf8_is_plain (text : Text) : utf8.isPlain text = true := (plain_iff utf8 text).mpr fun _ _ => rfl

theorem ascii_is_plain (locale : Locale) (text : Text) (ascii : ∀ c ∈ text, c.toNat < 0x80) :
    locale.isPlain text = true := by
  refine (locale.plain_iff text).mpr fun c member => Bool.eq_false_iff.mpr fun foreign => ?_
  exact absurd (ascii c member) (Nat.not_lt.mpr (locale.foreign_not_ascii c foreign))

end Locale

end SourceLocator
