import Mathlib.Algebra.Group.Int.Defs
import SourceLocator.Location.SpanGraph
import SourceLocator.Proofs.LosslessReport

set_option autoImplicit false

namespace SourceLocator

namespace Text

def cutAtLast? (c : Char) (text : Text) : Option (Text × Text) :=
  match text.reverse.dropWhile (· != c) with
  | [] => none
  | _ :: front => some (front.reverse, (text.reverse.takeWhile (· != c)).reverse)

def toInteger : Text → Int
  | '-' :: digits => -(Nat.ofDigitChars 10 digits 0 : Int)
  | digits => Nat.ofDigitChars 10 digits 0

theorem cut_at_last (c : Char) (front back : Text) (clean : c ∉ back) :
    cutAtLast? c (front ++ c :: back) = some (front, back) := by
  have apart : ∀ d ∈ back.reverse, (d != c) = true := by
    intro d member
    rw [bne_iff_ne]
    rintro rfl
    exact clean (List.mem_reverse.mp member)
  have reversed : (front ++ c :: back).reverse = back.reverse ++ c :: front.reverse := by simp
  rw [cutAtLast?, reversed, List.dropWhile_append_of_pos apart, List.takeWhile_append_of_pos apart]
  simp

theorem digits_plain (n : Nat) (c : Char) (notDigit : c.isDigit = false) : c ∉ ofNat n := by
  intro member
  have digit : c.isDigit = true := Nat.isDigit_of_mem_toDigits (by decide) (by decide) member
  rw [notDigit] at digit
  cases digit

theorem integer_plain (n : Int) (c : Char) (notDigit : c.isDigit = false) (notMinus : c ≠ '-') : c ∉ ofInt n := by
  cases n with
  | ofNat n => exact digits_plain n c notDigit
  | negSucc n => simp [ofInt, notMinus, digits_plain (n + 1) c notDigit]

theorem integer_read_back (n : Int) : (ofInt n).toInteger = n := by
  have digits : ∀ n : Nat, Nat.ofDigitChars 10 (ofNat n) 0 = n := fun n => Nat.ofDigitChars_ten_toDigits
  cases n with
  | ofNat n =>
      have unsigned : ∀ rest, ofNat n ≠ '-' :: rest := by
        intro rest written
        exact digits_plain n '-' rfl (written ▸ List.mem_cons_self)
      rw [ofInt]
      unfold toInteger
      split
      · rename_i written
        exact absurd written (unsigned _)
      · rw [digits]
        rfl
  | negSucc n =>
      rw [ofInt, toInteger, digits]
      rfl

end Text

namespace Location

def ofCompact? (text : Text) : Option (Text × Position) := do
  let (front, column) ← Text.cutAtLast? ':' text
  let (file, line) ← Text.cutAtLast? ':' front
  return (file, ⟨line.toInteger, column.toInteger⟩)

theorem compact_said (location : Location) :
    ofCompact? location.compact = some (location.file, location.position) := by
  obtain ⟨⟨line, column⟩, extent, displayText, file⟩ := location
  have grouped : compact ⟨⟨line, column⟩, extent, displayText, file⟩ =
      (file ++ ':' :: Text.ofInt line) ++ ':' :: Text.ofInt column := by
    simp [compact, Position.text, colonPair]
  have outer := Text.cut_at_last ':' (file ++ ':' :: Text.ofInt line) _ (Text.integer_plain column ':' rfl (by decide))
  have inner := Text.cut_at_last ':' file _ (Text.integer_plain line ':' rfl (by decide))
  rw [grouped, ofCompact?, outer, Option.bind_eq_bind, Option.bind_some]
  dsimp only
  rw [inner, Option.bind_some, Text.integer_read_back, Text.integer_read_back]
  rfl

theorem compact_eq_iff (location other : Location) :
    location.compact = other.compact ↔ location.file = other.file ∧ location.position = other.position := by
  constructor
  · intro same
    have said := compact_said location
    rw [same, compact_said] at said
    obtain ⟨file, position⟩ := Prod.mk.inj (Option.some.inj said)
    exact ⟨file.symm, position.symm⟩
  · rintro ⟨file, position⟩
    rw [compact, compact, file, position]

theorem write_compact_eq (bound : DigitBound) (location : Location) :
    location.writeCompact bound = bound.write [location.position.line, location.position.column] location.compact := by
  rw [writeCompact, Position.write, DigitBound.write, DigitBound.write]
  split <;> rfl

-- Without an escape for the colons of a file's name, the compact form still says file and position, since digits
-- and signs are no colons. It is written unless the line or the column has too many digits.
theorem compact_identifies_position (bound : DigitBound) (location other : Location) :
    ((∀ n ∈ [location.position.line, location.position.column], ∀ digits ∈ bound, n.natAbs < 10 ^ digits) →
      location.writeCompact bound = .ok location.compact) ∧
    ((∃ n ∈ [location.position.line, location.position.column], ∃ digits ∈ bound, 10 ^ digits ≤ n.natAbs) →
      location.writeCompact bound = .error .unwritable) ∧
    (location.compact = other.compact ↔ location.file = other.file ∧ location.position = other.position) ∧
    ofCompact? location.compact = some (location.file, location.position) := by
  rw [write_compact_eq]
  exact ⟨short_written bound _ _, long_refused bound _ _, compact_eq_iff location other, compact_said location⟩

theorem numbered_file_is_identified :
    let location : Location := ⟨⟨1, 12⟩, ⟨0, 0⟩, ['g'], "a:1".toList⟩
    location.writeCompact .standard = .ok "a:1:1:12".toList ∧ location.writeCompact (some 1) = .error .unwritable ∧
      ofCompact? "a:1:1:12".toList = some ("a:1".toList, ⟨1, 12⟩) := by
  intro location
  have printed : location.compact = "a:1:1:12".toList := by decide +kernel
  obtain ⟨written, -, -, said⟩ := compact_identifies_position .standard location location
  obtain ⟨-, refused, -⟩ := compact_identifies_position (some 1) location location
  rw [printed] at written said
  refine ⟨written fun n number => (admits_iff .standard n).mp ?_, refused ⟨12, by decide, 1, rfl, by decide⟩, said⟩
  exact List.all_eq_true.mp (by decide +kernel : [(1 : Int), 12].all DigitBound.standard.admits = true) n number

theorem long_column_has_no_compact_form :
    let far : Int := (Nat.pow 10 4300 : Nat)
    let file : SourceFile := ⟨['a', 'b'], ['f'], ['f'], [1 - far], none⟩
    let span : Span := ⟨some file, ⟨0, 0⟩, some ['g'], none, none⟩
    let location : Location := ⟨⟨1, far⟩, ⟨0, 0⟩, ['g'], ['f']⟩
    (SpanGraph.subject [span] 0 span).resolve .standard 0 = .ok (location, []) ∧
      ¬ ∃ text, location.writeCompact .standard = .ok text := by
  intro far file span location
  refine ⟨ok_of_option _ _ (by decide +kernel), ?_⟩
  rintro ⟨text, written⟩
  have column : far ∈ [location.position.line, location.position.column] := .tail _ (.head _)
  have refused := long_refused .standard _ location.compact ⟨far, column, _, rfl, by decide +kernel⟩
  rw [write_compact_eq, refused] at written
  cases written

end Location

end SourceLocator
