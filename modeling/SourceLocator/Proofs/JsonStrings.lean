import Mathlib.Tactic.SplitIfs
import SourceLocator.Json.Printer
import SourceLocator.Json.Reader

set_option autoImplicit false

namespace SourceLocator.Json

def Ascii (text : Text) : Prop := ∀ c ∈ text, c.toNat < 0x80

@[simp] theorem ascii_nil : Ascii [] := nofun

@[simp] theorem ascii_cons (c : Char) (rest : Text) : Ascii (c :: rest) ↔ c.toNat < 0x80 ∧ Ascii rest :=
  List.forall_mem_cons

@[simp] theorem ascii_append (front rest : Text) : Ascii (front ++ rest) ↔ Ascii front ∧ Ascii rest :=
  List.forall_mem_append

section Hexadecimal

theorem hex_digit_value (d : Nat) (small : d < 16) : hexValue? d.digitChar = some d := by
  have each : ∀ d < 16, hexValue? (Nat.digitChar d) = some d := by decide
  exact each d small

theorem hex_digit_ascii (d : Nat) (small : d < 16) : d.digitChar.toNat < 0x80 := by
  have each : ∀ d < 16, (Nat.digitChar d).toNat < 0x80 := by decide
  exact each d small

theorem lone_hex_digit (n : Nat) (small : n < 16) : hexDigits 1 n = [n.digitChar] := by
  simp [hexDigits, Nat.toDigits_of_lt_base small]

theorem hex_digits_end (width n : Nat) (some : 0 < width) :
    hexDigits (width + 1) n = hexDigits width (n / 16) ++ [(n % 16).digitChar] := by
  by_cases small : n < 16
  · obtain ⟨less, rfl⟩ := Nat.exists_eq_add_of_lt some
    simp [hexDigits, Nat.toDigits_of_lt_base small, Nat.div_eq_of_lt small, Nat.mod_eq_of_lt small,
      ← List.replicate_succ']
  · simp [hexDigits, Nat.toDigits_of_base_le (by decide : 1 < 16) (Nat.le_of_not_lt small)]

theorem four_hex_digits (n : Nat) (small : n < 0x10000) : hexDigits 4 n =
    [(n / 16 / 16 / 16).digitChar, (n / 16 / 16 % 16).digitChar, (n / 16 % 16).digitChar, (n % 16).digitChar] := by
  rw [hex_digits_end 3 n (by decide), hex_digits_end 2 _ (by decide), hex_digits_end 1 _ (by decide),
    lone_hex_digit _ (by omega)]
  rfl

end Hexadecimal

section Escapes

theorem unit_ascii (unit : Nat) (small : unit < 0x10000) : Ascii (escapeUnit unit) := by
  simp only [escapeUnit, four_hex_digits unit small, ascii_cons]
  refine ⟨by decide, by decide, hex_digit_ascii _ ?_, hex_digit_ascii _ ?_, hex_digit_ascii _ ?_,
    hex_digit_ascii _ ?_, ascii_nil⟩ <;> omega

def ReadsAs (piece : Text) (items : List Utf16.Item) : Prop :=
  ∀ rest, stringItems (piece ++ rest) = (stringItems rest).map fun (more, rest) => (items ++ more, rest)

theorem reads_nothing : ReadsAs [] [] := by
  intro rest
  rw [List.nil_append]
  cases stringItems rest <;> rfl

theorem reads_pieces (piece more : Text) (items others : List Utf16.Item) (here : ReadsAs piece items)
    (later : ReadsAs more others) : ReadsAs (piece ++ more) (items ++ others) := by
  intro rest
  rw [List.append_assoc, here, later]
  cases stringItems rest <;> simp

theorem reads_unit (unit : Nat) (small : unit < 0x10000) : ReadsAs (escapeUnit unit) [.unit unit] := by
  intro rest
  have number : ofDigits 16 [unit / 16 / 16 / 16, unit / 16 / 16 % 16, unit / 16 % 16, unit % 16] = unit := by
    simp only [ofDigits, List.foldl_cons, List.foldl_nil]
    omega
  simp only [escapeUnit, four_hex_digits unit small, List.cons_append, List.nil_append]
  rw [stringItems, hex_digit_value _ (by omega), hex_digit_value _ (by omega), hex_digit_value _ (by omega),
    hex_digit_value _ (by omega)]
  simp only [Option.bind_eq_bind, Option.bind_some, number]
  cases stringItems rest <;> rfl

theorem reads_short (mark c : Char) (notUnit : mark ≠ 'u') (named : simpleEscape? mark = some c) :
    ReadsAs ['\\', mark] [.char c] := by
  intro rest
  rw [List.cons_append, List.singleton_append, stringItems, named]
  · cases stringItems rest <;> rfl
  · rintro _ _ _ _ _ rfl
    exact absurd rfl notUnit

theorem reads_plain (c : Char) (unquoted : c ≠ '\x22') (unmarked : c ≠ '\\') (printing : 0x20 ≤ c.toNat) :
    ReadsAs [c] [.char c] := by
  intro rest
  rw [List.singleton_append, stringItems, if_neg (Nat.not_lt.mpr printing)]
  · cases stringItems rest <;> rfl
  · exact unquoted
  · rintro _ _ _ _ _ rfl
    exact absurd rfl unmarked
  · rintro _ _ rfl
    exact absurd rfl unmarked

end Escapes

section Characters

theorem high_iff (unit : Nat) : Utf16.isHigh unit = true ↔ 0xD800 ≤ unit ∧ unit < 0xDC00 := by
  simp [Utf16.isHigh]

theorem low_iff (unit : Nat) : Utf16.isLow unit = true ↔ 0xDC00 ≤ unit ∧ unit < 0xE000 := by
  simp [Utf16.isLow]

theorem char_not_half (c : Char) : Utf16.isHigh c.toNat = false ∧ Utf16.isLow c.toNat = false := by
  have valid : c.toNat < 0xD800 ∨ 0xDFFF < c.toNat ∧ c.toNat < 0x110000 := c.valid
  rw [← Bool.not_eq_true, ← Bool.not_eq_true, high_iff, low_iff]
  omega

theorem units_small (c : Char) (small : c.toNat < 0x10000) : Utf16.units c = [c.toNat] := if_pos small

theorem units_paired (c : Char) (large : 0x10000 ≤ c.toNat) : ∃ high low, Utf16.units c = [high, low] ∧
    high < 0x10000 ∧ low < 0x10000 ∧ (Utf16.isHigh high && Utf16.isLow low) = true ∧ Utf16.pair high low = c.toNat := by
  have valid : c.toNat < 0xD800 ∨ 0xDFFF < c.toNat ∧ c.toNat < 0x110000 := c.valid
  have units : Utf16.units c = [0xD800 + (c.toNat - 0x10000) / 0x400, 0xDC00 + (c.toNat - 0x10000) % 0x400] :=
    if_neg (Nat.not_lt.mpr large)
  refine ⟨_, _, units, by omega, by omega, ?_, ?_⟩
  · exact Bool.and_eq_true_iff.mpr ⟨(high_iff _).mpr (by omega), (low_iff _).mpr (by omega)⟩
  · unfold Utf16.pair
    omega

theorem joined_char (c : Char) (more : List Utf16.Item) :
    Utf16.join (.char c :: more) = c.toNat :: Utf16.join more := by
  rw [Utf16.join]
  · rfl
  · nofun

theorem joined_unit (unit : Nat) (more : List Utf16.Item) (lone : Utf16.isHigh unit = false) :
    Utf16.join (.unit unit :: more) = unit :: Utf16.join more := by
  rcases more with - | ⟨c | low, rest⟩
  · rfl
  · rw [Utf16.join]
    · rfl
    · nofun
  · rw [Utf16.join, lone]
    rfl

theorem joined_pair (high low : Nat) (more : List Utf16.Item)
    (paired : (Utf16.isHigh high && Utf16.isLow low) = true) :
    Utf16.join (.unit high :: .unit low :: more) = Utf16.pair high low :: Utf16.join more := by
  rw [Utf16.join, if_pos paired]

inductive Escape (c : Char) : Text → Prop where
  | short (mark : Char) (ascii : mark.toNat < 0x80) (notUnit : mark ≠ 'u') (named : simpleEscape? mark = some c) :
      Escape c ['\\', mark]
  | plain (unquoted : c ≠ '\x22') (unmarked : c ≠ '\\') (printing : 0x20 ≤ c.toNat) (ascii : c.toNat < 0x80) :
      Escape c [c]
  | units : Escape c ((Utf16.units c).flatMap escapeUnit)

theorem escape_char (c : Char) : Escape c (escapeChar c) := by
  unfold escapeChar
  split_ifs with quote backslash newline carriage tab backspace formFeed printing
  any_goals
    subst c
    exact .short _ (by decide) (by decide) rfl
  · exact .plain quote backslash printing.1 (by omega)
  · exact .units

theorem escape_ascii (c : Char) (piece : Text) (written : Escape c piece) : Ascii piece := by
  cases written with
  | short mark ascii notUnit named => simp [ascii]
  | plain unquoted unmarked printing ascii => simp [ascii]
  | units =>
      have each : ∀ unit ∈ Utf16.units c, unit < 0x10000 := by
        by_cases small : c.toNat < 0x10000
        · rw [units_small c small]
          exact List.forall_mem_singleton.mpr small
        · obtain ⟨high, low, units, highSmall, lowSmall, -, -⟩ := units_paired c (Nat.le_of_not_lt small)
          rw [units]
          exact List.forall_mem_cons.mpr ⟨highSmall, List.forall_mem_singleton.mpr lowSmall⟩
      exact List.forall_mem_flatMap.mpr fun unit member => unit_ascii unit (each unit member)

theorem reads_escape (c : Char) (piece : Text) (written : Escape c piece) : ∃ items, ReadsAs piece items ∧
    ∀ more, Utf16.join (items ++ more) = c.toNat :: Utf16.join more := by
  cases written with
  | short mark ascii notUnit named => exact ⟨[.char c], reads_short mark c notUnit named, joined_char c⟩
  | plain unquoted unmarked printing ascii =>
      exact ⟨[.char c], reads_plain c unquoted unmarked printing, joined_char c⟩
  | units =>
      by_cases small : c.toNat < 0x10000
      · rw [units_small c small, List.flatMap_singleton]
        exact ⟨[.unit c.toNat], reads_unit _ small, fun more => joined_unit _ more (char_not_half c).1⟩
      · obtain ⟨high, low, units, highSmall, lowSmall, paired, same⟩ := units_paired c (Nat.le_of_not_lt small)
        rw [units, List.flatMap_cons, List.flatMap_singleton]
        refine ⟨_, reads_pieces _ _ _ _ (reads_unit high highSmall) (reads_unit low lowSmall), fun more => ?_⟩
        rw [← same]
        exact joined_pair high low more paired

end Characters

section Strings

theorem string_ascii (value : Text) : Ascii (printString (.text value)) := by
  have escaped : Ascii (escape (.text value)) :=
    List.forall_mem_flatMap.mpr fun c _ => escape_ascii c _ (escape_char c)
  simp [printString, escaped]

theorem reads_text (value : Text) : ∃ items, ReadsAs (value.flatMap escapeChar) items ∧
    Utf16.join items = value.map Char.toNat := by
  induction value with
  | nil => exact ⟨[], reads_nothing, rfl⟩
  | cons c rest ih =>
      obtain ⟨others, later, joined⟩ := ih
      obtain ⟨items, here, front⟩ := reads_escape c _ (escape_char c)
      refine ⟨items ++ others, reads_pieces _ _ _ _ here later, ?_⟩
      rw [front, joined, List.map_cons]

theorem points_of_text (value : Text) : Writing.ofPoints (value.map Char.toNat) = .text value := by
  have whole : (value.map Char.toNat).any Utf16.isSurrogate = false := by
    rw [List.any_eq_false]
    intro point member
    obtain ⟨c, -, rfl⟩ := List.mem_map.mp member
    obtain ⟨notHigh, notLow⟩ := char_not_half c
    simp [Utf16.isSurrogate, notHigh, notLow]
  simp [Writing.ofPoints, whole, Function.comp_def]

theorem read_string (value rest : Text) :
    readString (escape (.text value) ++ '\x22' :: rest) = .ok (.text value, rest) := by
  obtain ⟨items, read, joined⟩ := reads_text value
  have found : stringItems (escape (.text value) ++ '\x22' :: rest) = some (items, rest) := by
    rw [escape, read, stringItems]
    simp
  rw [readString, found, ← points_of_text value, ← joined]
  rfl

end Strings

end SourceLocator.Json
