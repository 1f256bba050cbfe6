import SourceLocator.Proofs.JsonStrings

set_option autoImplicit false

namespace SourceLocator.Json

def Ends (rest : Text) : Prop := ∀ c ∈ rest.head?, c = ',' ∨ c = '\n'

section Integers

theorem ends_cases (rest : Text) (ends : Ends rest) :
    rest = [] ∨ ∃ c more, rest = c :: more ∧ (c = ',' ∨ c = '\n') := by
  cases rest with
  | nil => exact .inl rfl
  | cons c more => exact .inr ⟨c, more, rfl, ends c rfl⟩

theorem ends_number (rest : Text) (ends : Ends rest) : rest.takeWhile Char.isDigit = [] ∧
    rest.dropWhile Char.isDigit = rest ∧ fraction rest = ([], rest) ∧ exponent? rest = none := by
  rcases ends_cases rest ends with rfl | ⟨c, more, rfl, rfl | rfl⟩ <;> exact ⟨rfl, rfl, rfl, rfl⟩

theorem leading_zero (n : Nat) (digits : Text) (written : Text.ofNat n = '0' :: digits) : n = 0 := by
  induction n using Nat.strongRecOn generalizing digits with
  | ind n ih =>
      by_cases small : n < 10
      · rw [Text.ofNat, Nat.toDigits_of_lt_base small] at written
        exact Nat.digitChar_eq_zero.mp (List.cons.inj written).1
      · rw [Text.ofNat, Nat.toDigits_of_base_le (by decide) (Nat.le_of_not_lt small)] at written
        cases front : Nat.toDigits 10 (n / 10) with
        | nil => exact absurd front Nat.toDigits_ne_nil
        | cons first others =>
            rw [front, List.cons_append] at written
            obtain ⟨rfl, -⟩ := List.cons.inj written
            have zero := ih (n / 10) (by omega) others front
            omega

theorem whole_number (n : Nat) (rest : Text) (ends : Ends rest) :
    whole? (Text.ofNat n ++ rest) = some (Text.ofNat n, rest) := by
  have digits : ∀ c ∈ Text.ofNat n, c.isDigit = true :=
    fun c member => Nat.isDigit_of_mem_toDigits (by decide) (by decide) member
  obtain ⟨none, all, -⟩ := ends_number rest ends
  unfold whole?
  split
  · rename_i more same
    cases written : Text.ofNat n with
    | nil => exact absurd written Nat.toDigits_ne_nil
    | cons first others =>
        rw [written, List.cons_append] at same
        obtain ⟨rfl, behind⟩ := List.cons.inj same
        cases leading_zero n others written
        obtain ⟨-, rfl⟩ := List.cons.inj written
        exact congrArg (fun rest => some (['0'], rest)) behind.symm
  · rw [List.takeWhile_append_of_pos digits, List.dropWhile_append_of_pos digits, none, all, List.append_nil]
    simp [Text.ofNat]

theorem digits_value (n : Nat) : ofDigits 10 (digitsOf (Text.ofNat n)) = n := by
  have read : Nat.ofDigitChars 10 (Nat.toDigits 10 n) 0 = n := Nat.ofDigitChars_ten_toDigits
  rw [Nat.ofDigitChars_eq_foldl] at read
  simpa [ofDigits, digitsOf, Text.ofNat, List.foldl_map, Nat.mul_comm] using read

theorem read_number (negative : Bool) (n : Nat) (rest : Text) (ends : Ends rest) :
    readNumber .unlimited negative (Text.ofNat n ++ rest) = .ok (.int (if negative then -n else n), rest) := by
  obtain ⟨-, -, noPlaces, noPower⟩ := ends_number rest ends
  simp only [readNumber, whole_number n rest ends, expected, noPlaces, noPower, List.append_nil, digits_value,
    bind, Except.bind]
  rfl

theorem digit_apart (d : Char) (digit : d.isDigit = true) (mark : Char) (other : mark.isDigit = false) : d ≠ mark := by
  rintro rfl
  rw [digit] at other
  cases other

theorem no_word (sign : Text) (signed : sign = [] ∨ sign = ['-']) (d : Char) (digit : d.isDigit = true) (more : Text) :
    (words.find? fun (word, _) => Text.startsWith (sign ++ d :: more) word) = none := by
  have apart := digit_apart d digit
  have letters : d ≠ 'n' ∧ d ≠ 't' ∧ d ≠ 'f' ∧ d ≠ 'N' ∧ d ≠ 'I' ∧ d ≠ '-' :=
    ⟨apart 'n' rfl, apart 't' rfl, apart 'f' rfl, apart 'N' rfl, apart 'I' rfl, apart '-' rfl⟩
  rcases signed with rfl | rfl <;> simp [words, Text.startsWith, letters, Ne.symm]

theorem digits_front (n : Nat) : ∃ d more, Text.ofNat n = d :: more ∧ d.isDigit = true := by
  obtain ⟨d, more, written⟩ := List.exists_cons_of_ne_nil (Nat.toDigits_ne_nil : Nat.toDigits 10 n ≠ [])
  have member : d ∈ Nat.toDigits 10 n := written ▸ List.mem_cons_self
  exact ⟨d, more, written, Nat.isDigit_of_mem_toDigits (by decide) (by decide) member⟩

theorem unsigned_number (d : Char) (digit : d.isDigit = true) (more : Text) :
    readScalar .unlimited (d :: more) = readNumber .unlimited false (d :: more) := by
  have noWord := no_word [] (.inl rfl) d digit more
  unfold readScalar
  rw [List.nil_append] at noWord
  simp only [noWord]
  split
  · rename_i same
    obtain ⟨rfl, -⟩ := List.cons.inj same
    cases digit
  · rfl

theorem signed_number (d : Char) (digit : d.isDigit = true) (more : Text) :
    readScalar .unlimited ('-' :: d :: more) = readNumber .unlimited true (d :: more) := by
  have noWord := no_word ['-'] (.inr rfl) d digit more
  unfold readScalar
  rw [List.singleton_append] at noWord
  simp only [noWord]

theorem read_integer (n : Int) (rest : Text) (ends : Ends rest) :
    readScalar .unlimited (Text.ofInt n ++ rest) = .ok (.int n, rest) := by
  cases n with
  | ofNat n =>
      obtain ⟨d, more, written, digit⟩ := digits_front n
      have read := read_number false n rest ends
      rw [written] at read
      rw [Text.ofInt, written]
      exact (unsigned_number d digit (more ++ rest)).trans read
  | negSucc n =>
      obtain ⟨d, more, written, digit⟩ := digits_front (n + 1)
      have read := read_number true (n + 1) rest ends
      rw [written] at read
      rw [Text.ofInt, written]
      exact (signed_number d digit (more ++ rest)).trans read

theorem integer_front (n : Int) : ∃ c more, Text.ofInt n = c :: more ∧ (c = '-' ∨ c.isDigit = true) := by
  cases n with
  | ofNat n =>
      obtain ⟨d, more, written, digit⟩ := digits_front n
      exact ⟨d, more, written, .inr digit⟩
  | negSucc n => exact ⟨'-', _, rfl, .inl rfl⟩

end Integers

section Values

inductive Exact : Json → Prop where
  | null : Exact .null
  | bool (value : Bool) : Exact (.bool value)
  | int (value : Int) : Exact (.int value)
  | text (value : Text) : Exact (.text value)
  | array (items : List Json) (each : ∀ item ∈ items, Exact item) : Exact (.array items)
  | object (members : List (Writing × Json)) (names : ∀ member ∈ members, ∃ name, member.1 = .text name)
      (each : ∀ member ∈ members, Exact member.2) : Exact (.object members)

def ReadBack (value : Json) : Prop :=
  ∀ depth fuel rest, (printAt depth value).length < fuel → Ends rest →
    readValue .unlimited fuel (printAt depth value ++ rest) = .ok (value, rest)

theorem skip_visible (c : Char) (more : Text) (visible : isSpace c = false) : skipSpace (c :: more) = c :: more :=
  List.dropWhile_cons_of_neg (by simp [visible])

theorem skip_indent (depth : Nat) (c : Char) (more : Text) (visible : isSpace c = false) :
    skipSpace (indent depth ++ c :: more) = c :: more := by
  have blank : ∀ c ∈ indent depth, isSpace c = true := by
    refine List.forall_mem_cons.mpr ⟨rfl, fun c member => ?_⟩
    rw [List.eq_of_mem_replicate member]
    rfl
  rw [skipSpace, List.dropWhile_append_of_pos blank]
  exact skip_visible c more visible

theorem ends_indent (depth : Nat) (rest : Text) : Ends (indent depth ++ rest) := by
  rintro _ ⟨⟩
  exact .inr rfl

theorem scalar_value (fuel : Nat) (c : Char) (more : Text) (quote : c ≠ '\x22') (bracket : c ≠ '[')
    (brace : c ≠ '\x7b') : readValue .unlimited (fuel + 1) (c :: more) = readScalar .unlimited (c :: more) := by
  simp [readValue, quote, bracket, brace]

theorem printed_front (depth : Nat) (value : Json) (whole : Exact value) :
    ∃ c more, printAt depth value = c :: more ∧ isSpace c = false ∧ c ≠ ']' := by
  cases whole with
  | null => exact ⟨'n', _, rfl, rfl, by decide⟩
  | bool value => cases value <;> exact ⟨_, _, rfl, rfl, by decide⟩
  | int value =>
      obtain ⟨c, more, written, first⟩ := integer_front value
      refine ⟨c, more, written, ?_⟩
      rcases first with rfl | digit
      · exact ⟨rfl, by decide⟩
      · have apart := digit_apart c digit
        have others : c ≠ ' ' ∧ c ≠ '\t' ∧ c ≠ '\n' ∧ c ≠ '\r' ∧ c ≠ ']' :=
          ⟨apart ' ' rfl, apart '\t' rfl, apart '\n' rfl, apart '\r' rfl, apart ']' rfl⟩
        simp [isSpace, others]
  | text value => exact ⟨_, _, rfl, rfl, by decide⟩
  | array items each => cases items <;> exact ⟨_, _, rfl, rfl, by decide⟩
  | object members names each => cases members <;> exact ⟨_, _, rfl, rfl, by decide⟩

theorem skip_value (depth : Nat) (value : Json) (whole : Exact value) (after : Text) :
    skipSpace (printAt depth value ++ after) = printAt depth value ++ after := by
  obtain ⟨c, more, written, visible, -⟩ := printed_front depth value whole
  rw [written]
  exact skip_visible c (more ++ after) visible

theorem skip_to_value (depth : Nat) (value : Json) (whole : Exact value) (after : Text) :
    skipSpace (indent depth ++ (printAt depth value ++ after)) = printAt depth value ++ after := by
  obtain ⟨c, more, written, visible, -⟩ := printed_front depth value whole
  rw [written]
  exact skip_indent depth c (more ++ after) visible

theorem skip_to_name (depth : Nat) (name : Writing) (after : Text) :
    skipSpace (indent depth ++ (printString name ++ after)) = printString name ++ after :=
  skip_indent depth '\x22' _ rfl

theorem read_back_integer (n : Int) : ReadBack (.int n) := by
  intro depth fuel rest enough ends
  obtain ⟨fuel, rfl⟩ := Nat.exists_eq_succ_of_ne_zero (Nat.ne_zero_of_lt enough)
  obtain ⟨c, more, written, first⟩ := integer_front n
  have others : c ≠ '\x22' ∧ c ≠ '[' ∧ c ≠ '\x7b' := by
    rcases first with rfl | digit
    · decide
    · exact ⟨digit_apart c digit '\x22' rfl, digit_apart c digit '[' rfl, digit_apart c digit '\x7b' rfl⟩
  have read := read_integer n rest ends
  rw [printAt, written] at *
  exact (scalar_value fuel c (more ++ rest) others.1 others.2.1 others.2.2).trans read

theorem read_back_text (value : Text) : ReadBack (.text value) := by
  intro depth fuel rest enough ends
  obtain ⟨fuel, rfl⟩ := Nat.exists_eq_succ_of_ne_zero (Nat.ne_zero_of_lt enough)
  have same : printAt depth (.text value) ++ rest = '\x22' :: (escape (.text value) ++ '\x22' :: rest) := by
    simp [Json.text, printAt, printString]
  rw [same, readValue, read_string]
  rfl

section Steps

variable (fuel : Nat) (text rest behind final : Text) (value : Json)

theorem items_last (read : readValue .unlimited fuel text = .ok (value, rest)) (last : skipSpace rest = ']' :: behind) :
    readItems .unlimited (fuel + 1) text = .ok ([value], behind) := by
  simp only [readItems, read, bind, Except.bind, last]
  rfl

theorem items_next (items : List Json) (read : readValue .unlimited fuel text = .ok (value, rest))
    (next : skipSpace rest = ',' :: behind)
    (later : readItems .unlimited fuel (skipSpace behind) = .ok (items, final)) :
    readItems .unlimited (fuel + 1) text = .ok (value :: items, final) := by
  simp only [readItems, read, bind, Except.bind, next, later]
  rfl

theorem array_read (items : List Json) (c : Char) (first : skipSpace text = c :: rest) (filled : c ≠ ']')
    (read : readItems .unlimited fuel (skipSpace text) = .ok (items, final)) :
    readValue .unlimited (fuel + 1) ('[' :: text) = .ok (.array items, final) := by
  rw [first] at read
  simp [readValue, Limits.inside, Limits.unlimited, bind, Except.bind, first, filled] at *
  rw [read]
  rfl

variable (name : Text)

theorem name_read (after : Text) :
    readMembers .unlimited (fuel + 1) (printString (.text name) ++ (": ".toList ++ after)) =
    (do
      let (value, rest) ← readValue .unlimited fuel (skipSpace after)
      match skipSpace rest with
      | '\x7d' :: rest => return ([(.text name, value)], rest)
      | ',' :: rest =>
        let (members, rest) ← readMembers .unlimited fuel (skipSpace rest)
        return ((.text name, value) :: members, rest)
      | _ => throw .malformedJson) := by
  have same : printString (.text name) ++ (": ".toList ++ after) =
      '\x22' :: (escape (.text name) ++ '\x22' :: ':' :: ' ' :: after) := by
    simp [printString]
  rw [same, readMembers, read_string]
  rfl

theorem members_last (read : readValue .unlimited fuel (skipSpace text) = .ok (value, rest))
    (last : skipSpace rest = '\x7d' :: behind) :
    readMembers .unlimited (fuel + 1) (printString (.text name) ++ (": ".toList ++ text)) =
      .ok ([(.text name, value)], behind) := by
  simp only [name_read, read, bind, Except.bind, last]
  rfl

theorem members_next (members : List (Writing × Json))
    (read : readValue .unlimited fuel (skipSpace text) = .ok (value, rest)) (next : skipSpace rest = ',' :: behind)
    (later : readMembers .unlimited fuel (skipSpace behind) = .ok (members, final)) :
    readMembers .unlimited (fuel + 1) (printString (.text name) ++ (": ".toList ++ text)) =
      .ok ((.text name, value) :: members, final) := by
  simp only [name_read, read, bind, Except.bind, next, later]
  rfl

theorem object_read (members : List (Writing × Json)) (first : skipSpace text = '\x22' :: rest)
    (read : readMembers .unlimited fuel (skipSpace text) = .ok (members, final)) :
    readValue .unlimited (fuel + 1) ('\x7b' :: text) = .ok (.object members, final) := by
  rw [first] at read
  simp [readValue, Limits.inside, Limits.unlimited, bind, Except.bind, first] at *
  rw [read]
  rfl

end Steps

section Collections

variable (depth outer : Nat)

theorem items_more (next : Json) (others : List Json) (after : Text) : printItems depth (next :: others) ++ after =
    ',' :: (indent depth ++ (printAt depth next ++ (printItems depth others ++ after))) := by
  simp [printItems]

theorem members_more (name : Writing) (value : Json) (others : List (Writing × Json)) (after : Text) :
    printMembers depth ((name, value) :: others) ++ after =
      ',' :: (indent depth ++ (printString name ++ (": ".toList ++ (printAt depth value ++
        (printMembers depth others ++ after))))) := by
  simp [printMembers]

theorem array_more (item : Json) (others : List Json) (rest : Text) :
    printAt depth (.array (item :: others)) ++ rest = '[' :: (indent (depth + 1) ++ (printAt (depth + 1) item ++
      (printItems (depth + 1) others ++ (indent depth ++ ']' :: rest)))) := by
  simp [printAt]

theorem object_more (name : Writing) (value : Json) (others : List (Writing × Json)) (rest : Text) :
    printAt depth (.object ((name, value) :: others)) ++ rest =
      '\x7b' :: (indent (depth + 1) ++ (printString name ++ (": ".toList ++ (printAt (depth + 1) value ++
        (printMembers (depth + 1) others ++ (indent depth ++ '\x7d' :: rest)))))) := by
  simp [printAt]

theorem items_end (others : List Json) (rest : Text) :
    Ends (printItems depth others ++ (indent outer ++ ']' :: rest)) := by
  cases others with
  | nil => exact ends_indent outer _
  | cons next others =>
      rintro _ ⟨⟩
      exact .inl rfl

theorem members_end (others : List (Writing × Json)) (rest : Text) :
    Ends (printMembers depth others ++ (indent outer ++ '\x7d' :: rest)) := by
  cases others with
  | nil => exact ends_indent outer _
  | cons next others =>
      rintro _ ⟨⟩
      exact .inl rfl

theorem read_items (item : Json) (others : List Json) (each : ∀ value ∈ item :: others, Exact value ∧ ReadBack value)
    (fuel : Nat) (rest : Text)
    (enough : (printAt depth item).length + (printItems depth others).length + 1 < fuel) :
    readItems .unlimited fuel (printAt depth item ++ (printItems depth others ++ (indent outer ++ ']' :: rest))) =
      .ok (item :: others, rest) := by
  induction others generalizing item fuel with
  | nil =>
      obtain ⟨fuel, rfl⟩ := Nat.exists_eq_succ_of_ne_zero (Nat.ne_zero_of_lt enough)
      have here := (each item List.mem_cons_self).2 depth fuel _ (by omega) (items_end depth outer [] rest)
      exact items_last fuel _ _ rest item here (skip_indent outer ']' rest rfl)
  | cons next others ih =>
      obtain ⟨fuel, rfl⟩ := Nat.exists_eq_succ_of_ne_zero (Nat.ne_zero_of_lt enough)
      have ends := items_end depth outer (next :: others) rest
      have here := (each item List.mem_cons_self).2 depth fuel _ (by omega) ends
      have length := congrArg List.length (items_more depth next others [])
      simp only [List.append_nil, List.length_append, List.length_cons] at length
      obtain ⟨first, remaining⟩ := List.forall_mem_cons.mp each
      have later := ih next remaining fuel (by omega)
      rw [← skip_to_value depth next (remaining next List.mem_cons_self).1] at later
      rw [items_more] at here ⊢
      exact items_next fuel _ _ _ rest item (next :: others) here (skip_visible ',' _ rfl) later

theorem read_members (name : Text) (value : Json) (others : List (Writing × Json))
    (names : ∀ member ∈ others, ∃ name, member.1 = .text name)
    (each : ∀ member ∈ (.text name, value) :: others, Exact member.2 ∧ ReadBack member.2) (fuel : Nat) (rest : Text)
    (enough : (printAt depth value).length + (printMembers depth others).length + 1 < fuel) :
    readMembers .unlimited fuel (printString (.text name) ++ (": ".toList ++ (printAt depth value ++
      (printMembers depth others ++ (indent outer ++ '\x7d' :: rest))))) =
        .ok ((.text name, value) :: others, rest) := by
  induction others generalizing name value fuel with
  | nil =>
      obtain ⟨fuel, rfl⟩ := Nat.exists_eq_succ_of_ne_zero (Nat.ne_zero_of_lt enough)
      obtain ⟨whole, back⟩ := each _ List.mem_cons_self
      have room : (printAt depth value).length < fuel := by omega
      have here := back depth fuel _ room (members_end depth outer [] rest)
      rw [← skip_value depth value whole] at here
      exact members_last fuel _ _ rest value name here (skip_indent outer '\x7d' rest rfl)
  | cons next others ih =>
      obtain ⟨fuel, rfl⟩ := Nat.exists_eq_succ_of_ne_zero (Nat.ne_zero_of_lt enough)
      obtain ⟨⟨whole, back⟩, remaining⟩ := List.forall_mem_cons.mp each
      have room : (printAt depth value).length < fuel := by omega
      have here := back depth fuel _ room (members_end depth outer (next :: others) rest)
      obtain ⟨⟨nextName, named⟩, otherNames⟩ := List.forall_mem_cons.mp names
      obtain ⟨_, nextValue⟩ := next
      cases named
      have length := congrArg List.length (members_more depth (.text nextName) nextValue others [])
      simp only [List.append_nil, List.length_append, List.length_cons] at length
      have later := ih nextName nextValue otherNames remaining fuel (by omega)
      rw [← skip_to_name depth] at later
      rw [← skip_value depth value whole, members_more] at here
      rw [members_more]
      exact members_next fuel _ _ _ rest value name _ here (skip_visible ',' _ rfl) later

end Collections

theorem read_back (value : Json) (whole : Exact value) : ReadBack value := by
  induction whole with
  | null =>
      intro depth fuel rest enough ends
      obtain ⟨fuel, rfl⟩ := Nat.exists_eq_succ_of_ne_zero (Nat.ne_zero_of_lt enough)
      rfl
  | bool value =>
      intro depth fuel rest enough ends
      obtain ⟨fuel, rfl⟩ := Nat.exists_eq_succ_of_ne_zero (Nat.ne_zero_of_lt enough)
      cases value <;> rfl
  | int value => exact read_back_integer value
  | text value => exact read_back_text value
  | array items each ih =>
      intro depth fuel rest enough ends
      obtain ⟨fuel, rfl⟩ := Nat.exists_eq_succ_of_ne_zero (Nat.ne_zero_of_lt enough)
      cases items with
      | nil => rfl
      | cons item others =>
          have length := congrArg List.length (array_more depth item others [])
          simp only [List.append_nil, List.length_append, List.length_cons] at length
          have whole := each item List.mem_cons_self
          have read := read_items (depth + 1) depth item others
            (fun value member => ⟨each value member, ih value member⟩) fuel rest (by omega)
          have front := skip_to_value (depth + 1) item whole
            (printItems (depth + 1) others ++ (indent depth ++ ']' :: rest))
          obtain ⟨c, more, written, -, filled⟩ := printed_front (depth + 1) item whole
          rw [← front] at read
          rw [array_more]
          exact array_read fuel _ _ rest _ c (front.trans (congrArg (· ++ _) written)) filled read
  | object members names each ih =>
      intro depth fuel rest enough ends
      obtain ⟨fuel, rfl⟩ := Nat.exists_eq_succ_of_ne_zero (Nat.ne_zero_of_lt enough)
      cases members with
      | nil => rfl
      | cons member others =>
          obtain ⟨_, value⟩ := member
          obtain ⟨⟨name, rfl⟩, otherNames⟩ := List.forall_mem_cons.mp names
          have length := congrArg List.length (object_more depth (.text name) value others [])
          simp only [List.append_nil, List.length_append, List.length_cons] at length
          have read := read_members (depth + 1) depth name value others otherNames
            (fun member listed => ⟨each member listed, ih member listed⟩) fuel rest (by omega)
          rw [← skip_to_name (depth + 1)] at read
          rw [object_more]
          exact object_read fuel _ _ rest _ (skip_to_name (depth + 1) _ _) read

theorem read_print (value : Json) (whole : Exact value) : read? (print value) = some value := by
  have read := read_back value whole 0 ((print value).length + 1) [] (Nat.lt_succ_self _) nofun
  have skipped := skip_value 0 value whole []
  rw [List.append_nil] at read skipped
  rw [read?, readWithin, print, skipped]
  rw [print] at read
  rw [read]
  rfl

end Values

section Characters

theorem integer_ascii (n : Int) : Ascii (Text.ofInt n) := by
  have digits : ∀ n : Nat, Ascii (Text.ofNat n) := by
    intro n c member
    have digit := Nat.isDigit_of_mem_toDigits (by decide) (by decide) member
    simp only [Char.isDigit, Bool.and_eq_true, decide_eq_true_eq] at digit
    exact Nat.lt_of_le_of_lt (UInt32.le_iff_toNat_le.mp digit.2) (by decide)
  cases n with
  | ofNat n => exact digits n
  | negSucc n => exact (ascii_cons _ _).mpr ⟨by decide, digits (n + 1)⟩

theorem indent_ascii (depth : Nat) : Ascii (indent depth) := by
  refine (ascii_cons _ _).mpr ⟨by decide, fun c member => ?_⟩
  rw [List.eq_of_mem_replicate member]
  decide

theorem items_ascii (depth : Nat) (items : List Json) (each : ∀ item ∈ items, Ascii (printAt depth item)) :
    Ascii (printItems depth items) := by
  induction items with
  | nil => exact ascii_nil
  | cons item rest ih =>
      obtain ⟨here, later⟩ := List.forall_mem_cons.mp each
      simp [printItems, indent_ascii, here, ih later]

theorem members_ascii (depth : Nat) (members : List (Writing × Json))
    (names : ∀ member ∈ members, ∃ name, member.1 = .text name)
    (each : ∀ member ∈ members, Ascii (printAt depth member.2)) : Ascii (printMembers depth members) := by
  induction members with
  | nil => exact ascii_nil
  | cons member rest ih =>
      obtain ⟨here, later⟩ := List.forall_mem_cons.mp each
      obtain ⟨⟨name, named⟩, otherNames⟩ := List.forall_mem_cons.mp names
      obtain ⟨_, value⟩ := member
      cases named
      simp [printMembers, indent_ascii, string_ascii, here, ih otherNames later]

theorem printed_ascii (value : Json) (whole : Exact value) (depth : Nat) : Ascii (printAt depth value) := by
  induction whole generalizing depth with
  | null => simp [printAt]
  | bool value => cases value <;> simp [printAt]
  | int value => exact integer_ascii value
  | text value => exact string_ascii value
  | array items each ih =>
      cases items with
      | nil => simp [printAt]
      | cons item rest =>
          have later := items_ascii (depth + 1) rest fun item member => ih item (List.mem_cons_of_mem _ member) _
          simp [printAt, indent_ascii, ih, later]
  | object members names each ih =>
      cases members with
      | nil => simp [printAt]
      | cons member rest =>
          obtain ⟨_, value⟩ := member
          obtain ⟨⟨name, rfl⟩, otherNames⟩ := List.forall_mem_cons.mp names
          have here := ih _ List.mem_cons_self (depth + 1)
          have later := members_ascii (depth + 1) rest otherNames fun member listed =>
            ih member (List.mem_cons_of_mem _ listed) _
          simp [printAt, indent_ascii, string_ascii, here, later]

end Characters

end SourceLocator.Json
