import Mathlib.Data.List.Chain
import SourceLocator.Location.Report
import SourceLocator.Proofs.CompactForm
import SourceLocator.Proofs.PathText

set_option autoImplicit false

namespace SourceLocator

namespace Text

structure IsWord (word : Text) : Prop where
  nonempty : word ≠ []
  unbroken : ∀ c ∈ word, isBlank c = false

structure SingleSpaced (text : Text) : Prop where
  spaces : ∀ c ∈ text, isBlank c = true → c = ' '
  front : text.head? ≠ some ' '
  apart : text.IsChain fun c d => ¬ (c = ' ' ∧ d = ' ')

theorem words_are_words (text : Text) : ∀ word ∈ text.words, IsWord word := by
  intro word member
  obtain ⟨piece, kept⟩ := List.mem_filter.mp member
  refine ⟨?_, split_by_clean isBlank text word piece⟩
  rintro rfl
  cases kept

theorem words_join (list : List Text) (each : ∀ word ∈ list, IsWord word) : words (join [' '] list) = list := by
  cases list with
  | nil => rfl
  | cons first rest =>
      have pieces := split_join isBlank ' ' rfl (first :: rest) (List.cons_ne_nil _ _) fun word member =>
        (each word member).unbroken
      rw [words, pieces, List.filter_eq_self]
      intro word member
      simpa using (each word member).nonempty

theorem words_flatten (text : Text) : text.flatten.words = text.words :=
  words_join text.words (words_are_words text)

theorem word_has_no_space (word : Text) (isWord : IsWord word) (c : Char) (member : c ∈ word) : c ≠ ' ' := by
  rintro rfl
  cases (isWord.unbroken ' ' member).symm.trans (rfl : isBlank ' ' = true)

namespace SingleSpaced

theorem nothing : SingleSpaced [] := ⟨nofun, nofun, .nil⟩

theorem word (word : Text) (isWord : IsWord word) : SingleSpaced word := by
  have noSpace := word_has_no_space word isWord
  constructor
  · intro c member blank
    cases (isWord.unbroken c member).symm.trans blank
  · intro first
    exact noSpace ' ' (List.mem_of_head? first) rfl
  · have apart : word.Pairwise fun c d => ¬ (c = ' ' ∧ d = ' ') :=
      List.pairwise_of_forall_mem_list fun c member _ _ both => noSpace c member both.1
    exact apart.isChain

theorem behind_word (word rest : Text) (isWord : IsWord word) (spaced : SingleSpaced rest) :
    SingleSpaced (word ++ ' ' :: rest) := by
  have alone := SingleSpaced.word word isWord
  constructor
  · intro c member blank
    rcases List.mem_append.mp member with inside | behind
    · exact alone.spaces c inside blank
    · rcases List.mem_cons.mp behind with rfl | later
      · rfl
      · exact spaced.spaces c later blank
  · rw [List.head?_append_of_ne_nil word isWord.nonempty]
    exact alone.front
  · refine List.isChain_append.mpr ⟨alone.apart, List.isChain_cons.mpr ⟨?_, spaced.apart⟩, ?_⟩
    · intro c first both
      exact spaced.front (both.2 ▸ first)
    · intro c last _ _ both
      exact word_has_no_space word isWord c (List.mem_of_getLast? last) both.1

theorem joined (list : List Text) (each : ∀ word ∈ list, IsWord word) : SingleSpaced (join [' '] list) := by
  induction list with
  | nil => exact nothing
  | cons first rest ih =>
      have here := each first List.mem_cons_self
      have later := ih fun word member => each word (List.mem_cons_of_mem first member)
      cases rest with
      | nil => exact SingleSpaced.word first here
      | cons next more =>
          have split : join [' '] (first :: next :: more) = first ++ ' ' :: join [' '] (next :: more) :=
            List.append_assoc first [' '] _
          rw [split]
          exact behind_word first _ here later

theorem flattened (text : Text) : SingleSpaced text.flatten := joined text.words (words_are_words text)

variable {text : Text}

theorem beginning (spaced : SingleSpaced text) (start : Text) (begins : start <+: text) : SingleSpaced start := by
  refine ⟨fun c member => spaced.spaces c (begins.subset member), ?_, spaced.apart.prefix begins⟩
  intro first
  obtain ⟨rest, rfl⟩ := begins
  cases start with
  | nil => cases first
  | cons c more => exact spaced.front first

theorem before_word (spaced : SingleSpaced text) (word : Text) (isWord : IsWord word) :
    SingleSpaced (text ++ word) := by
  have alone := SingleSpaced.word word isWord
  constructor
  · intro c member
    rcases List.mem_append.mp member with inside | behind
    · exact spaced.spaces c inside
    · exact alone.spaces c behind
  · cases text with
    | nil => exact alone.front
    | cons c more => exact spaced.front
  · refine List.isChain_append.mpr ⟨spaced.apart, alone.apart, ?_⟩
    intro _ _ c first both
    exact word_has_no_space word isWord c (List.mem_of_head? first) both.2

end SingleSpaced

section Truncate

variable (text : Text) (length : Int) (ellipsis : Text)

theorem truncate_whole (fits : text.length ≤ length) : truncate text length ellipsis = text := by
  rw [truncate, if_pos fits]

theorem truncate_bare (long : length < text.length) (narrow : length ≤ ellipsis.length) :
    truncate text length ellipsis = text.take length.toNat := by
  have stop : max length 0 = (length.toNat : Int) := by omega
  rw [truncate, if_neg (by omega), if_pos narrow, stop]
  exact slice_ofNat text 0 length.toNat (by omega)

theorem truncate_marked (long : length < text.length) (wide : ellipsis.length < length) :
    truncate text length ellipsis = text.take (length.toNat - ellipsis.length) ++ ellipsis := by
  have stop : length - ellipsis.length = ((length.toNat - ellipsis.length : Nat) : Int) := by omega
  rw [truncate, if_neg (by omega), if_neg (by omega), stop]
  exact congrArg (· ++ ellipsis) (slice_ofNat text 0 _ (by omega))

theorem truncate_length : ((truncate text length ellipsis).length : Int) = min (text.length : Int) (max length 0) := by
  by_cases fits : text.length ≤ length
  · rw [truncate_whole text length ellipsis fits]
    omega
  · by_cases narrow : length ≤ ellipsis.length
    · rw [truncate_bare text length ellipsis (by omega) narrow, List.length_take]
      omega
    · rw [truncate_marked text length ellipsis (by omega) (by omega), List.length_append, List.length_take]
      omega

theorem truncate_again :
    truncate (truncate text length ellipsis) length ellipsis = truncate text length ellipsis := by
  have size := truncate_length text length ellipsis
  by_cases negative : length < 0
  · have empty : truncate text length ellipsis = [] := List.length_eq_zero_iff.mp (by omega)
    rw [empty, truncate_bare [] length ellipsis (by simpa using negative) (by omega), List.take_nil]
  · exact truncate_whole _ length ellipsis (by omega)

end Truncate

theorem join_ended (list : List Text) :
    (if list.isEmpty then [] else join ['\n'] list ++ ['\n']) = (list.map (· ++ ['\n'])).flatten := by
  induction list with
  | nil => rfl
  | cons first rest ih =>
      cases rest with
      | nil => simp [join]
      | cons next more =>
          have later : join ['\n'] (next :: more) ++ ['\n'] = ((next :: more).map (· ++ ['\n'])).flatten := ih
          have split : join ['\n'] (first :: next :: more) = first ++ ['\n'] ++ join ['\n'] (next :: more) := rfl
          rw [List.map_cons, List.flatten_cons, ← later, List.isEmpty_cons, if_neg Bool.false_ne_true, split,
            List.append_assoc]

end Text

namespace Report

structure Shows (length : Int) (flat shown : Text) : Prop where
  whole : flat.length ≤ length → shown = flat
  bare : length < flat.length → length ≤ 3 → shown <+: flat
  marked : length < flat.length → 3 < length → ∃ start, start <+: flat ∧ shown = start ++ "...".toList
  size : (shown.length : Int) = min (flat.length : Int) (max length 0)
  spaced : shown.SingleSpaced
  settled : Text.truncate shown length "...".toList = shown

theorem ellipsis_is_word : Text.IsWord ellipsis := by
  have dots : ellipsis = List.replicate 3 '.' := rfl
  refine ⟨List.cons_ne_nil _ _, fun c member => ?_⟩
  rw [dots] at member
  rw [List.eq_of_mem_replicate member]
  rfl

theorem display_shows (length : Int) (location : Location) :
    Shows length location.displayText.flatten (display length location) := by
  generalize flattened : location.displayText.flatten = flat
  have spaced : flat.SingleSpaced := flattened ▸ Text.SingleSpaced.flattened location.displayText
  have dots : (ellipsis.length : Int) = 3 := rfl
  have shown : display length location = Text.truncate flat length ellipsis := by rw [display, flattened]
  rw [shown]
  refine ⟨Text.truncate_whole flat length ellipsis, ?_, ?_, Text.truncate_length flat length ellipsis, ?_,
    Text.truncate_again flat length ellipsis⟩
  · intro long narrow
    rw [Text.truncate_bare flat length ellipsis long (by omega)]
    exact List.take_prefix _ flat
  · intro long wide
    exact ⟨_, List.take_prefix _ flat, Text.truncate_marked flat length ellipsis long (by omega)⟩
  · by_cases fits : flat.length ≤ length
    · rwa [Text.truncate_whole flat length ellipsis fits]
    · by_cases narrow : length ≤ 3
      · rw [Text.truncate_bare flat length ellipsis (by omega) (by omega)]
        exact spaced.beginning _ (List.take_prefix _ flat)
      · rw [Text.truncate_marked flat length ellipsis (by omega) (by omega)]
        exact (spaced.beginning _ (List.take_prefix _ flat)).before_word ellipsis ellipsis_is_word

theorem display_has_no_line_feed (length : Int) (location : Location) : '\n' ∉ display length location := by
  intro member
  cases (display_shows length location).spaced.spaces '\n' member rfl

theorem line_feeds_of_line (length : Int) (location : Location) :
    (line length location).count '\n' = location.file.count '\n' + 1 := by
  have position : '\n' ∉ location.position.text := by
    have number := fun n => Text.integer_plain n '\n' rfl (by decide)
    simp [Position.text, colonPair, number]
  have shown := display_has_no_line_feed length location
  simp [line, Location.compact, List.count_eq_zero_of_not_mem position, List.count_eq_zero_of_not_mem shown]

theorem line_feeds_of_text (length : Int) (locations : List Location) :
    (text length locations).count '\n' = locations.length + (locations.flatMap Location.file).count '\n' := by
  induction locations with
  | nil => rfl
  | cons first rest ih =>
      rw [text, List.flatMap_cons, ← text, List.count_append, line_feeds_of_line, ih, List.flatMap_cons,
        List.count_append, List.length_cons]
      omega

theorem write_text_eq (bound : DigitBound) (length : Int) (locations : List Location) :
    writeText bound length locations = do
      let lines ← locations.mapM fun location => do
        return (← location.writeCompact bound) ++ ' ' :: ' ' :: display length location ++ ['\n']
      return lines.flatten := by
  have ended : ∀ list : List Location,
      (list.mapM fun location => do
        return (← location.writeCompact bound) ++ ' ' :: ' ' :: display length location ++ ['\n']) =
      (list.mapM (writeLine bound length)).map fun lines => lines.map (· ++ ['\n']) := by
    intro list
    induction list with
    | nil => rfl
    | cons first rest ih =>
        rw [List.mapM_cons, List.mapM_cons, ih, writeLine]
        cases first.writeCompact bound with
        | error fault => rfl
        | ok compact => cases rest.mapM (writeLine bound length) <;> rfl
  rw [writeText, ended]
  cases locations.mapM (writeLine bound length) with
  | error fault => rfl
  | ok lines => exact congrArg Except.ok (Text.join_ended lines)

def places (location : Location) : List Int := [location.position.line, location.position.column]

theorem write_lines (bound : DigitBound) (length : Int) (locations : List Location) :
    (locations.mapM fun location => do
      return (← location.writeCompact bound) ++ ' ' :: ' ' :: display length location ++ ['\n']) =
    if (locations.flatMap places).all bound.admits then .ok (locations.map (line length)) else .error .unwritable := by
  induction locations with
  | nil => rfl
  | cons first rest ih =>
      have front : first.writeCompact bound =
          if (places first).all bound.admits then .ok first.compact else .error .unwritable :=
        Location.write_compact_eq bound first
      rw [List.mapM_cons, ih, front, List.flatMap_cons, List.all_append]
      cases (places first).all bound.admits with
      | false => rfl
      | true => cases (rest.flatMap places).all bound.admits <;> rfl

theorem write_text_writes (bound : DigitBound) (length : Int) (locations : List Location) :
    writeText bound length locations = bound.write (locations.flatMap places) (text length locations) := by
  rw [write_text_eq, write_lines, DigitBound.write]
  split
  · exact congrArg Except.ok List.flatMap_def.symm
  · rfl

-- One line for each location, whatever breaks its text has: the words of the text with single spaces between them,
-- cut to the length. All of it is written unless a line or a column has too many digits.
theorem text_report_shape (bound : DigitBound) (length : Int) (locations : List Location) :
    (writeText bound length locations = do
      let lines ← locations.mapM fun location => do
        return (← location.writeCompact bound) ++ ' ' :: ' ' :: display length location ++ ['\n']
      return lines.flatten) ∧
    ((∀ location ∈ locations, ∀ n ∈ places location, ∀ digits ∈ bound, n.natAbs < 10 ^ digits) →
      writeText bound length locations = .ok (text length locations)) ∧
    ((∃ location ∈ locations, ∃ n ∈ places location, ∃ digits ∈ bound, 10 ^ digits ≤ n.natAbs) →
      writeText bound length locations = .error .unwritable) ∧
    text length locations = (locations.map fun location =>
      location.compact ++ ' ' :: ' ' :: display length location ++ ['\n']).flatten ∧
    (∀ location ∈ locations, Shows length location.displayText.flatten (display length location) ∧
      location.displayText.flatten.words = location.displayText.words) ∧
    (text length locations).count '\n' = locations.length + (locations.flatMap Location.file).count '\n' := by
  refine ⟨write_text_eq bound length locations, fun short => ?_, fun long => ?_, List.flatMap_def, ?_,
    line_feeds_of_text length locations⟩
  · rw [write_text_writes]
    exact short_written bound _ _ (List.forall_mem_flatMap.mpr short)
  · obtain ⟨location, listed, n, place, large⟩ := long
    rw [write_text_writes]
    exact long_refused bound _ _ ⟨n, List.mem_flatMap.mpr ⟨location, listed, place⟩, large⟩
  · exact fun location _ => ⟨display_shows length location, Text.words_flatten location.displayText⟩

theorem broken_text_is_reported :
    let location : Location := ⟨.unknown, ⟨0, 0⟩, "\n a\u2028\tbc def ".toList, "b:1".toList⟩
    writeText .standard 7 [location] = .ok "b:1:-1:-1  a bc...\n".toList ∧
      writeText (some 0) 7 [location] = .error .unwritable := by
  intro location
  have printed : text 7 [location] = "b:1:-1:-1  a bc...\n".toList := by decide +kernel
  have written := (text_report_shape .standard 7 [location]).2.1
  have refused := (text_report_shape (some 0) 7 [location]).2.2.1
  rw [printed] at written
  constructor
  · refine written fun other listed n place => (admits_iff .standard n).mp ?_
    rw [List.mem_singleton.mp listed] at place
    exact List.all_eq_true.mp (by decide +kernel : (places location).all DigitBound.standard.admits = true) n place
  · exact refused ⟨location, List.mem_cons_self, -1, List.mem_cons_self, 0, rfl, by decide⟩

theorem long_column_is_not_reported :
    let far : Int := (Nat.pow 10 4300 : Nat)
    let file : SourceFile := ⟨['a', 'b'], ['f'], ['f'], [1 - far, 1 - far], none⟩
    let span : Span := ⟨some file, ⟨0, 0⟩, some ['g'], none, none⟩
    let location : Location := ⟨⟨2, far⟩, ⟨0, 0⟩, ['g'], ['f']⟩
    (SpanGraph.subject [span] 0 span).resolve .standard 0 = .ok (location, []) ∧
      ∀ length, ¬ ∃ report, writeText .standard length [location] = .ok report := by
  intro far file span location
  refine ⟨ok_of_option _ _ (by decide +kernel), ?_⟩
  rintro length ⟨report, written⟩
  have column : far ∈ [location].flatMap places := .tail _ (.head _)
  have refused := long_refused .standard _ (text length [location]) ⟨far, column, _, rfl, by decide +kernel⟩
  rw [write_text_writes, refused] at written
  cases written

end Report

end SourceLocator
