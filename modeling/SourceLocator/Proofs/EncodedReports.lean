import SourceLocator.Files.Locale
import SourceLocator.Proofs.LosslessReport
import SourceLocator.Proofs.TextReport

set_option autoImplicit false

namespace SourceLocator

namespace Text

theorem join_characters (separator : Text) (items : List Text) (c : Char) (member : c ∈ join separator items) :
    c ∈ separator ∨ ∃ item ∈ items, c ∈ item := by
  induction items with
  | nil => cases member
  | cons item rest ih =>
      cases rest with
      | nil => exact .inr ⟨item, List.mem_cons_self, member⟩
      | cons next more =>
          have split : join separator (item :: next :: more) = item ++ separator ++ join separator (next :: more) := rfl
          rw [split, List.append_assoc, List.mem_append, List.mem_append] at member
          rcases member with here | between | later
          · exact .inr ⟨item, List.mem_cons_self, here⟩
          · exact .inl between
          · exact (ih later).imp_right fun ⟨other, listed, inside⟩ => ⟨other, List.mem_cons_of_mem item listed, inside⟩

theorem piece_characters (p : Char → Bool) (text : Text) : ∀ piece ∈ splitBy p text, ∀ c ∈ piece, c ∈ text := by
  induction text with
  | nil => simp [splitBy]
  | cons d rest ih =>
      intro piece listed c member
      rw [splitBy] at listed
      split at listed
      · rcases List.mem_cons.mp listed with rfl | later
        · cases member
        · exact List.mem_cons_of_mem d (ih piece later c member)
      · split at listed
        · rw [List.mem_singleton.mp listed, List.mem_singleton] at member
          exact member ▸ List.mem_cons_self
        · rename_i first more split
          rcases List.mem_cons.mp listed with rfl | later
          · rcases List.mem_cons.mp member with rfl | inside
            · exact List.mem_cons_self
            · exact List.mem_cons_of_mem d (ih first (split ▸ List.mem_cons_self) c inside)
          · exact List.mem_cons_of_mem d (ih piece (split ▸ List.mem_cons_of_mem first later) c member)

theorem flattened_characters (text : Text) (c : Char) (member : c ∈ text.flatten) : c = ' ' ∨ c ∈ text := by
  rcases join_characters _ _ c member with space | ⟨word, listed, inside⟩
  · exact .inl (List.mem_singleton.mp space)
  · exact .inr (piece_characters isBlank text word (List.mem_of_mem_filter listed) c inside)

theorem truncated_characters (text : Text) (length : Int) (ellipsis : Text) (c : Char)
    (member : c ∈ truncate text length ellipsis) : c ∈ text ∨ c ∈ ellipsis := by
  by_cases fits : text.length ≤ length
  · rw [truncate_whole text length ellipsis fits] at member
    exact .inl member
  · by_cases narrow : length ≤ ellipsis.length
    · rw [truncate_bare text length ellipsis (by omega) narrow] at member
      exact .inl (List.mem_of_mem_take member)
    · rw [truncate_marked text length ellipsis (by omega) (by omega)] at member
      exact (List.mem_append.mp member).imp_left List.mem_of_mem_take

end Text

namespace Report

theorem position_ascii (position : Position) : Json.Ascii position.text := by
  rw [Position.text, colonPair, Json.ascii_append, Json.ascii_cons]
  exact ⟨Json.integer_ascii _, by decide, Json.integer_ascii _⟩

theorem line_characters (length : Int) (location : Location) (c : Char) (member : c ∈ line length location) :
    c.toNat < 0x80 ∨ c ∈ location.file ∨ c ∈ location.displayText := by
  have parts : line length location = location.file ++ (':' :: location.position.text ++ [' ', ' ']) ++
      display length location ++ ['\n'] := by
    simp [line, Location.compact]
  rw [parts, List.mem_append, List.mem_append, List.mem_append] at member
  rcases member with ((inFile | inPosition) | shown) | ended
  · exact .inr (.inl inFile)
  · have ascii : Json.Ascii (':' :: location.position.text ++ [' ', ' ']) := by
      rw [Json.ascii_append, Json.ascii_cons]
      exact ⟨⟨by decide, position_ascii location.position⟩, by simp⟩
    exact .inl (ascii c inPosition)
  · rcases Text.truncated_characters _ length ellipsis c shown with inText | dot
    · rcases Text.flattened_characters location.displayText c inText with rfl | inside
      · exact .inl (by decide)
      · exact .inr (.inr inside)
    · have dots : ellipsis = List.replicate 3 '.' := rfl
      rw [dots] at dot
      exact .inl (List.eq_of_mem_replicate dot ▸ by decide)
  · exact .inl (List.mem_singleton.mp ended ▸ by decide)

theorem text_is_plain (locale : Locale) (length : Int) (locations : List Location)
    (each : ∀ location ∈ locations,
      locale.isPlain location.file = true ∧ locale.isPlain location.displayText = true) :
    locale.isPlain (text length locations) = true := by
  rw [Locale.plain_iff]
  intro c member
  obtain ⟨location, listed, inLine⟩ := List.mem_flatMap.mp member
  obtain ⟨file, displayText⟩ := each location listed
  rcases line_characters length location c inLine with ascii | inFile | inText
  · exact (locale.plain_iff [c]).mp (locale.ascii_is_plain [c] (List.forall_mem_singleton.mpr ascii)) c
      List.mem_cons_self
  · exact (locale.plain_iff _).mp file c inFile
  · exact (locale.plain_iff _).mp displayText c inText

theorem json_is_plain (locale : Locale) (locations : List Location) : locale.isPlain (json locations) = true :=
  locale.ascii_is_plain _ (Json.printed_ascii _ (document_exact locations) 0)

end Report

end SourceLocator
