import SourceLocator.Proofs.FileTrails

set_option autoImplicit false

namespace SourceLocator

namespace Text

theorem split_by_none (p : Char → Bool) (text : Text) (clean : ∀ c ∈ text, p c = false) : splitBy p text = [text] := by
  induction text with
  | nil => rfl
  | cons c rest ih =>
      have here := clean c List.mem_cons_self
      have later := ih fun d member => clean d (List.mem_cons_of_mem c member)
      rw [splitBy, if_neg (by rw [here]; decide), later]

theorem split_by_first (p : Char → Bool) (front rest : Text) (c : Char) (clean : ∀ d ∈ front, p d = false)
    (cuts : p c = true) : splitBy p (front ++ c :: rest) = front :: splitBy p rest := by
  induction front with
  | nil => rw [List.nil_append, splitBy, if_pos cuts]
  | cons d front ih =>
      have here := clean d List.mem_cons_self
      have later := ih fun e member => clean e (List.mem_cons_of_mem d member)
      rw [List.cons_append, splitBy, if_neg (by rw [here]; decide), later]

theorem split_by_clean (p : Char → Bool) (text : Text) : ∀ piece ∈ splitBy p text, ∀ c ∈ piece, p c = false := by
  induction text with
  | nil =>
      intro piece member c inside
      rw [List.mem_singleton.mp member] at inside
      cases inside
  | cons d rest ih =>
      rw [splitBy]
      split
      · intro piece member
        rcases List.mem_cons.mp member with rfl | later
        · exact fun c inside => nomatch inside
        · exact ih piece later
      · rename_i uncut
        split
        · intro piece member c inside
          rw [List.mem_singleton.mp member, List.mem_singleton] at inside
          rw [inside]
          simpa using uncut
        · rename_i first more pieces
          rw [pieces] at ih
          intro piece member
          rcases List.mem_cons.mp member with rfl | later
          · intro c inside
            rcases List.mem_cons.mp inside with rfl | further
            · simpa using uncut
            · exact ih first List.mem_cons_self c further
          · exact ih piece (List.mem_cons_of_mem _ later)

theorem split_join (p : Char → Bool) (c : Char) (cuts : p c = true) (parts : List Text) (some : parts ≠ [])
    (clean : ∀ part ∈ parts, ∀ d ∈ part, p d = false) : splitBy p (join [c] parts) = parts := by
  induction parts with
  | nil => exact absurd rfl some
  | cons part rest ih =>
      have here := clean part List.mem_cons_self
      cases rest with
      | nil => exact split_by_none p part here
      | cons next more =>
          have later := ih (List.cons_ne_nil _ _) fun other member => clean other (List.mem_cons_of_mem part member)
          have joined : join [c] (part :: next :: more) = part ++ c :: join [c] (next :: more) :=
            List.append_assoc part [c] _
          rw [joined, split_by_first p part _ c here cuts, later]

end Text

structure IsSegment (part : Text) : Prop where
  nonempty : part ≠ []
  notHere : part ≠ ['.']
  noSlash : '/' ∉ part

theorem IsName.segment {name : Text} (named : IsName name) : IsSegment name :=
  ⟨named.nonempty, named.notHere, named.noSlash⟩

namespace Path

theorem of_text_segments (text : Text) : ∀ part ∈ (ofText text).parts, IsSegment part := by
  intro part member
  obtain ⟨piece, kept⟩ := List.mem_filter.mp member
  constructor
  · rintro rfl
    cases kept
  · rintro rfl
    cases kept
  · intro slash
    have clean := Text.split_by_clean _ text part piece '/' slash
    cases clean

theorem segment_kept (part : Text) (segment : IsSegment part) : saysNothing part = false := by
  rw [saysNothing, Bool.or_eq_false_iff]
  exact ⟨List.isEmpty_eq_false_iff.mpr segment.nonempty, beq_false_of_ne segment.notHere⟩

theorem join_begins (parts : List Text) (segments : ∀ part ∈ parts, IsSegment part) (more : Text) :
    Text.join ['/'] parts ≠ '/' :: more := by
  cases parts with
  | nil => exact nofun
  | cons part rest =>
      have begins : ∃ further, Text.join ['/'] (part :: rest) = part ++ further := by
        cases rest with
        | nil => exact ⟨[], (List.append_nil part).symm⟩
        | cons next more => exact ⟨_, List.append_assoc _ _ _⟩
      obtain ⟨further, begins⟩ := begins
      have segment := segments part List.mem_cons_self
      cases part with
      | nil => exact absurd rfl segment.nonempty
      | cons c part =>
          rw [begins]
          intro same
          exact segment.noSlash ((List.cons.inj same).1 ▸ List.mem_cons_self)

theorem kept_parts (parts : List Text) (segments : ∀ part ∈ parts, IsSegment part) :
    ((Text.splitBy (· == '/') (Text.join ['/'] parts)).filter fun segment => !saysNothing segment) = parts := by
  cases parts with
  | nil => rfl
  | cons part rest =>
      have noSlash : ∀ other ∈ part :: rest, ∀ c ∈ other, (c == '/') = false := by
        intro other member c inside
        apply beq_false_of_ne
        rintro rfl
        exact (segments other member).noSlash inside
      rw [Text.split_join _ '/' rfl _ (List.cons_ne_nil _ _) noSlash]
      apply List.filter_eq_self.mpr
      intro other member
      rw [segment_kept other (segments other member)]
      rfl

inductive IsRoot : Text → Prop where
  | none : IsRoot []
  | one : IsRoot ['/']
  | two : IsRoot ['/', '/']

theorem root_is_root (text : Text) : IsRoot (rootOf text) := by
  unfold rootOf
  split
  · exact .one
  · exact .two
  · exact .one
  · exact .none

theorem root_of_printed (root : Text) (isRoot : IsRoot root) (rest : Text) (begins : ∀ more, rest ≠ '/' :: more) :
    rootOf (root ++ rest) = root := by
  have slash : ∀ (c : Char) (tail : Text), rest = c :: tail → c ≠ '/' := by
    rintro c tail rfl rfl
    exact begins tail rfl
  cases rest with
  | nil => cases isRoot <;> rfl
  | cons c tail =>
      have other := slash c tail rfl
      cases isRoot <;> simp [rootOf, other]

theorem of_text_text (path : Path) (isRoot : IsRoot path.root) (segments : ∀ part ∈ path.parts, IsSegment part) :
    ofText path.text = path := by
  obtain ⟨root, parts⟩ := path
  have kept := kept_parts parts segments
  have sameRoot : rootOf (root ++ Text.join ['/'] parts) = root :=
    root_of_printed root isRoot _ (join_begins parts segments)
  by_cases dot : root = [] ∧ parts = []
  · obtain ⟨rfl, rfl⟩ := dot
    rfl
  · have printed : text ⟨root, parts⟩ = root ++ Text.join ['/'] parts := by
      rw [text, if_neg]
      simpa using dot
    rw [printed, ofText, sameRoot]
    refine congrArg (Path.mk root) ?_
    cases isRoot with
    | none => exact kept
    | one => exact kept
    | two => exact kept

end Path

end SourceLocator
