import Mathlib.Data.List.Lex
import SourceLocator.Files.SourceFiles

set_option autoImplicit false

namespace SourceLocator

def NameBefore : Text → Text → Prop := List.Lex fun c d => c.toNat < d.toNat

def WayBefore : List Text → List Text → Prop := List.Lex NameBefore

section Lex

variable {α : Type} {less : α → α → Prop}

theorem lex_connected (connected : ∀ a b, a = b ∨ less a b ∨ less b a) (first second : List α) :
    first = second ∨ List.Lex less first second ∨ List.Lex less second first := by
  induction first generalizing second with
  | nil =>
      cases second with
      | nil => exact .inl rfl
      | cons b second => exact .inr (.inl .nil)
  | cons a first ih =>
      cases second with
      | nil => exact .inr (.inr .nil)
      | cons b second =>
          rcases connected a b with rfl | before | behind
          · rcases ih second with rfl | before | behind
            · exact .inl rfl
            · exact .inr (.inl (.cons before))
            · exact .inr (.inr (.cons behind))
          · exact .inr (.inl (.rel before))
          · exact .inr (.inr (.rel behind))

theorem lex_cons_same (a : α) (first second : List α) (irrefl : ¬ less a a) :
    List.Lex less (a :: first) (a :: second) ↔ List.Lex less first second := by
  constructor
  · intro before
    cases before with
    | rel here => exact absurd here irrefl
    | cons later => exact later
  · exact .cons

theorem lex_cons_different (a b : α) (first second : List α) (different : a ≠ b) :
    List.Lex less (a :: first) (b :: second) ↔ less a b := by
  constructor
  · intro before
    cases before with
    | rel here => exact here
    | cons later => exact absurd rfl different
  · exact .rel

end Lex

theorem name_irrefl (name : Text) : ¬ NameBefore name name := List.lex_irrefl (fun c => Nat.lt_irrefl c.toNat) name

theorem way_irrefl (way : List Text) : ¬ WayBefore way way := List.lex_irrefl name_irrefl way

theorem name_trans (a b c : Text) (first : NameBefore a b) (second : NameBefore b c) : NameBefore a c :=
  List.lex_trans Nat.lt_trans first second

theorem way_trans (a b c : List Text) (first : WayBefore a b) (second : WayBefore b c) : WayBefore a c :=
  List.lex_trans (name_trans _ _ _) first second

theorem name_connected (a b : Text) : a = b ∨ NameBefore a b ∨ NameBefore b a := by
  refine lex_connected ?_ a b
  intro c d
  rcases Nat.lt_trichotomy c.toNat d.toNat with less | same | greater
  · exact .inr (.inl less)
  · exact .inl (Char.toNat_inj.mp same)
  · exact .inr (.inr greater)

theorem way_connected (a b : List Text) : a = b ∨ WayBefore a b ∨ WayBefore b a := lex_connected name_connected a b

theorem name_le_iff (a b : Text) : nameLe a b = true ↔ a = b ∨ NameBefore a b := by
  induction a generalizing b with
  | nil =>
      cases b with
      | nil => simp [nameLe]
      | cons d b => simp [nameLe, NameBefore]
  | cons c a ih =>
      cases b with
      | nil => simp [nameLe, NameBefore]
      | cons d b =>
          by_cases same : c = d
          · subst same
            have later : NameBefore (c :: a) (c :: b) ↔ NameBefore a b := lex_cons_same c a b (Nat.lt_irrefl _)
            simp [nameLe, ih, later]
          · have here : NameBefore (c :: a) (d :: b) ↔ c.toNat < d.toNat := lex_cons_different c d a b same
            simp [nameLe, same, here]

theorem way_le_iff (a b : List Text) : wayLe a b = true ↔ a = b ∨ WayBefore a b := by
  induction a generalizing b with
  | nil =>
      cases b with
      | nil => simp [wayLe]
      | cons name b => simp [wayLe, WayBefore]
  | cons name a ih =>
      cases b with
      | nil => simp [wayLe, WayBefore]
      | cons other b =>
          by_cases same : name = other
          · subst same
            have later : WayBefore (name :: a) (name :: b) ↔ WayBefore a b :=
              lex_cons_same name a b (name_irrefl name)
            simp [wayLe, ih, later]
          · have here : WayBefore (name :: a) (other :: b) ↔ NameBefore name other :=
              lex_cons_different name other a b same
            simp [wayLe, same, here, name_le_iff]

section Sorted

variable {α β : Type} {before : β → β → Prop}

theorem sorted_strictly (le : β → β → Bool) (le_iff : ∀ a b, le a b = true ↔ a = b ∨ before a b)
    (trans : ∀ a b c, before a b → before b c → before a c) (connected : ∀ a b, a = b ∨ before a b ∨ before b a)
    (key : α → β) (items : List α) (distinct : (items.map key).Nodup) :
    (items.mergeSort fun a b => le (key a) (key b)).Pairwise fun a b => before (key a) (key b) := by
  have ascending : (items.mergeSort fun a b => le (key a) (key b)).Pairwise fun a b => le (key a) (key b) = true := by
    apply List.pairwise_mergeSort
    · intro a b c first second
      rw [le_iff] at first second ⊢
      rcases first with same | first
      · rwa [same]
      · rcases second with same | second
        · exact .inr (same ▸ first)
        · exact .inr (trans _ _ _ first second)
    · intro a b
      rw [Bool.or_eq_true, le_iff, le_iff]
      rcases connected (key a) (key b) with same | less | greater
      · exact .inl (.inl same)
      · exact .inl (.inr less)
      · exact .inr (.inr greater)
  have different : (items.mergeSort fun a b => le (key a) (key b)).Pairwise fun a b => key a ≠ key b :=
    List.pairwise_map.mp (((List.mergeSort_perm items _).map key).nodup_iff.mpr distinct)
  refine ascending.imp₂ ?_ different
  intro a b less unequal
  exact ((le_iff _ _).mp less).resolve_left unequal

theorem ascending_distinct (irrefl : ∀ a, ¬ before a a) (items : List β) (ascending : items.Pairwise before) :
    items.Nodup := by
  refine ascending.imp ?_
  rintro a b less rfl
  exact irrefl a less

theorem ascending_unique (irrefl : ∀ a, ¬ before a a) (trans : ∀ a b c, before a b → before b c → before a c)
    (first second : List β) (firstAscends : first.Pairwise before) (secondAscends : second.Pairwise before)
    (same : ∀ item, item ∈ first ↔ item ∈ second) : first = second := by
  have perm : first.Perm second :=
    (List.perm_ext_iff_of_nodup (ascending_distinct irrefl first firstAscends)
      (ascending_distinct irrefl second secondAscends)).mpr same
  refine perm.eq_of_pairwise ?_ firstAscends secondAscends
  intro a b _ _ less greater
  exact absurd (trans a b a less greater) (irrefl a)

end Sorted

end SourceLocator
