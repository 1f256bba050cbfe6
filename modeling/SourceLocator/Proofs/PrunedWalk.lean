import SourceLocator.Proofs.SourceWalk
import SourceLocator.Proofs.WayOrder

set_option autoImplicit false

namespace SourceLocator

theorem enabled_by_name (enabled : Language → Bool) (path : Path) (names : List Text) (some : names ≠ []) :
    isEnabledPath enabled (path.append names) = isEnabledPath enabled ⟨[], [names.getLast some]⟩ := by
  have sameName : (path.append names).name = names.getLast some := by
    rw [Path.name, Path.append, List.getLastD_eq_getLast?, List.getLast?_append_of_ne_nil _ some,
      List.getLast?_eq_some_getLast some]
    rfl
  rw [isEnabledPath, isEnabledPath, Language.ofPath?, Language.ofPath?, Path.foldedSuffix, Path.foldedSuffix,
    Path.suffix, Path.suffix, sameName]
  rfl

theorem ignored_not_enabled (enabled : Language → Bool) (name : Text) (ignored : isIgnored name = true) :
    isEnabledPath enabled ⟨[], [name]⟩ = false := by
  have noLanguage : ∀ known ∈ ignoredNames, Language.ofPath? ⟨[], [known.toList]⟩ = none := by decide +kernel
  have listed : String.ofList name ∈ ignoredNames := by simpa [isIgnored] using ignored
  have unknown := noLanguage _ listed
  rw [String.toList_ofList] at unknown
  rw [isEnabledPath, unknown]

namespace FileEntry

def byName (entries : Entries) : Entries := entries.mergeSort fun a b => nameLe a.1 b.1

theorem mem_by_name (entries : Entries) (listing : Text × FileEntry) : listing ∈ byName entries ↔ listing ∈ entries :=
  List.mem_mergeSort

theorem listed_smaller (entries inner : Entries) (name : Text) (listed : (name, .directory inner) ∈ byName entries) :
    sizeOf inner < sizeOf entries := by
  have within := List.sizeOf_lt_of_mem ((mem_by_name entries _).mp listed)
  simp only [Prod.mk.sizeOf_spec, directory.sizeOf_spec] at within
  omega

-- The ways to the files that a walk keeps. It visits the entries of a directory by name, goes down into those
-- directories that are not ignored, and keeps the files in enabled languages.
def prunedWalk (enabled : Language → Bool) (entries : Entries) : List (List Text) :=
  (byName entries).attach.flatMap fun ⟨(name, entry), listed⟩ =>
    match entry, listed with
    | .file _, _ => if isEnabledPath enabled ⟨[], [name]⟩ then [[name]] else []
    | .directory inner, _ => if isIgnored name then [] else (prunedWalk enabled inner).map (name :: ·)
termination_by sizeOf entries
decreasing_by exact listed_smaller entries inner name (by assumption)

def visit (enabled : Language → Bool) (name : Text) : FileEntry → List (List Text)
  | .file _ => if isEnabledPath enabled ⟨[], [name]⟩ then [[name]] else []
  | .directory inner => if isIgnored name then [] else (prunedWalk enabled inner).map (name :: ·)

variable {enabled : Language → Bool} {entries : Entries}

theorem pruned_walk_visits :
    prunedWalk enabled entries = (byName entries).flatMap fun listing => visit enabled listing.1 listing.2 := by
  have each : prunedWalk enabled entries =
      (byName entries).attach.flatMap fun listing => visit enabled listing.val.1 listing.val.2 := by
    rw [prunedWalk]
    congr 1
    funext ⟨⟨name, entry⟩, listed⟩
    cases entry <;> rfl
  have values := List.flatMap_map Subtype.val (fun listing => visit enabled listing.1 listing.2) (byName entries).attach
  rw [each, ← values, List.attach_map_subtype_val]

theorem mem_visit (name other : Text) (rest : List Text) (entry : FileEntry) :
    other :: rest ∈ visit enabled name entry ↔ other = name ∧
      ((∃ content, entry = .file content ∧ rest = [] ∧ isEnabledPath enabled ⟨[], [name]⟩ = true) ∨
        ∃ inner, entry = .directory inner ∧ isIgnored name = false ∧ rest ∈ prunedWalk enabled inner) := by
  cases entry with
  | file content => by_cases isEnabled : isEnabledPath enabled ⟨[], [name]⟩ = true <;> simp [visit, isEnabled]
  | directory inner =>
      cases ignored : isIgnored name with
      | true => simp [visit, ignored]
      | false =>
          simp only [visit, ignored]
          constructor
          · intro member
            obtain ⟨_, deeper, same⟩ := List.mem_map.mp member
            cases same
            exact ⟨rfl, .inr ⟨inner, rfl, trivial, deeper⟩⟩
          · rintro ⟨rfl, ⟨content, ⟨⟩, -⟩ | ⟨_, ⟨⟩, -, deeper⟩⟩
            exact List.mem_map_of_mem deeper

theorem visit_nonempty (name : Text) (entry : FileEntry) : [] ∉ visit enabled name entry := by
  unfold visit
  split <;> split <;> simp

theorem mem_pruned_walk_cons (name : Text) (rest : List Text) :
    name :: rest ∈ prunedWalk enabled entries ↔ ∃ entry, (name, entry) ∈ entries ∧
      ((∃ content, entry = .file content ∧ rest = [] ∧ isEnabledPath enabled ⟨[], [name]⟩ = true) ∨
        ∃ inner, entry = .directory inner ∧ isIgnored name = false ∧ rest ∈ prunedWalk enabled inner) := by
  rw [pruned_walk_visits, List.mem_flatMap]
  constructor
  · rintro ⟨⟨other, entry⟩, listed, kept⟩
    obtain ⟨rfl, found⟩ := (mem_visit other name rest entry).mp kept
    exact ⟨entry, (mem_by_name entries _).mp listed, found⟩
  · rintro ⟨entry, listed, found⟩
    exact ⟨(name, entry), (mem_by_name entries _).mpr listed, (mem_visit name name rest entry).mpr ⟨rfl, found⟩⟩

theorem mem_pruned_walk (names : List Text) :
    names ∈ prunedWalk enabled entries ↔ ∃ content some, Reaches (.directory entries) names (.file content) ∧
      (∀ name ∈ names, isIgnored name = false) ∧ isEnabledPath enabled ⟨[], [names.getLast some]⟩ = true := by
  induction names generalizing entries with
  | nil => simp [pruned_walk_visits, visit_nonempty]
  | cons name rest ih =>
      rw [mem_pruned_walk_cons]
      constructor
      · rintro ⟨entry, listed, ⟨content, rfl, rfl, supported⟩ | ⟨inner, rfl, visible, deeper⟩⟩
        · refine ⟨content, List.cons_ne_nil _ _, .inside _ _ _ _ _ listed (.here _), ?_, supported⟩
          intro other member
          rw [List.mem_singleton.mp member]
          by_contra ignored
          rw [Bool.not_eq_false] at ignored
          simp [ignored_not_enabled enabled name ignored] at supported
        · obtain ⟨content, some, reaches, clean, supported⟩ := ih.mp deeper
          refine ⟨content, List.cons_ne_nil _ _, .inside _ _ _ _ _ listed reaches, ?_, ?_⟩
          · exact List.forall_mem_cons.mpr ⟨visible, clean⟩
          · rwa [List.getLast_cons some]
      · rintro ⟨content, _, reaches, clean, supported⟩
        obtain ⟨next, listed, further⟩ := (reaches_cons entries name rest _).mp reaches
        obtain ⟨visible, cleanRest⟩ := List.forall_mem_cons.mp clean
        refine ⟨next, listed, ?_⟩
        cases next with
        | file other =>
            cases further
            exact .inl ⟨content, rfl, rfl, supported⟩
        | directory inner =>
            have some : rest ≠ [] := by
              rintro rfl
              cases further
            rw [List.getLast_cons some] at supported
            exact .inr ⟨inner, rfl, visible, ih.mpr ⟨content, some, further, cleanRest, supported⟩⟩

theorem by_name_ascends (distinct : (entries.map Prod.fst).Nodup) :
    (byName entries).Pairwise fun a b => NameBefore a.1 b.1 :=
  sorted_strictly nameLe name_le_iff name_trans name_connected Prod.fst entries distinct

theorem visit_begins (name : Text) (entry : FileEntry) (names : List Text) (kept : names ∈ visit enabled name entry) :
    ∃ rest, names = name :: rest := by
  cases names with
  | nil => exact absurd kept (visit_nonempty name entry)
  | cons other rest =>
      obtain ⟨rfl, -⟩ := (mem_visit name other rest entry).mp kept
      exact ⟨rest, rfl⟩

theorem pruned_walk_ascends (entry : FileEntry) (sound : entry.Sound) :
    ∀ entries, entry = .directory entries → (prunedWalk enabled entries).Pairwise WayBefore := by
  induction sound with
  | file content storable => exact nofun
  | directory listed distinct named below ih =>
      rintro entries ⟨⟩
      rw [pruned_walk_visits, List.pairwise_flatMap]
      constructor
      · rintro ⟨name, entry⟩ member
        cases entry with
        | file content =>
            rw [visit]
            split
            · exact List.pairwise_singleton _ _
            · exact .nil
        | directory inner =>
            rw [visit]
            split
            · exact .nil
            · have deeper := ih (name, .directory inner) ((mem_by_name listed _).mp member) inner rfl
              exact List.pairwise_map.mpr (deeper.imp .cons)
      · refine (by_name_ascends distinct).imp ?_
        rintro ⟨first, entry⟩ ⟨second, other⟩ before front firstKept back secondKept
        obtain ⟨_, rfl⟩ := visit_begins first entry front firstKept
        obtain ⟨_, rfl⟩ := visit_begins second other back secondKept
        exact .rel before

end FileEntry

end SourceLocator
