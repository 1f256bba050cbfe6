import SourceLocator.Proofs.Locating
import SourceLocator.Proofs.PathText
import SourceLocator.Proofs.StoredPositions

set_option autoImplicit false

namespace SourceLocator

namespace FileEntry

theorem reaches_sound (here : FileEntry) (names : List Text) (entry : FileEntry) (sound : here.Sound)
    (reaches : Reaches here names entry) : ∀ name ∈ names, IsName name := by
  induction reaches with
  | here entry => exact fun name member => nomatch member
  | inside entries name next rest entry member further ih =>
      cases sound with
      | directory _ _ named below =>
          intro other listed
          rcases List.mem_cons.mp listed with rfl | later
          · exact named _ member
          · exact ih (below _ member) other later

theorem mem_ordered (entries : Entries) (names : List Text) (entry : FileEntry) :
    (names, entry) ∈ ordered entries ↔ names ≠ [] ∧ Reaches (.directory entries) names entry := by
  rw [ordered, List.mem_mergeSort, ← mem_descendants, descendants]

end FileEntry

namespace FileTree

open FileEntry

def Walkable (tree : FileTree) (limit : Nat) (path : Path) : Prop :=
  ∀ way entries names entry, tree.at? path = .ok ⟨way, .directory entries⟩ →
    Reaches (.directory entries) names entry →
    (path.append names).isTooLong tree.locale = false ∧ (entry.isFile = false → names.length ≤ limit)

variable {tree : FileTree} {limit : Nat} {path : Path}

theorem unlisted_none (names : List Text) (entry : FileEntry) (short : (path.append names).isTooLong tree.locale = false)
    (shallow : entry.isFile = false → names.length ≤ limit) : tree.unlisted? limit path names entry = none := by
  cases entry with
  | file content => rfl
  | directory entries => rw [unlisted?, short, if_neg Bool.false_ne_true, if_neg (Nat.not_lt.mpr (shallow rfl))]

theorem walk_whole (walkable : tree.Walkable limit path) (enabled : Language → Bool) :
    tree.walk limit path enabled = (tree.sourceFiles path enabled).map .ok := by
  unfold walk
  split
  · rename_i way entries led
    have fits : ∀ names entry, (names, entry) ∈ ordered entries →
        (path.append names).isTooLong tree.locale = false ∧ (entry.isFile = false → names.length ≤ limit) :=
      fun names entry listed => walkable way entries names entry led ((mem_ordered entries names entry).mp listed).2
    have listed : ((descendantsOf entries).findSome? fun item => tree.unlisted? limit path item.1 item.2) = none := by
      rw [List.findSome?_eq_none_iff]
      intro item member
      obtain ⟨short, shallow⟩ := fits item.1 item.2 (List.mem_mergeSort.mpr member)
      exact unlisted_none item.1 item.2 short shallow
    rw [sourceFiles, led, walkBelow, listed]
    dsimp only
    generalize ordered entries = all at fits
    induction all with
    | nil => rfl
    | cons first rest ih =>
        obtain ⟨names, entry⟩ := first
        have later := ih fun names entry member => fits names entry (List.mem_cons_of_mem _ member)
        rw [List.filterMap_cons, List.filter_cons, (fits names entry List.mem_cons_self).1, later]
        dsimp only
        cases isSource enabled path names entry <;> rfl
  · rfl

structure IsSourceFile (tree : FileTree) (enabled : Language → Bool) (file : Path) : Prop where
  stored : ∃ content, tree.read file = .ok content
  enabled : isEnabledPath enabled file = true
  printed : Path.ofText file.text = file

theorem directory_source (sound : tree.Sound) (way : List Text) (entries : Entries) (names : List Text)
    (content : Bytes) (led : tree.at? path = .ok ⟨way, .directory entries⟩)
    (reaches : Reaches (.directory entries) names (.file content))
    (short : (path.append names).isTooLong tree.locale = false) :
    tree.read (path.append names) = .ok content := by
  obtain ⟨passed, trail, -, goesOn⟩ := tree.at_trail path _ led
  have below := tree.led_sound path sound _ led
  have parent := tree.followed_of_at path _ led
  have followed : Followed tree.locale (path.append names) := by
    refine ⟨?_, short⟩
    intro name member
    rcases List.mem_append.mp member with outer | inner
    · exact parent.noZero name outer
    · exact (reaches_sound _ names _ below reaches name inner).noZero
  obtain ⟨_, -, -, deeper⟩ := reaches_follow tree.locale tree.root passed _ names _ below trail reaches
  rw [read, tree.at_followed (path.append names) followed, names_append, goesOn, deeper]

theorem source_file_listed (sound : tree.Sound) (text : Text) (walkable : tree.Walkable limit (Path.ofText text))
    (enabled : Language → Bool) (file : Path) (listed : file ∈ tree.sourceFiles (Path.ofText text) enabled) :
    tree.IsSourceFile enabled file := by
  unfold sourceFiles at listed
  split at listed
  · rename_i way content led
    split at listed
    · rename_i isEnabled
      rw [List.mem_singleton.mp listed]
      refine ⟨⟨content, by rw [read, led]⟩, isEnabled, ?_⟩
      exact Path.of_text_text _ (Path.root_is_root text) (Path.of_text_segments text)
    · cases listed
  · rename_i way entries led
    obtain ⟨⟨names, entry⟩, member, rfl⟩ := List.mem_map.mp listed
    obtain ⟨ordered, isSource⟩ := List.mem_filter.mp member
    obtain ⟨-, reaches⟩ := (mem_ordered entries names entry).mp ordered
    dsimp only [FileEntry.isSource] at isSource
    rw [Bool.and_eq_true, Bool.and_eq_true] at isSource
    cases entry with
    | directory below => cases isSource.1.1
    | file content =>
        have stored := directory_source sound way entries names content led reaches
          (walkable way entries names _ led reaches).1
        refine ⟨⟨content, stored⟩, isSource.2, ?_⟩
        apply Path.of_text_text _ (Path.root_is_root text)
        intro part member
        rcases List.mem_append.mp member with outer | inner
        · exact Path.of_text_segments text part outer
        · exact (reaches_sound _ names _ (tree.led_sound _ sound _ led) reaches part inner).segment
  · cases listed

theorem language_of_name (language : Language) : Language.ofName? language.name.toList = some language := by
  cases language <;> decide

theorem source_file_parsed (enabled : Language → Bool) (file : Path) (source : tree.IsSourceFile enabled file)
    (parser : Parser) (installed : parser.installed = true) :
    ∃ parsed, tree.parse parser file.text none = .ok (some parsed) := by
  obtain ⟨content, stored⟩ := source.stored
  have supported := source.enabled
  unfold isEnabledPath at supported
  cases known : Language.ofPath? file with
  | none =>
      rw [known] at supported
      cases supported
  | some language =>
      refine ⟨⟨.ofPath (Utf8.decode content) file.text, language, content, parser.parse language.grammar content⟩, ?_⟩
      unfold parse
      rw [source.printed, known]
      change (tree.read file >>= _) = _
      rw [stored]
      change ParsedFile.parse parser _ content language.name.toList = _
      rw [ParsedFile.parse, if_pos installed, language_of_name]

end FileTree

end SourceLocator
