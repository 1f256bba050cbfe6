import Mathlib.Data.List.Basic
import SourceLocator.Files.SourceFiles
import SourceLocator.Proofs.FileTrails

set_option autoImplicit false

namespace SourceLocator

namespace FileEntry

mutual
def emptied (hidden : List Text → Bool) : FileEntry → FileEntry
  | .file content => .file (if hidden [] then [] else content)
  | .directory entries => .directory (emptiedEntries hidden entries)
termination_by structural entry => entry
def emptiedEntries (hidden : List Text → Bool) : List (Text × FileEntry) → List (Text × FileEntry)
  | [] => []
  | (name, entry) :: rest => (name, entry.emptied fun way => hidden (name :: way)) :: emptiedEntries hidden rest
termination_by structural entries => entries
end

def under (hidden : List Text → Bool) (way more : List Text) : Bool := hidden (way ++ more)

def emptiedAt (hidden : List Text → Bool) (way : List Text) (entry : FileEntry) : FileEntry :=
  entry.emptied (under hidden way)

def emptiedPlace (hidden : List Text → Bool) (place : Place) : Place :=
  ⟨place.way, emptiedAt hidden place.way place.entry⟩

def emptiedStack (hidden : List Text → Bool) : List (Text × FileEntry) → List (Text × FileEntry)
  | [] => []
  | (name, holder) :: outer => (name, emptiedAt hidden (wayOf outer) holder) :: emptiedStack hidden outer

def emptiedItem (hidden : List Text → Bool) (item : List Text × FileEntry) : List Text × FileEntry :=
  (item.1, emptiedAt hidden item.1 item.2)

mutual
theorem descendants_emptied (hidden : List Text → Bool) (entry : FileEntry) :
    (entry.emptied hidden).descendants = entry.descendants.map (emptiedItem hidden) := by
  match entry with
  | .file content => rfl
  | .directory entries => exact descendants_of_emptied hidden entries
termination_by structural entry
theorem descendants_of_emptied (hidden : List Text → Bool) (entries : Entries) :
    descendantsOf (emptiedEntries hidden entries) = (descendantsOf entries).map (emptiedItem hidden) := by
  match entries with
  | [] => rfl
  | (name, entry) :: rest =>
      rw [emptiedEntries, descendantsOf, descendantsOf, descendants_emptied _ entry, descendants_of_emptied hidden rest,
        List.map_append, List.map_cons, List.map_map, List.map_map]
      rfl
termination_by structural entries
end

variable (hidden : List Text → Bool)

theorem emptied_at_file (way : List Text) (content : Bytes) :
    emptiedAt hidden way (.file content) = .file (if hidden way then [] else content) := by
  rw [emptiedAt, emptied, under, List.append_nil]

theorem emptied_at_directory (way : List Text) (entries : Entries) :
    emptiedAt hidden way (.directory entries) =
      .directory (emptiedEntries (under hidden way) entries) := rfl

theorem emptied_is_file (way : List Text) (entry : FileEntry) :
    (emptiedAt hidden way entry).isFile = entry.isFile := by
  cases entry <;> rfl

theorem way_of_emptied (passed : List (Text × FileEntry)) : wayOf (emptiedStack hidden passed) = wayOf passed := by
  induction passed with
  | nil => rfl
  | cons last outer ih =>
      obtain ⟨name, holder⟩ := last
      rw [emptiedStack, way_of_cons, way_of_cons, ih]

theorem lookup_emptied (way : List Text) (entries : Entries) (name : Text) :
    (emptiedEntries (under hidden way) entries).lookup name =
      (entries.lookup name).map (emptiedAt hidden (way ++ [name])) := by
  induction entries with
  | nil => rfl
  | cons first rest ih =>
      obtain ⟨known, entry⟩ := first
      rw [emptiedEntries, List.lookup_cons, List.lookup_cons]
      cases same : name == known with
      | false => exact ih
      | true =>
          obtain rfl := eq_of_beq same
          have deeper : under hidden (way ++ [name]) = fun more => under hidden way (name :: more) := by
            funext more
            rw [under, List.append_assoc, List.singleton_append, under]
          rw [Option.map_some, emptiedAt, deeper]

theorem follow_emptied (locale : Locale) (passed : List (Text × FileEntry)) (here : FileEntry) (names : List Text) :
    follow locale (emptiedStack hidden passed) (emptiedAt hidden (wayOf passed) here) names =
      (follow locale passed here names).map (emptiedPlace hidden) := by
  induction names generalizing passed here with
  | nil =>
      rw [follow, follow]
      change Except.ok (Place.mk (wayOf (emptiedStack hidden passed)) _) = _
      rw [way_of_emptied]
      rfl
  | cons name rest ih =>
      cases here with
      | file content => rfl
      | directory entries =>
          rw [emptied_at_directory]
          by_cases up : name = parentName
          · subst up
            cases passed with
            | nil =>
                rw [emptiedStack, follow_top, follow_top]
                exact ih [] (.directory entries)
            | cons last outer =>
                rw [emptiedStack, follow_parent, follow_parent]
                exact ih outer last.2
          · have found := lookup_emptied hidden (wayOf passed) entries name
            cases listed : entries.lookup name with
            | none =>
                rw [listed] at found
                rw [follow_absent _ _ name up found, follow_absent _ _ name up listed]
                rfl
            | some entry =>
                rw [listed] at found
                rw [follow_name _ _ name _ up found, follow_name _ _ name entry up listed, ← ih, way_of_cons]
                rfl

theorem ordered_emptied (entries : Entries) :
    ordered (emptiedEntries hidden entries) = (ordered entries).map (emptiedItem hidden) := by
  have sorted := List.map_mergeSort (r := fun a b => wayLe a.1 b.1) (s := fun a b => wayLe a.1 b.1)
    (f := emptiedItem hidden) (l := descendantsOf entries) fun _ _ _ _ => rfl
  rw [ordered, descendants_of_emptied]
  exact sorted.symm

theorem is_source_emptied (enabled : Language → Bool) (path : Path) (names way : List Text) (entry : FileEntry) :
    isSource enabled path names (emptiedAt hidden way entry) = isSource enabled path names entry := by
  rw [isSource, isSource, emptied_is_file]

end FileEntry

namespace FileTree

open FileEntry

def emptied (hidden : List Text → Bool) (tree : FileTree) : FileTree := { tree with root := tree.root.emptied hidden }

def Unhidden (hidden : List Text → Bool) (tree : FileTree) (path : Path) : Prop :=
  ∀ way content, tree.at? path = .ok ⟨way, .file content⟩ → hidden way = false

section Emptied

variable (hidden : List Text → Bool)

theorem at_emptied (tree : FileTree) (path : Path) :
    (tree.emptied hidden).at? path = (tree.at? path).map (emptiedPlace hidden) := by
  have followed : follow tree.locale [] (tree.root.emptied hidden) (tree.names path) =
      (follow tree.locale [] tree.root (tree.names path)).map (emptiedPlace hidden) :=
    follow_emptied hidden tree.locale [] tree.root (tree.names path)
  have sameLocale : (tree.emptied hidden).locale = tree.locale := rfl
  rw [at?, at?, sameLocale]
  split
  · rfl
  · split
    · rfl
    · exact followed

theorem check_length_emptied (tree : FileTree) (path : Path) :
    (tree.emptied hidden).checkLength path = tree.checkLength path := by
  rw [checkLength, checkLength, at_emptied]
  cases tree.at? path with
  | ok place => rfl
  | error fault => cases fault <;> rfl

theorem contains_emptied (tree : FileTree) (path : Path) :
    (tree.emptied hidden).contains path = tree.contains path := by
  rw [contains, contains, at_emptied]
  cases tree.at? path <;> rfl

theorem is_file_emptied (tree : FileTree) (path : Path) : (tree.emptied hidden).isFile path = tree.isFile path := by
  rw [isFile, isFile, at_emptied]
  cases tree.at? path with
  | error fault => rfl
  | ok place => exact emptied_is_file hidden place.way place.entry

theorem read_emptied (tree : FileTree) (path : Path) (seen : Unhidden hidden tree path) :
    (tree.emptied hidden).read path = tree.read path := by
  rw [read, read, at_emptied]
  cases led : tree.at? path with
  | error fault => rfl
  | ok place =>
      obtain ⟨way, entry⟩ := place
      cases entry with
      | directory entries => rfl
      | file content =>
          have kept : emptiedPlace hidden ⟨way, .file content⟩ = ⟨way, .file content⟩ := by
            rw [emptiedPlace, emptied_at_file, seen way content led]
            rfl
          rw [Except.map, kept]

theorem write_emptied (tree : FileTree) (path : Path) (content : Bytes) :
    ((tree.emptied hidden).write path content).map (fun _ => ()) = (tree.write path content).map fun _ => () := by
  rw [write, write, at_emptied, at_emptied]
  cases tree.at? path with
  | ok place =>
      obtain ⟨way, entry⟩ := place
      cases entry <;> rfl
  | error fault =>
      -- Only the directory is left to say how it ends, unless the path is none at all.
      cases tree.at? path.parent with
      | error _ => cases fault <;> rfl
      | ok place =>
          obtain ⟨way, entry⟩ := place
          cases entry <;> cases fault <;> rfl

theorem source_files_emptied (tree : FileTree) (path : Path) (enabled : Language → Bool) :
    (tree.emptied hidden).sourceFiles path enabled = tree.sourceFiles path enabled := by
  rw [sourceFiles, sourceFiles, at_emptied]
  cases tree.at? path with
  | error fault => rfl
  | ok place =>
      obtain ⟨way, entry⟩ := place
      cases entry with
      | file content => rfl
      | directory entries =>
          change ((ordered (emptiedEntries _ entries)).filter _).map _ = ((ordered entries).filter _).map _
          rw [ordered_emptied, List.filter_map, List.map_map]
          refine congrArg (List.map _) (List.filter_congr fun item _ => ?_)
          exact is_source_emptied (under hidden way) enabled path item.1 item.1 item.2

theorem unlisted_emptied (below : List Text → Bool) (tree : FileTree) (limit : Nat) (path : Path)
    (item : List Text × FileEntry) :
    (tree.emptied hidden).unlisted? limit path item.1 (emptiedItem below item).2 =
      tree.unlisted? limit path item.1 item.2 := by
  obtain ⟨names, entry⟩ := item
  cases entry <;> rfl

theorem walk_below_emptied (below : List Text → Bool) (tree : FileTree) (limit : Nat) (path : Path)
    (enabled : Language → Bool) (entries : Entries) :
    (tree.emptied hidden).walkBelow limit path enabled (emptiedEntries below entries) =
      tree.walkBelow limit path enabled entries := by
  have listing : ((descendantsOf (emptiedEntries below entries)).findSome? fun item =>
      (tree.emptied hidden).unlisted? limit path item.1 item.2) =
        (descendantsOf entries).findSome? fun item => tree.unlisted? limit path item.1 item.2 := by
    rw [descendants_of_emptied, List.findSome?_map]
    exact congrArg (fun test => List.findSome? test _) (funext (unlisted_emptied hidden below tree limit path))
  rw [walkBelow, walkBelow, listing]
  split
  · rfl
  · rw [ordered_emptied, List.filterMap_map]
    refine List.filterMap_congr fun item _ => ?_
    change (if _ then _ else if isSource _ _ _ (emptiedAt _ _ _) then _ else _) = _
    rw [is_source_emptied]
    rfl

theorem walk_emptied (tree : FileTree) (limit : Nat) (path : Path) (enabled : Language → Bool) :
    (tree.emptied hidden).walk limit path enabled = tree.walk limit path enabled := by
  have files := source_files_emptied hidden tree path enabled
  rw [walk, walk, at_emptied, files]
  cases tree.at? path with
  | error fault => rfl
  | ok place =>
      obtain ⟨way, entry⟩ := place
      cases entry with
      | file content => rfl
      | directory entries => exact walk_below_emptied hidden (under hidden way) tree limit path enabled entries

end Emptied

def SameBut (hidden : List Text → Bool) (tree other : FileTree) : Prop := tree.emptied hidden = other.emptied hidden

namespace SameBut

variable {hidden : List Text → Bool} {tree other : FileTree}

theorem symm (same : SameBut hidden tree other) : SameBut hidden other tree := Eq.symm same

theorem locale (same : SameBut hidden tree other) : tree.locale = other.locale := by
  change (tree.emptied hidden).locale = (other.emptied hidden).locale
  rw [same]

theorem check_length (same : SameBut hidden tree other) (path : Path) :
    tree.checkLength path = other.checkLength path := by
  rw [← check_length_emptied hidden tree, same, check_length_emptied]

theorem contains (same : SameBut hidden tree other) (path : Path) : tree.contains path = other.contains path := by
  rw [← contains_emptied hidden tree, same, contains_emptied]

theorem is_file (same : SameBut hidden tree other) (path : Path) : tree.isFile path = other.isFile path := by
  rw [← is_file_emptied hidden tree, same, is_file_emptied]

theorem walk (same : SameBut hidden tree other) (limit : Nat) (path : Path) (enabled : Language → Bool) :
    tree.walk limit path enabled = other.walk limit path enabled := by
  rw [← walk_emptied hidden tree, same, walk_emptied]

theorem write_ends (same : SameBut hidden tree other) (path : Path) (content : Bytes) :
    (∃ fault, tree.write path content = .error fault ∧ other.write path content = .error fault) ∨
      ∃ after changed, tree.write path content = .ok after ∧ other.write path content = .ok changed := by
  have ends : (tree.write path content).map (fun _ => ()) = (other.write path content).map fun _ => () := by
    rw [← write_emptied hidden tree, same, write_emptied]
  cases written : tree.write path content with
  | error fault =>
      cases rewritten : other.write path content with
      | error otherFault =>
          rw [written, rewritten] at ends
          cases ends
          exact .inl ⟨fault, rfl, rfl⟩
      | ok changed =>
          rw [written, rewritten] at ends
          cases ends
  | ok after =>
      cases rewritten : other.write path content with
      | error fault =>
          rw [written, rewritten] at ends
          cases ends
      | ok changed => exact .inr ⟨after, changed, rfl, rfl⟩

theorem file_at (same : SameBut hidden tree other) (path : Path) (way : List Text) (content : Bytes)
    (led : tree.at? path = .ok ⟨way, .file content⟩) :
    ∃ held, other.at? path = .ok ⟨way, .file held⟩ ∧ (hidden way = false → held = content) := by
  have places : (other.at? path).map (emptiedPlace hidden) = (tree.at? path).map (emptiedPlace hidden) := by
    rw [← at_emptied, ← at_emptied, same]
  rw [led] at places
  cases found : other.at? path with
  | error fault =>
      rw [found] at places
      cases places
  | ok place =>
      rw [found] at places
      obtain ⟨there, entry⟩ := place
      have place_same : emptiedPlace hidden ⟨there, entry⟩ = emptiedPlace hidden ⟨way, .file content⟩ :=
        Except.ok.inj places
      obtain ⟨rfl, entry_same⟩ := Place.mk.inj place_same
      cases entry with
      | directory entries => cases entry_same
      | file held =>
          refine ⟨held, rfl, fun unhidden => ?_⟩
          rw [emptied_at_file, emptied_at_file, unhidden] at entry_same
          exact FileEntry.file.inj entry_same

theorem unhidden (same : SameBut hidden tree other) (path : Path) (seen : Unhidden hidden tree path) :
    Unhidden hidden other path := by
  intro way content led
  obtain ⟨held, there, -⟩ := same.symm.file_at path way content led
  exact seen way held there

theorem read (same : SameBut hidden tree other) (path : Path) (seen : Unhidden hidden tree path) :
    tree.read path = other.read path := by
  rw [← read_emptied hidden tree path seen, same, read_emptied hidden other path (same.unhidden path seen)]

end SameBut

end FileTree

end SourceLocator
