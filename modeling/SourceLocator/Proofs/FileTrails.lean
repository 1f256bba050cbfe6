import SourceLocator.Files.FileTree

set_option autoImplicit false

namespace SourceLocator

structure IsName (name : Text) : Prop where
  nonempty : name ≠ []
  notHere : name ≠ ['.']
  notParent : name ≠ FileEntry.parentName
  noSlash : '/' ∉ name
  noZero : '\x00' ∉ name

instance (name : Text) : Decidable (IsName name) :=
  decidable_of_iff (name ≠ [] ∧ name ≠ ['.'] ∧ name ≠ FileEntry.parentName ∧ '/' ∉ name ∧ '\x00' ∉ name)
    ⟨fun ⟨a, b, c, d, e⟩ => ⟨a, b, c, d, e⟩, fun ⟨a, b, c, d, e⟩ => ⟨a, b, c, d, e⟩⟩

namespace FileEntry

def sizeLimit : Nat := Nat.pow 2 63

inductive Sound : FileEntry → Prop where
  | file (content : Bytes) (storable : content.length < sizeLimit) : Sound (.file content)
  | directory (entries : Entries) (distinct : (entries.map Prod.fst).Nodup)
      (named : ∀ entry ∈ entries, IsName entry.1) (below : ∀ entry ∈ entries, Sound entry.2) :
      Sound (.directory entries)

theorem empty_directory_sound : Sound (.directory []) :=
  .directory [] List.nodup_nil (by simp) (by simp)

theorem lone_file_sound (name : Text) (content : Bytes) (named : IsName name) (storable : content.length < sizeLimit) :
    Sound (.directory [(name, .file content)]) := by
  refine .directory _ (by simp) ?_ ?_
  · intro entry member
    rwa [List.mem_singleton.mp member]
  · intro entry member
    rw [List.mem_singleton.mp member]
    exact .file content storable

inductive Trail (root : FileEntry) : List (Text × FileEntry) → FileEntry → Prop where
  | top : Trail root [] root
  | down (passed : List (Text × FileEntry)) (entries : Entries) (name : Text) (entry : FileEntry)
      (reached : Trail root passed (.directory entries)) (listed : entries.lookup name = some entry) :
      Trail root ((name, .directory entries) :: passed) entry

def wayOf (passed : List (Text × FileEntry)) : List Text := (passed.map Prod.fst).reverse

theorem way_of_cons (name : Text) (directory : FileEntry) (passed : List (Text × FileEntry)) :
    wayOf ((name, directory) :: passed) = wayOf passed ++ [name] := by
  rw [wayOf, List.map_cons, List.reverse_cons, wayOf]

theorem mem_of_lookup (entries : Entries) (name : Text) (entry : FileEntry)
    (listed : entries.lookup name = some entry) : (name, entry) ∈ entries := by
  obtain ⟨before, after, rfl, -⟩ := List.lookup_eq_some_iff.mp listed
  exact List.mem_append_right _ List.mem_cons_self

theorem lookup_of_mem (entries : Entries) (distinct : (entries.map Prod.fst).Nodup) (name : Text)
    (entry : FileEntry) (member : (name, entry) ∈ entries) : entries.lookup name = some entry := by
  obtain ⟨before, after, rfl⟩ := List.append_of_mem member
  rw [List.map_append, List.map_cons, List.nodup_append] at distinct
  refine List.lookup_eq_some_iff.mpr ⟨before, after, rfl, ?_⟩
  intro other earlier
  have different := distinct.2.2 other.1 (List.mem_map_of_mem earlier) name List.mem_cons_self
  simpa using Ne.symm different

namespace Trail

variable {root : FileEntry} {passed : List (Text × FileEntry)} {here : FileEntry}

theorem sound (trail : Trail root passed here) (rootSound : root.Sound) : here.Sound := by
  induction trail with
  | top => exact rootSound
  | down passed entries name entry reached listed ih =>
      cases ih with
      | directory _ _ _ below => exact below _ (mem_of_lookup entries name entry listed)

theorem last_step (trail : Trail root passed here) (way : List Text) (name : Text)
    (named : wayOf passed = way ++ [name]) :
    ∃ outer entries, passed = (name, .directory entries) :: outer ∧ Trail root outer (.directory entries) ∧
      wayOf outer = way ∧ entries.lookup name = some here := by
  cases trail with
  | top => simp [wayOf] at named
  | down outer entries last _ reached listed =>
      rw [way_of_cons] at named
      obtain ⟨sameWay, sameName⟩ := List.append_inj' named rfl
      cases sameName
      exact ⟨outer, entries, rfl, reached, sameWay, listed⟩

theorem deterministic (trail : Trail root passed here) (others : List (Text × FileEntry)) (there : FileEntry)
    (other : Trail root others there) (same : wayOf passed = wayOf others) : passed = others ∧ here = there := by
  induction trail generalizing others there with
  | top =>
      cases other with
      | top => exact ⟨rfl, rfl⟩
      | down => simp [wayOf] at same
  | down passed entries name entry reached listed ih =>
      rw [way_of_cons] at same
      obtain ⟨outer, otherEntries, rfl, otherReached, sameWay, otherListed⟩ := other.last_step _ name same.symm
      obtain ⟨rfl, sameDirectory⟩ := ih outer _ otherReached sameWay.symm
      cases sameDirectory
      exact ⟨rfl, Option.some.inj (listed.symm.trans otherListed)⟩

end Trail

section Following

variable {locale : Locale}

theorem follow_name (passed : List (Text × FileEntry)) (entries : Entries) (name : Text) (entry : FileEntry)
    (notParent : name ≠ parentName) (listed : entries.lookup name = some entry) (rest : List Text) :
    follow locale passed (.directory entries) (name :: rest) =
      follow locale ((name, .directory entries) :: passed) entry rest := by
  simp only [follow, if_neg notParent, listed]

theorem follow_absent (passed : List (Text × FileEntry)) (entries : Entries) (name : Text)
    (notParent : name ≠ parentName) (absent : entries.lookup name = none) (rest : List Text) :
    follow locale passed (.directory entries) (name :: rest) = .error (absence locale name) := by
  simp only [follow, if_neg notParent, absent]

theorem follow_parent (name : Text) (parent : FileEntry) (passed : List (Text × FileEntry)) (entries : Entries)
    (rest : List Text) :
    follow locale ((name, parent) :: passed) (.directory entries) (parentName :: rest) =
      follow locale passed parent rest := by
  rw [follow, if_pos rfl]

theorem follow_top (entries : Entries) (rest : List Text) :
    follow locale [] (.directory entries) (parentName :: rest) = follow locale [] (.directory entries) rest := by
  rw [follow, if_pos rfl]

theorem follow_trail (root : FileEntry) (passed : List (Text × FileEntry)) (here : FileEntry) (names : List Text)
    (place : Place) (trail : Trail root passed here) (led : follow locale passed here names = .ok place) :
    ∃ further, Trail root further place.entry ∧ place.way = wayOf further ∧
      ∀ more, follow locale passed here (names ++ more) = follow locale further place.entry more := by
  induction names generalizing passed here with
  | nil =>
      rw [follow] at led
      cases led
      exact ⟨passed, trail, rfl, fun _ => rfl⟩
  | cons name rest ih =>
      cases here with
      | file content => cases led
      | directory entries =>
          by_cases up : name = parentName
          · subst up
            cases trail with
            | top =>
                rw [follow_top] at led
                obtain ⟨further, reached, same, goesOn⟩ := ih [] _ .top led
                refine ⟨further, reached, same, fun more => ?_⟩
                rw [List.cons_append, follow_top, goesOn more]
            | down passed outer last _ reached listed =>
                rw [follow_parent] at led
                obtain ⟨further, reached, same, goesOn⟩ := ih passed (.directory outer) reached led
                refine ⟨further, reached, same, fun more => ?_⟩
                rw [List.cons_append, follow_parent, goesOn more]
          · cases listed : entries.lookup name with
            | none =>
                rw [follow_absent passed entries name up listed] at led
                cases led
            | some next =>
                rw [follow_name passed entries name next up listed] at led
                obtain ⟨further, reached, same, goesOn⟩ := ih _ next (.down passed entries name next trail listed) led
                refine ⟨further, reached, same, fun more => ?_⟩
                rw [List.cons_append, follow_name passed entries name next up listed, goesOn more]

end Following

inductive Reaches : FileEntry → List Text → FileEntry → Prop where
  | here (entry : FileEntry) : Reaches entry [] entry
  | inside (entries : Entries) (name : Text) (next : FileEntry) (rest : List Text) (entry : FileEntry)
      (member : (name, next) ∈ entries) (further : Reaches next rest entry) :
      Reaches (.directory entries) (name :: rest) entry

theorem reaches_cons (entries : Entries) (name : Text) (rest : List Text) (entry : FileEntry) :
    Reaches (.directory entries) (name :: rest) entry ↔
      ∃ next, (name, next) ∈ entries ∧ Reaches next rest entry := by
  constructor
  · intro reaches
    cases reaches with
    | inside _ _ next _ _ member further => exact ⟨next, member, further⟩
  · rintro ⟨next, member, further⟩
    exact .inside entries name next rest entry member further

theorem reaches_split (tree : FileEntry) (front back : List Text) (entry : FileEntry)
    (reaches : Reaches tree (front ++ back) entry) :
    ∃ middle, Reaches tree front middle ∧ Reaches middle back entry := by
  induction front generalizing tree with
  | nil => exact ⟨tree, .here tree, reaches⟩
  | cons name front ih =>
      cases reaches with
      | inside entries _ next _ _ member further =>
          obtain ⟨middle, first, second⟩ := ih next further
          exact ⟨middle, .inside entries name next front middle member first, second⟩

theorem mem_descendants_of (entries : Entries) (names : List Text) (entry : FileEntry) :
    (names, entry) ∈ descendantsOf entries ↔
      ∃ name next, (name, next) ∈ entries ∧
        (names = [name] ∧ entry = next ∨ ∃ rest, names = name :: rest ∧ (rest, entry) ∈ next.descendants) := by
  induction entries with
  | nil => simp [descendantsOf]
  | cons first others ih =>
      obtain ⟨known, old⟩ := first
      simp only [descendantsOf, List.mem_cons, List.mem_append, List.mem_map, Prod.mk.injEq, Prod.exists, ih]
      constructor
      · rintro ((⟨rfl, rfl⟩ | ⟨rest, below, member, rfl, rfl⟩) | ⟨name, next, member, found⟩)
        · exact ⟨known, entry, .inl ⟨rfl, rfl⟩, .inl ⟨rfl, rfl⟩⟩
        · exact ⟨known, old, .inl ⟨rfl, rfl⟩, .inr ⟨rest, rfl, member⟩⟩
        · exact ⟨name, next, .inr member, found⟩
      · rintro ⟨name, next, ⟨rfl, rfl⟩ | member, found⟩
        · rcases found with ⟨rfl, rfl⟩ | ⟨rest, rfl, member⟩
          · exact .inl (.inl ⟨rfl, rfl⟩)
          · exact .inl (.inr ⟨rest, entry, member, rfl, rfl⟩)
        · exact .inr ⟨name, next, member, found⟩

theorem mem_descendants (tree : FileEntry) (names : List Text) (entry : FileEntry) :
    (names, entry) ∈ tree.descendants ↔ names ≠ [] ∧ Reaches tree names entry := by
  induction names generalizing tree with
  | nil =>
      cases tree with
      | file content => simp [descendants]
      | directory entries => simp [descendants, mem_descendants_of]
  | cons name rest ih =>
      cases tree with
      | file content =>
          simp only [descendants, List.not_mem_nil, false_iff]
          rintro ⟨-, reaches⟩
          cases reaches
      | directory entries =>
          have below : ∀ next : FileEntry, (rest = [] ∧ entry = next ∨ (rest, entry) ∈ next.descendants) ↔
              Reaches next rest entry := by
            intro next
            rw [ih next]
            constructor
            · rintro (⟨rfl, rfl⟩ | ⟨-, further⟩)
              · exact .here entry
              · exact further
            · intro further
              cases further with
              | here => exact .inl ⟨rfl, rfl⟩
              | inside entries name next rest entry member further =>
                  exact .inr ⟨List.cons_ne_nil _ _, .inside entries name next rest entry member further⟩
          rw [descendants, mem_descendants_of, reaches_cons]
          simp only [← below, List.cons.injEq]
          constructor
          · rintro ⟨_, next, member, ⟨⟨rfl, rfl⟩, rfl⟩ | ⟨_, ⟨rfl, rfl⟩, deeper⟩⟩
            · exact ⟨List.cons_ne_nil _ _, entry, member, .inl ⟨rfl, rfl⟩⟩
            · exact ⟨List.cons_ne_nil _ _, next, member, .inr deeper⟩
          · rintro ⟨-, next, member, ⟨rfl, rfl⟩ | deeper⟩
            · exact ⟨name, entry, member, .inl ⟨⟨rfl, rfl⟩, rfl⟩⟩
            · exact ⟨name, next, member, .inr ⟨rest, ⟨rfl, rfl⟩, deeper⟩⟩

theorem reaches_follow (locale : Locale) (root : FileEntry) (passed : List (Text × FileEntry)) (here : FileEntry)
    (names : List Text) (entry : FileEntry) (sound : here.Sound) (trail : Trail root passed here)
    (reaches : Reaches here names entry) :
    ∃ further, Trail root further entry ∧ wayOf further = wayOf passed ++ names ∧
      follow locale passed here names = .ok ⟨wayOf passed ++ names, entry⟩ := by
  induction reaches generalizing passed with
  | here entry => exact ⟨passed, trail, (List.append_nil _).symm, by rw [follow, List.append_nil, wayOf]⟩
  | inside entries name next rest entry member further ih =>
      cases sound with
      | directory _ distinct named below =>
          have listed := lookup_of_mem entries distinct name next member
          obtain ⟨deeper, reached, way, led⟩ := ih _ (below _ member) (.down passed entries name next trail listed)
          rw [way_of_cons, List.append_assoc, List.singleton_append] at way led
          refine ⟨deeper, reached, way, ?_⟩
          rw [follow_name passed entries name next (named _ member).notParent listed, led]

end FileEntry

namespace FileTree

open FileEntry

def Sound (tree : FileTree) : Prop := tree.root.Sound

structure Followed (locale : Locale) (path : Path) : Prop where
  noZero : ∀ name ∈ path.parts, '\x00' ∉ name
  short : path.isTooLong locale = false

variable (tree : FileTree) (path : Path)

theorem names_append (more : List Text) : tree.names (path.append more) = tree.names path ++ more := by
  rw [names, names, Path.append]
  split
  · rw [List.append_assoc]
  · rfl

theorem at_followed (followed : Followed tree.locale path) :
    tree.at? path = follow tree.locale [] tree.root (tree.names path) := by
  have noZero : path.parts.any (·.contains '\x00') = false := by
    simpa using followed.noZero
  rw [at?, noZero, followed.short]
  rfl

theorem followed_of_at (place : Place) (led : tree.at? path = .ok place) : Followed tree.locale path := by
  unfold at? at led
  split at led
  · cases led
  · rename_i noZero
    split at led
    · cases led
    · rename_i short
      exact ⟨by simpa using noZero, by simpa using short⟩

theorem at_trail (place : Place) (led : tree.at? path = .ok place) :
    ∃ passed, Trail tree.root passed place.entry ∧ place.way = wayOf passed ∧
      ∀ more, follow tree.locale [] tree.root (tree.names path ++ more) =
        follow tree.locale passed place.entry more := by
  rw [at_followed tree path (followed_of_at tree path _ led)] at led
  exact follow_trail tree.root [] tree.root (tree.names path) place .top led

theorem led_sound (sound : tree.Sound) (place : Place) (led : tree.at? path = .ok place) : place.entry.Sound := by
  obtain ⟨_, trail, -⟩ := tree.at_trail path place led
  exact trail.sound sound

theorem mem_files (names : List Text) (content : Bytes) :
    (names, content) ∈ tree.files ↔ names ≠ [] ∧ Reaches tree.root names (.file content) := by
  rw [← mem_descendants, files, List.mem_filterMap]
  constructor
  · rintro ⟨⟨_, entry⟩, member, found⟩
    cases entry with
    | directory entries => cases found
    | file other =>
        cases found
        exact member
  · intro member
    exact ⟨_, member, rfl⟩

end FileTree

end SourceLocator
