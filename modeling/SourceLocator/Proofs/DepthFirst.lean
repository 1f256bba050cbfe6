import SourceLocator.Proofs.PrunedWalk

set_option autoImplicit false

namespace SourceLocator

namespace FileEntry

theorem descendants_begin (entries : Entries) (names : List Text) (entry : FileEntry)
    (member : (names, entry) ∈ descendantsOf entries) :
    ∃ name rest, names = name :: rest ∧ name ∈ entries.map Prod.fst := by
  obtain ⟨name, next, listed, ⟨rfl, -⟩ | ⟨rest, rfl, -⟩⟩ := (mem_descendants_of entries names entry).mp member
  · exact ⟨name, [], rfl, List.mem_map_of_mem listed⟩
  · exact ⟨name, rest, rfl, List.mem_map_of_mem listed⟩

theorem listing_distinct (entries : Entries) (distinct : (entries.map Prod.fst).Nodup)
    (each : ∀ entry ∈ entries, (entry.2.descendants.map Prod.fst).Nodup) :
    ((descendantsOf entries).map Prod.fst).Nodup := by
  induction entries with
  | nil => exact .nil
  | cons first rest ih =>
      obtain ⟨name, entry⟩ := first
      obtain ⟨fresh, distinctRest⟩ := List.nodup_cons.mp distinct
      obtain ⟨here, eachRest⟩ := List.forall_mem_cons.mp each
      have later := ih distinctRest eachRest
      have deeper : ((entry.descendants.map Prod.fst).map (name :: ·)).Nodup :=
        List.pairwise_map.mpr (here.imp fun different same => different (List.cons.inj same).2)
      have notDeeper : [name] ∉ (entry.descendants.map Prod.fst).map (name :: ·) := by
        intro member
        obtain ⟨_, listed, same⟩ := List.mem_map.mp member
        obtain ⟨⟨names, below⟩, descended, rfl⟩ := List.mem_map.mp listed
        exact ((mem_descendants entry names below).mp descended).1 (List.cons.inj same).2
      have notLater : ∀ back, name :: back ∉ (descendantsOf rest).map Prod.fst := by
        intro back member
        obtain ⟨⟨names, below⟩, descended, same⟩ := List.mem_map.mp member
        obtain ⟨other, further, begins, listed⟩ := descendants_begin rest names below descended
        cases begins.symm.trans same
        exact fresh listed
      have parts : ((descendantsOf ((name, entry) :: rest)).map Prod.fst) =
          [name] :: ((entry.descendants.map Prod.fst).map (name :: ·) ++ (descendantsOf rest).map Prod.fst) := by
        simp [descendantsOf, Function.comp_def]
      rw [parts, List.nodup_cons, List.mem_append, List.nodup_append]
      refine ⟨fun member => member.elim notDeeper (notLater []), deeper, later, ?_⟩
      rintro _ member other listed rfl
      obtain ⟨back, -, rfl⟩ := List.mem_map.mp member
      exact notLater back listed

theorem descendants_distinct (entry : FileEntry) (sound : entry.Sound) : (entry.descendants.map Prod.fst).Nodup := by
  induction sound with
  | file content storable => exact .nil
  | directory entries distinct named below ih => exact listing_distinct entries distinct ih

variable {enabled : Language → Bool} {entries : Entries}

theorem ordered_ascends (sound : (directory entries).Sound) :
    (ordered entries).Pairwise fun a b => WayBefore a.1 b.1 :=
  sorted_strictly wayLe way_le_iff way_trans way_connected Prod.fst _ (descendants_distinct _ sound)

theorem is_source_iff (path : Path) (names : List Text) (entry : FileEntry) (some : names ≠ []) :
    isSource enabled path names entry = true ↔ ∃ content, entry = .file content ∧
      (∀ name ∈ names, isIgnored name = false) ∧ isEnabledPath enabled ⟨[], [names.getLast some]⟩ = true := by
  rw [isSource, enabled_by_name enabled path names some]
  cases entry <;> simp [FileEntry.isFile]

theorem sources_pruned (sound : (directory entries).Sound) (path : Path) :
    ((ordered entries).filter fun (names, entry) => isSource enabled path names entry).map Prod.fst =
      prunedWalk enabled entries := by
  refine ascending_unique way_irrefl way_trans _ _ ?_ (pruned_walk_ascends _ sound entries rfl) ?_
  · exact List.pairwise_map.mpr ((ordered_ascends sound).filter _)
  · intro names
    rw [mem_pruned_walk, List.mem_map]
    constructor
    · rintro ⟨⟨_, entry⟩, member, rfl⟩
      obtain ⟨listed, isSource⟩ := List.mem_filter.mp member
      obtain ⟨some, reaches⟩ := (mem_ordered entries _ entry).mp listed
      obtain ⟨content, rfl, kept⟩ := (is_source_iff path _ entry some).mp isSource
      exact ⟨content, some, reaches, kept⟩
    · rintro ⟨content, some, reaches, kept⟩
      refine ⟨(names, .file content), List.mem_filter.mpr ⟨?_, ?_⟩, rfl⟩
      · exact (mem_ordered entries names _).mpr ⟨some, reaches⟩
      · exact (is_source_iff path names _ some).mpr ⟨content, rfl, kept⟩

inductive Relisted : FileEntry → FileEntry → Prop where
  | same (entry : FileEntry) : Relisted entry entry
  | shuffled (entries others : Entries) (order : entries.Perm others) :
      Relisted (.directory entries) (.directory others)
  | inside (before behind : Entries) (name : Text) (entry other : FileEntry) (below : Relisted entry other) :
      Relisted (.directory (before ++ (name, entry) :: behind)) (.directory (before ++ (name, other) :: behind))
  | chain (first second third : FileEntry) (here : Relisted first second) (further : Relisted second third) :
      Relisted first third

namespace Relisted

variable {tree other : FileEntry}

theorem symm (relisted : Relisted tree other) : Relisted other tree := by
  induction relisted with
  | same tree => exact .same tree
  | shuffled entries others order => exact .shuffled others entries order.symm
  | inside before behind name entry other below ih => exact .inside before behind name other entry ih
  | chain first second third here further first_ih second_ih => exact .chain third second first second_ih first_ih

theorem reaches (relisted : Relisted tree other) (names : List Text) (content : Bytes)
    (reached : Reaches tree names (.file content)) : Reaches other names (.file content) := by
  induction relisted generalizing names with
  | same tree => exact reached
  | shuffled entries others order =>
      cases reached with
      | inside _ name next rest _ member further =>
          exact .inside others name next rest _ (order.mem_iff.mp member) further
  | inside before behind name entry other below ih =>
      cases reached with
      | inside _ found next rest _ member further =>
          rcases List.mem_append.mp member with early | late
          · exact .inside _ found next rest _ (List.mem_append_left _ early) further
          · rcases List.mem_cons.mp late with here | behindIt
            · cases here
              exact .inside _ name other rest _ (List.mem_append_right _ List.mem_cons_self) (ih rest further)
            · exact .inside _ found next rest _ (List.mem_append_right _ (List.mem_cons_of_mem _ behindIt)) further
  | chain first second third here further first_ih second_ih => exact second_ih names (first_ih names reached)

end Relisted

theorem pruned_walk_relisted (others : Entries) (sound : (directory entries).Sound)
    (otherSound : (directory others).Sound) (relisted : Relisted (.directory entries) (.directory others)) :
    prunedWalk enabled others = prunedWalk enabled entries := by
  refine ascending_unique way_irrefl way_trans _ _ (pruned_walk_ascends _ otherSound others rfl)
    (pruned_walk_ascends _ sound entries rfl) fun names => ?_
  rw [mem_pruned_walk, mem_pruned_walk]
  constructor
  · rintro ⟨content, some, reaches, kept⟩
    exact ⟨content, some, relisted.symm.reaches names content reaches, kept⟩
  · rintro ⟨content, some, reaches, kept⟩
    exact ⟨content, some, relisted.reaches names content reaches, kept⟩

theorem pruned_walk_lone (name : Text) (entry : FileEntry) :
    prunedWalk enabled [(name, entry)] = visit enabled name entry := by
  rw [pruned_walk_visits, byName, List.mergeSort_singleton, List.flatMap_singleton]

end FileEntry

namespace FileTree

open FileEntry

variable {enabled : Language → Bool} {entries : Entries} (tree : FileTree) (limit : Nat) (path : Path)

theorem source_files_pruned (sound : (directory entries).Sound) (way : List Text)
    (led : tree.at? path = .ok ⟨way, .directory entries⟩) :
    tree.sourceFiles path enabled = (prunedWalk enabled entries).map path.append := by
  rw [sourceFiles, led, ← sources_pruned sound path, List.map_map]
  rfl

theorem walk_to_long (enabled : Language → Bool) (all : List (List Text × FileEntry))
    (long : ∃ names entry, (names, entry) ∈ all ∧ (path.append names).isTooLong tree.locale = true) :
    ∃ front rest, front <+: (all.filter fun (names, entry) => isSource enabled path names entry).map Prod.fst ∧
      (all.filterMap fun (names, entry) =>
        if (path.append names).isTooLong tree.locale then some (.error .nameTooLong)
        else if isSource enabled path names entry then some (.ok (path.append names))
        else none) = front.map (fun names => Except.ok (path.append names)) ++ .error Fault.nameTooLong :: rest := by
  induction all with
  | nil =>
      obtain ⟨_, _, member, -⟩ := long
      cases member
  | cons first others ih =>
      obtain ⟨names, entry⟩ := first
      by_cases here : (path.append names).isTooLong tree.locale = true
      · exact ⟨[], _, List.nil_prefix, by rw [List.filterMap_cons]; simp only [if_pos here]; rfl⟩
      · have later : ∃ names entry, (names, entry) ∈ others ∧ (path.append names).isTooLong tree.locale = true := by
          obtain ⟨further, below, member, tooLong⟩ := long
          rcases List.mem_cons.mp member with same | member
          · cases same
            exact absurd tooLong here
          · exact ⟨further, below, member, tooLong⟩
        obtain ⟨front, rest, beginning, walked⟩ := ih later
        by_cases source : isSource enabled path names entry = true
        · refine ⟨names :: front, rest, ?_, ?_⟩
          · simpa [List.filter_cons, source] using beginning
          · simpa [List.filterMap_cons, here, source] using walked
        · refine ⟨front, rest, ?_, ?_⟩
          · simpa [List.filter_cons, source] using beginning
          · simpa [List.filterMap_cons, here, source] using walked

theorem walkable_below (way : List Text) (led : tree.at? path = .ok ⟨way, .directory entries⟩)
    (fits : ∀ item ∈ descendantsOf entries, (path.append item.1).isTooLong tree.locale = false ∧
      (item.2.isFile = false → item.1.length ≤ limit)) : tree.Walkable limit path := by
  intro other others names entry there reaches
  cases led.symm.trans there
  by_cases top : names = []
  · rw [top, Path.append, List.append_nil]
    exact ⟨(tree.followed_of_at path _ led).short, fun _ => Nat.zero_le limit⟩
  · exact fits (names, entry) ((mem_descendants (.directory entries) names entry).mpr ⟨top, reaches⟩)

theorem unlisted_some (names : List Text) (entry : FileEntry) (fault : Fault)
    (fails : tree.unlisted? limit path names entry = some fault) : fault = .nameTooLong ∨ fault = .tooDeep := by
  cases entry with
  | file content => cases fails
  | directory entries =>
      rw [unlisted?] at fails
      split at fails
      · exact .inl (Option.some.inj fails).symm
      · split at fails
        · exact .inr (Option.some.inj fails).symm
        · cases fails

theorem listed_fits (names : List Text) (entry : FileEntry) (listed : tree.unlisted? limit path names entry = none)
    (short : (path.append names).isTooLong tree.locale = false) : entry.isFile = false → names.length ≤ limit := by
  cases entry with
  | file content => exact nofun
  | directory entries =>
      rw [unlisted?, short, if_neg Bool.false_ne_true] at listed
      intro _
      by_contra deep
      rw [if_pos (Nat.lt_of_not_le deep)] at listed
      cases listed

theorem walk_stops (sound : (directory entries).Sound) (way : List Text)
    (led : tree.at? path = .ok ⟨way, .directory entries⟩) (stuck : ¬ tree.Walkable limit path) :
    ∃ front fault rest, front <+: prunedWalk enabled entries ∧
      (fault = .nameTooLong ∨ fault = .tooDeep ∧ front = []) ∧
      tree.walk limit path enabled =
        front.map (fun names => .ok (path.append names)) ++ .error fault :: rest := by
  rw [walk, led, ← sources_pruned sound path]
  dsimp only
  rw [walkBelow]
  cases listing : (descendantsOf entries).findSome? fun item => tree.unlisted? limit path item.1 item.2 with
  | some fault =>
      obtain ⟨item, -, fails⟩ := List.exists_of_findSome?_eq_some listing
      refine ⟨[], fault, [], List.nil_prefix, ?_, rfl⟩
      exact (unlisted_some tree limit path item.1 item.2 fault fails).imp_right fun deep => ⟨deep, rfl⟩
  | none =>
      have long : ∃ names entry, (names, entry) ∈ ordered entries ∧
          (path.append names).isTooLong tree.locale = true := by
        by_contra none
        refine stuck (walkable_below tree limit path way led fun item member => ?_)
        have short : (path.append item.1).isTooLong tree.locale = false := by
          by_contra tooLong
          rw [Bool.not_eq_false] at tooLong
          exact none ⟨item.1, item.2, List.mem_mergeSort.mpr member, tooLong⟩
        have listed := List.findSome?_eq_none_iff.mp listing item member
        exact ⟨short, listed_fits tree limit path item.1 item.2 listed short⟩
      obtain ⟨front, rest, beginning, walked⟩ := walk_to_long tree path enabled (ordered entries) long
      exact ⟨front, .nameTooLong, rest, beginning, .inl rfl, walked⟩

theorem walk_of_walkable (sound : (directory entries).Sound) (way : List Text)
    (led : tree.at? path = .ok ⟨way, .directory entries⟩) (walkable : tree.Walkable limit path) :
    tree.walk limit path enabled = (prunedWalk enabled entries).map fun names => .ok (path.append names) := by
  rw [walk_whole walkable, source_files_pruned tree path sound way led, List.map_map]
  rfl

-- The walk over the sorted listing of all that is below a directory is the one that goes down name by name. It
-- ends early only at a path that is longer than the file system takes, or at a directory that is deeper than a
-- listing goes.
theorem walk_is_depth_first (sound : tree.Sound) (way : List Text) (entries : Entries)
    (led : tree.at? path = .ok ⟨way, .directory entries⟩) (enabled : Language → Bool) :
    let ways := prunedWalk enabled entries
    (tree.Walkable limit path → tree.walk limit path enabled = ways.map fun names => .ok (path.append names)) ∧
      (¬ tree.Walkable limit path → ∃ front fault rest, front <+: ways ∧
        (fault = .nameTooLong ∨ fault = .tooDeep ∧ front = []) ∧
        tree.walk limit path enabled =
          front.map (fun names => .ok (path.append names)) ++ .error fault :: rest) ∧
      (ways.map path.append).Nodup ∧
      (ways.map path.append).Pairwise (fun a b => WayBefore a.parts b.parts) ∧
      ∀ (other : FileTree) (otherPath : Path) (otherWay : List Text) (others : Entries), other.Sound →
        other.at? otherPath = .ok ⟨otherWay, .directory others⟩ →
        Relisted (.directory entries) (.directory others) → other.Walkable limit otherPath →
        other.walk limit otherPath enabled = ways.map fun names => .ok (otherPath.append names) := by
  intro ways
  have here := tree.led_sound path sound _ led
  have ascending : (ways.map path.append).Pairwise fun a b => WayBefore a.parts b.parts :=
    List.pairwise_map.mpr ((pruned_walk_ascends _ here entries rfl).imp fun before =>
      List.Lex.append_left _ before path.parts)
  refine ⟨walk_of_walkable tree limit path here way led, walk_stops tree limit path here way led, ?_, ascending, ?_⟩
  · refine ascending_distinct (fun file => way_irrefl file.parts) _ ascending
  · intro other otherPath otherWay others otherSound otherLed relisted walkable
    have there := other.led_sound otherPath otherSound _ otherLed
    rw [walk_of_walkable other limit otherPath there otherWay otherLed walkable,
      pruned_walk_relisted others here there relisted]

theorem vendored_sources_are_walked :
    let source := FileEntry.file []
    let entries : Entries :=
      [("a".toList, .directory [("x.py".toList, source)]), ("a.b".toList, .directory [("x.py".toList, source)]),
       ("out".toList, .directory [("y.py".toList, source)])]
    let tree : FileTree := ⟨.directory [("home".toList, .directory []), ("vendor".toList, .directory entries)],
      ["home".toList], .utf8⟩
    let path := Path.ofText "/vendor".toList
    tree.walk listingLimit path (fun _ => true) =
      [.ok (path.append ["a".toList, "x.py".toList]), .ok (path.append ["a.b".toList, "x.py".toList])] := by
  intro source entries tree path
  have led : tree.at? path = .ok ⟨["vendor".toList], .directory entries⟩ := rfl
  have each : ∀ entry ∈ entries, entry.2.Sound := by
    simp only [entries, List.forall_mem_cons]
    exact ⟨lone_file_sound _ _ (by decide +kernel) (by decide), lone_file_sound _ _ (by decide +kernel) (by decide),
      lone_file_sound _ _ (by decide +kernel) (by decide), nofun⟩
  have below : (directory entries).Sound := .directory entries (by decide +kernel) (by decide +kernel) each
  have sound : tree.Sound :=
    .directory _ (by decide +kernel) (by decide +kernel) (by simpa using ⟨empty_directory_sound, below⟩)
  have sorted : byName entries = entries := List.mergeSort_of_pairwise (by decide +kernel)
  have ways : prunedWalk (fun _ => true) entries = [["a".toList, "x.py".toList], ["a.b".toList, "x.py".toList]] := by
    have kept : isEnabledPath (fun _ => true) ⟨[], ["x.py".toList]⟩ = true := by decide +kernel
    have visible : isIgnored "a".toList = false ∧ isIgnored "a.b".toList = false := by decide +kernel
    have ignored : isIgnored "out".toList = true := by decide +kernel
    rw [pruned_walk_visits, sorted]
    simp only [entries, List.flatMap_cons, List.flatMap_nil, visit, visible, ignored, pruned_walk_lone, source, kept]
    rfl
  have walkable : tree.Walkable listingLimit path :=
    walkable_below tree listingLimit path _ led (by decide +kernel)
  have walked := (walk_is_depth_first tree listingLimit path sound _ entries led fun _ => true).1 walkable
  rw [ways] at walked
  exact walked

theorem follow_rounds (locale : Locale) (top inner : Entries) (name : Text) (notParent : name ≠ parentName)
    (listed : top.lookup name = some (.directory inner)) (rounds : Nat) (rest : List Text) :
    follow locale [] (.directory top) ((List.replicate rounds [name, parentName]).flatten ++ rest) =
      follow locale [] (.directory top) rest := by
  induction rounds with
  | zero => rfl
  | succ rounds ih =>
      rw [List.replicate_succ, List.flatten_cons, List.append_assoc, List.cons_append,
        follow_name [] top name _ notParent listed, List.cons_append, List.nil_append, follow_parent, ih]

theorem long_root_is_not_walked :
    let entries : Entries := [("abcdefgh.py".toList, .file [])]
    let tree := FileTree.ofEntries [("d".toList, .directory entries)]
    let path : Path := ⟨[], (List.replicate 818 ["d".toList, parentName]).flatten ++ ["d".toList]⟩
    tree.Sound ∧ tree.at? path = .ok ⟨["d".toList], .directory entries⟩ ∧
      prunedWalk (fun _ => true) entries = [["abcdefgh.py".toList]] ∧
      tree.walk listingLimit path (fun _ => true) = [.error .nameTooLong] := by
  intro entries tree path
  have below : (directory entries).Sound := lone_file_sound _ _ (by decide +kernel) (by decide)
  have sound : tree.Sound := .directory _ (by simp) (by decide +kernel) (List.forall_mem_singleton.mpr below)
  have kept : isEnabledPath (fun _ => true) ⟨[], ["abcdefgh.py".toList]⟩ = true := by decide +kernel
  have led : tree.at? path = .ok ⟨["d".toList], .directory entries⟩ := by
    have followed : Followed tree.locale path := ⟨by decide +kernel, by decide +kernel⟩
    rw [at_followed tree path followed]
    exact (follow_rounds tree.locale _ entries "d".toList (by decide) rfl 818 ["d".toList]).trans rfl
  refine ⟨sound, led, ?_, ?_⟩
  · rw [pruned_walk_lone, visit, if_pos kept]
  · have long : (path.append ["abcdefgh.py".toList]).isTooLong tree.locale = true := by decide +kernel
    have listed : ordered entries = [(["abcdefgh.py".toList], .file [])] := List.mergeSort_singleton _
    have listing : ((descendantsOf entries).findSome? fun item =>
        tree.unlisted? listingLimit path item.1 item.2) = none := rfl
    rw [walk, led]
    dsimp only
    rw [walkBelow, listing]
    dsimp only
    rw [listed, List.filterMap_cons, long]
    rfl

end FileTree

end SourceLocator
