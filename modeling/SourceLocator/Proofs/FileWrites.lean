import SourceLocator.Proofs.FileTrails

set_option autoImplicit false

namespace SourceLocator

theorem lookup_put_same (entries : Entries) (name : Text) (entry : FileEntry) :
    (Entries.put entries name entry).lookup name = some entry := by
  induction entries with
  | nil => simp [Entries.put]
  | cons first rest ih =>
      obtain ⟨other, old⟩ := first
      by_cases same : other = name
      · simp [Entries.put, same]
      · have later : (name == other) = false := by simpa using Ne.symm same
        rw [Entries.put, if_neg same, List.lookup_cons, later]
        exact ih

theorem lookup_put_other (entries : Entries) (name other : Text) (entry : FileEntry) (different : other ≠ name) :
    (Entries.put entries name entry).lookup other = entries.lookup other := by
  have notName : (other == name) = false := by simpa using different
  induction entries with
  | nil => simp [Entries.put, List.lookup_cons, notName]
  | cons first rest ih =>
      obtain ⟨known, old⟩ := first
      by_cases same : known = name
      · rw [Entries.put, if_pos same, List.lookup_cons, List.lookup_cons, same, notName]
      · rw [Entries.put, if_neg same, List.lookup_cons, List.lookup_cons, ih]

theorem put_names (entries : Entries) (name : Text) (entry : FileEntry) :
    (Entries.put entries name entry).map Prod.fst =
      if name ∈ entries.map Prod.fst then entries.map Prod.fst else entries.map Prod.fst ++ [name] := by
  induction entries with
  | nil => simp [Entries.put]
  | cons first rest ih =>
      obtain ⟨known, old⟩ := first
      by_cases same : known = name
      · simp [Entries.put, same]
      · rw [Entries.put, if_neg same, List.map_cons, ih, List.map_cons]
        by_cases later : name ∈ rest.map Prod.fst
        · rw [if_pos later, if_pos (List.mem_cons_of_mem _ later)]
        · have absent : name ∉ known :: rest.map Prod.fst := by
            rw [List.mem_cons, not_or]
            exact ⟨Ne.symm same, later⟩
          rw [if_neg later, if_neg absent, List.cons_append]

theorem put_distinct (entries : Entries) (name : Text) (entry : FileEntry)
    (distinct : (entries.map Prod.fst).Nodup) : ((Entries.put entries name entry).map Prod.fst).Nodup := by
  rw [put_names]
  split
  · exact distinct
  · rename_i absent
    rw [List.nodup_append]
    refine ⟨distinct, List.pairwise_singleton _ name, ?_⟩
    intro known listed other isName same
    exact absent (List.mem_singleton.mp isName ▸ same ▸ listed)

namespace FileEntry

inductive Rewritten (fresh : FileEntry) (target way : List Text) (here : FileEntry) : FileEntry → Prop where
  | onTheWay (rest : List Text) (leads : target = way ++ rest) :
      Rewritten fresh target way here (put fresh rest here)
  | aside (apart : ¬ way <+: target) : Rewritten fresh target way here here

def NoDirectoryAt (root : FileEntry) (target : List Text) : Prop :=
  ∀ passed entries, Trail root passed (.directory entries) → wayOf passed ≠ target

section Put

variable {locale : Locale} {root : FileEntry} {target : List Text} {fresh : FileEntry}

theorem rewritten_entry (entries : Entries) (way : List Text) (name : Text) (entry : FileEntry)
    (notHere : way ≠ target) (listed : entries.lookup name = some entry) (after : FileEntry)
    (rewritten : Rewritten fresh target way (.directory entries) after) :
    ∃ changed next, after = .directory changed ∧ changed.lookup name = some next ∧
      Rewritten fresh target (way ++ [name]) entry next := by
  cases rewritten with
  | aside apart =>
      refine ⟨entries, entry, rfl, listed, .aside ?_⟩
      exact fun leads => apart ((List.prefix_append way [name]).trans leads)
  | onTheWay rest leads =>
      cases rest with
      | nil => exact absurd (leads.trans (List.append_nil way)).symm notHere
      | cons toward rest =>
          by_cases same : name = toward
          · subst same
            refine ⟨_, put fresh rest entry, rfl, ?_, .onTheWay rest (by rw [leads, List.append_assoc]; rfl)⟩
            rw [lookup_put_same, listed, Option.getD_some]
          · refine ⟨_, entry, rfl, ?_, .aside ?_⟩
            · rw [lookup_put_other _ _ _ _ same, listed]
            · intro ⟨more, prefixed⟩
              rw [leads, List.append_assoc] at prefixed
              exact same (List.cons.inj (List.append_cancel_left prefixed)).1

theorem rewritten_directory (entries : Entries) (way : List Text) (notHere : way ≠ target) (after : FileEntry)
    (rewritten : Rewritten fresh target way (.directory entries) after) :
    ∃ changed, after = .directory changed := by
  cases rewritten with
  | aside apart => exact ⟨entries, rfl⟩
  | onTheWay rest leads =>
      cases rest with
      | nil => exact absurd (leads.trans (List.append_nil way)).symm notHere
      | cons toward rest => exact ⟨_, rfl⟩

theorem trail_put (vacant : NoDirectoryAt root target) (passed : List (Text × FileEntry)) (here : FileEntry)
    (trail : Trail root passed here) :
    ∃ others after, Trail (put fresh target root) others after ∧ wayOf others = wayOf passed ∧
      Rewritten fresh target (wayOf passed) here after := by
  induction trail with
  | top => exact ⟨[], _, .top, rfl, .onTheWay target rfl⟩
  | down passed entries name entry reached listed ih =>
      obtain ⟨others, directory, trail, sameWay, rewritten⟩ := ih
      obtain ⟨changed, next, rfl, found, nextRewritten⟩ :=
        rewritten_entry entries (wayOf passed) name entry (vacant _ _ reached) listed directory rewritten
      refine ⟨_, next, .down others changed name next trail found, ?_, ?_⟩
      · rw [way_of_cons, way_of_cons, sameWay]
      · rw [way_of_cons]
        exact nextRewritten

theorem twin_rewritten (vacant : NoDirectoryAt root target) (passed others : List (Text × FileEntry))
    (here after : FileEntry) (trail : Trail root passed here) (twin : Trail (put fresh target root) others after)
    (sameWay : wayOf others = wayOf passed) : Rewritten fresh target (wayOf passed) here after := by
  obtain ⟨_, _, reached, way, rewritten⟩ : ∃ others after, Trail (put fresh target root) others after ∧
      wayOf others = wayOf passed ∧ Rewritten fresh target (wayOf passed) here after :=
    trail_put vacant passed here trail
  obtain ⟨-, rfl⟩ := reached.deterministic others after twin (way.trans sameWay.symm)
  exact rewritten

theorem follow_put (vacant : NoDirectoryAt root target) (names : List Text) (place : Place)
    (passed others : List (Text × FileEntry)) (here after : FileEntry) (trail : Trail root passed here)
    (twin : Trail (put fresh target root) others after) (sameWay : wayOf others = wayOf passed)
    (led : follow locale passed here names = .ok place) :
    ∃ next, follow locale others after names = .ok ⟨place.way, next⟩ ∧
      Rewritten fresh target place.way place.entry next := by
  induction names generalizing passed others here after with
  | nil =>
      rw [follow] at led
      cases led
      refine ⟨after, ?_, twin_rewritten vacant passed others _ after trail twin sameWay⟩
      rw [follow]
      exact congrArg (fun names => Except.ok (Place.mk names after)) sameWay
  | cons name rest ih =>
      cases here with
      | file content => cases led
      | directory entries =>
          have rewritten := twin_rewritten vacant passed others _ after trail twin sameWay
          have notTarget := vacant passed entries trail
          by_cases up : name = parentName
          · subst up
            obtain ⟨changed, rfl⟩ := rewritten_directory entries (wayOf passed) notTarget after rewritten
            cases trail with
            | top =>
                cases others with
                | nil =>
                    rw [follow_top] at led ⊢
                    exact ih [] [] _ _ .top twin rfl led
                | cons last outer => simp [wayOf] at sameWay
            | down passed outer last _ reached listed =>
                rw [way_of_cons] at sameWay
                obtain ⟨others, _, rfl, otherReached, sameOuter, -⟩ := twin.last_step _ last sameWay
                rw [follow_parent] at led ⊢
                exact ih passed others _ _ reached otherReached sameOuter led
          · cases listed : entries.lookup name with
            | none =>
                rw [follow_absent passed entries name up listed] at led
                cases led
            | some below =>
                obtain ⟨changed, next, rfl, found, -⟩ :=
                  rewritten_entry entries (wayOf passed) name below notTarget listed after rewritten
                rw [follow_name passed entries name below up listed] at led
                rw [follow_name others changed name next up found]
                refine ih _ _ below next (.down passed entries name below trail listed)
                  (.down others changed name next twin found) ?_ led
                rw [way_of_cons, way_of_cons, sameWay]

end Put

theorem reaches_listed (entries : Entries) (distinct : (entries.map Prod.fst).Nodup) (name : Text)
    (rest : List Text) (entry : FileEntry) :
    Reaches (.directory entries) (name :: rest) entry ↔
      ∃ next, entries.lookup name = some next ∧ Reaches next rest entry := by
  rw [reaches_cons]
  constructor
  · rintro ⟨next, member, further⟩
    exact ⟨next, lookup_of_mem entries distinct name next member, further⟩
  · rintro ⟨next, listed, further⟩
    exact ⟨next, mem_of_lookup entries name next listed, further⟩

theorem empty_directory_reaches_no_file (names : List Text) (content : Bytes) :
    ¬ Reaches (.directory []) names (.file content) := by
  intro reaches
  cases reaches with
  | inside _ name next rest _ member _ => cases member

theorem other_files_kept (fresh : Bytes) (target names : List Text) (root : FileEntry) (content : Bytes)
    (sound : root.Sound) (different : names ≠ target)
    (vacant : ∀ more other, more ≠ [] → ¬ Reaches root (target ++ more) (.file other)) :
    Reaches (put (.file fresh) target root) names (.file content) ↔ Reaches root names (.file content) := by
  induction target generalizing names root with
  | nil =>
      constructor
      · intro reaches
        rw [put] at reaches
        cases reaches
        exact absurd rfl different
      · intro reaches
        exact absurd reaches (vacant names content different)
  | cons toward target ih =>
      cases sound with
      | file old storable => rw [put]
      | directory entries distinct named below =>
          rw [put]
          cases names with
          | nil => constructor <;> exact nofun
          | cons name rest =>
              rw [reaches_listed _ (put_distinct _ _ _ distinct), reaches_listed _ distinct]
              by_cases same : name = toward
              · subst same
                have apart : rest ≠ target := fun same => different (congrArg _ same)
                rw [lookup_put_same]
                simp only [Option.some.injEq, exists_eq_left']
                cases listed : entries.lookup name with
                | none =>
                    have kept := ih rest (.directory []) empty_directory_sound apart
                      fun more other _ => empty_directory_reaches_no_file (target ++ more) other
                    simpa [empty_directory_reaches_no_file] using kept
                | some next =>
                    have member := mem_of_lookup entries name next listed
                    simp only [Option.getD_some, Option.some.injEq, exists_eq_left']
                    refine ih rest next (below _ member) apart ?_
                    intro more other deeper reaches
                    exact vacant more other deeper (.inside entries name next _ _ member reaches)
              · rw [lookup_put_other _ _ _ _ same]

end FileEntry

namespace FileTree

open FileEntry

def isDirectory (tree : FileTree) (path : Path) : Bool :=
  match tree.at? path with
  | .ok place => !place.entry.isFile
  | .error _ => false

structure Writable (tree : FileTree) (path : Path) : Prop where
  notDirectory : tree.isDirectory path = false
  inDirectory : tree.isDirectory path.parent = true
  noZero : '\x00' ∉ path.name
  shortName : isLongName tree.locale path.name = false
  short : path.isTooLong tree.locale = false

section Write

variable {tree : FileTree} {path : Path}

theorem directory_at (directory : tree.isDirectory path = true) :
    ∃ way entries, tree.at? path = .ok ⟨way, .directory entries⟩ := by
  unfold isDirectory at directory
  split at directory
  · rename_i place led
    obtain ⟨way, entry⟩ := place
    cases entry with
    | file content => cases directory
    | directory entries => exact ⟨way, entries, led⟩
  · cases directory

theorem not_directory_at (notDirectory : tree.isDirectory path = false) (way : List Text) (entries : Entries) :
    tree.at? path ≠ .ok ⟨way, .directory entries⟩ := by
  intro led
  rw [isDirectory, led] at notDirectory
  cases notDirectory

theorem writable_parts (writable : Writable tree path) : path.parts = path.parent.parts ++ [path.name] := by
  rcases List.eq_nil_or_concat path.parts with none | ⟨before, last, split⟩
  · have same : path.parent = path := by
      rw [Path.parent, none]
      exact congrArg (Path.mk path.root) none.symm
    have directory := writable.inDirectory
    rw [same, writable.notDirectory] at directory
    cases directory
  · simp [Path.parent, Path.name, split]

theorem writable_names (writable : Writable tree path) : tree.names path = tree.names path.parent ++ [path.name] := by
  rw [← names_append, Path.append, ← writable_parts writable]
  rfl

theorem writable_followed (writable : Writable tree path) : Followed tree.locale path := by
  obtain ⟨way, entries, led⟩ := directory_at writable.inDirectory
  have parentFollowed := followed_of_at tree path.parent _ led
  refine ⟨?_, writable.short⟩
  intro name listed
  rw [writable_parts writable] at listed
  rcases List.mem_append.mp listed with outer | last
  · exact parentFollowed.noZero name outer
  · rw [List.mem_singleton.mp last]
    exact writable.noZero

theorem parent_of_parent (locale : Locale) (root : FileEntry) (passed : List (Text × FileEntry)) (entries : Entries)
    (trail : Trail root passed (.directory entries)) :
    ∃ way above, follow locale passed (.directory entries) [parentName] = .ok ⟨way, .directory above⟩ := by
  cases trail with
  | top => exact ⟨_, entries, by rw [follow_top, follow]⟩
  | down outer above last _ reached listed => exact ⟨_, above, by rw [follow_parent, follow]⟩

theorem write_inside (writable : Writable tree path) (way : List Text) (entries : Entries)
    (parent : tree.at? path.parent = .ok ⟨way, .directory entries⟩) (content : Bytes) :
    path.name ≠ parentName ∧ (∀ entry, entries.lookup path.name = some entry → ∃ old, entry = .file old) ∧
      tree.write path content = .ok (tree.putFile (way ++ [path.name]) content) := by
  obtain ⟨passed, trail, sameWay, goesOn⟩ := at_trail tree path.parent _ parent
  have led : tree.at? path = follow tree.locale passed (.directory entries) [path.name] := by
    rw [at_followed tree path (writable_followed writable), writable_names writable, goesOn]
  have notInside := not_directory_at writable.notDirectory
  have named : path.name ≠ parentName := by
    intro up
    obtain ⟨outer, more, inside⟩ := parent_of_parent tree.locale tree.root passed entries trail
    rw [up] at led
    exact notInside outer more (led.trans inside)
  cases listed : entries.lookup path.name with
  | none =>
      have missing : tree.at? path = .error .missing := by
        rw [led, follow_absent passed entries path.name named listed, absence, writable.shortName]
        rfl
      refine ⟨named, nofun, ?_⟩
      simp only [write, missing, parent]
      rfl
  | some entry =>
      rw [follow_name passed entries path.name entry named listed, follow] at led
      cases entry with
      | directory below => exact absurd led (notInside _ below)
      | file old =>
          refine ⟨named, fun _ same => ⟨old, (Option.some.inj same).symm⟩, ?_⟩
          have here : way ++ [path.name] = wayOf ((path.name, .directory entries) :: passed) := by
            rw [way_of_cons, ← sameWay]
          rw [write, led, here]
          rfl

theorem writable_vacant (writable : Writable tree path) (way : List Text) (entries : Entries)
    (parent : tree.at? path.parent = .ok ⟨way, .directory entries⟩) :
    NoDirectoryAt tree.root (way ++ [path.name]) := by
  obtain ⟨-, files, -⟩ := write_inside writable way entries parent []
  obtain ⟨passed, trail, sameWay, -⟩ := at_trail tree path.parent _ parent
  intro others below twin same
  obtain ⟨outer, otherEntries, rfl, outerTrail, outerWay, listed⟩ := twin.last_step way path.name same
  obtain ⟨-, sameDirectory⟩ := outerTrail.deterministic passed _ trail (outerWay.trans sameWay)
  cases sameDirectory
  obtain ⟨old, impossible⟩ := files _ listed
  cases impossible

theorem written_place (writable : Writable tree path) (way : List Text) (entries : Entries)
    (parent : tree.at? path.parent = .ok ⟨way, .directory entries⟩) (content : Bytes) :
    (tree.putFile (way ++ [path.name]) content).at? path = .ok ⟨way ++ [path.name], .file content⟩ := by
  obtain ⟨named, -, -⟩ := write_inside writable way entries parent []
  have vacant := writable_vacant writable way entries parent
  have parentLed := parent
  rw [at_followed tree path.parent (followed_of_at tree path.parent _ parent)] at parentLed
  obtain ⟨next, led, rewritten⟩ : ∃ next,
      follow tree.locale [] (put (.file content) (way ++ [path.name]) tree.root) (tree.names path.parent) =
          .ok ⟨way, next⟩ ∧
        Rewritten (.file content) (way ++ [path.name]) way (.directory entries) next :=
    follow_put vacant _ _ [] [] _ _ .top .top rfl parentLed
  obtain ⟨further, -, furtherWay, goesOn⟩ := follow_trail _ [] _ _ _ .top led
  have followed : Followed tree.locale path := writable_followed writable
  have spelled : (tree.putFile (way ++ [path.name]) content).at? path =
      follow tree.locale [] (put (.file content) (way ++ [path.name]) tree.root) (tree.names path) :=
    at_followed (tree.putFile (way ++ [path.name]) content) path followed
  rw [spelled, writable_names writable, goesOn]
  cases rewritten with
  | aside apart => exact absurd (List.prefix_append way [path.name]) apart
  | onTheWay rest leads =>
      obtain rfl := List.append_cancel_left leads
      have changed : put (.file content) [path.name] (.directory entries) =
          .directory (entries.put path.name (.file content)) := by
        rw [put, put]
      have here : way ++ [path.name] = wayOf ((path.name, .directory (entries.put path.name (.file content))) :: further) := by
        rw [way_of_cons, ← furtherWay]
      rw [changed, follow_name further _ path.name _ named (lookup_put_same _ _ _), follow, here]
      rfl

theorem written_files (writable : Writable tree path) (sound : tree.Sound) (way : List Text) (entries : Entries)
    (parent : tree.at? path.parent = .ok ⟨way, .directory entries⟩) (fresh content : Bytes) (names : List Text)
    (different : names ≠ way ++ [path.name]) :
    (names, content) ∈ (tree.putFile (way ++ [path.name]) fresh).files ↔ (names, content) ∈ tree.files := by
  rw [mem_files, mem_files]
  refine and_congr_right fun _ => other_files_kept fresh _ names tree.root content sound different ?_
  intro more other deeper reaches
  obtain ⟨middle, first, second⟩ := reaches_split tree.root _ more _ reaches
  cases second with
  | here => exact deeper rfl
  | inside below name next rest _ member further =>
      obtain ⟨passed, trail, same, -⟩ := reaches_follow tree.locale tree.root [] tree.root _ _ sound .top first
      exact writable_vacant writable way entries parent passed below trail same

end Write

end FileTree

end SourceLocator
