import SourceLocator.Proofs.Outcomes
import SourceLocator.Proofs.ParentChains

set_option autoImplicit false

namespace SourceLocator

def Assignment.EffectAbove (before after : Location) : Assignment → Prop
  | .start _ | .stop _ | .file _ => after = before
  | .name _ | .parent _ => after = { before with displayText := after.displayText }

def Assignment.EffectHere (before after : Location) : Assignment → Prop
  | .name _ | .parent _ => after = { before with displayText := after.displayText }
  | .stop _ =>
    after = { before with extent := ⟨before.extent.start, after.extent.stop⟩, displayText := after.displayText }
  | .start _ => after = { before with
      position := after.position, extent := ⟨after.extent.start, before.extent.stop⟩
      displayText := after.displayText }
  | .file _ => after.extent = before.extent

def Span.course (span : Span) : Option NameSearch × Option SpanId := (span.answer?, span.parent)

namespace SpanGraph

theorem search_within_agrees (graph other : SpanGraph) (id : SpanId)
    (agrees : ∀ above, graph.OnWay id above → other[above]?.map Span.course = graph[above]?.map Span.course)
    (reads : Nat) : other.searchWithin reads (some id) = graph.searchWithin reads (some id) := by
  induction reads generalizing id with
  | zero => rfl
  | succ reads ih =>
      have here := agrees id (.here id)
      cases present : graph[id]? with
      | none =>
          rw [present, Option.map_none, Option.map_eq_none_iff] at here
          rw [searchWithin, searchWithin, present, here]
      | some span =>
          rw [present] at here
          obtain ⟨twin, twinPresent, same⟩ := Option.map_eq_some_iff.mp here
          obtain ⟨sameAnswer, sameParent⟩ := Prod.mk.inj same
          rw [search_within_step graph reads id span present, search_within_step other reads id twin twinPresent,
            sameAnswer, sameParent]
          cases answer : span.answer? with
          | some search => rfl
          | none =>
              dsimp only
              cases next : span.parent with
              | none => cases reads <;> rfl
              | some parent =>
                  apply ih
                  intro above onWay
                  exact agrees above (.above id parent above span present (span.silent_iff.mpr answer) next onWay)

theorem search_name_agrees (graph : SpanGraph) (id changed : SpanId) (assignment : Assignment)
    (agrees : ∀ above, graph.OnWay id above →
      (graph.assign changed assignment)[above]?.map Span.course = graph[above]?.map Span.course) :
    (graph.assign changed assignment).searchName id = graph.searchName id := by
  rw [searchName, searchName, search_within_agrees graph _ id agrees, assign, List.length_modify]

theorem search_off_way (graph : SpanGraph) (id changed : SpanId) (assignment : Assignment)
    (off : ¬ graph.OnWay id changed) : (graph.assign changed assignment).searchName id = graph.searchName id := by
  apply search_name_agrees
  intro above onWay
  have different : above ≠ changed := fun same => off (same ▸ onWay)
  rw [assigned_elsewhere graph changed above assignment different]

theorem search_kept (graph : SpanGraph) (id changed : SpanId) (assignment : Assignment)
    (keeps : ∀ span : Span, (span.assign assignment).course = span.course) :
    (graph.assign changed assignment).searchName id = graph.searchName id := by
  apply search_name_agrees
  intro above _
  by_cases same : above = changed
  · subst same
    rw [assigned_here, Option.map_map]
    exact congrArg (Option.map · graph[above]?) (funext keeps)
  · rw [assigned_elsewhere graph changed above assignment same]

theorem subject_kept (graph other : SpanGraph) (id : SpanId) (span : Span)
    (same : other.searchName id = graph.searchName id) : other.subject id span = graph.subject id span := by
  rw [subject, subject, same]

end SpanGraph

theorem lookups_same_start (file : SourceFile) (bound : DigitBound) (extent other : Extent)
    (start : extent.start = other.start) (lookup twin : Lookup) (log logTwin : Log)
    (looked : file.lookup bound extent = .ok (lookup, log)) (again : file.lookup bound other = .ok (twin, logTwin)) :
    lookup.position = twin.position := by
  unfold SourceFile.lookup at looked again
  rw [start] at looked
  cases found : file.place other.start bound with
  | ok place =>
      rw [found] at looked again
      cases looked
      cases again
      rfl
  | error fault =>
      rw [found] at looked again
      split at looked
      · contradiction
      · rename_i outside
        cases outside
        cases looked
        cases again
        rfl
      · cases looked

namespace Subject

variable {subject other : Subject} {bound : DigitBound} {offset : Int} {before after : Location} {log logAfter : Log}

theorem resolve_parts (resolved : subject.resolve bound offset = .ok (before, log)) :
    ∃ file lookup logged, subject.file = .ok file ∧
      file.lookup bound (subject.extent.shift offset) = .ok (lookup, logged) ∧
      before.position = lookup.position ∧ before.extent = subject.extent.shift offset ∧
      before.file = file.reportedName := by
  obtain ⟨⟨lookup, logged⟩, looked, resolved⟩ := bind_ok _ _ _ resolved
  obtain ⟨shown, -, resolved⟩ := bind_ok _ _ _ resolved
  obtain ⟨name, reported, resolved⟩ := bind_ok _ _ _ resolved
  obtain ⟨file, read, looked⟩ := bind_ok _ _ _ looked
  obtain ⟨fileAgain, readAgain, named⟩ := bind_ok _ _ _ reported
  cases read.symm.trans readAgain
  cases named
  cases resolved
  exact ⟨file, lookup, logged, read, looked, rfl, rfl, rfl⟩

theorem resolves_extent (resolved : subject.resolve bound offset = .ok (before, log)) :
    before.extent = subject.extent.shift offset := by
  obtain ⟨-, -, -, -, -, -, extent, -⟩ := resolve_parts resolved
  exact extent

theorem resolves_same_file (resolved : subject.resolve bound offset = .ok (before, log))
    (resolvedAfter : other.resolve bound offset = .ok (after, logAfter)) (file : other.file = subject.file) :
    after.file = before.file := by
  obtain ⟨source, -, -, read, -, -, -, name⟩ := resolve_parts resolved
  obtain ⟨twin, -, -, readTwin, -, -, -, nameTwin⟩ := resolve_parts resolvedAfter
  cases read.symm.trans (file.symm.trans readTwin)
  exact nameTwin.trans name.symm

theorem resolves_same_start (resolved : subject.resolve bound offset = .ok (before, log))
    (resolvedAfter : other.resolve bound offset = .ok (after, logAfter)) (file : other.file = subject.file)
    (start : other.extent.start = subject.extent.start) : after.position = before.position := by
  obtain ⟨source, lookup, logged, read, looked, position, -, -⟩ := resolve_parts resolved
  obtain ⟨twin, lookupTwin, loggedTwin, readTwin, lookedTwin, positionTwin, -, -⟩ := resolve_parts resolvedAfter
  cases read.symm.trans (file.symm.trans readTwin)
  have shifted : (other.extent.shift offset).start = (subject.extent.shift offset).start := congrArg (· + offset) start
  have same := lookups_same_start source bound _ _ shifted lookupTwin lookup loggedTwin logged lookedTwin looked
  exact positionTwin.trans (same.trans position.symm)

theorem resolves_same_extent (resolved : subject.resolve bound offset = .ok (before, log))
    (resolvedAfter : other.resolve bound offset = .ok (after, logAfter)) (file : other.file = subject.file)
    (extent : other.extent = subject.extent) : after = { before with displayText := after.displayText } := by
  have sameFile := resolves_same_file resolved resolvedAfter file
  have position := resolves_same_start resolved resolvedAfter file (congrArg Extent.start extent)
  have sameExtent : after.extent = before.extent := by
    rw [resolves_extent resolved, resolves_extent resolvedAfter, extent]
  rw [← position, ← sameExtent, ← sameFile]

end Subject

namespace SpanGraph

variable {graph : SpanGraph} {id changed : SpanId} {assignment : Assignment} {span : Span} {bound : DigitBound}
  {offset : Int} {before after : Location} {log logAfter : Log}

theorem elsewhere_effect (resolved : (graph.subject id span).resolve bound offset = .ok (before, log))
    (resolvedAfter : ((graph.assign changed assignment).subject id span).resolve bound offset = .ok (after, logAfter)) :
    assignment.EffectAbove before after := by
  have kept : (∀ span : Span, (span.assign assignment).course = span.course) → after = before := by
    intro keeps
    rw [graph.subject_kept _ id span (graph.search_kept id changed assignment keeps), resolved] at resolvedAfter
    cases resolvedAfter
    rfl
  cases assignment with
  | start start => exact kept fun _ => rfl
  | stop stop => exact kept fun _ => rfl
  | file file => exact kept fun _ => rfl
  | name name => exact Subject.resolves_same_extent resolved resolvedAfter rfl rfl
  | parent parent => exact Subject.resolves_same_extent resolved resolvedAfter rfl rfl

theorem here_effect (resolved : (graph.subject id span).resolve bound offset = .ok (before, log))
    (resolvedAfter : ((graph.assign id assignment).subject id (span.assign assignment)).resolve bound offset =
      .ok (after, logAfter)) : assignment.EffectHere before after := by
  have extent := Subject.resolves_extent resolved
  have extentAfter := Subject.resolves_extent resolvedAfter
  cases assignment with
  | name name => exact Subject.resolves_same_extent resolved resolvedAfter rfl rfl
  | parent parent => exact Subject.resolves_same_extent resolved resolvedAfter rfl rfl
  | stop stop =>
      have position := Subject.resolves_same_start resolved resolvedAfter rfl rfl
      have file := Subject.resolves_same_file resolved resolvedAfter rfl
      have start : after.extent.start = before.extent.start := by
        rw [extent, extentAfter]
        rfl
      rw [Assignment.EffectHere, ← position, ← start, ← file]
  | start start =>
      have file := Subject.resolves_same_file resolved resolvedAfter rfl
      have stop : after.extent.stop = before.extent.stop := by
        rw [extent, extentAfter]
        rfl
      rw [Assignment.EffectHere, ← stop, ← file]
  | file file => exact extentAfter.trans extent.symm

end SpanGraph

-- Assigning to a span changes in the location of another one what is displayed, if anything, and only if the search
-- comes to that span.
theorem assignment_effects (graph : SpanGraph) (id changed : SpanId) (assignment : Assignment) (span spanAfter : Span)
    (bound : DigitBound) (offset : Int) (before after : Location) (log logAfter : Log)
    (present : graph[id]? = some span) (presentAfter : (graph.assign changed assignment)[id]? = some spanAfter)
    (resolved : (graph.subject id span).resolve bound offset = .ok (before, log))
    (resolvedAfter : ((graph.assign changed assignment).subject id spanAfter).resolve bound offset =
      .ok (after, logAfter)) :
    (¬ graph.OnWay id changed → after = before) ∧
      (changed ≠ id → assignment.EffectAbove before after) ∧ (changed = id → assignment.EffectHere before after) := by
  have unread : changed ≠ id → spanAfter = span := by
    intro different
    rw [SpanGraph.assigned_elsewhere graph changed id assignment (Ne.symm different), present] at presentAfter
    exact (Option.some.inj presentAfter).symm
  refine ⟨?_, ?_, ?_⟩
  · intro off
    have different : changed ≠ id := fun same => off (same ▸ .here changed)
    rw [unread different, graph.subject_kept _ id span (graph.search_off_way id changed assignment off),
      resolved] at resolvedAfter
    cases resolvedAfter
    rfl
  · intro different
    rw [unread different] at resolvedAfter
    exact SpanGraph.elsewhere_effect resolved resolvedAfter
  · rintro rfl
    rw [SpanGraph.assigned_here, present] at presentAfter
    cases presentAfter
    exact SpanGraph.here_effect resolved resolvedAfter

theorem assignments_around_name :
    let file := SourceFile.inMemory ['a', '\n', 'b'] ['f'] none
    let inner : Span := ⟨some file, ⟨1, 2⟩, none, none, some 1⟩
    let named : Span := ⟨some file, ⟨0, 3⟩, some ['g'], none, some 2⟩
    let outer : Span := ⟨some file, ⟨0, 3⟩, some ['o'], none, some 0⟩
    let graph : SpanGraph := [inner, named, outer]
    let before : Location := ⟨⟨2, 1⟩, ⟨2, 3⟩, ['g'], ['f']⟩
    let shownOuter : Location := ⟨⟨2, 1⟩, ⟨2, 3⟩, ['o'], ['f']⟩
    let moved : Location := ⟨⟨1, 2⟩, ⟨1, 3⟩, ['g'], ['f']⟩
    (graph.subject 0 inner).resolve .standard 1 = .ok (before, []) ∧ ¬ graph.OnWay 0 2 ∧
      (∃ after log, ((graph.assign 2 (.name none)).subject 0 inner).resolve .standard 1 = .ok (after, log) ∧
        after = before) ∧
      ((graph.assign 1 (.name none)).subject 0 inner).resolve .standard 1 = .ok (shownOuter, []) ∧
      (Assignment.name none).EffectAbove before shownOuter ∧
      ((graph.assign 0 (.start 0)).subject 0 (inner.assign (.start 0))).resolve .standard 1 = .ok (moved, []) ∧
      (Assignment.start 0).EffectHere before moved := by
  intro file inner named outer graph before shownOuter moved
  have resolved : (graph.subject 0 inner).resolve .standard 1 = .ok (before, []) := ok_of_option _ _ (by decide +kernel)
  have searches : graph.Searches (some 0) [0, 1] (.found ['g']) :=
    .passed 0 inner _ _ rfl rfl (.answered 1 named _ rfl rfl)
  have off : ¬ graph.OnWay 0 2 := fun onWay => absurd (graph.on_way_read 0 2 _ _ onWay searches) (by decide)
  have outerNamed : ((graph.assign 2 (.name none)).subject 0 inner).resolve .standard 1 = .ok (before, []) :=
    ok_of_option _ _ (by decide +kernel)
  have innerNamed : ((graph.assign 1 (.name none)).subject 0 inner).resolve .standard 1 = .ok (shownOuter, []) :=
    ok_of_option _ _ (by decide +kernel)
  have innerMoved : ((graph.assign 0 (.start 0)).subject 0 (inner.assign (.start 0))).resolve .standard 1 =
      .ok (moved, []) := ok_of_option _ _ (by decide +kernel)
  obtain ⟨same, -, -⟩ := assignment_effects graph 0 2 _ inner inner .standard 1 _ _ _ _ rfl rfl resolved outerNamed
  obtain ⟨-, above, -⟩ := assignment_effects graph 0 1 _ inner inner .standard 1 _ _ _ _ rfl rfl resolved innerNamed
  obtain ⟨-, -, here⟩ := assignment_effects graph 0 0 _ inner _ .standard 1 _ _ _ _ rfl rfl resolved innerMoved
  exact ⟨resolved, off, ⟨_, _, outerNamed, same off⟩, innerNamed, above (by decide), innerMoved, here rfl⟩

end SourceLocator
