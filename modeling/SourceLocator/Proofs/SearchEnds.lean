import Mathlib.Data.Finset.Card
import SourceLocator.Proofs.FailSafe
import SourceLocator.Proofs.ParentChains
import SourceLocator.Proofs.TreeChains

set_option autoImplicit false

namespace SourceLocator

def Span.Stops (span : Span) : Prop :=
  span.parent = none ∨ (∃ name, span.readName = .ok (some name) ∧ name ≠ []) ∨ ∃ fault, span.readName = .error fault

theorem Span.silent_of_not_stops (span : Span) (passes : ¬ span.Stops) :
    span.Silent ∧ ∃ parent, span.parent = some parent := by
  obtain ⟨below, quiet⟩ := not_or.mp passes
  obtain ⟨unnamed, readable⟩ := not_or.mp quiet
  refine ⟨?_, Option.ne_none_iff_exists'.mp below⟩
  cases read : span.readName with
  | error fault => exact absurd ⟨fault, read⟩ readable
  | ok name =>
      cases name with
      | none => exact .inl read
      | some name =>
          have empty : name = [] := Classical.not_not.mp fun nonempty => unnamed ⟨name, read, nonempty⟩
          exact .inr (empty ▸ read)

theorem Span.stops_silently (span : Span) (stops : span.Stops) (silent : span.Silent) : span.parent = none := by
  rcases stops with top | ⟨name, read, nonempty⟩ | ⟨fault, read⟩
  · exact top
  · rcases silent with same | same
    · cases read.symm.trans same
    · cases read.symm.trans same
      exact absurd rfl nonempty
  · rcases silent with same | same <;> cases read.symm.trans same

def Event.GivesParent (event : Event) : Prop := ∃ id parent, event = .assign id (.parent parent)

namespace SpanGraph

def Closed (graph : SpanGraph) : Prop :=
  ∀ (id : SpanId) (span : Span), graph[id]? = some span → ∀ parent ∈ span.parent, parent < graph.length

def ParentsEarlier (graph : SpanGraph) : Prop :=
  ∀ (id : SpanId) (span : Span), graph[id]? = some span → ∀ parent ∈ span.parent, parent < id

def ReachesStop (graph : SpanGraph) (id : SpanId) : Prop :=
  ∃ steps stop span, graph.ancestor? steps id = some stop ∧ graph[stop]? = some span ∧ span.Stops

def SearchFinishes (graph : SpanGraph) (id : SpanId) : Prop :=
  ∃ reads search, graph.Searches (some id) reads search ∧ reads.length ≤ graph.length ∧
    graph.searchName id = search ∧ search ≠ .endless

structure SearchCircles (graph : SpanGraph) (id : SpanId) : Prop where
  silent : ∀ steps, ∃ other span, graph.ancestor? steps id = some other ∧ graph[other]? = some span ∧ span.Silent
  cycle : ∃ entry period other, 0 < period ∧ entry + period ≤ graph.length ∧
    graph.ancestor? entry id = some other ∧ graph.ancestor? period other = some other
  endless : ∀ reads, graph.searchWithin reads (some id) = .endless
  underivable : ∀ reads search, ¬ graph.Searches (some id) reads search

theorem searches_finishes (graph : SpanGraph) (id : SpanId) (reads : List SpanId) (search : NameSearch)
    (searches : graph.Searches (some id) reads search) : graph.SearchFinishes id :=
  ⟨reads, search, searches, searches_reads_bounded graph (some id) reads search searches,
    search_name_searches graph id reads search searches, searches_answer graph (some id) reads search searches⟩

theorem ancestor_succ (graph : SpanGraph) (steps : Nat) (id : SpanId) (span : Span) (parent : SpanId)
    (present : graph[id]? = some span) (next : span.parent = some parent) :
    graph.ancestor? (steps + 1) id = graph.ancestor? steps parent := by
  rw [ancestor?, parent?, present, Option.bind_some, next, Option.bind_some]

theorem searches_extend (graph : SpanGraph) (id : SpanId) (span : Span) (present : graph[id]? = some span)
    (further : span.Silent → ∃ reads search, graph.Searches span.parent reads search) :
    ∃ reads search, graph.Searches (some id) reads search := by
  cases answer : span.answer? with
  | some search => exact ⟨[id], search, .answered id span search present answer⟩
  | none =>
      obtain ⟨reads, search, searches⟩ := further (span.silent_iff.mpr answer)
      exact ⟨id :: reads, search, .passed id span reads search present answer searches⟩

theorem reached_stop_search (graph : SpanGraph) (id : SpanId) (reaches : graph.ReachesStop id) :
    ∃ reads search, graph.Searches (some id) reads search := by
  obtain ⟨steps, stop, last, above, present, stops⟩ := reaches
  induction steps generalizing id with
  | zero =>
      obtain rfl : id = stop := Option.some.inj above
      refine graph.searches_extend id last present fun silent => ⟨[], .nameless, ?_⟩
      rw [last.stops_silently stops silent]
      exact .top
  | succ steps ih =>
      obtain ⟨parent, next, further⟩ := Option.bind_eq_some_iff.mp above
      obtain ⟨span, here, named⟩ := Option.bind_eq_some_iff.mp next
      refine graph.searches_extend id span here fun _ => ?_
      rw [named]
      exact ih parent further

theorem unstopped_step (graph : SpanGraph) (closed : graph.Closed) (id : SpanId) (inRange : id < graph.length)
    (unstopped : ¬ graph.ReachesStop id) : ∃ span parent, graph[id]? = some span ∧ span.Silent ∧
      span.parent = some parent ∧ parent < graph.length ∧ ¬ graph.ReachesStop parent := by
  have present : graph[id]? = some graph[id] := List.getElem?_eq_getElem inRange
  have passes : ¬ graph[id].Stops := fun stops => unstopped ⟨0, id, graph[id], rfl, present, stops⟩
  obtain ⟨silent, parent, next⟩ := graph[id].silent_of_not_stops passes
  refine ⟨graph[id], parent, present, silent, next, closed id graph[id] present parent next, ?_⟩
  rintro ⟨steps, stop, last, above, there, stops⟩
  have later := (graph.ancestor_succ steps id _ parent present next).trans above
  exact unstopped ⟨steps + 1, stop, last, later, there, stops⟩

theorem unstopped_ancestor (graph : SpanGraph) (closed : graph.Closed) (steps : Nat) (id : SpanId)
    (inRange : id < graph.length) (unstopped : ¬ graph.ReachesStop id) :
    ∃ other span, graph.ancestor? steps id = some other ∧ graph[other]? = some span ∧ span.Silent := by
  induction steps generalizing id with
  | zero =>
      obtain ⟨span, _, present, silent, _⟩ := graph.unstopped_step closed id inRange unstopped
      exact ⟨id, span, rfl, present, silent⟩
  | succ steps ih =>
      obtain ⟨span, parent, present, -, next, within, further⟩ := graph.unstopped_step closed id inRange unstopped
      rw [graph.ancestor_succ steps id span parent present next]
      exact ih parent within further

theorem unstopped_endless (graph : SpanGraph) (closed : graph.Closed) (reads : Nat) (id : SpanId)
    (inRange : id < graph.length) (unstopped : ¬ graph.ReachesStop id) :
    graph.searchWithin reads (some id) = .endless := by
  induction reads generalizing id with
  | zero => rfl
  | succ reads ih =>
      obtain ⟨span, parent, present, silent, next, within, further⟩ := graph.unstopped_step closed id inRange unstopped
      rw [search_within_step graph reads id span present, span.silent_iff.mp silent, next]
      exact ih parent within further

theorem ancestors_repeat (graph : SpanGraph) (id : SpanId)
    (goesOn : ∀ steps, ∃ other, graph.ancestor? steps id = some other ∧ other < graph.length) :
    ∃ entry period other, 0 < period ∧ entry + period ≤ graph.length ∧
      graph.ancestor? entry id = some other ∧ graph.ancestor? period other = some other := by
  choose ancestor isAncestor within using goesOn
  have room : (Finset.range graph.length).card < (Finset.range (graph.length + 1)).card := by
    rw [Finset.card_range, Finset.card_range]
    exact Nat.lt_succ_self _
  have maps : Set.MapsTo ancestor (Finset.range (graph.length + 1)) (Finset.range graph.length) :=
    fun steps _ => Finset.mem_coe.mpr (Finset.mem_range.mpr (within steps))
  have repeats : ∀ first second, first < second → second ≤ graph.length → ancestor first = ancestor second →
      ∃ entry period other, 0 < period ∧ entry + period ≤ graph.length ∧
        graph.ancestor? entry id = some other ∧ graph.ancestor? period other = some other := by
    intro first second less bounded same
    refine ⟨first, second - first, ancestor first, Nat.sub_pos_of_lt less, ?_, isAncestor first, ?_⟩
    · rwa [Nat.add_sub_cancel' (Nat.le_of_lt less)]
    · have whole := isAncestor second
      rwa [← Nat.add_sub_cancel' (Nat.le_of_lt less), ancestor_add, isAncestor first, Option.bind_some,
        Nat.add_sub_cancel' (Nat.le_of_lt less), ← same] at whole
  obtain ⟨first, firstIn, second, secondIn, different, same⟩ :=
    Finset.exists_ne_map_eq_of_card_lt_of_maps_to room maps
  have firstBound := Nat.le_of_lt_succ (Finset.mem_range.mp firstIn)
  have secondBound := Nat.le_of_lt_succ (Finset.mem_range.mp secondIn)
  rcases Nat.lt_or_gt_of_ne different with less | greater
  · exact repeats first second less secondBound same
  · exact repeats second first greater firstBound same.symm

theorem unstopped_circles (graph : SpanGraph) (closed : graph.Closed) (id : SpanId) (inRange : id < graph.length)
    (unstopped : ¬ graph.ReachesStop id) : graph.SearchCircles id where
  silent := fun steps => graph.unstopped_ancestor closed steps id inRange unstopped
  cycle := by
    apply graph.ancestors_repeat id
    intro steps
    obtain ⟨other, span, above, present, -⟩ := graph.unstopped_ancestor closed steps id inRange unstopped
    exact ⟨other, above, (List.getElem?_eq_some_iff.mp present).1⟩
  endless := fun reads => graph.unstopped_endless closed reads id inRange unstopped
  underivable := by
    intro reads search searches
    have given := search_within_searches graph (some id) reads search searches reads.length (Nat.le_refl _)
    rw [graph.unstopped_endless closed reads.length id inRange unstopped] at given
    exact searches_answer graph (some id) reads search searches given.symm

theorem parents_earlier_search (graph : SpanGraph) (earlier : graph.ParentsEarlier) (id : SpanId)
    (inRange : id < graph.length) : ∃ reads search, graph.Searches (some id) reads search := by
  induction id using Nat.strongRecOn with
  | ind id ih =>
      have present : graph[id]? = some graph[id] := List.getElem?_eq_getElem inRange
      refine graph.searches_extend id graph[id] present fun _ => ?_
      cases next : graph[id].parent with
      | none => exact ⟨[], .nameless, .top⟩
      | some parent =>
          have less := earlier id graph[id] present parent next
          exact ih parent less (Nat.lt_trans less inRange)

end SpanGraph

namespace Scene

theorem numbered_span_present (scene : Scene) (id : Option SpanId) (parent : SpanId)
    (numbered : scene.span? id = some parent) : parent < scene.spans.length := by
  obtain ⟨-, inRange⟩ := Option.filter_eq_some_iff.mp numbered
  exact of_decide_eq_true inRange

theorem changed_parent (scene : Scene) (change : Change) (span : Span) (parent : SpanId)
    (next : (span.assign (scene.assignment change)).parent = some parent) :
    span.parent = some parent ∨ parent < scene.spans.length ∧ ∃ given, change = .parent given := by
  cases change with
  | parent given => exact .inr ⟨scene.numbered_span_present given parent next, given, rfl⟩
  | start offset => exact .inl next
  | stop offset => exact .inl next
  | name name => exact .inl next
  | file file => exact .inl next

theorem step_parent (scene : Scene) (event : Event) (id : SpanId) (span : Span) (parent : SpanId)
    (present : (scene.step event).spans[id]? = some span) (next : span.parent = some parent) :
    (∃ old, scene.spans[id]? = some old ∧ old.parent = some parent) ∨
      parent < scene.spans.length ∧ (scene.spans.length ≤ id ∨ event.GivesParent) := by
  cases event with
  | source text name path origin =>
      rw [step] at present
      split at present <;> exact .inl ⟨span, present, next⟩
  | handle text name path lineTable origin => exact .inl ⟨span, present, next⟩
  | span file start stop name failure given =>
      rw [step, addSpan, SpanGraph.add, List.getElem?_append] at present
      split at present
      · exact .inl ⟨span, present, next⟩
      · rename_i beyond
        rw [List.getElem?_singleton] at present
        cases (Option.ite_none_right_eq_some.mp present).2
        exact .inr ⟨scene.numbered_span_present given parent next, .inl (Nat.le_of_not_lt beyond)⟩
  | assign changed change =>
      rw [step] at present
      by_cases here : id = changed
      · subst here
        rw [SpanGraph.assigned_here] at present
        obtain ⟨old, before, rfl⟩ := Option.map_eq_some_iff.mp present
        rcases scene.changed_parent change old parent next with kept | ⟨within, given, rfl⟩
        · exact .inl ⟨old, before, kept⟩
        · exact .inr ⟨within, .inr ⟨id, given, rfl⟩⟩
      · rw [SpanGraph.assigned_elsewhere scene.spans changed id _ here] at present
        exact .inl ⟨span, present, next⟩

theorem step_spans_grow (scene : Scene) (event : Event) : scene.spans.length ≤ (scene.step event).spans.length := by
  cases event with
  | source text name path origin =>
      rw [step]
      split <;> exact Nat.le_refl _
  | handle text name path lineTable origin => exact Nat.le_refl _
  | span file start stop name failure given =>
      rw [step, addSpan, SpanGraph.add, List.length_append]
      exact Nat.le_add_right _ _
  | assign id change => rw [step, SpanGraph.assign, List.length_modify]

theorem run_closed (events : List Event) : (run events).spans.Closed := by
  refine List.foldlRecOn (motive := fun scene => scene.spans.Closed) events step ?_ ?_
  · intro id span absent
    cases List.getElem?_nil.symm.trans absent
  · intro scene closed event _ id span present parent next
    have grown := scene.step_spans_grow event
    rcases scene.step_parent event id span parent present next with ⟨old, before, same⟩ | ⟨within, -⟩
    · exact Nat.lt_of_lt_of_le (closed id old before parent same) grown
    · exact Nat.lt_of_lt_of_le within grown

theorem run_parents_earlier (events : List Event) (kept : ∀ event ∈ events, ¬ event.GivesParent) :
    (run events).spans.ParentsEarlier := by
  refine List.foldlRecOn (motive := fun scene => scene.spans.ParentsEarlier) events step ?_ ?_
  · intro id span absent
    cases List.getElem?_nil.symm.trans absent
  · intro scene earlier event member id span present parent next
    rcases scene.step_parent event id span parent present next with ⟨old, before, same⟩ | ⟨within, new | gives⟩
    · exact earlier id old before parent same
    · exact Nat.lt_of_lt_of_le within new
    · exact absurd gives (kept event member)

end Scene

-- A search reads each name at most once and ends, or its chain runs into a cycle of silent spans and it goes on for
-- ever. It ends in all scenes where no span was given a parent later, and in all trees.
theorem name_search_ends :
    (∀ (graph : SpanGraph), graph.Closed → ∀ id < graph.length,
      (graph.ReachesStop id → graph.SearchFinishes id) ∧ (¬ graph.ReachesStop id → graph.SearchCircles id)) ∧
    (∀ events : List Event, (Scene.run events).spans.Closed ∧
      ((∀ event ∈ events, ¬ event.GivesParent) → ∀ id < (Scene.run events).spans.length,
        (Scene.run events).spans.SearchFinishes id)) ∧
    ∀ (parsed : ParsedFile), ∀ cursor ∈ Cursor.walk parsed.root, ∃ reads,
      parsed.Searches (some cursor) reads (parsed.nearestName? cursor) ∧
        (∀ node ∈ reads, node ∈ Cursor.walk parsed.root) ∧ reads.length ≤ (Cursor.walk parsed.root).length := by
  refine ⟨?_, ?_, fun parsed => parsed.tree_search_ends⟩
  · intro graph closed id inRange
    refine ⟨?_, graph.unstopped_circles closed id inRange⟩
    intro reaches
    obtain ⟨reads, search, searches⟩ := graph.reached_stop_search id reaches
    exact graph.searches_finishes id reads search searches
  · intro events
    refine ⟨Scene.run_closed events, ?_⟩
    intro kept id inRange
    obtain ⟨reads, search, searches⟩ :=
      (Scene.run events).spans.parents_earlier_search (Scene.run_parents_earlier events kept) id inRange
    exact (Scene.run events).spans.searches_finishes id reads search searches

theorem given_parent_closes_cycle :
    let made : List Event := [.span none 0 none none none none, .span none 1 none (some []) none (some 0),
      .span none 2 none none none (some 1)]
    let looped := made ++ [.assign 0 (.parent (some 1))]
    let before := (Scene.run made).spans
    let after := (Scene.run looped).spans
    let named := (Scene.run (looped ++ [.assign 1 (.name (some ['g']))])).spans
    let root : SyntaxTree := .node ⟨"module", 0, 3, true, none⟩ [.node ⟨"call", 0, 3, true, none⟩ []]
    let parsed : ParsedFile := ⟨.inMemory ['f', '(', ')'] ['m'] none, .python, Utf8.encode ['f', '(', ')'], root⟩
    let node : Cursor := ⟨.node ⟨"call", 0, 3, true, none⟩ [], [root]⟩
    (∀ event ∈ made, ¬ event.GivesParent) ∧ 2 < before.length ∧ before.SearchFinishes 2 ∧
      after.Closed ∧ 2 < after.length ∧ ¬ after.ReachesStop 2 ∧ after.SearchCircles 2 ∧
      named.Closed ∧ 2 < named.length ∧ named.ReachesStop 2 ∧ named.SearchFinishes 2 ∧
      node ∈ Cursor.walk root ∧ ∃ reads, parsed.Searches (some node) reads (parsed.nearestName? node) ∧
        reads.length ≤ (Cursor.walk root).length := by
  intro made looped before after named root parsed node
  obtain ⟨decided, scenes, trees⟩ := name_search_ends
  have kept : ∀ event ∈ made, ¬ event.GivesParent := by
    rintro _ member ⟨id, parent, rfl⟩
    simp [made] at member
  have afterClosed := (scenes looped).1
  have namedClosed := (scenes (looped ++ [.assign 1 (.name (some ['g']))])).1
  have unstopped : ¬ after.ReachesStop 2 := by
    intro reaches
    obtain ⟨reads, search, -, -, found, ends⟩ := (decided after afterClosed 2 (by decide)).1 reaches
    exact ends (found.symm.trans rfl)
  have stopped : named.ReachesStop 2 :=
    ⟨1, 1, ⟨none, ⟨1, 1⟩, some ['g'], none, some 0⟩, rfl, rfl, .inr (.inl ⟨['g'], rfl, nofun⟩)⟩
  have visited : node ∈ Cursor.walk root :=
    Cursor.children_visited [.atRoot root] (.atRoot root) node (Cursor.stack_visited _ _ List.mem_cons_self)
      List.mem_cons_self
  obtain ⟨reads, searches, -, bounded⟩ := trees parsed node visited
  exact ⟨kept, by decide, (scenes made).2 kept 2 (by decide), afterClosed, by decide, unstopped,
    (decided after afterClosed 2 (by decide)).2 unstopped, namedClosed, by decide, stopped,
    (decided named namedClosed 2 (by decide)).1 stopped, visited, reads, searches, bounded⟩

end SourceLocator
