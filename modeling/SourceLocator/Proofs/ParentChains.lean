import SourceLocator.Proofs.NameSearch

set_option autoImplicit false

namespace SourceLocator

namespace Span

def Silent (span : Span) : Prop := span.readName = .ok none ∨ span.readName = .ok (some [])

theorem silent_iff (span : Span) : span.Silent ↔ span.answer? = none := by
  rw [Silent, answer?]
  cases span.readName with
  | error fault => simp
  | ok name =>
      cases name with
      | none => simp
      | some name => cases name <;> simp

theorem answer_name (span : Span) (name : Text) (loud : ¬ span.Silent) (read : span.readName = .ok (some name)) :
    name ≠ [] ∧ span.answer? = some (.found name) := by
  cases name with
  | nil => exact absurd (.inr read) loud
  | cons c rest => exact ⟨nofun, by rw [answer?, read]⟩

theorem answer_fault (span : Span) (fault : Fault) (read : span.readName = .error fault) :
    span.answer? = some (.failed fault) := by
  rw [answer?, read]

end Span

namespace SpanGraph

-- The spans that a search from a span may come to: itself, and those above it as long as all spans before are
-- silent. The first one that is not silent is the last.
inductive OnWay (graph : SpanGraph) : SpanId → SpanId → Prop where
  | here (id : SpanId) : OnWay graph id id
  | above (id parent other : SpanId) (span : Span) (present : graph[id]? = some span) (silent : span.Silent)
      (next : span.parent = some parent) (further : OnWay graph parent other) : OnWay graph id other

structure FirstAnswer (graph : SpanGraph) (id answering : SpanId) (span : Span) : Prop where
  onWay : graph.OnWay id answering
  present : graph[answering]? = some span
  loud : ¬ span.Silent

def parent? (graph : SpanGraph) (id : SpanId) : Option SpanId := graph[id]?.bind Span.parent

def ancestor? (graph : SpanGraph) : Nat → SpanId → Option SpanId
  | 0, id => some id
  | steps + 1, id => (graph.parent? id).bind (graph.ancestor? steps)

theorem ancestor_add (graph : SpanGraph) (first second : Nat) (id : SpanId) :
    graph.ancestor? (first + second) id = (graph.ancestor? first id).bind (graph.ancestor? second) := by
  induction first generalizing id with
  | zero => rw [Nat.zero_add, ancestor?, Option.bind_some]
  | succ first ih =>
      rw [Nat.succ_add, ancestor?, ancestor?, Option.bind_assoc]
      exact congrArg (Option.bind (graph.parent? id)) (funext ih)

theorem reads_on_way (graph : SpanGraph) (start : Option SpanId) (reads : List SpanId) (search : NameSearch)
    (searches : Searches graph start reads search) : ∀ id ∈ reads, ∃ first, start = some first ∧ graph.OnWay first id := by
  induction searches with
  | top => exact nofun
  | answered id span search present answer => exact List.forall_mem_singleton.mpr ⟨id, rfl, .here id⟩
  | passed id span reads search present silent further ih =>
      refine List.forall_mem_cons.mpr ⟨⟨id, rfl, .here id⟩, ?_⟩
      intro other member
      obtain ⟨parent, next, onWay⟩ := ih other member
      exact ⟨id, rfl, .above id parent other span present (span.silent_iff.mpr silent) next onWay⟩

theorem searches_past (graph : SpanGraph) (id : SpanId) (span : Span) (reads : List SpanId) (search : NameSearch)
    (present : graph[id]? = some span) (silent : span.Silent) (searches : Searches graph (some id) reads search) :
    ∃ later, reads = id :: later ∧ Searches graph span.parent later search := by
  cases searches with
  | answered _ _ _ again answer =>
      cases Option.some.inj (present.symm.trans again)
      cases (span.silent_iff.mp silent).symm.trans answer
  | passed _ _ later _ again _ further =>
      cases Option.some.inj (present.symm.trans again)
      exact ⟨later, rfl, further⟩

theorem searches_stopped (graph : SpanGraph) (id : SpanId) (span : Span) (reads : List SpanId) (search : NameSearch)
    (present : graph[id]? = some span) (loud : ¬ span.Silent) (searches : Searches graph (some id) reads search) :
    span.answer? = some search := by
  cases searches with
  | answered _ _ _ again answer =>
      cases Option.some.inj (present.symm.trans again)
      exact answer
  | passed _ _ _ _ again silent _ =>
      cases Option.some.inj (present.symm.trans again)
      exact absurd (span.silent_iff.mpr silent) loud

theorem on_way_read (graph : SpanGraph) (id other : SpanId) (reads : List SpanId) (search : NameSearch)
    (onWay : graph.OnWay id other) (searches : Searches graph (some id) reads search) : other ∈ reads := by
  induction onWay generalizing reads with
  | here id => cases searches <;> exact List.mem_cons_self
  | above id parent other span present silent next further ih =>
      obtain ⟨later, rfl, rest⟩ := searches_past graph id span reads search present silent searches
      rw [next] at rest
      exact List.mem_cons_of_mem id (ih later rest)

theorem first_answer_search (graph : SpanGraph) (id answering : SpanId) (span : Span) (reads : List SpanId)
    (search : NameSearch) (first : graph.FirstAnswer id answering span) (searches : Searches graph (some id) reads search) :
    span.answer? = some search := by
  obtain ⟨onWay, present, loud⟩ := first
  induction onWay generalizing reads with
  | here id => exact searches_stopped graph id span reads search present loud searches
  | above id parent other below here silent next further ih =>
      obtain ⟨later, -, rest⟩ := searches_past graph id below reads search here silent searches
      rw [next] at rest
      exact ih later rest present

theorem unanswered_search (graph : SpanGraph) (start : Option SpanId) (reads : List SpanId) (search : NameSearch)
    (searches : Searches graph start reads search)
    (unanswered : ∀ id ∈ start, ∀ answering span, ¬ graph.FirstAnswer id answering span) : search = .nameless := by
  induction searches with
  | top => rfl
  | answered id span search present answer =>
      have loud : ¬ span.Silent := fun silent => nomatch (span.silent_iff.mp silent).symm.trans answer
      exact absurd ⟨.here id, present, loud⟩ (unanswered id rfl id span)
  | passed id span reads search present silent further ih =>
      apply ih
      rintro parent next answering loud ⟨onWay, there, speaks⟩
      exact unanswered id rfl answering loud
        ⟨.above id parent answering span present (span.silent_iff.mpr silent) next onWay, there, speaks⟩

theorem searches_same_spans (graph other : SpanGraph) (start : Option SpanId) (reads : List SpanId)
    (search : NameSearch) (searches : Searches graph start reads search)
    (same : ∀ id ∈ reads, other[id]? = graph[id]?) : Searches other start reads search := by
  induction searches with
  | top => exact .top
  | answered id span search present answer =>
      exact .answered id span search ((same id (List.mem_singleton_self id)).trans present) answer
  | passed id span reads search present silent further ih =>
      obtain ⟨here, above⟩ := List.forall_mem_cons.mp same
      exact .passed id span reads search (here.trans present) silent (ih above)

theorem assigned_here (graph : SpanGraph) (id : SpanId) (assignment : Assignment) :
    (graph.assign id assignment)[id]? = graph[id]?.map (·.assign assignment) := by
  rw [assign, List.getElem?_modify]
  simp

theorem assigned_elsewhere (graph : SpanGraph) (id other : SpanId) (assignment : Assignment) (different : other ≠ id) :
    (graph.assign id assignment)[other]? = graph[other]? := by
  rw [assign, List.getElem?_modify]
  simp [Ne.symm different]

end SpanGraph

end SourceLocator
