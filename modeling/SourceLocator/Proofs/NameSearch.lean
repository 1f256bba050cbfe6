import SourceLocator.Location.SpanGraph

set_option autoImplicit false

namespace SourceLocator

def Span.answer? (span : Span) : Option NameSearch :=
  match span.readName with
  | .error fault => some (.failed fault)
  | .ok (some (c :: rest)) => some (.found (c :: rest))
  | .ok _ => none

namespace SpanGraph

-- The search with no bound on its steps: it ends after reading the names of the listed spans. From
-- a cycle in which no span has an answer nothing can be derived.
inductive Searches (graph : SpanGraph) : Option SpanId → List SpanId → NameSearch → Prop where
  | top : Searches graph none [] .nameless
  | answered (id : SpanId) (span : Span) (search : NameSearch) (present : graph[id]? = some span)
      (answer : span.answer? = some search) : Searches graph (some id) [id] search
  | passed (id : SpanId) (span : Span) (reads : List SpanId) (search : NameSearch)
      (present : graph[id]? = some span) (silent : span.answer? = none)
      (further : Searches graph span.parent reads search) : Searches graph (some id) (id :: reads) search

theorem searches_deterministic (graph : SpanGraph) (start : Option SpanId) (reads others : List SpanId)
    (search other : NameSearch) (first : Searches graph start reads search)
    (second : Searches graph start others other) : reads = others ∧ search = other := by
  induction first generalizing others with
  | top =>
      cases second
      exact ⟨rfl, rfl⟩
  | answered id span search present answer =>
      cases second with
      | answered _ _ _ again same =>
          cases Option.some.inj (present.symm.trans again)
          exact ⟨rfl, Option.some.inj (answer.symm.trans same)⟩
      | passed _ _ _ _ again silent _ =>
          cases Option.some.inj (present.symm.trans again)
          cases answer.symm.trans silent
  | passed id span reads search present silent further ih =>
      cases second with
      | answered _ _ _ again answer =>
          cases Option.some.inj (present.symm.trans again)
          cases answer.symm.trans silent
      | passed _ _ others _ again _ furtherToo =>
          cases Option.some.inj (present.symm.trans again)
          obtain ⟨rfl, rfl⟩ := ih others furtherToo
          exact ⟨rfl, rfl⟩

theorem searches_from_read (graph : SpanGraph) (start : Option SpanId) (reads : List SpanId) (search : NameSearch)
    (searches : Searches graph start reads search) (id : SpanId) (member : id ∈ reads) :
    ∃ fewer, Searches graph (some id) fewer search ∧ fewer.length ≤ reads.length := by
  induction searches with
  | top => cases member
  | answered first span search present answer =>
      cases List.mem_singleton.mp member
      exact ⟨[id], .answered id span search present answer, Nat.le_refl _⟩
  | passed first span reads search present silent further ih =>
      rcases List.mem_cons.mp member with same | later
      · subst same
        exact ⟨id :: reads, .passed id span reads search present silent further, Nat.le_refl _⟩
      · obtain ⟨fewer, searches, bounded⟩ := ih later
        exact ⟨fewer, searches, Nat.le_trans bounded (Nat.le_succ _)⟩

theorem searches_read_once (graph : SpanGraph) (start : Option SpanId) (reads : List SpanId) (search : NameSearch)
    (searches : Searches graph start reads search) : reads.Nodup := by
  induction searches with
  | top => exact List.nodup_nil
  | answered id span search present answer => exact List.nodup_cons.mpr ⟨List.not_mem_nil, List.nodup_nil⟩
  | passed id span reads search present silent further ih =>
      refine List.nodup_cons.mpr ⟨?_, ih⟩
      intro member
      obtain ⟨fewer, again, bounded⟩ := searches_from_read graph _ reads search further id member
      have whole := Searches.passed id span reads search present silent further
      obtain ⟨same, -⟩ := searches_deterministic graph _ _ _ _ _ again whole
      rw [same, List.length_cons] at bounded
      omega

theorem searches_in_graph (graph : SpanGraph) (start : Option SpanId) (reads : List SpanId) (search : NameSearch)
    (searches : Searches graph start reads search) (id : SpanId) (member : id ∈ reads) : id < graph.length := by
  obtain ⟨fewer, again, -⟩ := searches_from_read graph start reads search searches id member
  cases again with
  | answered _ span _ present _ => exact (List.getElem?_eq_some_iff.mp present).1
  | passed _ span _ _ present _ _ => exact (List.getElem?_eq_some_iff.mp present).1

theorem searches_reads_bounded (graph : SpanGraph) (start : Option SpanId) (reads : List SpanId)
    (search : NameSearch) (searches : Searches graph start reads search) : reads.length ≤ graph.length := by
  have once := searches_read_once graph start reads search searches
  have inRange : reads ⊆ List.range graph.length := by
    intro id member
    exact List.mem_range.mpr (searches_in_graph graph start reads search searches id member)
  calc reads.length ≤ (List.range graph.length).length := once.length_le_of_subset inRange
    _ = graph.length := List.length_range

theorem search_within_step (graph : SpanGraph) (reads : Nat) (id : SpanId) (span : Span)
    (present : graph[id]? = some span) :
    graph.searchWithin (reads + 1) (some id) =
      match span.answer? with
      | some search => search
      | none => graph.searchWithin reads span.parent := by
  rw [searchWithin, present, Span.answer?]
  dsimp only
  cases span.readName with
  | error fault => rfl
  | ok name =>
      cases name with
      | none => rfl
      | some name => cases name <;> rfl

theorem search_within_searches (graph : SpanGraph) (start : Option SpanId) (reads : List SpanId)
    (search : NameSearch) (searches : Searches graph start reads search) (bound : Nat)
    (enough : reads.length ≤ bound) : graph.searchWithin bound start = search := by
  induction searches generalizing bound with
  | top => cases bound <;> rfl
  | answered id span search present answer =>
      obtain ⟨fewer, rfl⟩ := Nat.exists_eq_succ_of_ne_zero (Nat.ne_of_gt enough)
      rw [search_within_step graph fewer id span present, answer]
  | passed id span reads search present silent further ih =>
      rw [List.length_cons] at enough
      obtain ⟨fewer, rfl⟩ := Nat.exists_eq_succ_of_ne_zero (Nat.ne_of_gt (Nat.lt_of_lt_of_le (Nat.succ_pos _) enough))
      rw [search_within_step graph fewer id span present, silent]
      exact ih fewer (Nat.le_of_succ_le_succ enough)

theorem search_name_searches (graph : SpanGraph) (id : SpanId) (reads : List SpanId) (search : NameSearch)
    (searches : Searches graph (some id) reads search) : graph.searchName id = search :=
  search_within_searches graph (some id) reads search searches graph.length
    (searches_reads_bounded graph (some id) reads search searches)

end SpanGraph

end SourceLocator
