import SourceLocator.Proofs.ParentChains

set_option autoImplicit false

namespace SourceLocator

inductive SourceFile.Starts (file : SourceFile) (bound : DigitBound) (start : Int) : Position → Prop where
  | placed (place : LinePlace) (found : file.place start bound = .ok place) : Starts file bound start place.position
  | outside (beyond : start < 0 ∨ (file.text.length : Int) < start) (writable : bound.admits start = true) :
      Starts file bound start ⟨-1, -1⟩

inductive Subject.Quotes (subject : Subject) (bound : DigitBound) : Except Fault Text → Prop where
  | quoted (file : SourceFile) (text : Text) (position : Position) (fileRead : subject.file = .ok file)
      (textRead : subject.text = .ok text) (starts : file.Starts bound subject.extent.start position)
      (writable : [position.line, position.column].all bound.admits = true) :
      Quotes subject bound (.ok ('\x27' :: text ++ "' at (".toList ++ Text.ofInt position.line ++ ',' ::
        Text.ofInt position.column ++ ") in ".toList ++ file.path))
  | fileless (fault : Fault) (failed : subject.file = .error fault) : Quotes subject bound (.error fault)
  | unplaced (file : SourceFile) (fault : Fault) (fileRead : subject.file = .ok file)
      (failed : file.place subject.extent.start bound = .error fault)
      (other : ∀ offset length, fault ≠ .offsetOutside offset length) : Quotes subject bound (.error fault)
  | textless (file : SourceFile) (position : Position) (fault : Fault) (fileRead : subject.file = .ok file)
      (starts : file.Starts bound subject.extent.start position) (failed : subject.text = .error fault) :
      Quotes subject bound (.error fault)
  | unwritable (file : SourceFile) (text : Text) (position : Position) (fileRead : subject.file = .ok file)
      (textRead : subject.text = .ok text) (starts : file.Starts bound subject.extent.start position)
      (refused : [position.line, position.column].all bound.admits = false) : Quotes subject bound (.error .unwritable)

namespace SourceFile

theorem place_said_outside (file : SourceFile) (bound : DigitBound) (start offset : Int) (length : Nat)
    (failed : file.place start bound = .error (.offsetOutside offset length)) :
    (start < 0 ∨ (file.text.length : Int) < start) ∧ bound.admits start = true := by
  unfold place at failed
  dsimp only at failed
  split at failed
  · rename_i beyond
    split at failed
    · exact ⟨beyond, ‹_›⟩
    · cases failed
  · split at failed <;> cases failed

theorem lookup_cases (file : SourceFile) (bound : DigitBound) (extent : Extent) :
    (∃ lookup log, file.lookup bound extent = .ok (lookup, log) ∧ file.Starts bound extent.start lookup.position) ∨
      ∃ fault, file.lookup bound extent = .error fault ∧ file.place extent.start bound = .error fault ∧
        ∀ offset length, fault ≠ .offsetOutside offset length := by
  rw [lookup]
  cases found : file.place extent.start bound with
  | ok place => exact .inl ⟨_, _, rfl, .placed place found⟩
  | error fault =>
      by_cases said : ∃ offset length, fault = .offsetOutside offset length
      · obtain ⟨offset, length, rfl⟩ := said
        obtain ⟨beyond, writable⟩ := file.place_said_outside bound _ offset length found
        exact .inl ⟨_, _, rfl, .outside beyond writable⟩
      · refine .inr ⟨fault, ?_, rfl, fun offset length same => said ⟨offset, length, same⟩⟩
        split
        · contradiction
        · rename_i same
          cases same
          exact absurd ⟨_, _, rfl⟩ said
        · rename_i same
          cases same
          rfl

end SourceFile

namespace Subject

variable (subject : Subject) (bound : DigitBound)

theorem text_at_quotes (file : SourceFile) (position : Position) (fileRead : subject.file = .ok file)
    (starts : file.Starts bound subject.extent.start position) :
    subject.Quotes bound (subject.textAt bound position) := by
  rw [textAt, fileRead]
  cases textRead : subject.text with
  | error fault => exact .textless file position fault fileRead starts textRead
  | ok text =>
      change subject.Quotes bound (bound.write [position.line, position.column] (file.quoteAt text position))
      rw [DigitBound.write]
      split
      · exact .quoted file text position fileRead textRead starts ‹_›
      · exact .unwritable file text position fileRead textRead starts (Bool.eq_false_iff.mpr ‹_›)

theorem fallback_quotes : subject.Quotes bound ((subject.fallbackText bound).map Prod.fst) := by
  have unmoved : subject.extent.shift 0 = subject.extent := by rw [Extent.shift, Int.add_zero, Int.add_zero]
  rw [fallbackText, lookup, unmoved]
  cases fileRead : subject.file with
  | error fault => exact .fileless fault fileRead
  | ok file =>
      rcases file.lookup_cases bound subject.extent with ⟨lookup, log, looked, starts⟩ | ⟨fault, looked, failed, other⟩
      · have quotes := subject.text_at_quotes bound file lookup.position fileRead starts
        change subject.Quotes bound (Except.map Prod.fst (file.lookup bound subject.extent >>= _))
        rw [looked]
        change subject.Quotes bound (Except.map Prod.fst (subject.textAt bound lookup.position >>= _))
        cases shown : subject.textAt bound lookup.position <;> rw [shown] at quotes <;> exact quotes
      · change subject.Quotes bound (Except.map Prod.fst (file.lookup bound subject.extent >>= _))
        rw [looked]
        exact .unplaced file fault fileRead failed other

theorem display_found (name : Text) (nonempty : name ≠ []) (found : subject.nearestName = .ok (some name)) :
    subject.displayText bound = .ok (name, []) := by
  rw [displayText, found]
  cases name with
  | nil => exact absurd rfl nonempty
  | cons c rest => rfl

theorem display_nameless (nameless : subject.nearestName = .ok none) :
    subject.Quotes bound ((subject.displayText bound).map Prod.fst) := by
  rw [displayText, nameless]
  exact subject.fallback_quotes bound

theorem display_recovered (fault : Fault) (failed : subject.nearestName = .error fault)
    (recoverable : fault.isRecoverable = true) : subject.Quotes bound ((subject.displayText bound).map Prod.fst) := by
  rw [displayText, failed]
  change subject.Quotes bound (Except.map Prod.fst (if fault.isRecoverable then _ else _))
  rw [if_pos recoverable]
  exact subject.fallback_quotes bound

theorem display_passed_on (fault : Fault) (failed : subject.nearestName = .error fault)
    (unrecoverable : fault.isRecoverable = false) : (subject.displayText bound).map Prod.fst = .error fault := by
  rw [displayText, failed]
  change Except.map Prod.fst (if fault.isRecoverable then _ else _) = _
  rw [unrecoverable]
  rfl

end Subject

namespace SpanGraph

theorem searched_name (graph : SpanGraph) (id : SpanId) (span : Span) (reads : List SpanId) (search : NameSearch)
    (searches : graph.Searches (some id) reads search) : (graph.subject id span).nearestName = search.outcome :=
  congrArg NameSearch.outcome (graph.search_name_searches id reads search searches)

theorem subject_same_spans (graph other : SpanGraph) (id : SpanId) (span : Span) (reads : List SpanId)
    (search : NameSearch) (searches : graph.Searches (some id) reads search)
    (agrees : ∀ above, graph.OnWay id above → other[above]? = graph[above]?) :
    other.subject id span = graph.subject id span := by
  have again : other.Searches (some id) reads search := by
    refine graph.searches_same_spans other (some id) reads search searches fun above read => ?_
    obtain ⟨first, same, onWay⟩ := graph.reads_on_way (some id) reads search searches above read
    cases same
    exact agrees above onWay
  rw [subject, subject, other.search_name_searches id reads search again,
    graph.search_name_searches id reads search searches]

end SpanGraph

-- The first span from here upwards that is not silent decides what is displayed: by its name, or by the fault in
-- reading it. A recoverable fault counts as there being no name, but one in what is then shown instead does not.
theorem first_answer_is_displayed (graph : SpanGraph) (id : SpanId) (span : Span) (bound : DigitBound)
    (reads : List SpanId) (search : NameSearch) (searches : graph.Searches (some id) reads search) :
    let subject := graph.subject id span
    let shown := (subject.displayText bound).map Prod.fst
    (∀ answering holder, graph.FirstAnswer id answering holder →
      (∀ name, holder.readName = .ok (some name) → shown = .ok name) ∧
      (∀ fault, holder.readName = .error fault → fault.isRecoverable = true → subject.Quotes bound shown) ∧
      ∀ fault, holder.readName = .error fault → fault.isRecoverable = false → shown = .error fault) ∧
    ((∀ answering holder, ¬ graph.FirstAnswer id answering holder) → subject.Quotes bound shown) ∧
    ∀ other : SpanGraph, (∀ above, graph.OnWay id above → other[above]? = graph[above]?) →
      (other.subject id span).displayText bound = subject.displayText bound := by
  intro subject shown
  have outcome : subject.nearestName = search.outcome := graph.searched_name id span reads search searches
  refine ⟨?_, ?_, ?_⟩
  · intro answering holder first
    have answers := graph.first_answer_search id answering holder reads search first searches
    refine ⟨?_, ?_, ?_⟩
    · intro name read
      obtain ⟨nonempty, answer⟩ := holder.answer_name name first.loud read
      cases Option.some.inj (answers.symm.trans answer)
      exact congrArg (Except.map Prod.fst) (subject.display_found bound name nonempty outcome)
    · intro fault read recoverable
      cases Option.some.inj (answers.symm.trans (holder.answer_fault fault read))
      exact subject.display_recovered bound fault outcome recoverable
    · intro fault read unrecoverable
      cases Option.some.inj (answers.symm.trans (holder.answer_fault fault read))
      exact subject.display_passed_on bound fault outcome unrecoverable
  · intro unanswered
    have nameless : search = .nameless := by
      apply graph.unanswered_search (some id) reads search searches
      rintro first ⟨⟩
      exact unanswered
    subst nameless
    exact subject.display_nameless bound outcome
  · intro other agrees
    rw [graph.subject_same_spans other id span reads search searches agrees]

theorem unreadable_name_hides_outer :
    let file := SourceFile.inMemory ['a', '\n', 'b', 'c'] ['f'] none
    let inner : Span := ⟨some file, ⟨2, 4⟩, none, none, some 1⟩
    let middle : Span := ⟨some file, ⟨0, 4⟩, some [], none, some 2⟩
    let unreadable : Span := ⟨some file, ⟨0, 4⟩, some ['u'], some ⟨"lookup", true⟩, some 3⟩
    let outer : Span := ⟨some file, ⟨0, 4⟩, some ['o'], none, none⟩
    let graph : SpanGraph := [inner, middle, unreadable, outer]
    let shown := ((graph.subject 0 inner).displayText .standard).map Prod.fst
    graph.Searches (some 0) [0, 1, 2] (.failed (.nameUnreadable ⟨"lookup", true⟩)) ∧
      graph.FirstAnswer 0 2 unreadable ∧ (graph.subject 0 inner).Quotes .standard shown ∧
      shown.toOption = some "'bc' at (2,1) in f".toList := by
  intro file inner middle unreadable outer graph shown
  have searches : graph.Searches (some 0) [0, 1, 2] (.failed (.nameUnreadable ⟨"lookup", true⟩)) :=
    .passed 0 inner _ _ rfl rfl (.passed 1 middle _ _ rfl rfl (.answered 2 unreadable _ rfl rfl))
  have loud : ¬ unreadable.Silent := by
    rintro (none | empty)
    · cases none
    · cases empty
  have onWay : graph.OnWay 0 2 := .above 0 1 2 inner rfl (.inl rfl) rfl (.above 1 2 2 middle rfl (.inr rfl) rfl (.here 2))
  have first : graph.FirstAnswer 0 2 unreadable := ⟨onWay, rfl, loud⟩
  obtain ⟨answered, -, -⟩ := first_answer_is_displayed graph 0 inner .standard _ _ searches
  obtain ⟨-, quotes, -⟩ := answered 2 unreadable first
  exact ⟨searches, first, quotes _ rfl rfl, by decide +kernel⟩

end SourceLocator
