import SourceLocator.Proofs.Scene

set_option autoImplicit false

namespace SourceLocator

namespace SpanGraph

theorem searches_answer (graph : SpanGraph) (start : Option SpanId) (reads : List SpanId) (search : NameSearch)
    (searches : Searches graph start reads search) : search ≠ .endless := by
  induction searches with
  | top => exact NameSearch.noConfusion
  | answered id span search present answer =>
      intro endless
      subst endless
      rw [Span.answer?] at answer
      split at answer <;> cases answer
  | passed id span reads search present silent further ih => exact ih

theorem subject_search_ends (graph : SpanGraph) (id : SpanId) (span : Span) (reads : List SpanId)
    (search : NameSearch) (searches : Searches graph (some id) reads search)
    (recovers : ∀ fault, search = .failed fault → fault.isRecoverable = true) :
    (graph.subject id span).SearchEnds := by
  have answered := searches_answer graph (some id) reads search searches
  rw [Subject.SearchEnds, subject, search_name_searches graph id reads search searches]
  cases search with
  | found name => trivial
  | nameless => trivial
  | failed fault => exact recovers fault rfl
  | endless => exact absurd rfl answered

end SpanGraph

theorem reported_name_eq (file : SourceFile) : file.reportedName = (file.derivedFrom.getD file).name := by
  rw [SourceFile.reportedName]
  cases file.derivedFrom <;> rfl

theorem not_inside_iff (file : SourceFile) (offset : Int) :
    ¬ file.Inside offset ↔ offset < 0 ∨ (file.text.length : Int) < offset := by
  rw [SourceFile.Inside]
  omega

-- Whatever was done before, resolving a span comes back with a location, at an unknown position where
-- its start is outside the text, except where it has to put an integer into words that is too long
-- for it: that start and, to quote a span without a name, where the span starts unmoved.
theorem resolution_is_fail_safe (events : List Event) (id : SpanId) (span : Span) (file : SourceFile)
    (reads : List SpanId) (search : NameSearch) (bound : DigitBound)
    (present : (Scene.run events).spans[id]? = some span) (attached : span.file = some file)
    (table : (.handle, file) ∈ (Scene.run events).files → ProperTable file.lineTable)
    (searches : (Scene.run events).spans.Searches (some id) reads search)
    (recovers : ∀ fault, search = .failed fault → fault.isRecoverable = true) :
    let subject := (Scene.run events).spans.subject id span
    ∃ display, ∀ offset, ∃ position,
      let start := span.extent.start + offset
      let moved : Extent := ⟨start, span.extent.stop + offset⟩
      let outside := start < 0 ∨ (file.text.length : Int) < start
      (position = .unknown ↔ outside) ∧ (¬ outside → 1 ≤ position.line ∧ 1 ≤ position.column) ∧
      (¬ outside → ∃ log, subject.lookup bound offset = .ok (.resolved position, log)) ∧
      (outside → bound.admits start = true →
        ∃ log, subject.lookup bound offset = .ok (.outOfRange moved, log)) ∧
      (outside → bound.admits start = false → subject.lookup bound offset = .error .unwritable) ∧
      ((subject.written file offset).all bound.admits = true → ∃ log, subject.resolve bound offset =
        .ok (⟨position, moved, display, (file.derivedFrom.getD file).name⟩, log)) ∧
      ((subject.written file offset).all bound.admits = false →
        subject.resolve bound offset = .error .unwritable) := by
  intro subject
  have member : span ∈ (Scene.run events).spans := List.mem_of_getElem? present
  have proper := Scene.attached_file_proper _ (Scene.run_sound events) span member file attached table
  have ends := SpanGraph.subject_search_ends _ id span reads search searches recovers
  have fileRead : subject.file = .ok file := by
    change span.sourceFile = .ok file
    rw [Span.sourceFile, attached]
  have textRead : subject.text = .ok (slice file.text span.extent.start span.extent.stop) := by
    change span.text = _
    rw [Span.text, Span.sourceFile, attached]
    rfl
  refine ⟨subject.display file (slice file.text span.extent.start span.extent.stop), fun offset =>
    ⟨file.positionAt (span.extent.start + offset), ?_⟩⟩
  intro start moved outside
  have unplaced : ¬ file.Inside start ↔ outside := not_inside_iff file start
  have resolves : Writes bound (subject.written file offset) (subject.resolve bound offset) _ :=
    Subject.resolve_writes fileRead textRead proper ends offset
  refine ⟨?_, ?_, ?_, ?_, ?_, ?_, ?_⟩
  · rw [SourceFile.position_unknown_iff file proper, ← unplaced]
  · intro inside
    exact SourceFile.position_positive file proper start (Decidable.of_not_not (mt unplaced.mp inside))
  · intro inside
    rw [Subject.subject_lookup fileRead]
    exact SourceFile.lookup_inside file bound proper moved (Decidable.of_not_not (mt unplaced.mp inside))
  · intro beyond admits
    rw [Subject.subject_lookup fileRead]
    exact SourceFile.lookup_outside file bound moved (unplaced.mpr beyond) admits
  · intro beyond refuses
    rw [Subject.subject_lookup fileRead]
    exact SourceFile.lookup_too_long file bound moved (unplaced.mpr beyond) refuses
  · rw [← reported_name_eq]
    exact resolves.admitted
  · exact resolves.refused

theorem moved_span_is_fail_safe :
    let events : List Event :=
      [.handle ['a', 'b'] ['h'] ['p'] [0, 0, 7] none, .span (some 0) 0 none none none none,
        .span (some 0) 1 none (some ['g']) none none, .assign 0 (.parent (some 1)), .assign 0 (.start 5)]
    let scene := Scene.run events
    let file : SourceFile := ⟨['a', 'b'], ['h'], ['p'], [0, 0, 7], none⟩
    let span : Span := ⟨some file, ⟨5, 0⟩, none, none, some 1⟩
    scene.spans[0]? = some span ∧ scene.spans.Searches (some 0) [0, 1] (.found ['g']) ∧
      ∃ display position log, (scene.spans.subject 0 span).resolve .standard (-4) =
        .ok (⟨position, ⟨1, -4⟩, display, ['h']⟩, log) ∧ 1 ≤ position.line ∧ 1 ≤ position.column := by
  intro events scene file span
  have searches : scene.spans.Searches (some 0) [0, 1] (.found ['g']) :=
    .passed 0 span _ _ rfl rfl (.answered 1 ⟨some file, ⟨1, 1⟩, some ['g'], none, none⟩ _ rfl rfl)
  have table : (.handle, file) ∈ scene.files → ProperTable file.lineTable := fun _ => ⟨rfl, by decide⟩
  obtain ⟨display, safe⟩ := resolution_is_fail_safe events 0 span file [0, 1] (.found ['g']) .standard rfl rfl
    table searches (fun _ impossible => nomatch impossible)
  obtain ⟨position, -, positive, -, -, -, resolves, -⟩ := safe (-4)
  obtain ⟨log, resolved⟩ := resolves (by decide +kernel)
  exact ⟨rfl, searches, display, position, log, resolved, positive (by decide)⟩

theorem far_offset_is_not_absorbed :
    let far : Int := (Nat.pow 10 4300 : Nat)
    let file := SourceFile.inMemory ['a', 'b'] ['f'] none
    let span : Span := ⟨some file, ⟨1 - far, 0⟩, some ['g'], none, none⟩
    let scene := Scene.run [.source ['a', 'b'] (some ['f']) none none,
      .span (some 0) 0 none (some ['g']) none none, .assign 0 (.start (1 - far))]
    scene.spans[0]? = some span ∧ (.source, file) ∈ scene.files ∧
      scene.spans.Searches (some 0) [0] (.found ['g']) ∧
      (scene.spans.subject 0 span).resolve .standard (-1) = .error .unwritable := by
  intro far file span scene
  have searches : scene.spans.Searches (some 0) [0] (.found ['g']) := .answered 0 span _ rfl rfl
  have fileRead : (scene.spans.subject 0 span).file = .ok file := rfl
  have textRead : (scene.spans.subject 0 span).text = .ok (slice file.text (1 - far) 0) := rfl
  have ends : (scene.spans.subject 0 span).SearchEnds := trivial
  refine ⟨rfl, List.mem_singleton_self _, searches, ?_⟩
  apply (Subject.resolve_writes fileRead textRead (SourceFile.table_of_text_proper _) ends (-1)).refused
  decide +kernel

end SourceLocator
