import SourceLocator.Proofs.CharAccounts
import SourceLocator.Proofs.NodeDisplay

set_option autoImplicit false

namespace SourceLocator

section Between

variable {α : Type} (items : List α) (start stop : Int)

def between : List α :=
  (items.zipIdx.filter fun placed => decide (start ≤ placed.2 ∧ (placed.2 : Int) < stop)).map Prod.fst

def counted (length : Nat) (i : Int) : Int := if i < 0 then length + i else i

theorem between_from (first : Nat) :
    ((items.zipIdx first).filter fun placed => decide (start ≤ placed.2 ∧ (placed.2 : Int) < stop)).map Prod.fst =
      (items.take (stop - first).toNat).drop (start - first).toNat := by
  induction items generalizing first with
  | nil => rw [List.zipIdx_nil, List.take_nil, List.drop_nil]; rfl
  | cons item rest ih =>
      rw [List.zipIdx_cons, List.filter_cons]
      by_cases ended : stop ≤ first
      · have stopHere : (stop - first).toNat = 0 := by omega
        have stopLater : (stop - (first + 1 : Nat)).toNat = 0 := by omega
        rw [if_neg (by rw [decide_eq_true_eq]; omega), ih, stopHere, stopLater, List.take_zero, List.take_zero, List.drop_nil, List.drop_nil]
      · have stopHere : (stop - first).toNat = (stop - (first + 1 : Nat)).toNat + 1 := by omega
        by_cases begun : start ≤ first
        · have startHere : (start - first).toNat = 0 := by omega
          have startLater : (start - (first + 1 : Nat)).toNat = 0 := by omega
          rw [if_pos (by rw [decide_eq_true_eq]; omega), List.map_cons, ih, stopHere, startHere, startLater, List.take_succ_cons]
          rfl
        · have startHere : (start - first).toNat = (start - (first + 1 : Nat)).toNat + 1 := by omega
          rw [if_neg (by rw [decide_eq_true_eq]; omega), ih, stopHere, startHere, List.take_succ_cons, List.drop_succ_cons]

theorem between_eq : between items start stop = (items.take stop.toNat).drop start.toNat := by
  have whole := between_from items start stop 0
  rwa [Int.natCast_zero, Int.sub_zero, Int.sub_zero] at whole

theorem between_length : (between items start stop).length = min stop.toNat items.length - start.toNat := by
  rw [between_eq, List.length_drop, List.length_take]

theorem bound_counted (length : Nat) (i : Int) : bound length i = min (counted length i).toNat length := by
  unfold bound counted
  split <;> omega

theorem slice_counted :
    slice items start stop = between items (counted items.length start) (counted items.length stop) := by
  have front : items.take (min (counted items.length stop).toNat items.length) =
      items.take (counted items.length stop).toNat := List.take_eq_take_min.symm
  rw [between_eq, slice, bound_counted, bound_counted, front]
  by_cases inside : (counted items.length start).toNat ≤ items.length
  · rw [Nat.min_eq_left inside]
  · have short := List.length_take_le' (counted items.length stop).toNat items
    rw [List.drop_eq_nil_of_le (by omega), List.drop_eq_nil_of_le (by omega)]

theorem slice_between_iff :
    slice items start stop = between items start stop ↔
      (stop < 0 → counted items.length stop ≤ max 0 (counted items.length start)) ∧
        (start < 0 → 0 < stop → counted items.length start ≤ 0) := by
  have sameLength : (slice items start stop).length = (between items start stop).length ↔
      (stop < 0 → counted items.length stop ≤ max 0 (counted items.length start)) ∧
        (start < 0 → 0 < stop → counted items.length start ≤ 0) := by
    rw [slice_counted, between_length, between_length]
    unfold counted
    by_cases startNegative : start < 0
    · by_cases stopNegative : stop < 0
      · rw [if_pos startNegative, if_pos stopNegative]
        omega
      · rw [if_pos startNegative, if_neg stopNegative]
        omega
    · rw [if_neg startNegative]
      split <;> omega
  rw [← sameLength]
  refine ⟨congrArg List.length, ?_⟩
  intro same
  by_cases negative : stop < 0
  · have nothing : between items start stop = [] := by
      rw [between_eq, Int.toNat_of_nonpos (Int.le_of_lt negative), List.take_zero, List.drop_nil]
    rw [nothing] at same ⊢
    exact List.eq_nil_of_length_eq_zero same
  · -- Both stop at the same place, so that the slice is the end of what lies between.
    have stopAsGiven : counted items.length stop = stop := if_neg negative
    have later : start.toNat ≤ (counted items.length start).toNat := by
      unfold counted
      omega
    refine List.IsSuffix.eq_of_length ?_ same
    rw [slice_counted, between_eq, between_eq, stopAsGiven]
    exact List.drop_suffix_drop_left _ later

theorem slice_past_end (beyond : (items.length : Int) ≤ start) : slice items start stop = [] := by
  have whole : bound items.length start = items.length := by
    rw [bound, if_neg (by omega)]
    omega
  apply List.eq_nil_of_length_eq_zero
  rw [slice_length, whole]
  exact Nat.sub_eq_zero_of_le (bound_le items.length stop)

theorem slice_negative_nil_iff (startNegative : start < 0) (stopNegative : stop < 0) :
    slice items start stop = [] ↔ stop ≤ start ∨ items.length + stop ≤ 0 := by
  rw [← List.length_eq_zero_iff, slice_length, bound, bound, if_pos startNegative, if_pos stopNegative]
  omega

end Between

def SourceFile.quotedNowhere (file : SourceFile) (text : Text) : Text :=
  '\x27' :: text ++ "' at (-1,-1) in ".toList ++ file.path

theorem SourceFile.quote_at_unknown (file : SourceFile) (text : Text) :
    file.quoteAt text .unknown = file.quotedNowhere text := by
  have number : Text.ofInt (-1) = ['-', '1'] := by decide
  simp [quoteAt, Position.unknown, number, quotedNowhere]

theorem Subject.display_outside {subject : Subject} {file : SourceFile} {text : Text} (bound : DigitBound)
    (fileRead : subject.file = .ok file) (textRead : subject.text = .ok text) (ends : subject.SearchEnds)
    (nameless : subject.shownName? = none)
    (beyond : subject.extent.start < 0 ∨ (file.text.length : Int) < subject.extent.start) :
    Writes bound [subject.extent.start, -1, -1] (subject.displayText bound) (file.quotedNowhere text) := by
  have outside : ¬ file.Inside subject.extent.start := by
    rw [SourceFile.Inside]
    omega
  rw [display_text_eq subject bound ends, nameless]
  dsimp only
  rw [fallbackText, subject_lookup fileRead, shift_zero]
  apply writes_then bound [subject.extent.start] [-1, -1] _ _ _ _ (file.lookup_outside_writes bound _ outside)
  intro log
  simp only [text_at_eq fileRead textRead, Lookup.position, SourceFile.quote_at_unknown]
  exact writes_text bound _ _ log

theorem Span.text_of_file (span : Span) (file : SourceFile) (ofFile : span.file = some file) :
    span.text = .ok (slice file.text span.extent.start span.extent.stop) := by
  rw [text, sourceFile, ofFile]
  rfl

theorem ParsedFile.made_text (parsed : ParsedFile) (made : parsed.Made) :
    parsed.file.text = Utf8.decode parsed.source := by
  rcases made with ⟨parser, text, language, name, derivedFrom, result⟩ | ⟨tree, parser, path, language, result⟩
  · obtain ⟨file, source⟩ := parse_fields _ _ _ _ _ result
    rw [file, source, Utf8.decode_encode]
    rfl
  · obtain ⟨content, stored⟩ := tree.parse_reads parser path language parsed result
    obtain ⟨file, source⟩ := tree_parse_fields tree parser path language content parsed stored result
    rw [file, source]
    rfl

theorem ParsedFile.past_end_text (parsed : ParsedFile) (sameText : parsed.file.text = Utf8.decode parsed.source)
    (label : SyntaxLabel) (beyond : (parsed.file.text.length : Int) < parsed.charOffset label.startByte) :
    parsed.text label = [] := by
  have pastBytes : (parsed.source.length : Int) ≤ label.startByte := by
    apply Int.le_of_lt
    apply Int.lt_of_not_ge
    intro within
    rw [sameText] at beyond
    exact Int.not_lt.mpr (Utf8.char_offset_within parsed.source label.startByte within) beyond
  rw [text, slice_past_end _ _ _ pastBytes, Utf8.decode, Utf8.pieces]
  rfl

-- A slice counts bounds below zero from the end. So what starts past the end shows nothing, and a range below zero may
-- show characters that are not in it, as if they were at an unknown position.
theorem range_text_counts_from_end (bound : DigitBound) :
    (∀ (span : Span) (file : SourceFile), span.file = some file →
      let length := file.text.length
      let start := span.extent.start
      let stop := span.extent.stop
      let shown := between file.text (counted length start) (counted length stop)
      span.text = .ok shown ∧
        (span.text = .ok (between file.text start stop) ↔
          (stop < 0 → counted length stop ≤ max 0 (counted length start)) ∧
            (start < 0 → 0 < stop → counted length start ≤ 0)) ∧
        (length < start → shown = []) ∧
        (start < 0 → stop < 0 → (shown = [] ↔ stop ≤ start ∨ length + stop ≤ 0)) ∧
        ∀ (graph : SpanGraph) (id : SpanId),
          (graph.subject id span).SearchEnds → (graph.subject id span).shownName? = none → start < 0 ∨ length < start →
          Writes bound [start, -1, -1] ((graph.subject id span).displayText bound) (file.quotedNowhere shown)) ∧
    ∀ (parsed : ParsedFile) (cursor : Cursor), parsed.Made →
      let length := parsed.file.text.length
      let start := parsed.charOffset cursor.label.startByte
      let shown := Utf8.decode (between parsed.source (counted parsed.source.length cursor.label.startByte)
        (counted parsed.source.length cursor.label.stopByte))
      parsed.text cursor.label = shown ∧ (length < start → shown = []) ∧
        ((parsed.subject cursor).shownName? = none → start < 0 ∨ length < start →
          Writes bound [start, -1, -1] ((parsed.subject cursor).displayText bound) (parsed.file.quotedNowhere shown)) := by
  refine ⟨?_, ?_⟩
  · intro span file ofFile length start stop shown
    have sliced : slice file.text start stop = shown := slice_counted file.text start stop
    have text := span.text_of_file file ofFile
    refine ⟨sliced ▸ text, ?_, ?_, ?_, ?_⟩
    · rw [text, Except.ok.injEq]
      exact slice_between_iff file.text start stop
    · intro beyond
      rw [← sliced]
      exact slice_past_end file.text start stop (Int.le_of_lt beyond)
    · rw [← sliced]
      exact slice_negative_nil_iff file.text start stop
    · intro graph id ends nameless beyond
      have fileRead : (graph.subject id span).file = .ok file := by
        change span.sourceFile = _
        rw [Span.sourceFile, ofFile]
      exact Subject.display_outside bound fileRead (sliced ▸ text) ends nameless beyond
  · intro parsed cursor made length start shown
    have sliced : parsed.text cursor.label = shown :=
      congrArg Utf8.decode (slice_counted parsed.source cursor.label.startByte cursor.label.stopByte)
    refine ⟨sliced, ?_, ?_⟩
    · intro beyond
      rw [← sliced]
      exact parsed.past_end_text (parsed.made_text made) cursor.label beyond
    · intro nameless beyond
      have fileRead : (parsed.subject cursor).file = .ok parsed.file := rfl
      have textRead : (parsed.subject cursor).text = .ok shown := congrArg Except.ok sliced
      have ends : (parsed.subject cursor).SearchEnds := trivial
      exact Subject.display_outside bound fileRead textRead ends nameless beyond

theorem past_end_shows_nothing :
    let file := SourceFile.inMemory ['}'] ['f'] none
    let span : Span := ⟨some file, ⟨5, 1⟩, none, none, none⟩
    let content : Bytes := [0x7D]
    let parsed : ParsedFile := ⟨.ofPath (Utf8.decode content) ['a'], .python, content, .lone 1⟩
    let cursor : Cursor := ⟨.node ⟨"block", 3, 4, true, none⟩ [], []⟩
    (∃ log, (SpanGraph.subject [span] 0 span).displayText .standard = .ok ("'' at (-1,-1) in f".toList, log)) ∧
      parsed.Made ∧
      ∃ log, (parsed.subject cursor).displayText .standard = .ok ("'' at (-1,-1) in a".toList, log) := by
  intro file span content parsed cursor
  have made : parsed.Made := .inr ⟨.ofEntries [(['a'], .file content)], ⟨true, fun _ source => .lone source.length⟩,
    ['a'], some "python".toList, rfl⟩
  obtain ⟨spans, nodes⟩ := range_text_counts_from_end .standard
  obtain ⟨-, -, empty, -, shows⟩ := spans span file rfl
  obtain ⟨-, emptyNode, showsNode⟩ := nodes parsed cursor made
  have spanWrites := shows [span] 0 trivial rfl (.inr (by decide))
  have nodeWrites := showsNode rfl (.inr (by decide +kernel))
  rw [empty (by decide)] at spanWrites
  rw [emptyNode (by decide +kernel)] at nodeWrites
  exact ⟨spanWrites.admitted (by decide +kernel), made, nodeWrites.admitted (by decide +kernel)⟩

theorem negative_range_shows_characters :
    let tree := FileTree.ofEntries [(['a'], .file [0x61, 0x62])]
    let span : Span := ⟨some (.ofPath ['a', 'b'] ['a']), ⟨-2, -1⟩, none, none, none⟩
    between ['a', 'b'] (-2) (-1) = [] ∧ span.text = .ok ['a'] ∧
      (tree.locateRange ['a'] ⟨-2, -1⟩).toOption.map Prod.fst =
        some ⟨⟨-1, -1⟩, ⟨-2, -1⟩, "'a' at (-1,-1) in a".toList, ['a']⟩ := by
  refine ⟨by decide, rfl, ?_⟩
  decide +kernel

end SourceLocator
