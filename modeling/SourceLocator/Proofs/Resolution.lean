import SourceLocator.Location.Resolve
import SourceLocator.Proofs.LinePlacement

set_option autoImplicit false

namespace SourceLocator

structure Writes {α : Type} (bound : DigitBound) (integers : List Int) (outcome : Except Fault (α × Log))
    (value : α) : Prop where
  admitted : integers.all bound.admits = true → ∃ log, outcome = .ok (value, log)
  refused : integers.all bound.admits = false → outcome = .error .unwritable

theorem writes_nothing {α : Type} (bound : DigitBound) (value : α) (log : Log) :
    Writes bound [] (.ok (value, log)) value where
  admitted _ := ⟨log, rfl⟩
  refused := Bool.noConfusion

theorem writes_text (bound : DigitBound) (integers : List Int) (text : Text) (log : Log) :
    Writes bound integers (do return (← bound.write integers text, log)) text where
  admitted := by
    intro admitted
    refine ⟨log, ?_⟩
    rw [DigitBound.write, if_pos admitted]
    rfl
  refused := by
    intro refused
    rw [DigitBound.write, if_neg (by rw [refused]; decide)]
    rfl

theorem writes_then {α β : Type} (bound : DigitBound) (integers later : List Int)
    (outcome : Except Fault (α × Log)) (next : α × Log → Except Fault (β × Log)) (a : α) (b : β)
    (first : Writes bound integers outcome a) (second : ∀ log, Writes bound later (next (a, log)) b) :
    Writes bound (integers ++ later) (outcome >>= next) b where
  admitted := by
    intro admitted
    rw [List.all_append, Bool.and_eq_true] at admitted
    obtain ⟨log, reached⟩ := first.admitted admitted.1
    rw [reached]
    exact (second log).admitted admitted.2
  refused := by
    intro refused
    cases reached : integers.all bound.admits with
    | false =>
        rw [first.refused reached]
        rfl
    | true =>
        rw [List.all_append, reached, Bool.true_and] at refused
        obtain ⟨log, outcomeEq⟩ := first.admitted reached
        rw [outcomeEq]
        exact (second log).refused refused

namespace SourceFile

def positionAt (file : SourceFile) (offset : Int) : Position :=
  let started := file.lineTable.filter fun start => decide (start ≤ offset)
  if file.Inside offset then ⟨started.length, offset - started.getLastD 0 + 1⟩ else .unknown

theorem position_outside (file : SourceFile) (offset : Int) (outside : ¬ file.Inside offset) :
    file.positionAt offset = .unknown := by
  rw [positionAt, if_neg outside]

theorem position_holds (file : SourceFile) (offset : Int) (inside : file.Inside offset) (line : Nat)
    (start : Int) (proper : ProperTable file.lineTable)
    (holds : HoldsOffset file.lineTable line start offset) :
    file.positionAt offset = ⟨line, offset - start + 1⟩ := by
  obtain ⟨begun, held⟩ := count_up_to_holds file.lineTable proper offset inside.1
  obtain ⟨rfl, rfl⟩ := holds_offset_unique _ proper.ascending _ _ _ _ _ held holds
  have last : (file.lineTable.filter fun start => decide (start ≤ offset)).getLast? = some begun := by
    rw [← take_count_up_to file.lineTable proper.ascending offset, List.getLast?_take,
      if_neg (Nat.ne_of_gt held.numbered), held.begins, Option.some_or]
  rw [positionAt, if_pos inside, ← count_up_to_eq file.lineTable proper.ascending offset, List.getLastD_eq_getLast?,
    last, Option.getD_some]

theorem place_position (file : SourceFile) (bound : DigitBound) (proper : ProperTable file.lineTable)
    (offset : Int) (inside : file.Inside offset) :
    ∃ content, file.place offset bound = .ok ⟨file.positionAt offset, content⟩ := by
  obtain ⟨line, start, holds, placed⟩ := place_inside file bound proper offset inside
  rw [position_holds file offset inside line start proper holds]
  exact ⟨_, placed⟩

theorem position_positive (file : SourceFile) (proper : ProperTable file.lineTable) (offset : Int)
    (inside : file.Inside offset) :
    1 ≤ (file.positionAt offset).line ∧ 1 ≤ (file.positionAt offset).column := by
  obtain ⟨line, start, holds, -⟩ := place_inside file none proper offset inside
  rw [position_holds file offset inside line start proper holds]
  have numbered := holds.numbered
  have reached := holds.reached
  constructor <;> dsimp only <;> omega

theorem position_unknown_iff (file : SourceFile) (proper : ProperTable file.lineTable) (offset : Int) :
    file.positionAt offset = .unknown ↔ ¬ file.Inside offset := by
  constructor
  · intro unknown inside
    have positive := (position_positive file proper offset inside).1
    rw [unknown] at positive
    exact absurd positive (by decide)
  · exact position_outside file offset

def unplaced (file : SourceFile) (offset : Int) : List Int :=
  if file.Inside offset then [] else [offset]

def found (file : SourceFile) (extent : Extent) : Lookup :=
  if file.Inside extent.start then .resolved (file.positionAt extent.start) else .outOfRange extent

theorem found_position (file : SourceFile) (extent : Extent) :
    (file.found extent).position = file.positionAt extent.start := by
  by_cases inside : file.Inside extent.start
  · rw [found, if_pos inside]
    rfl
  · rw [found, if_neg inside, position_outside file _ inside]
    rfl

theorem lookup_inside (file : SourceFile) (bound : DigitBound) (proper : ProperTable file.lineTable)
    (extent : Extent) (inside : file.Inside extent.start) :
    ∃ log, file.lookup bound extent = .ok (.resolved (file.positionAt extent.start), log) := by
  obtain ⟨content, placed⟩ := place_position file bound proper extent.start inside
  rw [lookup, placed]
  exact ⟨_, rfl⟩

theorem lookup_outside (file : SourceFile) (bound : DigitBound) (extent : Extent)
    (outside : ¬ file.Inside extent.start) (admits : bound.admits extent.start = true) :
    ∃ log, file.lookup bound extent = .ok (.outOfRange extent, log) := by
  rw [lookup, place_outside file bound _ outside, if_pos admits]
  exact ⟨_, rfl⟩

theorem lookup_too_long (file : SourceFile) (bound : DigitBound) (extent : Extent)
    (outside : ¬ file.Inside extent.start) (refuses : bound.admits extent.start = false) :
    file.lookup bound extent = .error .unwritable := by
  rw [lookup, place_outside file bound _ outside, if_neg (by rw [refuses]; decide)]

theorem lookup_outside_writes (file : SourceFile) (bound : DigitBound) (extent : Extent)
    (outside : ¬ file.Inside extent.start) :
    Writes bound [extent.start] (file.lookup bound extent) (.outOfRange extent) where
  admitted := by
    intro admitted
    rw [List.all_cons, List.all_nil, Bool.and_true] at admitted
    exact lookup_outside file bound extent outside admitted
  refused := by
    intro refused
    rw [List.all_cons, List.all_nil, Bool.and_true] at refused
    exact lookup_too_long file bound extent outside refused

theorem lookup_writes (file : SourceFile) (bound : DigitBound) (proper : ProperTable file.lineTable)
    (extent : Extent) :
    Writes bound (file.unplaced extent.start) (file.lookup bound extent) (file.found extent) := by
  rw [unplaced, found]
  by_cases inside : file.Inside extent.start
  · obtain ⟨log, looked⟩ := lookup_inside file bound proper extent inside
    rw [if_pos inside, if_pos inside, looked]
    exact writes_nothing bound _ log
  · rw [if_neg inside, if_neg inside]
    exact lookup_outside_writes file bound extent inside

end SourceFile

namespace Subject

def shownName? (subject : Subject) : Option Text :=
  match subject.nearestName with
  | .ok (some (c :: rest)) => some (c :: rest)
  | _ => none

def SearchEnds (subject : Subject) : Prop :=
  match subject.nearestName with
  | .ok _ => True
  | .error fault => fault.isRecoverable = true

theorem display_text_eq (subject : Subject) (bound : DigitBound) (ends : subject.SearchEnds) :
    subject.displayText bound =
      match subject.shownName? with
      | some name => .ok (name, [])
      | none => subject.fallbackText bound := by
  unfold displayText orElseText shownName?
  unfold SearchEnds at ends
  cases search : subject.nearestName with
  | ok name =>
      cases name with
      | none => rfl
      | some name => cases name <;> rfl
  | error fault =>
      rw [search] at ends
      dsimp only at ends ⊢
      rw [if_pos ends]

def display (subject : Subject) (file : SourceFile) (text : Text) : Text :=
  match subject.shownName? with
  | some name => name
  | none => file.quoteAt text (file.positionAt subject.extent.start)

def quoted (subject : Subject) (file : SourceFile) : List Int :=
  match subject.shownName? with
  | some _ => []
  | none =>
      let position := file.positionAt subject.extent.start
      file.unplaced subject.extent.start ++ [position.line, position.column]

def written (subject : Subject) (file : SourceFile) (offset : Int) : List Int :=
  file.unplaced (subject.extent.start + offset) ++ subject.quoted file

section Resolve

variable {subject : Subject} {file : SourceFile} {text : Text} {bound : DigitBound}

theorem shift_zero (extent : Extent) : extent.shift 0 = extent := by
  rw [Extent.shift, Int.add_zero, Int.add_zero]

theorem subject_lookup (fileRead : subject.file = .ok file) (offset : Int) :
    subject.lookup bound offset = file.lookup bound (subject.extent.shift offset) := by
  rw [lookup, fileRead]
  rfl

theorem text_at_eq (fileRead : subject.file = .ok file) (textRead : subject.text = .ok text)
    (position : Position) :
    subject.textAt bound position =
      bound.write [position.line, position.column] (file.quoteAt text position) := by
  rw [textAt, fileRead, textRead]
  rfl

theorem fallback_text_writes (fileRead : subject.file = .ok file) (textRead : subject.text = .ok text)
    (proper : ProperTable file.lineTable) (nameless : subject.shownName? = none) :
    Writes bound (subject.quoted file) (subject.fallbackText bound) (subject.display file text) := by
  have looked := SourceFile.lookup_writes file bound proper subject.extent
  rw [quoted, display, nameless, fallbackText, subject_lookup fileRead, shift_zero]
  apply writes_then bound _ _ _ _ _ _ looked
  intro log
  simp only [text_at_eq fileRead textRead, SourceFile.found_position]
  exact writes_text bound _ _ log

theorem display_text_writes (fileRead : subject.file = .ok file) (textRead : subject.text = .ok text)
    (proper : ProperTable file.lineTable) (ends : subject.SearchEnds) :
    Writes bound (subject.quoted file) (subject.displayText bound) (subject.display file text) := by
  rw [display_text_eq subject bound ends]
  cases shown : subject.shownName? with
  | some name =>
      rw [quoted, display, shown]
      exact writes_nothing bound name []
  | none => exact fallback_text_writes fileRead textRead proper shown

theorem resolve_writes (fileRead : subject.file = .ok file) (textRead : subject.text = .ok text)
    (proper : ProperTable file.lineTable) (ends : subject.SearchEnds) (offset : Int) :
    Writes bound (subject.written file offset) (subject.resolve bound offset)
      ⟨file.positionAt (subject.extent.start + offset), subject.extent.shift offset,
        subject.display file text, file.reportedName⟩ := by
  have looked := SourceFile.lookup_writes file bound proper (subject.extent.shift offset)
  have displayed : Writes bound (subject.quoted file) (subject.displayText bound) (subject.display file text) :=
    display_text_writes fileRead textRead proper ends
  have reported : subject.reportedFile = .ok file.reportedName := by
    rw [reportedFile, fileRead]
    rfl
  rw [resolve, subject_lookup fileRead, written]
  apply writes_then bound _ _ _ _ _ _ looked
  intro log
  rw [← List.append_nil (subject.quoted file)]
  apply writes_then bound _ _ _ _ _ _ displayed
  intro more
  simp only [reported, SourceFile.found_position]
  exact writes_nothing bound _ (log ++ more)

end Resolve

end Subject

end SourceLocator
