import SourceLocator.Proofs.NameSearch
import SourceLocator.Proofs.PositionOrder
import SourceLocator.Proofs.Resolution

set_option autoImplicit false

namespace SourceLocator

inductive FileKind where
  | source
  | handle
deriving DecidableEq, Repr

abbrev FileId := Nat

structure Scene where
  files : List (FileKind × SourceFile)
  spans : SpanGraph

inductive Change where
  | start (offset : Int)
  | stop (offset : Int)
  | name (name : Option Text)
  | parent (parent : Option SpanId)
  | file (file : Option FileId)

inductive Event where
  | source (text : Text) (name path : Option Text) (origin : Option FileId)
  | handle (text name path : Text) (lineTable : List Int) (origin : Option FileId)
  | span (file : Option FileId) (start : Int) (stop : Option Int) (name : Option Text)
      (failure : Option NameFailure) (parent : Option SpanId)
  | assign (id : SpanId) (change : Change)

namespace Scene

def file? (scene : Scene) (id : Option FileId) : Option SourceFile :=
  (id.bind fun id => scene.files[id]?).map Prod.snd

def span? (scene : Scene) (id : Option SpanId) : Option SpanId :=
  id.filter fun id => decide (id < scene.spans.length)

def assignment (scene : Scene) : Change → Assignment
  | .start offset => .start offset
  | .stop offset => .stop offset
  | .name name => .name name
  | .parent parent => .parent (scene.span? parent)
  | .file file => .file (scene.file? file)

def addFile (scene : Scene) (kind : FileKind) (file : SourceFile) : Scene :=
  { scene with files := scene.files ++ [(kind, file)] }

def addSpan (scene : Scene) (span : Span) : Scene := { scene with spans := scene.spans.add span }

def step (scene : Scene) : Event → Scene
  | .source text name path origin =>
      match SourceFile.make text name path (scene.file? origin) with
      | .ok file => scene.addFile .source file
      | .error _ => scene
  | .handle text name path lineTable origin =>
      scene.addFile .handle ⟨text, name, path, lineTable, scene.file? origin⟩
  | .span file start stop name failure parent =>
      scene.addSpan ⟨scene.file? file, ⟨start, stop.getD start⟩, name, failure, scene.span? parent⟩
  | .assign id change => { scene with spans := scene.spans.assign id (scene.assignment change) }

def run (events : List Event) : Scene := events.foldl step ⟨[], []⟩

def HasFile (scene : Scene) (file : SourceFile) : Prop := ∃ kind, (kind, file) ∈ scene.files

structure Sound (scene : Scene) : Prop where
  tables : ∀ file, (.source, file) ∈ scene.files → file.lineTable = SourceFile.lineTableOf file.text
  attached : ∀ span ∈ scene.spans, ∀ file, span.file = some file → scene.HasFile file

theorem file_of_number (scene : Scene) (id : Option FileId) (file : SourceFile) (found : scene.file? id = some file) :
    scene.HasFile file := by
  obtain ⟨⟨kind, same⟩, entry, rfl⟩ := Option.map_eq_some_iff.mp found
  obtain ⟨number, -, listed⟩ := Option.bind_eq_some_iff.mp entry
  exact ⟨kind, List.mem_of_getElem? listed⟩

theorem add_file_sound (scene : Scene) (kind : FileKind) (file : SourceFile) (sound : scene.Sound)
    (table : kind = .source → file.lineTable = SourceFile.lineTableOf file.text) :
    (scene.addFile kind file).Sound where
  tables := by
    intro other member
    rcases List.mem_append.mp member with old | new
    · exact sound.tables other old
    · cases List.mem_singleton.mp new
      exact table rfl
  attached := by
    intro span member other attached
    obtain ⟨otherKind, old⟩ := sound.attached span member other attached
    exact ⟨otherKind, List.mem_append_left _ old⟩

theorem add_span_sound (scene : Scene) (span : Span) (sound : scene.Sound)
    (known : ∀ file, span.file = some file → scene.HasFile file) : (scene.addSpan span).Sound where
  tables := sound.tables
  attached := by
    intro other member
    rcases List.mem_append.mp member with old | new
    · exact sound.attached other old
    · cases List.mem_singleton.mp new
      exact known

theorem assigned_span (graph : SpanGraph) (id : SpanId) (assignment : Assignment) (span : Span)
    (member : span ∈ graph.assign id assignment) : span ∈ graph ∨ ∃ old ∈ graph, span = old.assign assignment := by
  obtain ⟨i, found⟩ := List.mem_iff_getElem?.mp member
  rw [SpanGraph.assign, List.getElem?_modify] at found
  obtain ⟨old, present, changed⟩ := Option.map_eq_some_iff.mp found
  by_cases here : id = i
  · rw [if_pos here] at changed
    exact .inr ⟨old, List.mem_of_getElem? present, changed.symm⟩
  · rw [if_neg here] at changed
    cases changed
    exact .inl (List.mem_of_getElem? present)

theorem changed_span_file (scene : Scene) (change : Change) (span : Span) (file : SourceFile)
    (attached : (span.assign (scene.assignment change)).file = some file) :
    span.file = some file ∨ scene.HasFile file := by
  cases change with
  | file given => exact .inr (file_of_number scene given file attached)
  | start offset => exact .inl attached
  | stop offset => exact .inl attached
  | name name => exact .inl attached
  | parent parent => exact .inl attached

theorem assign_sound (scene : Scene) (id : SpanId) (change : Change) (sound : scene.Sound) :
    (scene.step (.assign id change)).Sound where
  tables := sound.tables
  attached := by
    intro span member file attached
    rcases assigned_span scene.spans id _ span member with kept | ⟨old, present, rfl⟩
    · exact sound.attached span kept file attached
    · rcases changed_span_file scene change old file attached with before | known
      · exact sound.attached old present file before
      · exact known

theorem step_sound (scene : Scene) (event : Event) (sound : scene.Sound) : (scene.step event).Sound := by
  cases event with
  | source text name path origin =>
      rw [step]
      cases made : SourceFile.make text name path (scene.file? origin) with
      | error fault => exact sound
      | ok file =>
          obtain ⟨-, table⟩ := SourceFile.make_fields text name path _ file made
          exact add_file_sound scene .source file sound fun _ => table
  | handle text name path lineTable origin =>
      apply add_file_sound scene .handle _ sound
      intro impossible
      cases impossible
  | span file start stop name failure parent =>
      exact add_span_sound scene _ sound fun known found => file_of_number scene file known found
  | assign id change => exact assign_sound scene id change sound

theorem run_sound (events : List Event) : (run events).Sound := by
  have preserved : ∀ scene : Scene, scene.Sound → (events.foldl step scene).Sound := by
    induction events with
    | nil => exact fun _ sound => sound
    | cons event rest ih => exact fun scene sound => ih (scene.step event) (step_sound scene event sound)
  apply preserved
  exact ⟨fun _ member => absurd member List.not_mem_nil, fun _ member => absurd member List.not_mem_nil⟩

theorem attached_file_proper (scene : Scene) (sound : scene.Sound) (span : Span) (member : span ∈ scene.spans)
    (file : SourceFile) (attached : span.file = some file)
    (table : (.handle, file) ∈ scene.files → ProperTable file.lineTable) : ProperTable file.lineTable := by
  obtain ⟨kind, listed⟩ := sound.attached span member file attached
  cases kind with
  | handle => exact table listed
  | source => exact SourceFile.own_table_proper file (sound.tables file listed)

end Scene

end SourceLocator
