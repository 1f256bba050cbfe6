import SourceLocator.Location.Resolve

/-!
Spans of source files that name each other as parents. Any field of a span may be assigned at any
time, so parents may come to form a cycle; the search for a name then either meets a name or has no
end, and reading as many names as there are spans decides which.
-/

set_option autoImplicit false

namespace SourceLocator

abbrev SpanId := Nat

-- A stretch of a file. With a `nameFailure` every reading of its name fails.
structure Span where
  file : Option SourceFile
  extent : Extent
  name : Option Text
  nameFailure : Option NameFailure
  parent : Option SpanId

inductive Assignment where
  | start (offset : Int)
  | stop (offset : Int)
  | name (name : Option Text)
  | parent (parent : Option SpanId)
  | file (file : Option SourceFile)

namespace Span

def readName (span : Span) : Except Fault (Option Text) :=
  match span.nameFailure with
  | some failure => .error (.nameUnreadable failure)
  | none => .ok span.name

def sourceFile (span : Span) : Except Fault SourceFile :=
  match span.file with
  | some file => .ok file
  | none => .error .detached

def text (span : Span) : Except Fault Text := do
  return slice (← span.sourceFile).text span.extent.start span.extent.stop

def assign (span : Span) : Assignment → Span
  | .start offset => { span with extent := { span.extent with start := offset } }
  | .stop offset => { span with extent := { span.extent with stop := offset } }
  | .name name => { span with name }
  | .parent parent => { span with parent }
  | .file file => { span with file }

def describe (span : Span) : Except Fault Text := do
  let file ← span.sourceFile
  return "SpanNode(file=".toList ++ file.name.quoted ++
    ", start=".toList ++ Text.ofInt span.extent.start ++
    ", end=".toList ++ Text.ofInt span.extent.stop ++ [')']

end Span

-- The spans made so far; a span's identity is its index.
abbrev SpanGraph := List Span

inductive NameSearch where
  | found (name : Text)
  | nameless
  | failed (fault : Fault)
  | endless
deriving DecidableEq, Repr

namespace SpanGraph

def add (graph : SpanGraph) (span : Span) : SpanGraph := graph ++ [span]

def assign (graph : SpanGraph) (id : SpanId) (assignment : Assignment) : SpanGraph :=
  graph.modify id (·.assign assignment)

def searchWithin (graph : SpanGraph) : Nat → Option SpanId → NameSearch
  | _, none => .nameless
  | 0, some _ => .endless
  | reads + 1, some id =>
    match graph[id]? with
    | none => .nameless
    | some span =>
      match span.readName with
      | .error fault => .failed fault
      | .ok (some (c :: rest)) => .found (c :: rest)
      | .ok _ => searchWithin graph reads span.parent

def searchName (graph : SpanGraph) (id : SpanId) : NameSearch :=
  searchWithin graph graph.length (some id)

end SpanGraph

def NameSearch.outcome : NameSearch → Except Fault (Option Text)
  | .found name => .ok (some name)
  | .nameless => .ok none
  | .failed fault => .error fault
  | .endless => .error .endlessParents

def SpanGraph.subject (graph : SpanGraph) (id : SpanId) (span : Span) : Subject :=
  { file := span.sourceFile, extent := span.extent, text := span.text
    nearestName := (graph.searchName id).outcome }

end SourceLocator
