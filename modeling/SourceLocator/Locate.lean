import SourceLocator.Config
import SourceLocator.Files.SourceFiles
import SourceLocator.Location.SpanGraph
import SourceLocator.Syntax.ParsedFile

/-!
Locating the nodes of source files, and a range of characters in one file.
-/

set_option autoImplicit false

namespace SourceLocator

structure Findings where
  locations : List Location
  grammars : List String
  log : Log

namespace Findings

def empty : Findings := ⟨[], [], []⟩

def append (a b : Findings) : Findings :=
  ⟨a.locations ++ b.locations, a.grammars ++ b.grammars, a.log ++ b.log⟩

-- What several searches come to one after the other, up to the first that fails.
def collect : List (Except Failure Findings) → Except Failure Findings
  | [] => .ok empty
  | .error failure :: _ => .error failure
  | .ok first :: rest =>
    match collect rest with
    | .ok others => .ok (first.append others)
    | .error failure => .error (failure.after first.log)

end Findings

structure Query where
  config : Config
  -- The node types asked for; none leave the choice to the configuration.
  nodeTypes : List (Option Text)
  -- Without a number nothing can be moved, so nothing can be located either.
  offset : Option Int

def commandLogger : String := "locscan.cli"

namespace FileTree

def parse (tree : FileTree) (parser : Parser) (path : Text) (language : Option Text) :
    Except Fault (Option ParsedFile) := do
  let language ← match language, Language.ofPath? (Path.ofText path) with
    | some language, _ => pure language
    | none, some language => pure language.name.toList
    | none, none => throw (.unsupportedPath path)
  let source ← tree.read (Path.ofText path)
  ParsedFile.parse parser (SourceFile.ofPath (Utf8.decode source) path) source language

def askedType : Option Text → Except Fault Scalar
  | some type => .ok (.text type)
  | none => .error .wrongKind

def wantedTypes (query : Query) (language : Language) : Except Fault (List Scalar) := do
  let types ←
    if query.nodeTypes.isEmpty then
      (Value.list (← query.config.nodeTypes language.name)).scalars
    else query.nodeTypes.mapM askedType
  return if types.isEmpty then language.declarationTypes.map Scalar.ofString else types

def countRecord (path : Text) (count : Nat) : Record :=
  { level := .debug, logger := commandLogger
    message := path ++ ": ".toList ++ Text.ofNat count ++ " node(s) located".toList }

def locateNode (parsed : ParsedFile) (offset : Option Int) (cursor : Cursor) :
    Except Fault Findings := do
  let some offset := offset | throw .wrongKind
  let (location, log) ← (parsed.subject cursor).resolve .standard offset
  return ⟨[location], [], log⟩

def locateNodes (parsed : ParsedFile) (types : List Scalar) (offset : Option Int) (path : Text) :
    Except Failure Findings := do
  let nodes := parsed.find fun type => types.contains (.ofString type)
  let found ← Findings.collect (nodes.map fun cursor =>
    (locateNode parsed offset cursor).mapError .ofFault)
  return ⟨found.locations, [parsed.language.grammar],
    found.log ++ [countRecord path found.locations.length]⟩

def locateFile (tree : FileTree) (parser : Parser) (query : Query) (path : Text) :
    Except Failure Findings := do
  match ← (tree.parse parser path none).mapError .ofFault with
  | none => return .empty
  | some parsed =>
    let types ← (wantedTypes query parsed.language).mapError .ofFault
    locateNodes parsed types query.offset path

-- What a search in a tree needs before any file is read: the query and the way of the search.
def search (tree : FileTree) (path : Text) (config : Config) (nodeTypes : List (Option Text))
    (offset : Option (Option Int)) : Except Fault (Query × List (Except Fault Path)) := do
  let offset ← match offset with
    | some offset => pure offset
    | none => some <$> config.offset
  tree.checkLength (Path.ofText path)
  if !tree.contains (Path.ofText path) then throw (.pathNotFound path)
  let enabled ← config.languages
  let files := tree.walk listingLimit (Path.ofText path) fun language =>
    enabled.contains (.ofString language.name)
  return (⟨config, nodeTypes, offset⟩, files)

-- Locates nodes in a file, or in all the source files of a directory. Where no offset is asked for,
-- the configuration says it.
def locate (tree : FileTree) (parser : Parser) (path : Text) (config : Config)
    (nodeTypes : List (Option Text)) (offset : Option (Option Int)) : Except Failure Findings := do
  let (query, files) ← (tree.search path config nodeTypes offset).mapError .ofFault
  Findings.collect (files.map fun file => do
    tree.locateFile parser query (← file.mapError .ofFault).text)

def locateRange (tree : FileTree) (path : Text) (extent : Extent) :
    Except Fault (Location × Log) := do
  tree.checkLength (Path.ofText path)
  match tree.at? (Path.ofText path) with
  | .ok ⟨_, .file content⟩ =>
    let file := SourceFile.ofPath (Utf8.decode content) path
    let span : Span := { file, extent, name := none, nameFailure := none, parent := none }
    (SpanGraph.subject [span] 0 span).resolve .standard 0
  | _ => throw (.fileNotFound path)

end FileTree

end SourceLocator
