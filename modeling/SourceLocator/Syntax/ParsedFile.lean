import SourceLocator.Language
import SourceLocator.Location.Resolve
import SourceLocator.Syntax.Tree
import SourceLocator.Text.Utf8

/-!
A source file with its syntax tree. The tree counts bytes and locations count characters; a node's
name is that of the nearest declaration around it.
-/

set_option autoImplicit false

namespace SourceLocator

structure Parser where
  installed : Bool
  parse : String → Bytes → SyntaxTree

structure ParsedFile where
  file : SourceFile
  language : Language
  source : Bytes
  root : SyntaxTree

namespace ParsedFile

def charOffset (parsed : ParsedFile) (position : Int) : Int :=
  Utf8.charOffset (Utf8.continuations parsed.source) position

def text (parsed : ParsedFile) (label : SyntaxLabel) : Text :=
  Utf8.decode (slice parsed.source label.startByte label.stopByte)

def extent (parsed : ParsedFile) (label : SyntaxLabel) : Extent :=
  ⟨parsed.charOffset label.startByte, parsed.charOffset label.stopByte⟩

-- The node that names a declaration: its first child in the role of a name, else its first named
-- child that is an identifier.
def nameNode? (language : Language) (tree : SyntaxTree) : Option SyntaxTree :=
  (tree.children.find? fun child => child.label.field == some "name").or
    (tree.children.find? fun child =>
      child.label.named && language.identifierTypes.contains child.label.type)

def declaredName? (parsed : ParsedFile) (tree : SyntaxTree) : Option Text :=
  if parsed.language.declarationTypes.contains tree.label.type then
    (nameNode? parsed.language tree).map fun node => parsed.text node.label
  else none

-- The first name of a chain of nodes that is not empty.
def firstName? (parsed : ParsedFile) : List SyntaxTree → Option Text
  | [] => none
  | tree :: rest =>
    match parsed.declaredName? tree with
    | some (c :: name) => some (c :: name)
    | _ => parsed.firstName? rest

def nearestName? (parsed : ParsedFile) (cursor : Cursor) : Option Text :=
  parsed.firstName? (cursor.tree :: cursor.ancestors)

def subject (parsed : ParsedFile) (cursor : Cursor) : Subject :=
  { file := .ok parsed.file, extent := parsed.extent cursor.label
    text := .ok (parsed.text cursor.label), nearestName := .ok (parsed.nearestName? cursor) }

def find (parsed : ParsedFile) (isWanted : String → Bool) : List Cursor :=
  (Cursor.walk parsed.root).filter fun cursor => isWanted cursor.label.type

-- Parses the bytes of a file. There is nothing without a parser, whatever the language.
def parse (parser : Parser) (file : SourceFile) (source : Bytes) (language : Text) :
    Except Fault (Option ParsedFile) :=
  if parser.installed then
    match Language.ofName? language with
    | none => .error (.unsupportedLanguage language)
    | some language => .ok (some ⟨file, language, source, parser.parse language.grammar source⟩)
  else .ok none

def ofText (parser : Parser) (text language name : Text) (derivedFrom : Option SourceFile) :
    Except Fault (Option ParsedFile) :=
  parse parser (SourceFile.inMemory text name derivedFrom) (Utf8.encode text) language

end ParsedFile

def SyntaxLabel.describe (label : SyntaxLabel) : Text :=
  "TreeSitterNode(type=".toList ++ Text.quoted label.type.toList ++
    ", start_byte=".toList ++ Text.ofInt label.startByte ++ [')']

end SourceLocator
