import SourceLocator.Config.Find
import SourceLocator.Config.Unfolding
import SourceLocator.Json.Reader
import SourceLocator.Text.Utf8
import SourceLocator.Yaml.Document

/-!
Loading a configuration file: JSON if its suffix says so, in any letter case, else YAML. Its text is
strict UTF-8 in which every line end counts as a line feed.
-/

set_option autoImplicit false

namespace SourceLocator.Config

def unifyLineEnds : Text → Text
  | [] => []
  | '\r' :: '\n' :: rest => '\n' :: unifyLineEnds rest
  | c :: rest => (if c = '\r' then '\n' else c) :: unifyLineEnds rest

def isJsonPath (path : Path) : Bool := path.foldedSuffix == ".json".toList

def decode (content : Bytes) : Except Fault Text :=
  if Utf8.wellFormed content then .ok (unifyLineEnds (Utf8.decode content))
  else .error .malformedUtf8

def isVacant : Value → Bool
  | .scalar .null => true
  | .scalar (.bool value) => !value
  | .scalar (.int value) => value == 0
  | .scalar (.real (.finite _ mantissa _)) => mantissa == 0
  | .scalar (.text value) => value.isEmpty
  | .scalar (.bytes value) => value.isEmpty
  | .scalar _ => false
  | .list items => items.isEmpty
  | .set items => items.isEmpty
  | .mapping fields => fields.isEmpty
  | .pair _ _ | .knot _ _ => false

def jsonLimits : Json.Limits := ⟨some Fault.digitLimit, some Fault.nestingLimit⟩

-- The document in a text. A vacant one is an empty mapping in YAML, but not in JSON.
def document (isJson : Bool) (text : Text) : Except Fault Value := do
  if isJson then return .ofJson (← Json.readWithin jsonLimits text)
  let (graph, root) ← Yaml.read text
  let value := graph.value root
  return if isVacant value then .emptyMapping else value

def loadFile (tree : FileTree) (path : Text) : Except Fault Config := do
  let place := Path.ofText path
  tree.checkLength place
  if !tree.contains place then throw (.configNotFound path)
  let text ← decode (← tree.read place)
  ofDocument path (← document (isJsonPath place) text)

def load (tree : FileTree) : Option Text → Except Fault Config
  | none => .ok standard
  | some [] => .ok standard
  | some path => loadFile tree path

end SourceLocator.Config
