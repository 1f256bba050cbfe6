import SourceLocator.Config.Merge

/-!
A configuration and its settings. A setting is read when it is needed, so a value of the wrong kind
is a fault only then; only the places of node types are checked beforehand.
-/

set_option autoImplicit false

namespace SourceLocator

structure Config where
  data : Value

namespace Config

def defaultLanguages : List String :=
  ["c", "cpp", "csharp", "go", "java", "kotlin", "javascript", "typescript", "python", "ruby",
   "rust", "swift"]

def mappingOf (fields : List (String × Value)) : Value :=
  .mapping (fields.map fun (name, value) => (.ofString name, value))

def defaultFields : Fields Value :=
  [(.ofString "version", .int 1),
   (.ofString "languages", mappingOf [("enabled", .list (defaultLanguages.map Value.text))]),
   (.ofString "locate", mappingOf [("node_types", .emptyMapping), ("offset", .int 0)]),
   (.ofString "reporting",
     mappingOf [("format", .text "text"), ("display_text_max_length", .int 80)]),
   (.ofString "logging", mappingOf [("level", .text "WARNING")])]

def standard : Config := ⟨.mapping defaultFields⟩

def overDefaults (fields : Fields Value) : Config := ⟨.mapping (Fields.merge defaultFields fields)⟩

def holdsLists (value : Value) : Bool :=
  value.fields?.any fun fields => fields.all fun (_, item) => item.isList

def ofDocument (path : Text) (document : Value) : Except Fault Config := do
  let some fields := document.fields? | throw (.configNotMapping path)
  let some locate := ((fields.get? (.ofString "locate")).getD .emptyMapping).fields?
    | throw (.locateNotMapping path)
  if holdsLists ((locate.get? (.ofString "node_types")).getD .emptyMapping) then
    return overDefaults fields
  else throw (.nodeTypesNotLists path)

def part (config : Config) (name : String) : Except Fault Value :=
  config.data.fieldD name .emptyMapping

def languages (config : Config) : Except Fault (List Scalar) := do
  (← (← config.part "languages").fieldD "enabled" (.list [])).scalars

-- The node types to locate in a language; none stand for its declarations.
def nodeTypes (config : Config) (language : Text) : Except Fault (List Value) := do
  let byLanguage ← (← config.part "locate").fieldD "node_types" .emptyMapping
  (← byLanguage.fieldD language (.list [])).items

def offset (config : Config) : Except Fault Int := do
  (← (← config.part "locate").fieldD "offset" (.int 0)).toInt

def reporting (config : Config) : Except Fault Value := config.part "reporting"

def displayLength (config : Config) : Except Fault Int := do
  (← (← config.reporting).fieldD "display_text_max_length" (.int 80)).toInt

def logLevel (config : Config) : Except Fault Writing := do
  let level ← (← config.part "logging").fieldD "level" (.text "WARNING")
  return (← level.display).upper

end Config

end SourceLocator
