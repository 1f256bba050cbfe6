import SourceLocator.Number.Binary64
import SourceLocator.Text.Writing

/-!
JSON documents. An object keeps its members in order, with repeated names as they come.
-/

set_option autoImplicit false

namespace SourceLocator

inductive Json where
  | null
  | bool (value : Bool)
  | int (value : Int)
  | real (value : Binary64)
  | string (value : Writing)
  | array (items : List Json)
  | object (members : List (Writing × Json))
deriving Inhabited

def Json.text (value : Text) : Json := .string (.text value)

def Json.ofMembers (members : List (String × Json)) : Json :=
  .object (members.map fun (name, value) => (.ofString name, value))

end SourceLocator
