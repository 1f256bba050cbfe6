import SourceLocator.Config
import SourceLocator.Files.FileTree

/-!
The configuration file of a directory: the first of the known names that is a file there.
-/

set_option autoImplicit false

namespace SourceLocator.Config

def fileNames : List String :=
  [".locscan.yaml", ".locscan.yml", ".locscan.json", "locscan.yaml", "locscan.yml", "locscan.json"]

-- The first of some paths that is a file. None of those before it may be too long.
def firstFile? (tree : FileTree) : List Path → Except Fault (Option Path)
  | [] => .ok none
  | path :: rest => do
    tree.checkLength path
    if tree.isFile path then return some path
    firstFile? tree rest

def find? (tree : FileTree) (start : Path) : Except Fault (Option Path) := do
  tree.checkLength start
  let directory := if tree.isFile start then start.parent else start
  firstFile? tree (fileNames.map fun name => directory.append [name.toList])

end SourceLocator.Config
