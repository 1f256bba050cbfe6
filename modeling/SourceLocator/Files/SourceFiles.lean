import SourceLocator.Files.FileTree
import SourceLocator.Language

/-!
The source files of a directory: those in an enabled language, none of them below a directory that
holds tools' own or generated files, in ascending order of their names segment by segment.
-/

set_option autoImplicit false

namespace SourceLocator

def ignoredNames : List String :=
  [".git", ".hg", ".svn", ".idea", ".vscode", ".venv", "node_modules", "dist", "build", "target",
   "vendor", "bin", "obj", "out"]

def isIgnored (name : Text) : Bool := ignoredNames.contains (String.ofList name)

def isEnabledPath (enabled : Language → Bool) (path : Path) : Bool :=
  match Language.ofPath? path with
  | some language => enabled language
  | none => false

def nameLe : Text → Text → Bool
  | [], _ => true
  | _ :: _, [] => false
  | c :: a, d :: b => if c = d then nameLe a b else c.toNat < d.toNat

def wayLe : List Text → List Text → Bool
  | [], _ => true
  | _ :: _, [] => false
  | a :: way, b :: other => if a = b then wayLe way other else nameLe a b

namespace FileEntry

def ordered (entries : Entries) : List (List Text × FileEntry) :=
  (descendantsOf entries).mergeSort fun a b => wayLe a.1 b.1

def isSource (enabled : Language → Bool) (path : Path) (names : List Text) (entry : FileEntry) : Bool :=
  entry.isFile && !names.any isIgnored && isEnabledPath enabled (path.append names)

end FileEntry

namespace FileTree

open FileEntry

-- How deep directories are listed below the one that a walk begins with. Each is listed within the
-- listing of the one that it is in, on top of the calls that lead to the walk.
def listingLimit : Nat := 985

def sourceFiles (tree : FileTree) (path : Path) (enabled : Language → Bool) : List Path :=
  match tree.at? path with
  | .ok ⟨_, .file _⟩ => if isEnabledPath enabled path then [path] else []
  | .ok ⟨_, .directory entries⟩ =>
    ((ordered entries).filter fun (names, entry) => isSource enabled path names entry).map
      fun (names, _) => path.append names
  | .error _ => []

-- Why an entry below a path is not listed, if it is a directory.
def unlisted? (tree : FileTree) (limit : Nat) (path : Path) (names : List Text) :
    FileEntry → Option Fault
  | .file _ => none
  | .directory _ =>
    if (path.append names).isTooLong tree.locale then some .nameTooLong
    else if limit < names.length then some .tooDeep
    else none

-- The source files below a directory as a walk comes to them. The walk ends at the first entry whose
-- path is too long. All directories are listed before it begins, so it does not begin if one of them
-- cannot be listed.
def walkBelow (tree : FileTree) (limit : Nat) (path : Path) (enabled : Language → Bool)
    (entries : Entries) : List (Except Fault Path) :=
  match (descendantsOf entries).findSome? fun item => tree.unlisted? limit path item.1 item.2 with
  | some fault => [.error fault]
  | none =>
    (ordered entries).filterMap fun (names, entry) =>
      if (path.append names).isTooLong tree.locale then some (.error .nameTooLong)
      else if isSource enabled path names entry then some (.ok (path.append names))
      else none

def walk (tree : FileTree) (limit : Nat) (path : Path) (enabled : Language → Bool) :
    List (Except Fault Path) :=
  match tree.at? path with
  | .ok ⟨_, .directory entries⟩ => tree.walkBelow limit path enabled entries
  | _ => (tree.sourceFiles path enabled).map .ok

end FileTree

end SourceLocator
