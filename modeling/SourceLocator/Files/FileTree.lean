import SourceLocator.Files.Locale
import SourceLocator.Files.Path

/-!
The files of a machine, as a tree of named entries from the root on, with the directory in which
relative paths begin. Following a path goes through directories only; `..` leads back the way the
path came, and from the root to the root itself.
-/

set_option autoImplicit false

namespace SourceLocator

inductive FileEntry where
  | file (content : Bytes)
  | directory (entries : List (Text × FileEntry))

-- Named entries; a name stands at most once.
abbrev Entries := List (Text × FileEntry)

-- Gives a name its entry, in the place of what it had or at the end.
def Entries.put (entries : Entries) (name : Text) (entry : FileEntry) : Entries :=
  match entries with
  | [] => [(name, entry)]
  | (other, old) :: rest =>
    if other = name then (name, entry) :: rest else (other, old) :: Entries.put rest name entry

structure FileTree where
  root : FileEntry
  -- The names that lead from the root to the current directory.
  here : List Text
  locale : Locale

-- What a path leads to, with the names that lead there from the root.
structure Place where
  way : List Text
  entry : FileEntry

namespace FileEntry

def parentName : Text := ['.', '.']

def nameLimit : Nat := 255

def isLongName (locale : Locale) (name : Text) : Bool := nameLimit < locale.byteCount name

def absence (locale : Locale) (name : Text) : Fault :=
  if isLongName locale name then .nameTooLong else .missing

-- Follows names from `here`, with the names and directories passed so far.
def follow (locale : Locale) (passed : List (Text × FileEntry)) (here : FileEntry) :
    List Text → Except Fault Place
  | [] => .ok ⟨(passed.map Prod.fst).reverse, here⟩
  | name :: rest =>
    match here with
    | .file _ => .error .notDirectory
    | .directory entries =>
      if name = parentName then
        match passed with
        | [] => follow locale [] here rest
        | (_, parent) :: passed => follow locale passed parent rest
      else
        match entries.lookup name with
        | none => .error (absence locale name)
        | some entry => follow locale ((name, here) :: passed) entry rest

def put (entry : FileEntry) : List Text → FileEntry → FileEntry
  | [], _ => entry
  | _ :: _, .file content => .file content
  | name :: rest, .directory entries =>
    .directory (Entries.put entries name (put entry rest ((entries.lookup name).getD (.directory []))))

def isFile : FileEntry → Bool
  | .file _ => true
  | .directory _ => false

mutual
def descendants : FileEntry → List (List Text × FileEntry)
  | .file _ => []
  | .directory entries => descendantsOf entries
termination_by structural entry => entry
def descendantsOf : List (Text × FileEntry) → List (List Text × FileEntry)
  | [] => []
  | (name, entry) :: rest =>
    ([name], entry) ::
      (entry.descendants.map fun (names, deeper) => (name :: names, deeper)) ++ descendantsOf rest
termination_by structural entries => entries
end

end FileEntry

namespace FileTree

open FileEntry

-- A root directory in which a run stands, with names in UTF-8.
def ofEntries (entries : Entries) : FileTree := ⟨.directory entries, [], .utf8⟩

-- The names to follow from the root on.
def names (tree : FileTree) (path : Path) : List Text :=
  if path.root.isEmpty then tree.here ++ path.parts else path.parts

def at? (tree : FileTree) (path : Path) : Except Fault Place :=
  if path.parts.any (·.contains '\x00') then .error .zeroInPath
  else if path.isTooLong tree.locale then .error .nameTooLong
  else follow tree.locale [] tree.root (tree.names path)

def isFile (tree : FileTree) (path : Path) : Bool :=
  match tree.at? path with
  | .ok place => place.entry.isFile
  | .error _ => false

def contains (tree : FileTree) (path : Path) : Bool :=
  match tree.at? path with
  | .ok _ => true
  | .error _ => false

def checkLength (tree : FileTree) (path : Path) : Except Fault Unit :=
  match tree.at? path with
  | .error .nameTooLong => .error .nameTooLong
  | _ => .ok ()

def read (tree : FileTree) (path : Path) : Except Fault Bytes :=
  match tree.at? path with
  | .ok ⟨_, .file content⟩ => .ok content
  | .ok ⟨_, .directory _⟩ => .error .isDirectory
  | .error fault => .error fault

def putFile (tree : FileTree) (way : List Text) (content : Bytes) : FileTree :=
  { tree with root := put (.file content) way tree.root }

-- Writes a file, new or in place of an old one. Its directory has to exist.
def write (tree : FileTree) (path : Path) (content : Bytes) : Except Fault FileTree :=
  match tree.at? path with
  | .ok ⟨way, .file _⟩ => .ok (tree.putFile way content)
  | .ok ⟨_, .directory _⟩ => .error .isDirectory
  | .error .zeroInPath => .error .zeroInPath
  | .error .nameTooLong => .error .nameTooLong
  | .error _ => do
    match ← tree.at? path.parent with
    | ⟨_, .file _⟩ => throw .notDirectory
    | ⟨way, .directory _⟩ => return tree.putFile (way ++ [path.name]) content

-- The regular files, each with the names that lead to it from the root.
def files (tree : FileTree) : List (List Text × Bytes) :=
  tree.root.descendants.filterMap fun (names, entry) =>
    match entry with
    | .file content => some (names, content)
    | .directory _ => none

end FileTree

end SourceLocator
