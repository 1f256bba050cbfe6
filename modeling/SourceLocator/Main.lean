import SourceLocator.Command

/-!
The program. It takes in the files that the arguments lead to, runs on them, and puts the outcome
where it belongs. No parser is installed.
-/

set_option autoImplicit false

namespace SourceLocator

partial def readEntry (entry : IO.FS.DirEntry) : IO (Text × FileEntry) := do
  if ← entry.path.isDir then
    let entries ← (← entry.path.readDir).toList.mapM readEntry
    return (entry.fileName.toList, .directory entries)
  else
    let content ← IO.FS.readBinFile entry.path
    return (entry.fileName.toList, .file content.toList)

def absolute (names : List Text) : Path := ⟨['/'], names⟩

-- Takes in what is at a place, with all that is below it if the whole is wanted.
def takeIn (whole : Bool) (tree : FileTree) (place : Text) : IO FileTree := do
  let .ok found ← (IO.FS.realPath (String.ofList place)).toBaseIO | return tree
  let way := (found.components.filter (!·.isEmpty)).map String.toList
  if !whole && tree.contains (absolute way) then return tree
  let entry ←
    if !(← found.isDir) then pure (.file (← IO.FS.readBinFile found).toList)
    else if whole then pure (.directory (← (← found.readDir).toList.mapM readEntry))
    else pure (.directory [])
  return { tree with root := .put entry way tree.root }

-- The paths beside the one to search that a run may look at.
def furtherPlaces (invocation : Command.Invocation) : List Text :=
  let holder := (Path.ofText invocation.action.configRoot).parent
  let output := (invocation.output.map Path.ofText).toList
  let settings := Config.fileNames.map fun name => holder.append [name.toList]
  Command.currentDirectory ::
    (invocation.config.toList ++ (output ++ output.map Path.parent ++ settings).map Path.text)

def readFiles (arguments : List Text) : IO FileTree := do
  let here := ((← IO.currentDir).components.filter (!·.isEmpty)).map String.toList
  let vacant : FileTree := ⟨.directory [], here, .utf8⟩
  let .ok invocation := Command.readArguments arguments | return vacant
  let searched ← takeIn true vacant (Path.ofText invocation.action.configRoot).text
  (furtherPlaces invocation).foldlM (takeIn false) searched

def writeChanges (before after : FileTree) : IO Unit := do
  let old := before.files
  for (names, content) in after.files do
    if old.lookup names != some content then
      IO.FS.writeBinFile (String.ofList (absolute names).text) (ByteArray.mk content.toArray)

def noParser : Parser := ⟨false, fun _ source => .lone source.length⟩

def usage : String := "usage: locscan [-h] [--version] [-v] \x7blocate,offset\x7d ...\n"

end SourceLocator

open SourceLocator

def main (arguments : List String) : IO UInt32 := do
  let arguments := arguments.map String.toList
  let files ← readFiles arguments
  match Command.run files noParser arguments with
  | .ok outcome =>
    IO.print (String.ofList outcome.stdout)
    IO.eprint ((outcome.stderr.map String.ofList).getD usage)
    writeChanges files outcome.files
    return UInt32.ofNat outcome.exitCode
  | .error fault =>
    IO.eprintln (String.ofList fault.message)
    return 1
