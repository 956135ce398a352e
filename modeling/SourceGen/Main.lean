import SourceGen.CommandLine.Run
import SourceGen.FileSystem.Changes

/-!
# The program

What lies between the disk and a run. The directories that a run works in, the working directory and
that of the manifest, are read into a file tree; the run computes on that tree; then what it printed
is printed and the files that it changed are written. Nothing is decided here.
-/

namespace SourceGen.Disk

mutual

/-- The file tree below a directory. -/
partial def readDirectory (entry : IO.FS.DirEntry) : IO FileTree := do
  let children ← (← entry.path.readDir).toList.filterMapM fun child => do
    return (← readEntry? child).map fun tree => (child.fileName, tree)
  return .directory (children.mergeSort fun a b => decide (a.1 ≤ b.1))

/-- The file tree of an entry of a directory; nothing for an entry that is neither a regular file
nor a directory, or that cannot be read. -/
partial def readEntry? (entry : IO.FS.DirEntry) : IO (Option FileTree) := do
  try
    match (← entry.path.symlinkMetadata).type with
    | .dir => return some (← readDirectory entry)
    | .file => return some (.file (← IO.FS.readBinFile entry.path).toList)
    | _ => return none
  catch _ => return none

end

/-- Reads the working directory and the directory of a manifest. -/
def read (config : String) : IO FileSystem := do
  let here ← IO.currentDir
  let workingDirectory := FilePath.placeFrom [] here.toString
  let mut top : FileTree := .directory []
  for path in [".", FileSystem.parentOf config].eraseDups do
    let entry : IO.FS.DirEntry := ⟨here, path⟩
    if ← entry.path.isDir then
      top := top.put (FilePath.placeFrom workingDirectory path) (← readDirectory entry)
  return { top, workingDirectory }

/-- The absolute path of a place. -/
def pathOf (place : List String) : String :=
  "/" ++ String.intercalate "/" place

/-- Writes the files that changed. Each is written beside its destination and then renamed. -/
def write (before after : FileTree) : IO Unit := do
  for (place, content) in before.changedFiles after do
    let path := pathOf place
    let beside := path ++ "~"
    IO.FS.createDirAll (pathOf place.dropLast)
    IO.FS.writeBinFile beside (ByteArray.mk content.toArray)
    IO.FS.rename beside path

/-- The text that a run reads from the standard input. -/
def readInput (invocation : CommandLine.Invocation) : IO String := do
  if invocation.readsInput then (← IO.getStdin).readToEnd else return ""

/-- The run of a command line on the disk, with the file tree that it started from. -/
def run (arguments : List String) : IO (FileTree × CommandLine.Run) := do
  match CommandLine.parse arguments with
  | .error refusal => return (default, CommandLine.refuse default refusal)
  | .ok invocation =>
    let files ← read (CommandLine.configPath invocation.given)
    return (files.top, CommandLine.runCommand invocation files (← readInput invocation))

end SourceGen.Disk

/-- Runs the command line of the program. -/
def main (arguments : List String) : IO UInt32 := do
  let (before, run) ← SourceGen.Disk.run arguments
  for line in run.output do
    IO.println line
  for line in run.errors do
    IO.eprintln line
  SourceGen.Disk.write before run.files.top
  return run.exitCode.toUInt32
