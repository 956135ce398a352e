import SourceGen.FileSystem.Path
import SourceGen.FileSystem.Tree

/-!
# File systems

A file tree together with the working directory that relative paths start from. Looking a path up
follows its parts one by one, so every part but the last must lead to a directory; names and whole
paths are limited in length. What can go wrong is an `OsError`.
-/

namespace SourceGen

/-- Why the operating system refuses. `nulByte` is for a path that holds a NUL character,
`wholeTree` for one that has no directory left to make, and `notText` for bytes that should be text
and are not UTF-8. -/
inductive OsError where
  | notFound
  | alreadyExists
  | notDirectory
  | isDirectory
  | nameTooLong
  | busy
  | invalid
  | nulByte
  | wholeTree
  | notText
deriving DecidableEq, Inhabited

/-- The words of the operating system. -/
def OsError.message : OsError → String
  | notFound => "No such file or directory (os error 2)"
  | alreadyExists => "File exists (os error 17)"
  | notDirectory => "Not a directory (os error 20)"
  | isDirectory => "Is a directory (os error 21)"
  | nameTooLong => "File name too long (os error 36)"
  | busy => "Device or resource busy (os error 16)"
  | invalid => "Invalid argument (os error 22)"
  | nulByte => "file name contained an unexpected NUL byte"
  | wholeTree => "failed to create whole tree"
  | notText => "stream did not contain valid UTF-8"

/-- A file tree and the place that relative paths start from. -/
structure FileSystem where
  top : FileTree := .directory []
  workingDirectory : List String := []
deriving Inhabited

namespace FileSystem

/-- The most bytes that one name may have. -/
def maxName : Nat := 255

/-- The most bytes that a path may have. -/
def maxPath : Nat := 4095

/-! ## Looking up -/

/-- Whether a directory stands at a place. -/
def isDirectoryAt (system : FileSystem) (place : List String) : Bool :=
  match system.top.get? place with
  | some tree => tree.isDirectory
  | none => false

/-- Follows the parts of a path from a place. -/
def follow (system : FileSystem) :
    (place : List String) → List String → Except OsError (List String)
  | place, [] => .ok place
  | place, part :: rest =>
    if !system.isDirectoryAt place then .error .notDirectory
    else if FilePath.isVoid part then system.follow place rest
    else if part = ".." then system.follow place.dropLast rest
    else if maxName < part.utf8ByteSize then .error .nameTooLong
    else if (system.top.get? (place ++ [part])).isSome then system.follow (place ++ [part]) rest
    else .error .notFound

/-- Refuses the paths that cannot be looked up whatever the tree holds. -/
def admit? (path : String) : Except OsError Unit :=
  if path.toList.contains '\x00' then .error .nulByte
  else if path.isEmpty then .error .notFound
  else if maxPath < path.utf8ByteSize then .error .nameTooLong
  else .ok ()

/-- The place where the parts of a path start. -/
def startOf (system : FileSystem) (path : String) : List String :=
  if FilePath.isAbsolute path then [] else system.workingDirectory

/-- The place of what a path names. -/
def locate (system : FileSystem) (path : String) : Except OsError (List String) := do
  admit? path
  system.follow (system.startOf path) (FilePath.parts path)

/-- What a path names. -/
def lookup (system : FileSystem) (path : String) : Except OsError FileTree := do
  let place ← system.locate path
  match system.top.get? place with
  | some tree => .ok tree
  | none => .error .notFound

/-- Whether a path names anything. -/
def pathExists (system : FileSystem) (path : String) : Bool :=
  (system.lookup path).isOk

/-- Whether a path names a directory. -/
def isDirectory (system : FileSystem) (path : String) : Bool :=
  match system.lookup path with
  | .ok tree => tree.isDirectory
  | .error _ => false

/-- Whether a path names a regular file. -/
def isFile (system : FileSystem) (path : String) : Bool :=
  match system.lookup path with
  | .ok tree => !tree.isDirectory
  | .error _ => false

/-- The bytes of the regular file that a path names. -/
def readBytes (system : FileSystem) (path : String) : Except OsError (List UInt8) := do
  match ← system.lookup path with
  | .file content => .ok content
  | .directory _ => .error .isDirectory

/-- The text of the regular file that a path names. -/
def readText (system : FileSystem) (path : String) : Except OsError String := do
  let bytes ← system.readBytes path
  match String.fromUTF8? (ByteArray.mk bytes.toArray) with
  | some text => .ok text
  | none => .error .notText

/-! ## Changing -/

/-- The place of the directory that a new entry goes to, with the last part of the path. Slashes at
the end do not count; `slashed` tells whether there were any. -/
structure NewEntry where
  place : List String
  name : String
  slashed : Bool

/-- Where an entry would be made that a path names. -/
def newEntry (system : FileSystem) (path : String) : Except OsError NewEntry := do
  admit? path
  let bare := ((FilePath.parts path).reverse.dropWhile String.isEmpty).reverse
  match bare.getLast? with
  | none => .error .alreadyExists
  | some name =>
    let place ← system.follow (system.startOf path) bare.dropLast
    if !system.isDirectoryAt place then .error .notDirectory
    else if maxName < name.utf8ByteSize then .error .nameTooLong
    else .ok ⟨place, name, (FilePath.parts path).getLast? == some ""⟩

/-- Makes one directory. -/
def makeDirectory (system : FileSystem) (path : String) : Except OsError FileSystem := do
  let entry ← system.newEntry path
  if entry.name = "." || entry.name = ".." then .error .alreadyExists
  else if (system.top.get? (entry.place ++ [entry.name])).isSome then .error .alreadyExists
  else .ok { system with top := system.top.put (entry.place ++ [entry.name]) (.directory []) }

/-- Makes the first of the paths, having made the others before where that is needed: `paths` are a
directory and those above it, nearest first. What was made before a refusal stays. -/
def makeAll (system : FileSystem) : (paths : List String) → FileSystem × Except OsError Unit
  | [] => (system, .error .wholeTree)
  | path :: above =>
    if path.isEmpty then (system, .ok ())
    else
      match system.makeDirectory path with
      | .ok system => (system, .ok ())
      | .error .notFound =>
        match system.makeAll above with
        | (system, .error error) => (system, .error error)
        | (system, .ok ()) =>
          match system.makeDirectory path with
          | .ok system => (system, .ok ())
          | .error error =>
            if system.isDirectory path then (system, .ok ()) else (system, .error error)
      | .error error => if system.isDirectory path then (system, .ok ()) else (system, .error error)

/-- Makes a directory and those above it that are missing. -/
def makeDirectories (system : FileSystem) (path : String) : FileSystem × Except OsError Unit :=
  system.makeAll (FilePath.ancestors path)

/-- Renames a new regular file with these bytes to a path, in place of the regular file of that name
if there is one. -/
def replaceFile (system : FileSystem) (path : String) (bytes : List UInt8) :
    Except OsError FileSystem := do
  if path.toList.contains '\x00' then .error .invalid
  let entry ← system.newEntry path
  let place := entry.place ++ [entry.name]
  if entry.name = "." || entry.name = ".." then .error .busy
  else if system.isDirectoryAt place then .error .isDirectory
  else if entry.slashed then .error .notDirectory
  else .ok { system with top := system.top.put place (.file bytes) }

/-- Removes what a path names. -/
def removePath (system : FileSystem) (path : String) : Except OsError FileSystem := do
  let place ← system.locate path
  .ok { system with top := system.top.remove place }

end FileSystem

end SourceGen
