import SourceGen.Encoding
import SourceGen.FileSystem.Basic

/-!
# Writing files

A file is written by making the directories above it, writing its bytes to a temporary file there,
and renaming that file over the destination, so that no reader ever sees half a file. The temporary
file leaves no trace in the tree, whether the rename succeeds or not.
-/

namespace SourceGen

/-- What to do when the destination exists. -/
inductive Overwrite where
  | always
  | ifMissing
deriving DecidableEq, Inhabited

/-- What came of a write that was not refused. -/
inductive WriteResult where
  | written
  | skipped
deriving DecidableEq, Inhabited

/-- The step of a write that was refused. -/
inductive WriteStep where
  | createDirectory
  | createTemporary
  | replace
deriving DecidableEq, Inhabited

/-- A refused write: the step, the path it was about, and the refusal. The path is the directory for
the first two steps and the destination for the last. -/
structure WriteError where
  step : WriteStep
  path : String
  cause : OsError
deriving DecidableEq, Inhabited

/-- The words for what was being done. -/
def WriteStep.text : WriteStep → String
  | createDirectory => "failed to create directory"
  | createTemporary => "failed to create temporary file in"
  | replace => "failed to replace"

/-- The words for a refused write, with the refusal behind them. -/
def WriteError.message (error : WriteError) : String :=
  error.step.text ++ " '" ++ error.path ++ "': " ++ error.cause.message

namespace FileSystem

/-- The directory that a destination lies in, by its path. -/
def parentOf (path : String) : String :=
  match FilePath.parent? path with
  | some parent => if parent.isEmpty then "." else parent
  | none => "."

/-- The number of bytes of a temporary file's name with the slash before it. -/
def temporaryName : Nat := 11

/-- Writes bytes to a path, making the directories above it. Directories made before a refusal
stay. -/
def writeBytes (system : FileSystem) (path : String) (bytes : List UInt8) :
    FileSystem × Except WriteError Unit :=
  let parent := parentOf path
  match system.makeDirectories parent with
  | (system, .error cause) => (system, .error ⟨.createDirectory, parent, cause⟩)
  | (system, .ok ()) =>
    if maxPath < parent.utf8ByteSize + temporaryName then
      (system, .error ⟨.createTemporary, parent, .nameTooLong⟩)
    else
      match system.replaceFile path bytes with
      | .ok system => (system, .ok ())
      | .error cause => (system, .error ⟨.replace, path, cause⟩)

/-- Encodes a text and writes it. -/
def write (system : FileSystem) (path content : String) (encoding : Encoding) :
    FileSystem × Except WriteError Unit :=
  system.writeBytes path (encoding.encode content)

/-- Encodes a text and writes it, unless the destination exists and is to be kept. -/
def writeUnless (system : FileSystem) (path content : String) (encoding : Encoding)
    (overwrite : Overwrite) : FileSystem × Except WriteError WriteResult :=
  if overwrite = .ifMissing && system.pathExists path then (system, .ok .skipped)
  else
    match system.write path content encoding with
    | (system, .ok ()) => (system, .ok .written)
    | (system, .error error) => (system, .error error)

end FileSystem

end SourceGen
