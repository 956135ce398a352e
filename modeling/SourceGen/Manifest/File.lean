import SourceGen.FileSystem.Basic
import SourceGen.Manifest.Basic

/-!
# Manifest files

A manifest together with the file that it was read from. The directory of the file is the root of
the project.
-/

namespace SourceGen

/-- A manifest read from a file, with the path and the text of the file. -/
structure ManifestFile where
  path : String
  content : String
  manifest : Manifest
deriving Inhabited

namespace ManifestFile

/-- Reads the manifest at a path. A file that cannot be read as text has no manifest. -/
def openAt (files : FileSystem) (path : String) : Except ManifestError ManifestFile :=
  match files.readText path with
  | .error _ => .error ⟨path, .unreadable⟩
  | .ok content => (Manifest.ofText path content).map fun manifest => { path, content, manifest }

/-- The directory of the file. -/
def root (file : ManifestFile) : String :=
  match FilePath.parent? file.path with
  | some parent => if parent.isEmpty then "." else parent
  | none => "."

end ManifestFile

end SourceGen
