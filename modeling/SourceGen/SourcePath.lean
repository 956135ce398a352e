import SourceGen.OutputName

/-!
# Project paths

Paths that the engine and its host exchange are relative to the project and written with `/`.
`SourcePath.normalize` brings a path into that form, and `SourcePath.output` places a generated file
in the directory `altgen.g` next to its source.
-/

namespace SourceGen.SourcePath

/-- The directory that holds generated files, next to each source. -/
def generatedDirectory : List Char :=
  "altgen.g".toList

/-- Drops every leading `./`. -/
def dropDotSlashes : List Char → List Char
  | '.' :: '/' :: rest => dropDotSlashes rest
  | path => path

/-- The characters of the normal form. -/
def normalizeChars (path : List Char) : List Char :=
  dropDotSlashes ((Text.trim path).map fun c => if c = '\\' then '/' else c)

/-- The normal form of a path: no blanks at its ends, `/` for a backslash, no leading `./`. -/
def normalize (path : String) : String :=
  String.ofList (normalizeChars path.toList)

/-- The characters of the last component. -/
def fileNameChars (path : List Char) : List Char :=
  Text.afterLast isPathSeparator path

/-- The last component of a path. -/
def fileName (path : String) : String :=
  String.ofList (fileNameChars path.toList)

/-- The last component without its extension. -/
def fileStem (path : String) : String :=
  String.ofList (OutputName.splitExtension (fileNameChars path.toList)).1

/-- What stands before the last `/`; nothing when there is no `/`. -/
def parentChars (path : List Char) : List Char :=
  match Text.cutLast? '/' path with
  | some (parent, _) => parent
  | none => []

/-- Whether the directory of a path is a directory of generated files. -/
def isInGeneratedChars (path : List Char) : Bool :=
  let directory := parentChars path
  directory == generatedDirectory || ('/' :: generatedDirectory).isSuffixOf directory

/-- Whether a path lies directly inside a directory of generated files. -/
def isInGeneratedDirectory (path : String) : Bool :=
  isInGeneratedChars path.toList

/-- The characters of the output path for a normalized source. -/
def outputChars (source fileName : List Char) : List Char :=
  let directory := parentChars source
  (if directory.isEmpty then [] else directory ++ ['/'])
    ++ (if isInGeneratedChars source then [] else generatedDirectory ++ ['/'])
    ++ fileName

/-- Where a generated file belonging to `source` goes. A source that already lies among generated
files gets no second directory. -/
def output (source fileName : String) : String :=
  String.ofList (outputChars (normalizeChars source.toList) fileName.toList)

end SourceGen.SourcePath
