import SourceGen.Data.Shape
import SourceGen.SourcePath

/-!
# Settings

What a project may configure: whether generation runs by itself, which files can be sources, and the
header of generated files. The filters here apply to automatic generation only; a forced run asks
none of them.
-/

namespace SourceGen

/-- The settings of a project. `autoEmit` tells whether generators run by themselves when a source
changes. `sourceRoots` are the directories below which sources live, `sourceExtensions` the
extensions of sources, with or without dot; none means any. `disabledPaths` are the sources excluded
from automatic generation. `header` is the line in front of every generated file, with a place for
the generator's name. -/
structure Settings where
  autoEmit : Bool := true
  sourceRoots : List String := []
  sourceExtensions : List String := []
  disabledPaths : List String := []
  header : Option String := none
deriving DecidableEq, Inhabited

namespace Settings

/-! ## Filters -/

/-- Whether `path` is `root` or lies below it. Trailing slashes of the root do not count, and an
empty root holds every path. -/
def isUnder (root path : List Char) : Bool :=
  let bare := (root.reverse.dropWhile (· = '/')).reverse
  bare.isEmpty ||
    match Text.dropPrefix? bare path with
    | some [] => true
    | some (c :: _) => c = '/'
    | none => false

/-- Whether one of the configured roots, if there are any, holds the path. -/
def isInRoots (settings : Settings) (path : String) : Bool :=
  settings.sourceRoots.isEmpty ||
    settings.sourceRoots.any fun root => isUnder (SourcePath.normalizeChars root.toList) path.toList

/-- Whether two texts differ at most in the case of ASCII letters. -/
def sameIgnoringCase (left right : List Char) : Bool :=
  left.map Char.toLower == right.map Char.toLower

/-- Whether the last component of the path has one of the configured extensions, if there are any.
The extension follows the last dot, which must not be the first character of the component. -/
def hasSourceExtension (settings : Settings) (path : String) : Bool :=
  settings.sourceExtensions.isEmpty ||
    match Text.cutLast? '.' (SourcePath.fileNameChars path.toList) with
    | none | some ([], _) => false
    | some (_, extension) =>
      settings.sourceExtensions.any fun configured =>
        sameIgnoringCase (configured.toList.dropWhile (· = '.')) extension

/-- Whether a project path may hold the source of a target. -/
def isSourceCandidate (settings : Settings) (path : String) : Bool :=
  settings.isInRoots path && settings.hasSourceExtension path

/-- Whether automatic generation is turned off for a path. -/
def isDisabled (settings : Settings) (path : String) : Bool :=
  settings.disabledPaths.any fun disabled => SourcePath.normalize disabled = path

/-- Whether generation may run by itself for a target's source. -/
def isAutomaticSource (settings : Settings) (path : String) : Bool :=
  settings.isSourceCandidate path && !settings.isDisabled path

/-! ## Header -/

/-- The place in a header that the generator's name takes. -/
def headerPlace : List Char :=
  "\x7bgenerator\x7d".toList

/-- The header for the files of a generator, if one is configured. -/
def renderHeader? (settings : Settings) (generator : TypeName) : Option String :=
  settings.header.map fun header =>
    String.ofList (Text.replaceAll headerPlace generator.shortName.toList header.toList)

/-! ## Reading -/

/-- The names of the settings, in the order in which a sequence lists them. -/
def fields : List String :=
  ["auto_emit", "source_roots", "source_extensions", "disabled_paths", "header"]

/-- Sets one setting. -/
def set (settings : Settings) (field : String) (value : Value) : Except ShapeError Settings :=
  match field with
  | "auto_emit" => return { settings with autoEmit := ← value.asBoolean }
  | "source_roots" => return { settings with sourceRoots := ← value.asSequence Value.asText }
  | "source_extensions" =>
    return { settings with sourceExtensions := ← value.asSequence Value.asText }
  | "disabled_paths" => return { settings with disabledPaths := ← value.asSequence Value.asText }
  | "header" => return { settings with header := ← value.asText? }
  | other => .error (.unknownField other fields)

/-- Reads settings as part of a manifest. A sequence gives the settings in order. -/
def ofValue (value : Value) : Except ShapeError Settings :=
  value.asRecord "struct Settings" fields {} set

/-- Reads settings that stand alone, where a sequence may not go on behind the last setting. -/
def ofValueAlone (value : Value) : Except ShapeError Settings := do
  let settings ← ofValue value
  match value with
  | .sequence items =>
    if fields.length < items.length then .error (.tooLong items.length) else .ok settings
  | _ => .ok settings

end Settings

end SourceGen
