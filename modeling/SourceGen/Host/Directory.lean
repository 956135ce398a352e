import SourceGen.Engine.Session

/-!
# Directory hosts

A host backed by the project directory. Types are matched to sources by file stem:
`Assets/Player.cs` declares the first known type whose short name is `Player`. The index of sources
is built when a source is first asked for, and stays as it is from then on.
-/

namespace SourceGen

/-- A host that looks for sources below the root of a project. Of the known types of a short name
the first counts. The sources are listed by stem once the index is built, and `reimports` are those
requested and not yet taken. -/
structure DirectoryHost where
  root : String
  types : OrderedMap String TypeName := ∅
  sources : Option (OrderedMap String String) := none
  reimports : List String := []
deriving Inhabited

namespace DirectoryHost

/-- Directories that hold no sources: hidden ones, and those of generated or foreign files. -/
def isSkippedDirectory (name : String) : Bool :=
  name.toList.head? == some '.' || name = String.ofList SourcePath.generatedDirectory
    || name = "target" || name = "node_modules"

/-- The regular files below the root that may hold sources, in the order of a walk that visits the
entries of each directory in the byte order of their names. -/
def walk (root : String) (files : FileSystem) : List String :=
  match files.lookup root with
  | .ok tree =>
    (tree.files isSkippedDirectory).map fun (place, _) =>
      SourcePath.normalize (String.intercalate "/" place)
  | .error _ => []

/-- The index of a list of sources: the first source of each stem, generated files left out. -/
def indexOf (sources : List String) : OrderedMap String String :=
  (sources.filter fun source => !isGeneratedFileName (SourcePath.fileName source)).foldl
    (fun index source => index.insertNew (SourcePath.fileStem source) source) ∅

/-- The host with its index, and the index. -/
def indexed (host : DirectoryHost) (files : FileSystem) :
    OrderedMap String String × DirectoryHost :=
  match host.sources with
  | some index => (index, host)
  | none =>
    let index := indexOf (walk host.root files)
    (index, { host with sources := some index })

/-- The host that knows the targets and the generators of a registry. -/
def ofRegistry (root : String) (registry : Registry) : DirectoryHost where
  root
  types :=
    (registry.targets ++ registry.generators).foldl
      (fun types type => types.insertNew type.shortName type) ∅

instance : Host DirectoryHost where
  typeOfPath host _ path := (host.types.get? (SourcePath.fileStem path), host)
  pathOfType host files type :=
    let (index, host) := host.indexed files
    (index.get? type.shortName, host)
  requestReimport host path := { host with reimports := host.reimports ++ [path] }
  requestRefresh host := host
  isBuilding _ := false

end DirectoryHost

/-- Takes the requested reimports, leaving none behind. -/
def Session.takeReimports (session : Session DirectoryHost) : List String × Session DirectoryHost :=
  (session.world.host.reimports,
    { session with world.host := { session.world.host with reimports := [] } })

end SourceGen
