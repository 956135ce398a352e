import SourceGen.Host.Directory
import SourceGen.Manifest.File
import SourceGen.Samples

/-!
# Projects

A project is loaded from its manifest: an engine with the declarations of the manifest and of the
linked generators discovered, and a host on the directory of the manifest. `Project.process` follows
reimports until none are requested, `Project.force` regenerates, `Project.list` and `Project.check`
tell about the registry.
-/

namespace SourceGen

/-- A loaded project, by the path of its manifest: the engine at work, the generators at hand, and
what became of the declarations. -/
structure Project where
  configPath : String
  session : Session DirectoryHost
  catalog : Catalog
  discovery : Discovery

namespace Project

/-- Loads a project with the generators of a catalog. The declarations of the manifest come
first. -/
def load (file : ManifestFile) (catalog : Catalog) (site : Site) : Project :=
  let engine : Engine := { root := file.root, settings := file.manifest.settings }
  let (discovery, engine) :=
    engine.discover catalog (file.manifest.declarations ++ Samples.declarations)
  { configPath := file.path
    session := { engine, world := { host := .ofRegistry file.root engine.registry, site } }
    catalog
    discovery }

/-- The registered declarations. -/
def registry (project : Project) : Registry :=
  project.session.engine.registry

/-- The files as they are now. -/
def files (project : Project) : FileSystem :=
  project.session.world.site.files

/-! ## Process -/

/-- The batches run for a set of changed paths, and the reimports that the last of them requested
and nobody followed. -/
structure ProcessReport where
  batches : List BatchReport
  pending : List String
deriving DecidableEq, Inhabited

/-- Whether any batch had errors. -/
def ProcessReport.hasErrors (report : ProcessReport) : Bool :=
  report.batches.any BatchReport.hasErrors

/-- The paths written by all batches. -/
def ProcessReport.written (report : ProcessReport) : List String :=
  report.batches.flatMap BatchReport.written

/-- The most batches that one run may take. -/
def maxBatches : Nat := 16

/-- Runs a batch for the paths, and while reimports are requested, at most `more` batches after
it. -/
def follow : (more : Nat) → List String → Session DirectoryHost →
    ProcessReport × Session DirectoryHost
  | 0, paths, session =>
    let (report, session) := session.onFilesChanged paths
    let (pending, session) := session.takeReimports
    (⟨[report], pending⟩, session)
  | more + 1, paths, session =>
    let (report, session) := session.onFilesChanged paths
    let (pending, session) := session.takeReimports
    if pending.isEmpty then (⟨[report], []⟩, session)
    else
      let (rest, session) := follow more pending session
      (⟨report :: rest.batches, rest.pending⟩, session)

/-- Processes changed paths, in a single batch or with the requested reimports followed until there
are none, which absorbs the engine's own writes and runs what was put off. -/
def process (project : Project) (paths : List String) (settle : Bool) : ProcessReport × Project :=
  let (report, session) := follow (if settle then maxBatches - 1 else 0) paths project.session
  (report, { project with session })

/-! ## Force -/

/-- A forced run of one argument, with the report of its batch. -/
structure ForceRun where
  target : String
  report : BatchReport
deriving DecidableEq, Inhabited

/-- Whether an argument names a path rather than a type: it holds a separator, or a file of that
name exists. -/
def isPath (session : Session DirectoryHost) (target : String) : Bool :=
  target.toList.any isPathSeparator ||
    session.world.site.files.isFile (FilePath.join session.engine.root target)

/-- Regenerates one argument. A forced batch puts nothing off, so the reimports that it requests are
of its own outputs, and one more batch absorbs them. -/
def forceOne (session : Session DirectoryHost) (target : String) :
    ForceRun × Session DirectoryHost :=
  let (report, session) :=
    if isPath session target then session.forcePaths [target] else session.forceType ⟨target⟩
  let (reimports, session) := session.takeReimports
  let session := if reimports.isEmpty then session else (session.onFilesChanged reimports).2
  (⟨target, report⟩, session)

/-- Regenerates the arguments one after the other. -/
def forceAll : List String → Session DirectoryHost → List ForceRun × Session DirectoryHost
  | [], session => ([], session)
  | target :: rest, session =>
    let (run, session) := forceOne session target
    let (runs, session) := forceAll rest session
    (run :: runs, session)

/-- Regenerates targets, given as type names or paths, whatever the overwrite policies. -/
def force (project : Project) (targets : List String) : List ForceRun × Project :=
  let (runs, session) := forceAll targets project.session
  (runs, { project with session })

/-! ## List -/

/-- A registered declaration with its place in the project: the source of its target, if the host
can find it, and where the output of that source goes. -/
structure DeclarationInfo where
  id : DeclarationId
  outputName : String
  source : Option String
  outputPath : Option String
  overwrite : Bool
  encoding : Encoding
deriving DecidableEq, Inhabited

/-- What is registered, what shares a generator, with the number of its declarations, and what was
rejected. -/
structure ListReport where
  declarations : List DeclarationInfo
  shared : List (TypeName × Nat)
  rejected : List Rejection
deriving DecidableEq

/-- Looks up the place of one registration. -/
def describe (host : DirectoryHost) (files : FileSystem) (registration : Registration) :
    DeclarationInfo × DirectoryHost :=
  let (source, host) := Host.pathOfType host files registration.id.target
  ({ id := registration.id
     outputName := registration.outputName.fileName
     source
     outputPath := source.map registration.outputPath
     overwrite := registration.overwrite
     encoding := registration.encoding }, host)

/-- Looks up the places of registrations one after the other. -/
def describeAll (files : FileSystem) :
    List Registration → DirectoryHost → List DeclarationInfo × DirectoryHost
  | [], host => ([], host)
  | registration :: rest, host =>
    let (info, host) := describe host files registration
    let (infos, host) := describeAll files rest host
    (info :: infos, host)

/-- Lists the registry. -/
def list (project : Project) : ListReport × Project :=
  let (declarations, host) :=
    describeAll project.files project.registry.all project.session.world.host
  ({ declarations
     shared := project.registry.sharedGenerators
     rejected := project.discovery.rejected },
    { project with session.world.host := host })

/-! ## Check -/

/-- What is wrong with a project, what is odd about it, and what there is to know: the rejected
declarations, the generators at hand that nothing declares, and the size of the registry with the
limits on automatic generation. -/
structure CheckReport where
  configPath : String
  errors : List String
  warnings : List String
  infos : List String
deriving DecidableEq, Inhabited

/-- Whether nothing is wrong. -/
def CheckReport.isValid (report : CheckReport) : Bool :=
  report.errors.isEmpty

/-- Checks a project. -/
def check (project : Project) : CheckReport :=
  let settings := project.session.engine.settings
  { configPath := project.configPath
    errors := project.discovery.rejected.map Rejection.text
    warnings :=
      (project.catalog.keys.filter fun name => !project.registry.isGenerator name).map fun name =>
        "generator " ++ name.text ++ " is never declared"
    infos :=
      (toString project.registry.size ++ " declarations, "
          ++ toString project.registry.generators.length ++ " generators")
        :: (if settings.autoEmit then [] else ["automatic emission is disabled"])
        ++ settings.disabledPaths.map fun path => "automatic emission is disabled under " ++ path }

end Project

end SourceGen
