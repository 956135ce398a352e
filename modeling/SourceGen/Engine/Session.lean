import SourceGen.Engine.Batch

/-!
# Sessions

The operations of an engine on its world. Each takes a session and gives its answer with the session
after it, so a run is the composition of its operations.
-/

namespace SourceGen.Session

variable {H : Type} [Host H]

/-- Runs one batch. -/
def runBatch (session : Session H) (paths : List String) (forced : Bool) :
    BatchReport × Session H :=
  let batch := Batch.run session paths forced
  (batch.report, batch.session)

/-- Handles the paths that the host reports as changed. -/
def onFilesChanged (session : Session H) (paths : List String) : BatchReport × Session H :=
  session.runBatch paths false

/-- Regenerates from paths, generated files included. Overwrite policies are ignored and cascades
run at once. -/
def forcePaths (session : Session H) (paths : List String) : BatchReport × Session H :=
  session.runBatch paths true

/-- The report of a forced run for a type without a source. -/
def noSourceReport (type : TypeName) : BatchReport :=
  BatchReport.add { forced := true }
    ⟨.warning, .collecting, "no source found for type", some type.text⟩

/-- Regenerates a target, or every target of a generator. -/
def forceType (session : Session H) (type : TypeName) : BatchReport × Session H :=
  let (path, host) := Host.pathOfType session.world.host session.world.site.files type
  let session := { session with world.host := host }
  match path with
  | some path => session.runBatch [path] true
  | none => (noSourceReport type, session)

/-- Regenerates like `forceType` and tells only whether a file was written. -/
def force (session : Session H) (type : TypeName) : Bool × Session H :=
  let (report, session) := session.forceType type
  (report.wroteAny, session)

/-- What a notification of a path would mean. -/
def classify (session : Session H) (path : String) : Classification × Session H :=
  let (classification, _, host) :=
    Classification.ofPath session.engine.registry session.engine.settings false
      session.world.site.files (SourcePath.normalize path) {} session.world.host
  (classification, { session with world.host := host })

/-- The output path of the first declaration of a target. A type that is no target is not looked
up. -/
def outputPathOf (session : Session H) (target : TypeName) : Option String × Session H :=
  match (session.engine.registry.forTarget target).head? with
  | none => (none, session)
  | some registration =>
    let (source, host) := Host.pathOfType session.world.host session.world.site.files target
    (source.map registration.outputPath, { session with world.host := host })

/-- Emits one declaration outside of any batch; nothing when it is not registered. -/
def emit? (session : Session H) (id : DeclarationId) (source : String) (force : Bool) :
    Option (Except EmitError EmitOutcome) × Session H :=
  match session.engine.registry.get? id with
  | none => (none, session)
  | some registration =>
    let (site, outcome) :=
      registration.emit session.engine.root session.engine.settings force source session.world.site
    (some outcome, { session with world.site := site })

/-- Rebuilds the registry. -/
def discover (session : Session H) (catalog : Catalog) (declarations : List Declaration) :
    Discovery × Session H :=
  let (discovery, engine) := session.engine.discover catalog declarations
  (discovery, { session with engine })

end SourceGen.Session
