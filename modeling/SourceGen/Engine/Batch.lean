import SourceGen.Classification
import SourceGen.Engine.Basic

/-!
# Batches

A batch takes the changed paths through six phases. It collects the paths that count, sorts them
into declarations to run directly and declarations to run because their generator is concerned, runs
the former, runs or puts off the latter, and asks the host to process again what was written or put
off. The state of a batch holds the session, so every phase is a function from batch to batch.

An unforced batch that wrote something puts the cascaded declarations off to a later batch, since
their sources may depend on what was written. A building host cannot process anything again, so
nothing is put off to it.
-/

namespace SourceGen

/-- The state of a batch. A forced one ignores overwrite policies and filters and runs cascades at
once. `collected` are the paths that count, `deferredHits` those of them that were put off by an
earlier batch. The declarations to run are `direct`, with the source of each, or `cascaded`, since
their generator is concerned. Of what they leave, `written` are the outputs and `deferred` the
sources put off; `updated` tells whether a direct declaration wrote. -/
structure Batch (H : Type) where
  session : Session H
  forced : Bool
  collected : List String := []
  lookups : Lookups := {}
  deferredHits : OrderedSet String := ∅
  direct : OrderedMap DeclarationId String := ∅
  cascaded : OrderedSet DeclarationId := ∅
  written : OrderedSet String := ∅
  deferred : OrderedSet String := ∅
  updated : Bool := false
  report : BatchReport

namespace Batch

variable {H : Type}

/-- The engine of a batch. -/
def engine (batch : Batch H) : Engine :=
  batch.session.engine

/-- The files as they are now. -/
def files (batch : Batch H) : FileSystem :=
  batch.session.world.site.files

/-- The host as it is now. -/
def host (batch : Batch H) : H :=
  batch.session.world.host

/-- The batch with another host. -/
def setHost (batch : Batch H) (host : H) : Batch H :=
  { batch with session.world.host := host }

/-- Adds a message to the report. -/
def note (batch : Batch H) (severity : Severity) (phase : Phase) (message location : String) :
    Batch H :=
  { batch with report := batch.report.add ⟨severity, phase, message, some location⟩ }

/-- Whether a project path names anything. -/
def pathExists (batch : Batch H) (path : String) : Bool :=
  batch.files.pathExists (FilePath.join batch.engine.root path)

/-! ## Collecting -/

/-- The distinct paths of a notification, normalized, without empty ones. -/
def distinctPaths (paths : List String) : List String :=
  (OrderedSet.ofList ((paths.map SourcePath.normalize).filter (· ≠ ""))).toList

/-- Whether automatic generation passes over a path. -/
def isPassedOver (batch : Batch H) (path : String) : Bool :=
  !batch.forced &&
    (!batch.engine.settings.autoEmit || batch.engine.settings.isDisabled path)

/-- Collects one path. An unforced batch absorbs it when it is an output waiting for its reimport;
otherwise it is no longer put off, and counts unless automatic generation passes over it. -/
def collectPath (batch : Batch H) (path : String) : Batch H :=
  if !batch.forced && path ∈ batch.engine.suppressed then
    { batch with
      session.engine.suppressed := batch.engine.suppressed.erase path
      report.suppressed := batch.report.suppressed ++ [path] }
  else
    let wasDeferred := decide (path ∈ batch.engine.deferred)
    let batch := { batch with session.engine.deferred := batch.engine.deferred.erase path }
    if batch.isPassedOver path then batch
    else
      { batch with
        collected := batch.collected ++ [path]
        deferredHits := if wasDeferred then batch.deferredHits.insert path else batch.deferredHits }

/-- Collects the paths of a notification. -/
def collect (paths : List String) (batch : Batch H) : Batch H :=
  (distinctPaths paths).foldl collectPath batch

/-! ## Resolving targets -/

/-- The other targets of the generator of a registration. -/
def siblings (registry : Registry) (target : TypeName) (registration : Registration) :
    List DeclarationId :=
  ((registry.forGenerator registration.id.generator).filter fun other =>
    other.id.target ≠ target).map Registration.id

/-- Schedules one registration of a changed target: to run with the path as source, and, when the
change fans out, the other targets of its generator. -/
def scheduleDirect (target : TypeName) (path : String) (fanOut : Bool) (batch : Batch H)
    (registration : Registration) : Batch H :=
  let batch := { batch with direct := batch.direct.insertNew registration.id path }
  if fanOut then
    { batch with
      cascaded := batch.cascaded.insertAll (siblings batch.engine.registry target registration) }
  else batch

/-- Schedules every registration of a generator. -/
def scheduleGenerator (batch : Batch H) (generator : TypeName) : Batch H :=
  { batch with
    cascaded := batch.cascaded.insertAll
      ((batch.engine.registry.forGenerator generator).map Registration.id) }

/-- Schedules what a path with a known meaning calls for. A path that an earlier batch put off does
not fan out again, and a changed generated file calls for nothing unless the batch is forced. -/
def schedule (path : String) (batch : Batch H) : Classification → Batch H
  | .direct target =>
    (batch.engine.registry.forTarget target).foldl
      (scheduleDirect target path (path ∉ batch.deferredHits)) batch
  | .generated generator => if batch.forced then batch.scheduleGenerator generator else batch
  | .generatorSource type => batch.scheduleGenerator type
  | .irrelevant =>
    if batch.forced then
      batch.note .warning .resolvingTargets "not a registered target or generator" path
    else batch

variable [Host H]

/-- Finds out what one path means and schedules what it calls for. A path that names nothing is
passed over, with a warning in a forced batch. -/
def resolvePath (batch : Batch H) (path : String) : Batch H :=
  if batch.pathExists path then
    let (classification, lookups, host) :=
      Classification.ofPath batch.engine.registry batch.engine.settings
        batch.forced batch.files path batch.lookups batch.host
    ({ batch with lookups }.setHost host).schedule path classification
  else if batch.forced then batch.note .warning .resolvingTargets "path does not exist" path
  else batch

/-- Resolves the collected paths. -/
def resolveTargets (batch : Batch H) : Batch H :=
  batch.collected.foldl resolvePath batch

/-! ## Running declarations -/

omit [Host H] in
/-- Enters what came of an emission into the report. -/
def settle (batch : Batch H) (id : DeclarationId) (phase : Phase) :
    Except EmitError EmitOutcome → Batch H
  | .ok (.written path) =>
    if path ∈ batch.written then batch
    else
      { batch with
        written := batch.written.insert path
        report.written := batch.report.written ++ [path] }
  | .ok (.kept path) => { batch with report.skipped := batch.report.skipped ++ [path] }
  | .ok .discarded => batch
  | .error error => batch.note .error phase error.message id.text

/-- Whether an emission wrote its output. -/
def wrote : Except EmitError EmitOutcome → Bool
  | .ok (.written _) => true
  | _ => false

omit [Host H] in
/-- Runs one declaration for a source and tells whether it wrote. A failure goes to the report and
stops nothing. -/
def emit (batch : Batch H) (id : DeclarationId) (source : String) (phase : Phase) :
    Batch H × Bool :=
  match batch.engine.registry.get? id with
  | none => (batch, false)
  | some registration =>
    let (site, outcome) :=
      registration.emit batch.engine.root batch.engine.settings batch.forced source
        batch.session.world.site
    let batch :=
      { batch with
        session.world.site := site
        report.ran := batch.report.ran ++ [id] }
    (batch.settle id phase outcome, wrote outcome)

omit [Host H] in
/-- Runs one of the direct declarations. -/
def runDirectEntry (batch : Batch H) (entry : DeclarationId × String) : Batch H :=
  let (batch, wrote) := batch.emit entry.1 entry.2 .runningDirect
  { batch with updated := batch.updated || wrote }

omit [Host H] in
/-- Runs the direct declarations. -/
def runDirect (batch : Batch H) : Batch H :=
  batch.direct.entries.foldl runDirectEntry batch

omit [Host H] in
/-- The cascaded declarations that did not run directly. -/
def pending (batch : Batch H) : List DeclarationId :=
  batch.cascaded.toList.filter fun id => !batch.direct.contains id

/-- Whether cascaded declarations run in this batch. -/
def runsNow (batch : Batch H) : Bool :=
  batch.forced || !batch.updated || Host.isBuilding batch.host

omit [Host H] in
/-- Runs one cascaded declaration for its source, or puts it off. The filters of automatic
generation hold for both. -/
def runOrDefer (now : Bool) (id : DeclarationId) (source : String) (batch : Batch H) : Batch H :=
  if !batch.forced && !batch.engine.settings.isAutomaticSource source then batch
  else if !now then { batch with deferred := batch.deferred.insert source }
  else if batch.pathExists source then
    ({ batch with report.cascaded := true }.emit id source .runningCascaded).1
  else batch.note .warning .runningCascaded "source does not exist" source

/-- Looks for the source of one cascaded declaration and runs it or puts it off. -/
def runCascadedEntry (now : Bool) (batch : Batch H) (id : DeclarationId) : Batch H :=
  let (source, lookups, host) := batch.lookups.pathOfType batch.host batch.files id.target
  let batch := { batch with lookups }.setHost host
  match source with
  | some source => batch.runOrDefer now id source
  | none => batch.note .warning .runningCascaded "no source found for target" id.text

/-- Runs the pending cascaded declarations or puts them off. -/
def runCascaded (batch : Batch H) : Batch H :=
  batch.pending.foldl (runCascadedEntry batch.runsNow) batch

/-! ## Requesting reimports -/

/-- Asks to process a written output again and prepares to absorb that. -/
def requestWritten (batch : Batch H) (path : String) : Batch H :=
  { batch with session.engine.suppressed := batch.engine.suppressed.insert path }.setHost
    (Host.requestReimport batch.host path)

/-- Asks to process a source again that was put off. -/
def requestDeferred (batch : Batch H) (path : String) : Batch H :=
  { batch with
    session.engine.deferred := batch.engine.deferred.insert path
    report.deferred := batch.report.deferred ++ [path] }.setHost
    (Host.requestReimport batch.host path)

/-- Asks to refresh the index when anything was written, ran or was put off. -/
def requestRefresh (batch : Batch H) : Batch H :=
  if !batch.written.isEmpty || batch.report.cascaded || !batch.deferred.isEmpty then
    { batch with report.refreshRequested := true }.setHost (Host.requestRefresh batch.host)
  else batch

/-- Sends the requests of the batch, unless the host is building. -/
def requestReimports (batch : Batch H) : Batch H :=
  if Host.isBuilding batch.host then batch
  else
    let batch := batch.written.toList.foldl requestWritten batch
    let batch := batch.deferred.toList.foldl requestDeferred batch
    batch.requestRefresh

/-! ## The phases -/

omit [Host H] in
/-- Calls one plugin at a point. -/
def callPlugin (point : HookPoint) (batch : Batch H) (plugin : Plugin) : Batch H :=
  let earlier := batch.session.world.hookCalls
  { batch with
    session.world.hookCalls := earlier ++ [⟨plugin.name, point, batch.report⟩]
    report := plugin.call earlier point batch.report }

omit [Host H] in
/-- Calls the plugins at a point, in the order of their registration. -/
def callPlugins (point : HookPoint) (batch : Batch H) : Batch H :=
  batch.engine.plugins.foldl (callPlugin point) batch

omit [Host H] in
/-- One phase: its work between the calls of the plugins. -/
def runPhase (phase : Phase) (work : Batch H → Batch H) (batch : Batch H) : Batch H :=
  (work (batch.callPlugins (.before phase))).callPlugins (.after phase)

/-- The work of a phase. -/
def work (paths : List String) : Phase → Batch H → Batch H
  | .collecting => collect paths
  | .resolvingTargets => resolveTargets
  | .runningDirect => runDirect
  | .runningCascaded => runCascaded
  | .requestingReimport => requestReimports
  | .done => id

omit [Host H] in
/-- The batch before its first phase. -/
def start (session : Session H) (forced : Bool) : Batch H :=
  { session, forced, report := { forced } }

/-- The batch after all its phases. -/
def run (session : Session H) (paths : List String) (forced : Bool) : Batch H :=
  Phase.all.foldl (fun batch phase => batch.runPhase phase (work paths phase))
    (start session forced)

end Batch

end SourceGen
