import SourceGen.Proofs.Batch.Repeating
import SourceGen.Proofs.Deferrals
import SourceGen.Proofs.Project.Regeneration

/-!
# What a settled run has done

A run that settles does all its work in two batches, that of the notification and that of the
reimports it asks for. Here the attempts of both are put into one list, and the session that the
run ends in is described: its files are those after the two batches, nothing waits in it and nothing
is put off (`Settles.ends_clear`).

For this the project has to be *regular*: the registered types are named and their names apart, the
generators steady, and the root is there. And paths have to go *straight*, those that are notified
and those that the host finds. Then every attempt is at a source that is there
(`Regular.sound_of_mem`), and the outputs, which are notified next, are straight too
(`Regular.straight_requests`).
-/

namespace SourceGen

open FilePath (join)

namespace Session

open Batch

/-- A session whose registered types can be told by their names, whose generators are steady, and
whose root is there. -/
structure Regular (session : Session DirectoryHost) : Prop where
  attached : session.Attached
  apart : session.engine.registry.NamesApart
  named : ∀ type ∈ session.engine.registry.targets ++ session.engine.registry.generators,
    type.shortName ≠ ""
  composed : ∀ registration ∈ session.engine.registry.all, registration.outputName.Composed
  steady : ∀ registration ∈ session.engine.registry.all, registration.generator.Steady
  holds : session.world.site.files.Holds session.engine.root

/-- The notified paths are straight, and so are the sources that the host finds for registered
targets. -/
structure GoesStraight (session : Session DirectoryHost) (paths : List String) : Prop where
  notified : ∀ path ∈ paths, SourcePath.IsStraight path
  sources : ∀ type, session.engine.registry.isTarget type = true → ∀ source,
    (session.next paths).world.host.sourceOf? type = some source → SourcePath.IsStraight source

lemma GoesStraight.collected {session : Session DirectoryHost} {paths : List String}
    (straight : session.GoesStraight paths) {path : String}
    (collected : path ∈ (gathered session paths false).collected) : SourcePath.IsStraight path := by
  obtain ⟨_, notified, listed, same⟩ := mem_distinctPaths.mp (mem_collected_iff.mp collected).1
  have goesStraight := straight.notified notified listed
  rw [goesStraight.normal] at same
  exact same ▸ goesStraight

/-- The session after the batch of a notification and that of the requests it makes. -/
def settled (session : Session DirectoryHost) (paths : List String) : Session DirectoryHost :=
  (session.next paths).next (session.requests paths)

/-- The attempts of both batches. -/
def settlingAttempts (session : Session DirectoryHost) (paths : List String) : List Attempt :=
  session.attempts paths false ++ (session.next paths).attempts (session.requests paths) false

variable {session : Session DirectoryHost} {paths : List String}

/-! ## One batch -/

lemma site_next (session : Session DirectoryHost) (paths : List String) :
    (session.next paths).world.site = (Batch.run session paths false).session.world.site := by
  have taken : ∀ batch : Batch DirectoryHost,
      batch.session.takeReimports.2.world.site = batch.session.world.site := fun _ => rfl
  rw [Session.next, taken]

lemma leads_next (session : Session DirectoryHost) (paths : List String) :
    session.world.site.Leads (session.attempts paths false) (session.next paths).world.site := by
  rw [site_next]
  exact leads_attempts

lemma leads_append {other : Session DirectoryHost}
    (same : other.world.site = (session.next paths).world.site) (more : List String) :
    session.world.site.Leads (session.attempts paths false ++ other.attempts more false)
      (other.next more).world.site := by
  have first := leads_next session paths
  rw [← same] at first
  exact first.append (leads_next other more)

lemma leads_settled (session : Session DirectoryHost) (paths : List String) :
    session.world.site.Leads (session.settlingAttempts paths)
      (session.settled paths).world.site := by
  rw [settlingAttempts, settled]
  exact leads_append rfl (session.requests paths)

lemma foundation_start_congr {other : Session DirectoryHost}
    (root : other.engine.root = session.engine.root)
    (settings : other.engine.settings = session.engine.settings)
    (registry : other.engine.registry = session.engine.registry)
    (plugins : other.engine.plugins = session.engine.plugins) :
    (start other false).foundation = (start session false).foundation := by
  have told : ∀ session : Session DirectoryHost, (start session false).foundation
      = ⟨false, session.engine.root, session.engine.settings, session.engine.registry,
        session.engine.plugins⟩ :=
    fun _ => rfl
  rw [told, told, root, settings, registry, plugins]

/-- All batches of a run have one foundation. -/
lemma foundation_start_next (session : Session DirectoryHost) (paths : List String) :
    (start (session.next paths) false).foundation = (start session false).foundation := by
  obtain ⟨root, settings, registry, plugins⟩ := foundation_next session paths
  exact foundation_start_congr root settings registry plugins

lemma Attached.sources_of_pending_eq_nil (attached : session.Attached)
    (nothing : (ranDirect session paths false).pending = []) :
    (session.next paths).world.host.sources = session.world.host.sources := by
  rw [attached.host_next, nothing]
  rfl

/-- The outputs that a batch reports are what its attempts wrote. -/
lemma Attached.mem_written (attached : session.Attached) {path : String} :
    path ∈ (Batch.run session paths false).report.written ↔
      ∃ attempt ∈ session.attempts paths false, attempt.outcome = .ok (.written path) := by
  rw [written_run attached.observers, ← OrderedSet.mem_iff, ← written_eq_ranCascaded,
    Session.mem_written]

/-- What is put off after a batch: what was before and was not taken up, and what the batch
reports. -/
lemma Attached.mem_deferred_next (attached : session.Attached) {path : String} :
    path ∈ (session.next paths).engine.deferred ↔
      (path ∈ session.engine.deferred ∧
        (path ∈ distinctPaths paths → path ∈ session.engine.suppressed)) ∨
        path ∈ (Batch.run session paths false).report.deferred := by
  have idle : Host.isBuilding (ranCascaded session paths false).host = false := rfl
  rw [engine_next, mem_deferred_run, absorbs_start, announced_run attached.observers, idle,
    if_neg Bool.false_ne_true, ← OrderedSet.mem_iff, ← deferred_eq_ranCascaded]
  simp

/-- When nothing was put off before, a batch has reported whatever is put off after it. -/
lemma Attached.reported_of_deferred_next (attached : session.Attached)
    (fresh : session.engine.deferred = ∅) {path : String}
    (put : path ∈ (session.next paths).engine.deferred) :
    path ∈ (Batch.run session paths false).report.deferred :=
  (attached.mem_deferred_next.mp put).resolve_left fun old =>
    OrderedSet.eq_empty_iff.mp fresh path old.1

lemma Attached.ran_eq_attempts (attached : session.Attached) :
    (Batch.run session paths false).report.ran
      = (session.attempts paths false).map fun attempt => attempt.registration.id := by
  rw [ran_eq_ranIn attached.discovered.indexed attached.observers, ranIn_attempts]

lemma Attached.attempts_eq_nil (attached : session.Attached)
    (nothing : (gathered session paths false).collected = []) : session.attempts paths false
      = [] := by
  have ran := (attached.silent_of_collected_eq_nil nothing).2.2
  rwa [attached.ran_eq_attempts, List.map_eq_nil_iff] at ran

/-! ## Attempts at sources -/

namespace Regular

/-- A session is regular when it has the registry and the root of one that is, and its files. -/
lemma of_grows (regular : session.Regular) {other : Session DirectoryHost}
    (attached : other.Attached) (registry : other.engine.registry = session.engine.registry)
    (root : other.engine.root = session.engine.root)
    (grows : session.world.site.files.Grows other.world.site.files) : other.Regular := by
  refine ⟨attached, ?_, ?_, ?_, ?_, ?_⟩
  · rw [registry]
    exact regular.apart
  · rw [registry]
    exact regular.named
  · rw [registry]
    exact regular.composed
  · rw [registry]
    exact regular.steady
  · rw [root]
    exact regular.holds.grows grows

lemma named_target (regular : session.Regular) {id : DeclarationId}
    (registered : id ∈ session.engine.registry.registrations.keys) : id.target.shortName ≠ "" :=
  regular.named _ (Registry.mem_targets regular.attached.discovered.indexed registered)

lemma next (regular : session.Regular) : (session.next paths).Regular := by
  obtain ⟨root, _, registry, _⟩ := foundation_next session paths
  exact regular.of_grows regular.attached.next registry root regular.attached.files_next

variable (regular : session.Regular) (straight : session.GoesStraight paths)

include regular straight

/-- The source of a pending declaration is straight, and the one that the host finds. -/
lemma sourceOf?_of_located {id : DeclarationId}
    (pending : id ∈ (ranDirect session paths false).pending) {source : String}
    (located : ((ranDirect session paths false).turn id).located id = some source) :
    (session.next paths).world.host.sourceOf? id.target = some source ∧
    SourcePath.IsStraight source := by
  have built := regular.attached.sources_of_pending (List.ne_nil_of_mem pending)
  rw [located_turn, Option.map_eq_some_iff] at located
  obtain ⟨listed, found, rfl⟩ := located
  have known : (session.next paths).world.host.sourceOf? id.target = some listed :=
    Option.bind_eq_some_iff.mpr ⟨_, built, found⟩
  have goesStraight := straight.sources _ (regular.attached.isTarget_of_pending pending) _ known
  rw [goesStraight.normal]
  exact ⟨known, goesStraight⟩

/-- **Every attempt is at a straight source that is there.** -/
theorem sound_of_mem {attempt : Attempt} (made : attempt ∈ session.attempts paths false) :
    attempt.IsSound (start session false).foundation := by
  have genuine : ∀ attempt ∈ session.attempts paths false,
      attempt.IsOf (start session false).foundation :=
    fun _ => isOf_of_mem_attempts
  obtain ⟨id, found, scheduled⟩ := scheduled_of_mem_attempts made
  have registered := Registry.mem_all_of_get? found
  have composed := regular.composed _ registered
  have steady := regular.steady _ registered
  rcases scheduled with ⟨_, scheduled⟩ | ⟨_, _, pending, located, _, present⟩
  · obtain ⟨collected, source⟩ := regular.attached.isSourceFor_of_direct regular.apart
      (OrderedMap.get?_isSome_iff.mp (Option.isSome_iff_exists.mpr ⟨_, found⟩)) scheduled
    refine ⟨genuine attempt made, composed, steady, straight.collected collected, ?_⟩
    exact ((leads_next session paths).grows_of_mem genuine made).1.pathExists source.present
  · have goesStraight := (regular.sourceOf?_of_located straight pending located).2
    exact ⟨genuine attempt made, composed, steady, goesStraight, present⟩

/-- What is written is the output of a straight source: it is straight, and of the name of a
generated file. -/
lemma straight_of_written {path : String}
    (written : path ∈ (Batch.run session paths false).report.written) :
    SourcePath.IsStraight path ∧ isGeneratedFileName (SourcePath.fileName path) = true := by
  obtain ⟨attempt, made, outcome⟩ := regular.attached.mem_written.mp written
  have sound := regular.sound_of_mem straight made
  rw [sound.path_eq outcome]
  refine ⟨Registration.straight_outputPath sound.composed sound.straight, ?_⟩
  rw [(Registration.fileName_outputPath sound.composed attempt.source).1]
  exact sound.composed.isGeneratedFileName

/-- What is put off is a straight source, of a name that is not that of a generated file. -/
lemma straight_of_deferred {path : String}
    (deferred : path ∈ (Batch.run session paths false).report.deferred) :
    SourcePath.IsStraight path ∧ isGeneratedFileName (SourcePath.fileName path) = false ∧
    path ≠ "" := by
  obtain ⟨_, _, id, pending, source, found, normal⟩ :=
    regular.attached.deferral_of_reported deferred
  have goesStraight := straight.sources _ (regular.attached.isTarget_of_pending pending) _ found
  rw [goesStraight.normal] at normal
  subst normal
  obtain ⟨stem, authored⟩ := regular.attached.next.sources.sourceOf? found
  refine ⟨goesStraight, authored, ?_⟩
  rintro rfl
  exact regular.named_target (registered_of_mem_pending regular.attached.discovered.indexed pending)
    stem.symm

lemma straight_requests : ∀ path ∈ session.requests paths, SourcePath.IsStraight path := by
  intro path requested
  rcases List.mem_append.mp requested with written | deferred
  · exact (regular.straight_of_written straight written).1
  · exact (regular.straight_of_deferred straight deferred).1

lemma fixesTargets :
    (session.next paths).FixesTargets (Batch.run session paths false).report.written := by
  obtain ⟨_, _, registry, _⟩ := foundation_next session paths
  refine ⟨fun _ written => (regular.straight_of_written straight written).1.normal, ?_⟩
  rw [registry]
  exact fun type isTarget source found => (straight.sources type isTarget source found).normal

/-! ## The second batch -/

/-- The second batch finds the index as the first has left it. -/
lemma sources_settled :
    (session.settled paths).world.host.sources = (session.next paths).world.host.sources :=
  regular.attached.next.sources_of_pending_eq_nil
    (regular.attached.pending_next_eq_nil (regular.fixesTargets straight))

lemma straight_next : (session.next paths).GoesStraight (session.requests paths) := by
  obtain ⟨_, _, registry, _⟩ := foundation_next session paths
  have index := regular.sources_settled straight
  rw [settled] at index
  refine ⟨regular.straight_requests straight, ?_⟩
  rw [registry]
  intro type isTarget source found
  rw [DirectoryHost.sourceOf?, index] at found
  exact straight.sources type isTarget source found

lemma sound_settling {attempt : Attempt} (made : attempt ∈ session.settlingAttempts paths) :
    attempt.IsSound (start session false).foundation := by
  rcases List.mem_append.mp made with first | second
  · exact regular.sound_of_mem straight first
  · rw [← foundation_start_next session paths]
    exact regular.next.sound_of_mem (regular.straight_next straight) second

lemma once_settling :
    ((session.settlingAttempts paths).map fun attempt => attempt.registration.id).Nodup := by
  have attached := regular.attached
  have attached' : (session.next paths).Attached := attached.next
  rw [settlingAttempts, List.map_append, ← attached.ran_eq_attempts, ← attached'.ran_eq_attempts]
  exact List.Nodup.append (nodup_ran_run attached.observers attached.discovered.indexed)
    (nodup_ran_run attached'.observers attached'.discovered.indexed)
    (attached.disjoint_ran regular.apart (regular.fixesTargets straight))

/-- From the beginning to the end, only outputs and directories of outputs appear. -/
lemma gainsOnly_settled :
    FileSystem.GainsOnly FileSystem.IsGenerated session.world.site.files
      (session.settled paths).world.site.files :=
  (leads_settled session paths).gainsOnly (fun _ => regular.sound_settling straight) regular.holds

/-- What the first batch has put off is taken up by the second, which puts nothing off. -/
lemma deferred_settled (fresh : session.engine.suppressed = ∅ ∧ session.engine.deferred = ∅)
    {path : String} :
    path ∉ (session.settled paths).engine.deferred := by
  have attached := regular.attached
  have nothing := attached.pending_next_eq_nil (regular.fixesTargets straight)
  rw [settled, attached.next.mem_deferred_next, (attached.next.run_of_pending_eq_nil nothing).1]
  rintro (⟨put, kept⟩ | none)
  · have deferred := attached.reported_of_deferred_next fresh.2 put
    obtain ⟨goesStraight, authored, nonempty⟩ := regular.straight_of_deferred straight deferred
    have waits := kept (mem_distinctPaths.mpr
      ⟨nonempty, path, List.mem_append_right _ deferred, goesStraight.normal⟩)
    rw [attached.mem_suppressed_next nonempty, fresh.1] at waits
    rcases waits with written | ⟨waits, _⟩
    · rw [(regular.straight_of_written straight written).2] at authored
      cases authored
    · exact OrderedSet.not_mem_empty path waits
  · exact List.not_mem_nil none

end Regular

/-! ## The end of the run -/

/-- The other session is what this one has become after a settled run: the files are those after the
first two batches, the host has the index of the first, and nothing waits, is put off or is
requested. -/
structure Revisits (session again : Session DirectoryHost) (paths : List String) : Prop where
  attached : again.Attached
  engine : again.engine = session.engine
  types : again.world.host.types = session.world.host.types
  sources : again.world.host.sources = (session.next paths).world.host.sources
  idle : again.world.host.reimports = []
  site : again.world.site = (session.settled paths).world.site

/-- A batch that collects nothing leaves site and index alone. -/
lemma Attached.next_of_collected_eq_nil (attached : session.Attached)
    (nothing : (gathered session paths false).collected = []) :
    (session.next paths).world.site = session.world.site ∧
      (session.next paths).world.host.sources = session.world.host.sources := by
  constructor
  · have leads := leads_next session paths
    rw [attached.attempts_eq_nil nothing] at leads
    exact leads
  · exact attached.sources_of_pending_eq_nil
      (attached.pending_eq_nil fun path collected => absurd collected (nothing ▸ List.not_mem_nil))

lemma Attached.types_next (attached : session.Attached) :
    (session.next paths).world.host.types = session.world.host.types := by
  rw [attached.host_next]

/-- What waits after a batch was written by it or waited before. -/
lemma Attached.written_of_suppressed_next (attached : session.Attached)
    (named : "" ∉ session.engine.suppressed) {path : String}
    (waits : path ∈ (session.next paths).engine.suppressed) :
    path ∈ (Batch.run session paths false).report.written ∨ path ∈ session.engine.suppressed := by
  rw [engine_next, mem_suppressed_run attached.observers fun listed same =>
    named (same ▸ listed)] at waits
  exact waits.imp And.right And.left

lemma Attached.named_next (attached : session.Attached) (named : "" ∉ session.engine.suppressed) :
    "" ∉ (session.next paths).engine.suppressed := by
  rw [engine_next]
  exact empty_not_mem_suppressed attached.observers named

lemma engine_congr {other : Session DirectoryHost}
    (foundation : (start other false).foundation = (start session false).foundation)
    (suppressed : other.engine.suppressed = session.engine.suppressed)
    (deferred : other.engine.deferred = session.engine.deferred) : other.engine
      = session.engine := by
  have root : other.engine.root = session.engine.root := congrArg Foundation.root foundation
  have settings : other.engine.settings = session.engine.settings :=
    congrArg Foundation.settings foundation
  have registry : other.engine.registry = session.engine.registry :=
    congrArg Foundation.registry foundation
  have plugins : other.engine.plugins = session.engine.plugins :=
    congrArg Foundation.plugins foundation
  have told : ∀ engine : Engine, engine = ⟨engine.root, engine.settings,
      engine.registry, engine.suppressed,
      engine.deferred, engine.plugins⟩ := fun _ => rfl
  rw [told other.engine, root, settings, registry, suppressed, deferred, plugins, ← told]

end Session

namespace Project

open Batch Session

variable {session : Session DirectoryHost} {paths : List String} {report : ProcessReport}
  {last : Session DirectoryHost}

lemma Settles.straight_of_written (regular : session.Regular)
    (straight : session.GoesStraight paths) (settles : Settles session paths report last)
    {path : String} (written : path ∈ report.written) :
    SourcePath.IsStraight path := by
  rw [settles.written regular.attached] at written
  rcases List.mem_append.mp written with first | second
  · exact (regular.straight_of_written straight first).1
  · exact (regular.next.straight_of_written (regular.straight_next straight) second).1

/-- Whatever waits at the end was written in the run. -/
lemma Settles.written_of_suppressed (attached : session.Attached)
    (named : "" ∉ session.engine.suppressed) (settles : Settles session paths report last)
    {path : String} (waits : path ∈ last.engine.suppressed) :
    path ∈ report.written ∨ path ∈ session.engine.suppressed := by
  have attached' : (session.next paths).Attached := attached.next
  have named' : "" ∉ (session.next paths).engine.suppressed := attached.named_next named
  rw [settles.written attached, List.mem_append]
  have second : path ∈ ((session.next paths).next (session.requests paths)).engine.suppressed → _ :=
    fun waits =>
    (attached'.written_of_suppressed_next named' waits).imp_right
      (attached.written_of_suppressed_next named)
  rw [or_right_comm, or_comm]
  cases settles with
  | once silent => exact .inr (attached.written_of_suppressed_next named waits)
  | twice => exact second waits
  | thrice settled absorbed =>
    have attached'' : ((session.next paths).next (session.requests paths)).Attached :=
      attached'.next
    have none := (attached''.silent_of_collected_eq_nil absorbed).1
    have waits := attached''.written_of_suppressed_next (attached'.named_next named') waits
    rw [none] at waits
    exact second (waits.resolve_left List.not_mem_nil)

section Ends

variable (regular : session.Regular) (straight : session.GoesStraight paths)
  (fresh : session.engine.suppressed = ∅ ∧ session.engine.deferred = ∅)
  (settles : Settles session paths report last)

include regular straight fresh settles

lemma Settles.suppressed_eq_empty : last.engine.suppressed = ∅ := by
  have idle := OrderedSet.eq_empty_iff.mp fresh.1
  refine OrderedSet.eq_empty_iff.mpr fun path waits => ?_
  have written :=
    (settles.written_of_suppressed regular.attached (idle "") waits).resolve_right (idle path)
  exact settles.not_mem_suppressed regular.attached
    (fun path listed => (settles.straight_of_written regular straight listed).normal) written waits

lemma Settles.deferred_eq_empty : last.engine.deferred = ∅ := by
  have attached : session.Attached := regular.attached
  have attached' : (session.next paths).Attached := attached.next
  have attached'' : ((session.next paths).next (session.requests paths)).Attached := attached'.next
  have taken : ∀ path, path ∉ (session.settled paths).engine.deferred := fun _ =>
    regular.deferred_settled straight fresh
  rw [settled] at taken
  refine OrderedSet.eq_empty_iff.mpr ?_
  cases settles with
  | once silent =>
    intro path listed
    have requested : path ∈ session.requests paths :=
      List.mem_append_right _ (attached.reported_of_deferred_next fresh.2 listed)
    rw [silent] at requested
    exact List.not_mem_nil requested
  | twice => exact taken
  | thrice settled absorbed =>
    intro path listed
    rw [attached''.mem_deferred_next,
      (attached''.silent_of_collected_eq_nil absorbed).2.1] at listed
    exact taken path (listed.resolve_right List.not_mem_nil).1

/-- **A settled run ends with a session that has nothing left to do**, and with the files as the
first two batches have left them. -/
theorem Settles.revisits : session.Revisits last paths := by
  have attached : session.Attached := regular.attached
  have attached' : (session.next paths).Attached := attached.next
  have attached'' : ((session.next paths).next (session.requests paths)).Attached := attached'.next
  have suppressed : last.engine.suppressed = session.engine.suppressed :=
    (settles.suppressed_eq_empty regular straight fresh).trans fresh.1.symm
  have deferred : last.engine.deferred = session.engine.deferred :=
    (settles.deferred_eq_empty regular straight fresh).trans fresh.2.symm
  have first := foundation_start_next session paths
  have second := (foundation_start_next (session.next paths) (session.requests paths)).trans first
  have types : (session.next paths).world.host.types = session.world.host.types :=
    attached.types_next
  have typesSecond : ((session.next paths).next (session.requests paths)).world.host.types
      = session.world.host.types := attached'.types_next.trans types
  have index := regular.sources_settled straight
  rw [settled] at index
  cases settles with
  | once silent =>
    refine ⟨attached', engine_congr first suppressed deferred, types, rfl,
      reimports_next session paths, ?_⟩
    rw [Session.settled, silent]
    exact (attached'.next_of_collected_eq_nil (collected_nil _)).1.symm
  | twice settled silent =>
    exact ⟨attached'', engine_congr second suppressed deferred, typesSecond, index,
      reimports_next (session.next paths) (session.requests paths), by rw [Session.settled]⟩
  | thrice settled absorbed =>
    obtain ⟨site, sources⟩ := attached''.next_of_collected_eq_nil absorbed
    exact ⟨attached''.next, engine_congr ((foundation_start_next _ _).trans second)
      suppressed deferred,
      attached''.types_next.trans typesSecond, sources.trans index, reimports_next _ _,
      by rw [Session.settled, site]⟩

end Ends

end Project

end SourceGen
