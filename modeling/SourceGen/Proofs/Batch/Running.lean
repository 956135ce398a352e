import SourceGen.Proofs.Batch.Resolving
import SourceGen.Proofs.Registry.Emitting
import SourceGen.Proofs.Registry.Indexes

/-!
# What running declarations does

The report lists a declaration as soon as it has run, whatever came of it, provided that it is
registered; and only registered declarations are ever scheduled (`registered_of_mem_direct`,
`registered_of_mem_cascaded`). So the direct phase runs the direct declarations in their order
(`ran_ranDirect`).

Whatever runs, the report lists exactly what is written, nothing without a name is written
(`Recorded`), and after the direct phase the flag for cascades tells whether anything is
(`Flagged`).
-/

namespace SourceGen

lemma Registration.ne_empty_of_written {registration : Registration} {root : String}
    {settings : Settings} {force : Bool} {source : String} {site : Site} {path : String}
    (written : (registration.emit root settings force source site).2 = .ok (.written path)) :
    path ≠ "" := by
  obtain ⟨error, emitted⟩ | emitted | ⟨place, buffer, ⟨_, _, _, _, placed⟩, emitted⟩ :=
    registration.emit_cases root settings force source site
  · rw [emitted] at written
    cases written
  · rw [emitted] at written
    cases written
  · rw [emitted] at written
    obtain ⟨rfl, _⟩ :=
      (registration.persist_eq_written_iff root force site.files place buffer path).mp written
    exact placed

namespace Batch

variable {H : Type}

/-! ## Only registered declarations are scheduled -/

lemma registered_of_directlyFor {registry : Registry} (indexed : registry.Indexed)
    {classification : Classification} {id : DeclarationId}
    (calls : id ∈ directlyFor registry classification) : id ∈ registry.registrations.keys := by
  cases classification with
  | direct target => exact ((Registry.mem_ids_forTarget indexed).mp calls).1
  | generated | generatorSource | irrelevant => cases calls

lemma mem_siblings {registry : Registry} (indexed : registry.Indexed) {target : TypeName}
    {registration : Registration} {id : DeclarationId} :
    id ∈ siblings registry target registration ↔
      id ∈ registry.registrations.keys ∧ id.generator = registration.id.generator ∧
        id.target ≠ target := by
  rw [← and_assoc, ← Registry.mem_ids_forGenerator indexed, siblings]
  simp only [List.mem_map, List.mem_filter, decide_eq_true_eq]
  constructor
  · rintro ⟨other, ⟨listed, ne⟩, rfl⟩
    exact ⟨⟨other, listed, rfl⟩, ne⟩
  · rintro ⟨⟨other, listed, rfl⟩, ne⟩
    exact ⟨other, ⟨listed, ne⟩, rfl⟩

lemma registered_of_besidesFor {registry : Registry} (indexed : registry.Indexed)
    {forced wasDeferred : Bool} {classification : Classification} {id : DeclarationId}
    (calls : id ∈ besidesFor registry forced wasDeferred classification) :
    id ∈ registry.registrations.keys := by
  cases classification with
  | direct target =>
    cases wasDeferred with
    | true => cases calls
    | false =>
      obtain ⟨registration, _, sibling⟩ := List.mem_flatMap.mp calls
      exact ((mem_siblings indexed).mp sibling).1
  | generated generator =>
    cases forced with
    | true => exact ((Registry.mem_ids_forGenerator indexed).mp calls).1
    | false => cases calls
  | generatorSource type => exact ((Registry.mem_ids_forGenerator indexed).mp calls).1
  | irrelevant => cases calls

section Scheduled

variable [Host H] {session : Session H} {paths : List String} {forced : Bool}

lemma foundation_resolved :
    (resolved session paths forced).foundation = (start session forced).foundation :=
  congrArg Gathering.foundation (gathering_resolved_eq session paths forced)

lemma registry_resolved :
    (resolved session paths forced).engine.registry = session.engine.registry :=
  congrArg (fun g => g.engine.registry) (gathering_resolved_eq session paths forced)

lemma settings_resolved :
    (resolved session paths forced).engine.settings = session.engine.settings :=
  congrArg (fun g => g.engine.settings) (gathering_resolved_eq session paths forced)

lemma site_resolved :
    (resolved session paths forced).session.world.site = session.world.site :=
  congrArg Gathering.site (gathering_resolved_eq session paths forced)

/-- Whether a path names anything does not change before the direct phase. -/
lemma pathExists_resolved (path : String) :
    (resolved session paths forced).pathExists path = (start session forced).pathExists path := by
  have root : (resolved session paths forced).engine.root = session.engine.root :=
    congrArg (fun g => g.engine.root) (gathering_resolved_eq session paths forced)
  rw [pathExists, files, site_resolved, root]
  rfl

lemma forced_resolved : (resolved session paths forced).forced = forced :=
  congrArg Gathering.forced (gathering_resolved_eq session paths forced)

lemma deferredHits_resolved :
    (resolved session paths forced).deferredHits = (gathered session paths forced).deferredHits :=
  congrArg Gathering.deferredHits (gathering_resolved session paths forced)

theorem registered_of_mem_direct (indexed : session.engine.registry.Indexed) {id : DeclarationId}
    (scheduled : id ∈ (resolved session paths forced).direct.keys) :
    id ∈ session.engine.registry.registrations.keys := by
  obtain ⟨path, _, calls⟩ := (mem_direct_resolved session paths forced).mp scheduled
  unfold directly at calls
  split at calls
  · rw [registry_resolved] at calls
    exact registered_of_directlyFor indexed calls
  · cases calls

theorem registered_of_mem_cascaded (indexed : session.engine.registry.Indexed) {id : DeclarationId}
    (scheduled : id ∈ (resolved session paths forced).cascaded) :
    id ∈ session.engine.registry.registrations.keys := by
  obtain ⟨path, _, calls⟩ := (mem_cascaded_resolved session paths forced).mp scheduled
  unfold besides at calls
  split at calls
  · rw [registry_resolved] at calls
    exact registered_of_besidesFor indexed calls
  · cases calls

end Scheduled

/-! ## One emission -/

/-- The report lists what is written, and everything written has a name. -/
structure Recorded (batch : Batch H) : Prop where
  listed : batch.report.written = batch.written.toList
  named : "" ∉ batch.written

/-- The flag tells whether anything is written. -/
structure Flagged (batch : Batch H) : Prop extends Recorded batch where
  flag : batch.updated = !batch.written.isEmpty

lemma recorded_settle {batch : Batch H} (recorded : batch.Recorded) (id : DeclarationId)
    (phase : Phase) {outcome : Except EmitError EmitOutcome}
    (named : ∀ path, outcome = .ok (.written path) → path ≠ "") :
    (batch.settle id phase outcome).Recorded ∧
      (batch.settle id phase outcome).written.isEmpty
        = (batch.written.isEmpty && !wrote outcome) := by
  rcases outcome with error | path | _ | path
  · exact ⟨⟨recorded.listed, recorded.named⟩, by simp [settle, note, wrote]⟩
  · simp only [settle]
    split
    · next known =>
      refine ⟨recorded, ?_⟩
      rw [OrderedSet.isEmpty, List.isEmpty_eq_false_iff.mpr (List.ne_nil_of_mem known)]
      rfl
    · next fresh =>
      refine ⟨⟨?_, ?_⟩, ?_⟩
      · simp only [OrderedSet.toList_insert_of_not_mem fresh, recorded.listed]
      · simp only [OrderedSet.mem_insert, not_or]
        exact ⟨recorded.named, (named path rfl).symm⟩
      · simp [OrderedSet.isEmpty, OrderedSet.toList_insert_of_not_mem fresh, wrote]
  · exact ⟨recorded, by simp [settle, wrote]⟩
  · exact ⟨⟨recorded.listed, recorded.named⟩, by simp [settle, wrote]⟩

lemma ran_settle (id : DeclarationId) (phase : Phase) (outcome : Except EmitError EmitOutcome) :
    Keeps (fun batch : Batch H => batch.report.ran) fun batch => batch.settle id phase outcome := by
  intro batch
  rcases outcome with error | path | _ | path
  · rfl
  · simp only [settle]
    split <;> rfl
  · rfl
  · rfl

lemma recorded_emit {batch : Batch H} (recorded : batch.Recorded) (id : DeclarationId)
    (source : String) (phase : Phase) :
    (batch.emit id source phase).1.Recorded ∧
      (batch.emit id source phase).1.written.isEmpty
        = (batch.written.isEmpty && !(batch.emit id source phase).2) := by
  have entered : ∀ site, Recorded
      { batch with session.world.site := site, report.ran := batch.report.ran ++ [id] } :=
    fun _ => ⟨recorded.listed, recorded.named⟩
  simp only [emit]
  split
  · exact ⟨recorded, by simp⟩
  · exact recorded_settle (entered _) id phase fun _ => Registration.ne_empty_of_written

lemma ran_emit (batch : Batch H) {id : DeclarationId}
    (registered : id ∈ batch.engine.registry.registrations.keys) (source : String) (phase : Phase) :
    (batch.emit id source phase).1.report.ran = batch.report.ran ++ [id] := by
  obtain ⟨registration, found⟩ :=
    Option.isSome_iff_exists.mp (OrderedMap.get?_isSome_iff.mpr registered)
  have found : batch.engine.registry.get? id = some registration := found
  simp only [emit, found]
  exact ran_settle id phase _ _

/-! ## The direct phase -/

lemma flagged_runDirectEntry {batch : Batch H} (flagged : batch.Flagged)
    (entry : DeclarationId × String) : (batch.runDirectEntry entry).Flagged := by
  obtain ⟨recorded, wrote⟩ := recorded_emit flagged.toRecorded entry.1 entry.2 .runningDirect
  have updated := updated_emit entry.1 entry.2 .runningDirect batch
  refine ⟨⟨recorded.listed, recorded.named⟩, ?_⟩
  change ((batch.emit entry.1 entry.2 .runningDirect).1.updated
      || (batch.emit entry.1 entry.2 .runningDirect).2)
    = !(batch.emit entry.1 entry.2 .runningDirect).1.written.isEmpty
  rw [wrote, updated, flagged.flag, Bool.not_and, Bool.not_not]

lemma ran_foldl_runDirectEntry {entries : List (DeclarationId × String)} {batch : Batch H}
    (registered : ∀ entry ∈ entries, entry.1 ∈ batch.engine.registry.registrations.keys) :
    (entries.foldl runDirectEntry batch).report.ran = batch.report.ran ++ entries.map Prod.fst := by
  induction entries generalizing batch with
  | nil => exact (List.append_nil _).symm
  | cons entry rest ih =>
    have engine : (batch.runDirectEntry entry).engine = batch.engine :=
      congrArg (fun s => s.plan.engine) (standing_runDirectEntry entry batch)
    have ran : (batch.runDirectEntry entry).report.ran = batch.report.ran ++ [entry.1] :=
      ran_emit batch (registered entry List.mem_cons_self) entry.2 .runningDirect
    rw [List.foldl_cons, ih, ran, List.append_assoc]
    · rfl
    · rw [engine]
      exact fun other listed => registered other (List.mem_cons_of_mem entry listed)

section Direct

variable [Host H] {session : Session H} {paths : List String} {forced : Bool}

lemma written_resolved : (resolved session paths forced).written = ∅ :=
  congrArg Gathering.written (gathering_resolved_eq session paths forced)

lemma flagged_resolved : (resolved session paths forced).Flagged := by
  have same := gathering_resolved_eq session paths forced
  have report := congrArg Gathering.report same
  have updated : (resolved session paths forced).updated = false := congrArg Gathering.updated same
  refine ⟨⟨?_, ?_⟩, ?_⟩
  · rw [written_resolved]
    exact congrArg BatchReport.written report
  · rw [written_resolved]
    exact OrderedSet.not_mem_empty _
  · rw [written_resolved, updated]
    rfl

variable (session paths forced) in
lemma fresh_resolved :
    (resolved session paths forced).report.ran = [] ∧
      (resolved session paths forced).report.cascaded = false ∧
      (resolved session paths forced).report.deferred = [] ∧
      (resolved session paths forced).deferred = ∅ ∧
      (resolved session paths forced).report.refreshRequested = false := by
  have same := gathering_resolved_eq session paths forced
  have report := congrArg Gathering.report same
  exact ⟨congrArg BatchReport.ran report, congrArg BatchReport.cascaded report,
    congrArg BatchReport.deferred report, congrArg Gathering.deferred same,
    congrArg BatchReport.refreshRequested report⟩

lemma standing_ranDirect :
    (ranDirect session paths forced).standing = (resolved session paths forced).standing :=
  standing_runDirect _

/-- Until its cascades, a batch asks for no sources. -/
lemma paths_ranDirect : (ranDirect session paths forced).lookups.paths = ∅ := by
  have direct : (ranDirect session paths forced).lookups
      = (resolved session paths forced).lookups :=
    congrArg Standing.lookups standing_ranDirect
  have resolve : (resolved session paths forced).lookups.paths
      = (gathered session paths forced).lookups.paths :=
    Keeps.foldl paths_resolvePath _ _
  rw [direct, resolve, gathered_eq]
  rfl

lemma registry_ranDirect :
    (ranDirect session paths forced).engine.registry = session.engine.registry :=
  (congrArg (fun s : Standing H => s.plan.engine.registry) standing_ranDirect).trans
    registry_resolved

lemma flagged_ranDirect : (ranDirect session paths forced).Flagged :=
  List.foldlRecOn _ _ flagged_resolved fun _ flagged entry _ => flagged_runDirectEntry flagged entry

/-- The direct phase runs the direct declarations in their order. -/
theorem ran_ranDirect (indexed : session.engine.registry.Indexed) :
    (ranDirect session paths forced).report.ran = (resolved session paths forced).direct.keys := by
  have registered : ∀ entry ∈ (resolved session paths forced).direct.entries,
      entry.1 ∈ (resolved session paths forced).engine.registry.registrations.keys := by
    intro entry listed
    rw [registry_resolved]
    exact registered_of_mem_direct indexed (List.mem_map.mpr ⟨entry, listed, rfl⟩)
  rw [ranDirect, runDirect, ran_foldl_runDirectEntry registered,
    (fresh_resolved session paths forced).1, List.nil_append]
  rfl

end Direct

end Batch

end SourceGen
