import SourceGen.Proofs.Project.SettledRun

/-!
# Processing the same paths again

A session that a settled run has ended in is notified of the same paths once more (`Revisits`). The
paths mean what they meant, since what has appeared in the meantime has names of generated files,
which are never sources (`resolved_eq`). So the same declarations are direct and the same are
pending, for the same sources.

What may differ is the route that the pending ones take. They were put off if a direct declaration
wrote, and now none may write, where outputs are there and are not to be replaced. But whatever is
put off now was put off then (`mem_deferred_of_again`), and what was put off then was attempted in
the second batch (`attempted_of_deferred`). So whatever is attempted now was attempted then
(`repeats_first`, `repeats_second`).
-/

namespace SourceGen

open FilePath (join)

namespace Session

open Batch

variable {session again : Session DirectoryHost} {paths : List String}

/-! ## What was there before -/

lemma pathExists_start (session : Session DirectoryHost) (path : String) :
    (start session false).pathExists path
      = session.world.site.files.pathExists (join session.engine.root path) :=
  rfl

lemma fileStem_ne_of_named {path : String} (named : SourcePath.fileStem path ≠ "") :
    SourcePath.fileName path ≠ "" := by
  intro empty
  refine named ?_
  rw [SourcePath.fileName, ← String.toList_inj, String.toList_ofList] at empty
  rw [SourcePath.fileStem, empty]
  rfl

/-- A straight source is there only if it was there before anything generated appeared. -/
lemma Regular.present_of_gainsOnly (regular : session.Regular) {files : FileSystem}
    (grows : session.world.site.files.Grows files)
    (gains : FileSystem.GainsOnly FileSystem.IsGenerated session.world.site.files files)
    {path : String} (straight : SourcePath.IsStraight path)
    (authored : isGeneratedFileName (SourcePath.fileName path) = false)
    (named : SourcePath.fileStem path ≠ "")
    (present : files.pathExists (join session.engine.root path) = true) :
    session.world.site.files.pathExists (join session.engine.root path) = true := by
  refine gains.pathExists grows regular.holds (fun part listed => (straight.down part listed).2)
    straight.getLast?_parts (straight.isReal_fileName (fileStem_ne_of_named named)) ?_ present
  rintro place ends ⟨name, last, generated⟩
  obtain rfl := Option.some.inj (ends.symm.trans last)
  rw [authored] at generated
  cases generated

/-! ## What is put off -/

/-- What a batch puts off: the admitted sources of the pending declarations, unless these run
now. -/
lemma Attached.mem_deferred_iff (attached : session.Attached) {path : String} :
    path ∈ (Batch.run session paths false).report.deferred ↔
      (ranDirect session paths false).runsNow = false ∧
      ∃ id ∈ (ranDirect session paths false).pending,
        ((ranDirect session paths false).turn id).located id = some path ∧
          session.engine.settings.isAutomaticSource path = true := by
  have idle : Host.isBuilding (ranCascaded session paths false).host = false := rfl
  cases decided : (ranDirect session paths false).runsNow with
  | true =>
    rw [(run_now attached.observers attached.discovered.indexed decided).2.2]
    simp
  | false =>
    rw [(run_later attached.observers attached.discovered.indexed decided).2.2, idle,
      if_neg Bool.false_ne_true, ← OrderedSet.mem_iff, mem_putOff_ranDirect rfl, and_iff_right rfl]

/-- A pending declaration is there because a path was collected. -/
lemma autoEmit_of_pending {id : DeclarationId}
    (pending : id ∈ (ranDirect session paths false).pending) :
    session.engine.settings.autoEmit = true := by
  obtain ⟨path, collected, _⟩ :=
    (mem_cascaded_resolved session paths false).mp (mem_pending_ranDirect.mp pending).1
  exact (mem_collected_iff.mp collected).2.2.1

section First

variable (regular : session.Regular) (straight : session.GoesStraight paths)

include regular straight

/-- What is put off is what the host has for every target of that name. -/
lemma sourceOf?_of_deferred {path : String}
    (deferred : path ∈ (Batch.run session paths false).report.deferred) {type : TypeName}
    (stem : SourcePath.fileStem path = type.shortName) :
    (session.next paths).world.host.sourceOf? type = some path := by
  obtain ⟨id, _, found, _⟩ :=
    regular.attached.sourceOf?_of_reported (regular.fixesTargets straight) deferred
  have same : id.target.shortName = type.shortName :=
    (regular.attached.next.sources.sourceOf? found).1.symm.trans stem
  rw [DirectoryHost.sourceOf?, same] at found
  exact found

/-- **What is put off is attempted in the second batch**, by every declaration that it is a source
for. -/
theorem attempted_of_deferred (fresh : session.engine.suppressed = ∅) {id : DeclarationId}
    {registration : Registration} (registered : session.engine.registry.get? id = some registration)
    {path : String} (deferred : path ∈ (Batch.run session paths false).report.deferred)
    (source : session.IsSourceFor id.target path) :
    ∃ attempt ∈ (session.next paths).attempts (session.requests paths) false,
      attempt.registration = registration ∧ attempt.source = path := by
  have attached := regular.attached
  obtain ⟨_, _, registry, _⟩ := foundation_next session paths
  have known : id ∈ session.engine.registry.registrations.keys :=
    OrderedMap.get?_isSome_iff.mp (Option.isSome_iff_exists.mpr ⟨_, registered⟩)
  have named := regular.named_target known
  obtain ⟨goesStraight, authored, _⟩ := regular.straight_of_deferred straight deferred
  have found := sourceOf?_of_deferred regular straight deferred source.stem
  obtain ⟨_, put, pending, _, admitted⟩ := attached.mem_deferred_iff.mp deferred
  have collected :=
    attached.collected_next_of_deferred fresh named found goesStraight.normal source.present
    admitted (autoEmit_of_pending pending) (fun written => by
      rw [(regular.straight_of_written straight written).2] at authored
      cases authored) deferred
  rw [← registry] at registered known
  have attached' : (session.next paths).Attached := attached.next
  have apart' : (session.next paths).engine.registry.NamesApart := regular.next.apart
  have direct := (attached'.mem_direct_iff apart' known).mpr ⟨path, collected⟩
  obtain ⟨other, scheduled⟩ := Option.isSome_iff_exists.mp (OrderedMap.get?_isSome_iff.mpr direct)
  -- It runs for this source, since no other is put off for its target.
  obtain ⟨collectedOther, sourceOther⟩ := attached'.isSourceFor_of_direct apart' known scheduled
  have deferredOther :=
    attached.deferred_of_collected (regular.fixesTargets straight) collectedOther
  obtain rfl : other = path := Option.some.inj
    ((sourceOf?_of_deferred regular straight deferredOther sourceOther.stem).symm.trans found)
  obtain ⟨attempt, made, _, same⟩ := attempted_of_direct registered scheduled
  exact ⟨attempt, made, same⟩

end First

/-! ## The same paths again -/

lemma collected_congr (same : again.engine = session.engine) :
    (gathered again paths false).collected = (gathered session paths false).collected := by
  have told : ∀ session : Session DirectoryHost,
      (gathered session paths false).collected
        = (distinctPaths paths).filter (start session false).counts := by
    intro session
    rw [gathered_eq]
    rfl
  rw [told, told]
  refine List.filter_congr fun path _ => ?_
  rw [Bool.eq_iff_iff, counts_start, counts_start, same]

lemma pending_ranDirect_eq (session : Session DirectoryHost) (paths : List String) :
    (ranDirect session paths false).pending
      = (resolved session paths false).cascaded.toList.filter fun id =>
          !(resolved session paths false).direct.contains id := by
  have cascaded : (ranDirect session paths false).cascaded
      = (resolved session paths false).cascaded :=
    congrArg (fun s : Standing DirectoryHost => s.plan.cascaded) standing_ranDirect
  rw [Batch.pending, cascaded, direct_ranDirect]

section Again

variable (regular : session.Regular) (straight : session.GoesStraight paths)
  (fresh : session.engine.suppressed = ∅) (revisits : session.Revisits again paths)

include regular straight revisits

namespace Revisits

omit straight in
lemma grows : session.world.site.files.Grows again.world.site.files := by
  rw [revisits.site, settled]
  exact regular.attached.files_next.trans regular.attached.next.files_next

lemma gainsOnly :
    FileSystem.GainsOnly FileSystem.IsGenerated session.world.site.files
      again.world.site.files := by
  rw [revisits.site]
  exact regular.gainsOnly_settled straight

omit straight in
lemma regular_again : again.Regular :=
  regular.of_grows revisits.attached (by rw [revisits.engine]) (by rw [revisits.engine])
    (revisits.grows regular)

omit regular straight in
lemma foundation : (start again false).foundation = (start session false).foundation :=
  foundation_start_congr (by rw [revisits.engine]) (by rw [revisits.engine])
    (by rw [revisits.engine])
    (by rw [revisits.engine])

omit straight in
lemma present {path : String} (present : (start session false).pathExists path = true) :
    (start again false).pathExists path = true := by
  rw [pathExists_start] at present ⊢
  rw [revisits.engine]
  exact (revisits.grows regular).pathExists present

lemma present_of_again {path : String} (goesStraight : SourcePath.IsStraight path)
    (authored : isGeneratedFileName (SourcePath.fileName path) = false)
    (named : SourcePath.fileStem path ≠ "") (present : (start again false).pathExists path = true) :
    (start session false).pathExists path = true := by
  rw [pathExists_start] at present ⊢
  rw [revisits.engine] at present
  exact regular.present_of_gainsOnly (revisits.grows regular) (revisits.gainsOnly regular straight)
    goesStraight authored named present

/-- What has appeared in the meantime has the name of a generated file, or not that of a type. -/
lemma generated_or_unknown_of_appeared {path : String}
    (collected : path ∈ (gathered session paths false).collected)
    (absent : (start session false).pathExists path ≠ true)
    (still : (start again false).pathExists path = true) :
    isGeneratedFileName (SourcePath.fileName path) = true ∨
      session.world.host.types.get? (SourcePath.fileStem path) = none := by
  cases generated : isGeneratedFileName (SourcePath.fileName path) with
  | true => exact .inl rfl
  | false =>
    refine .inr (Option.eq_none_iff_forall_ne_some.mpr fun type known => absent ?_)
    rw [regular.attached.types, DirectoryHost.get?_types] at known
    have stem : type.shortName = SourcePath.fileStem path := by simpa using List.find?_some known
    have named := regular.named type (List.mem_of_find?_eq_some known)
    rw [stem] at named
    exact revisits.present_of_again regular straight (straight.collected collected)
      generated named still

lemma work_eq {path : String} (collected : path ∈ (gathered session paths false).collected) :
    (resolved again paths false).directly path = (resolved session paths false).directly path ∧
      (resolved again paths false).besides path = (resolved session paths false).besides path := by
  have collectedAgain : path ∈ (gathered again paths false).collected := by
    rwa [collected_congr revisits.engine]
  have hits : decide (path ∈ (resolved again paths false).deferredHits)
      = decide (path ∈ (resolved session paths false).deferredHits) := by
    rw [decide_eq_decide, deferredHits_resolved, deferredHits_resolved, mem_deferredHits_gathered,
      mem_deferredHits_gathered, collected_congr revisits.engine, revisits.engine]
  rw [directly, directly, besides, besides, pathExists_resolved, pathExists_resolved,
    registry_resolved, registry_resolved, forced_resolved, forced_resolved, hits, revisits.engine]
  by_cases present : (start session false).pathExists path = true
  · have still := revisits.present regular present
    rw [if_pos present, if_pos still, if_pos present, if_pos still,
      meaning_of_stem collected present, meaning_of_stem collectedAgain still, revisits.engine,
      revisits.types]
    exact ⟨rfl, rfl⟩
  rw [if_neg present, if_neg present]
  by_cases still : (start again false).pathExists path = true
  · rw [if_pos still, if_pos still, meaning_of_stem collectedAgain still, revisits.engine,
      revisits.types]
    exact idle_ofAnswer
      ((revisits.generated_or_unknown_of_appeared regular straight collected
        present still).imp_right .inr) _
  · rw [if_neg still, if_neg still]
    exact ⟨rfl, rfl⟩

/-- **The same declarations are direct, for the same sources, and the same are cascaded.** -/
theorem resolved_eq :
    (resolved again paths false).direct = (resolved session paths false).direct ∧
      (resolved again paths false).cascaded = (resolved session paths false).cascaded := by
  obtain ⟨direct, cascaded, _⟩ := resolved_spec session paths false
  obtain ⟨directAgain, cascadedAgain, _⟩ := resolved_spec again paths false
  rw [direct, directAgain, cascaded, cascadedAgain, collected_congr revisits.engine]
  constructor
  · rw [List.flatMap_congr fun path collected => by
      rw [(revisits.work_eq regular straight collected).1]]
  · rw [List.flatMap_congr fun path collected => (revisits.work_eq regular straight collected).2]

lemma pending_eq :
    (ranDirect again paths false).pending = (ranDirect session paths false).pending := by
  obtain ⟨direct, cascaded⟩ := revisits.resolved_eq regular straight
  rw [pending_ranDirect_eq, pending_ranDirect_eq, direct, cascaded]

lemma sources_next : (again.next paths).world.host.sources = again.world.host.sources := by
  by_cases pending : (ranDirect session paths false).pending = []
  · rw [← revisits.pending_eq regular straight] at pending
    exact revisits.attached.sources_of_pending_eq_nil pending
  · have built := regular.attached.sources_of_pending pending
    rw [← revisits.sources] at built
    rw [revisits.attached.sources_next built, built]

lemma straight_again : again.GoesStraight paths := by
  refine ⟨straight.notified, ?_⟩
  rw [revisits.engine]
  intro type isTarget source found
  rw [DirectoryHost.sourceOf?, revisits.sources_next regular straight, revisits.sources] at found
  exact straight.sources type isTarget source found

lemma sound {attempt : Attempt} (made : attempt ∈ again.attempts paths false) :
    attempt.IsSound (start again false).foundation :=
  (revisits.regular_again regular).sound_of_mem (revisits.straight_again regular straight) made

lemma located_eq {id : DeclarationId} (pending : id ∈ (ranDirect session paths false).pending) :
    ((ranDirect again paths false).turn id).located id
      = ((ranDirect session paths false).turn id).located id := by
  have built := regular.attached.sources_of_pending (List.ne_nil_of_mem pending)
  have builtAgain := revisits.attached.sources_of_pending (List.ne_nil_of_mem
    (revisits.pending_eq regular straight ▸ pending))
  rw [revisits.sources_next regular straight, revisits.sources, built] at builtAgain
  rw [located_turn, located_turn, Option.some.inj builtAgain]

/-! ## What is written now was written then -/

/-- An attempt writes now only if its counterpart in the settled run has written. -/
lemma written_of_again {attempt : Attempt} (listed : attempt ∈ again.attempts paths false)
    {earlier : Attempt} (counterpart : earlier ∈ session.settlingAttempts paths)
    (sameRegistration : earlier.registration = attempt.registration)
    (sameSource : earlier.source = attempt.source) {path : String}
    (written : attempt.outcome = .ok (.written path)) : earlier.outcome = .ok (.written path) := by
  have genuine : ∀ attempt ∈ session.settlingAttempts paths,
      attempt.IsOf (start session false).foundation :=
    fun _ made => (regular.sound_settling straight made).genuine
  have genuineAgain : ∀ attempt ∈ again.attempts paths false,
      attempt.IsOf (start session false).foundation := by
    rw [← revisits.foundation]
    exact fun _ => isOf_of_mem_attempts
  obtain ⟨found, left⟩ := (leads_settled session paths).grows_of_mem genuine counterpart
  obtain ⟨since, _⟩ := (leads_next again paths).grows_of_mem genuineAgain listed
  rw [← revisits.site] at left
  exact (regular.sound_settling straight counterpart).written_of_grows (genuineAgain attempt listed)
    (regular.holds.grows found) sameRegistration sameSource
    (((Attempt.grows_of_isOf (genuine earlier counterpart)).trans left).trans since) written

/-- Cascades are put off now only if they were put off then. -/
lemma runsNow_of_again (later : (ranDirect again paths false).runsNow = false) :
    (ranDirect session paths false).runsNow = false := by
  obtain ⟨_, wrote, _⟩ := runsNow_ranDirect_eq_false_iff.mp later
  obtain ⟨path, written⟩ := List.exists_mem_of_ne_nil _ wrote
  -- A direct declaration has written, so it has written then.
  obtain ⟨attempt, made, phase, outcome⟩ := mem_written_ranDirect.mp written
  obtain ⟨id, registered, scheduled⟩ := scheduled_of_mem_attempts made
  rcases scheduled with ⟨_, direct⟩ | ⟨other, _⟩
  · rw [revisits.engine] at registered
    rw [(revisits.resolved_eq regular straight).1] at direct
    obtain ⟨earlier, madeEarlier, phaseEarlier, sameRegistration, sameSource⟩ :=
      attempted_of_direct registered direct
    have outcomeEarlier :=
      revisits.written_of_again regular straight made (List.mem_append_left _ madeEarlier)
      sameRegistration sameSource outcome
    refine runsNow_ranDirect_eq_false_iff.mpr ⟨rfl, ?_, rfl⟩
    exact List.ne_nil_of_mem (OrderedSet.mem_iff.mp
      (mem_written_ranDirect.mpr ⟨earlier, madeEarlier, phaseEarlier, outcomeEarlier⟩))
  · rw [phase] at other
    cases other

/-- **What is put off now was put off then.** -/
theorem mem_deferred_of_again {path : String}
    (deferred : path ∈ (Batch.run again paths false).report.deferred) :
    path ∈ (Batch.run session paths false).report.deferred := by
  obtain ⟨later, id, pending, located, admitted⟩ := revisits.attached.mem_deferred_iff.mp deferred
  rw [revisits.pending_eq regular straight] at pending
  rw [revisits.located_eq regular straight pending] at located
  rw [revisits.engine] at admitted
  exact regular.attached.mem_deferred_iff.mpr
    ⟨revisits.runsNow_of_again regular straight later, id, pending, located, admitted⟩

/-! ## What is attempted now was attempted then -/

variable (fresh : session.engine.suppressed = ∅)

include fresh

/-- **What the first batch attempts now was attempted then.** -/
theorem repeats_first {attempt : Attempt} (made : attempt ∈ again.attempts paths false) :
    ∃ earlier ∈ session.settlingAttempts paths,
      earlier.registration = attempt.registration ∧ earlier.source = attempt.source := by
  have regularAgain := revisits.regular_again regular
  have sound : ∀ attempt ∈ again.attempts paths false,
      attempt.IsSound (start again false).foundation :=
    fun _ => revisits.sound regular straight
  obtain ⟨id, registered, scheduled⟩ := scheduled_of_mem_attempts made
  rw [revisits.engine] at registered
  rcases scheduled with ⟨_, direct⟩ | ⟨_, _, pending, located, admitted, present⟩
  · rw [(revisits.resolved_eq regular straight).1] at direct
    obtain ⟨earlier, madeEarlier, _, same⟩ := attempted_of_direct registered direct
    exact ⟨earlier, List.mem_append_left _ madeEarlier, same⟩
  rw [revisits.pending_eq regular straight] at pending
  rw [revisits.located_eq regular straight pending] at located
  rw [revisits.engine, Bool.false_or] at admitted
  rw [revisits.engine] at present
  -- The source was there when the settled run began.
  obtain ⟨stem, authored⟩ := regular.attached.next.sources.sourceOf?
    (regular.sourceOf?_of_located straight pending located).1
  have named : SourcePath.fileStem attempt.source ≠ "" := by
    rw [stem]
    exact regular.named_target
      (registered_of_mem_pending regular.attached.discovered.indexed pending)
  have leads := leads_next again paths
  have holds : again.world.site.files.Holds again.engine.root := regularAgain.holds
  have there : session.world.site.files.pathExists (join session.engine.root attempt.source)
      = true :=
    regular.present_of_gainsOnly
      ((revisits.grows regular).trans (leads.grows_of_mem (fun _ => isOf_of_mem_attempts) made).1)
      ((revisits.gainsOnly regular straight).trans (leads.gainsOnly_of_mem sound holds made))
      (sound attempt made).straight authored named present
  cases decided : (ranDirect session paths false).runsNow with
  | true =>
    obtain ⟨earlier, madeEarlier, same⟩ :=
      attempted_of_pending registered decided pending located admitted (pathExists_turn id there)
    exact ⟨earlier, List.mem_append_left _ madeEarlier, same⟩
  | false =>
    have deferred := regular.attached.mem_deferred_iff.mpr ⟨decided, id, pending, located, admitted⟩
    obtain ⟨candidate, _⟩ :
        session.engine.settings.isSourceCandidate attempt.source = true ∧ _ := by
      simpa only [Settings.isAutomaticSource, Bool.and_eq_true] using admitted
    obtain ⟨earlier, madeEarlier, same⟩ :=
      attempted_of_deferred regular straight fresh registered deferred
      ⟨there, candidate, authored, stem⟩
    exact ⟨earlier, List.mem_append_right _ madeEarlier, same⟩

/-- **What the second batch attempts now was attempted then**, in the second batch. -/
theorem repeats_second {attempt : Attempt}
    (made : attempt ∈ (again.next paths).attempts (again.requests paths) false) :
    ∃ earlier ∈ session.settlingAttempts paths,
      earlier.registration = attempt.registration ∧ earlier.source = attempt.source := by
  have regularAgain := revisits.regular_again regular
  have fixes := regularAgain.fixesTargets (revisits.straight_again regular straight)
  have attached := revisits.attached
  have attached' : (again.next paths).Attached := attached.next
  obtain ⟨root, settings, registry, _⟩ := foundation_next again paths
  obtain ⟨id, registered, scheduled⟩ := scheduled_of_mem_attempts made
  rcases scheduled with ⟨_, direct⟩ | ⟨_, _, pending, _⟩
  · have apart : (again.next paths).engine.registry.NamesApart := regularAgain.next.apart
    have known : id ∈ (again.next paths).engine.registry.registrations.keys :=
      OrderedMap.get?_isSome_iff.mp (Option.isSome_iff_exists.mpr ⟨_, registered⟩)
    obtain ⟨collected, source⟩ := attached'.isSourceFor_of_direct apart known direct
    have deferred := revisits.mem_deferred_of_again regular straight
      (attached.deferred_of_collected fixes collected)
    obtain ⟨goesStraight, _, _⟩ := regular.straight_of_deferred straight deferred
    have named : SourcePath.fileStem attempt.source ≠ "" := by
      rw [source.stem]
      exact regularAgain.next.named_target known
    have sound : ∀ attempt ∈ again.attempts paths false,
        attempt.IsSound (start again false).foundation :=
      fun _ => revisits.sound regular straight
    have present := source.present
    rw [root, revisits.engine] at present
    have there := regular.present_of_gainsOnly
      ((revisits.grows regular).trans attached.files_next)
      ((revisits.gainsOnly regular straight).trans
        ((leads_next again paths).gainsOnly sound regularAgain.holds))
      goesStraight source.authored named present
    have candidate := source.candidate
    rw [settings, revisits.engine] at candidate
    rw [registry, revisits.engine] at registered
    obtain ⟨earlier, madeEarlier, same⟩ :=
      attempted_of_deferred regular straight fresh registered deferred
      ⟨there, candidate, source.authored, source.stem⟩
    exact ⟨earlier, List.mem_append_right _ madeEarlier, same⟩
  · rw [attached.pending_next_eq_nil fixes] at pending
    exact absurd pending List.not_mem_nil

end Revisits

end Again

end Session

end SourceGen
