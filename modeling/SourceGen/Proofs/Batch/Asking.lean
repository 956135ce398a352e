import SourceGen.Proofs.Batch.Requesting
import SourceGen.Proofs.Registry.Emitting

/-!
# What a batch asks of its generators

Plugins may rewrite the report, so what the report says of the declarations that ran is not evidence
enough when nothing is known of the plugins. The requests to generators are: they are on record in
the site, which plugins cannot reach, and every declaration that runs leaves exactly one there,
whatever comes of it.

Two accounts of a batch are kept apart here, the requests and the report's list, and shown to agree
step by step (`Accounts`). The requests of the direct phase are known in full (`since_run`), since
its declarations and their sources are settled before the first of them runs.
-/

namespace SourceGen

/-- The declaration that a request is made for. -/
def Emission.declaration (emission : Emission) : DeclarationId :=
  ⟨emission.context.target, emission.generator⟩

/-- The requests made since an earlier state of the site, oldest first. -/
def Site.since (site earlier : Site) : List Emission :=
  (site.emissions.take (site.emissions.length - earlier.emissions.length)).reverse

lemma Site.since_eq {site earlier : Site} {made : List Emission}
    (grown : site.emissions = made.reverse ++ earlier.emissions) : site.since earlier = made := by
  simp [since, grown]

lemma Registration.emissions_emit (registration : Registration) (root : String)
    (settings : Settings) (force : Bool) (source : String) (site : Site) :
    (registration.emit root settings force source site).1.emissions
      = registration.request settings source :: site.emissions := by
  obtain ⟨error, emitted⟩ | emitted | ⟨path, buffer, _, emitted⟩ :=
    registration.emit_cases root settings force source site <;> rw [emitted] <;> rfl

/-- The declarations that a batch on the session runs, as its requests to generators tell. -/
def Session.ranIn {H : Type} [Host H] (session : Session H) (paths : List String) (forced : Bool) :
    List DeclarationId :=
  ((Batch.run session paths forced).session.world.site.since session.world.site).map
    Emission.declaration

namespace Batch

variable {H : Type}

/-- The request of a registered declaration for a source. -/
def requestFor? (batch : Batch H) (entry : DeclarationId × String) : Option Emission :=
  (batch.engine.registry.get? entry.1).map fun registration =>
    registration.request batch.engine.settings entry.2

/-- From the first batch to the second, the requests made are on record, and the report lists their
declarations. -/
structure Accounts (before after : Batch H) (made : List Emission) : Prop where
  recorded : after.session.world.site.emissions = made.reverse
    ++ before.session.world.site.emissions
  reported : after.report.ran = before.report.ran ++ made.map Emission.declaration

lemma Accounts.refl (batch : Batch H) : Accounts batch batch [] :=
  ⟨rfl, (List.append_nil _).symm⟩

lemma Accounts.trans {first second third : Batch H} {made more : List Emission}
    (left : Accounts first second made) (right : Accounts second third more) :
    Accounts first third (made ++ more) := by
  refine ⟨?_, ?_⟩
  · rw [right.recorded, left.recorded, List.reverse_append, List.append_assoc]
  · rw [right.reported, left.reported, List.map_append, List.append_assoc]

/-! ## One emission -/

lemma site_settle (id : DeclarationId) (phase : Phase) (outcome : Except EmitError EmitOutcome) :
    Keeps (fun batch : Batch H => batch.session.world.site) fun batch =>
      batch.settle id phase outcome := by
  intro batch
  rcases outcome with error | path | _ | path
  · rfl
  · simp only [settle]
    split <;> rfl
  · rfl
  · rfl

lemma accounts_emit (batch : Batch H) (indexed : batch.engine.registry.Indexed) (id : DeclarationId)
    (source : String) (phase : Phase) :
    Accounts batch (batch.emit id source phase).1 (batch.requestFor? (id, source)).toList := by
  cases found : batch.engine.registry.get? id with
  | none =>
    simp only [requestFor?, emit, found]
    exact .refl batch
  | some registration =>
    have same : registration.id = id := indexed.keyed id registration found
    have declared : (registration.request batch.engine.settings source).declaration = id := by
      rw [← same]
      rfl
    simp only [requestFor?, emit, found]
    refine ⟨?_, ?_⟩
    · exact (congrArg Site.emissions (site_settle id phase _ _)).trans
        (registration.emissions_emit _ _ _ source batch.session.world.site)
    · exact (ran_settle id phase _ _).trans (congrArg (batch.report.ran ++ [·]) declared.symm)

/-! ## The phases -/

lemma accounts_foldl_runDirectEntry (entries : List (DeclarationId × String)) (batch : Batch H)
    (indexed : batch.engine.registry.Indexed) :
    Accounts batch (entries.foldl runDirectEntry batch) (entries.filterMap batch.requestFor?) := by
  induction entries generalizing batch with
  | nil => exact .refl batch
  | cons entry rest ih =>
    have engine : (batch.runDirectEntry entry).engine = batch.engine :=
      congrArg (fun s => s.plan.engine) (standing_runDirectEntry entry batch)
    have first : Accounts batch (batch.runDirectEntry entry) (batch.requestFor? entry).toList := by
      obtain ⟨recorded, reported⟩ := accounts_emit batch indexed entry.1 entry.2 .runningDirect
      exact ⟨recorded, reported⟩
    have same : (batch.runDirectEntry entry).requestFor? = batch.requestFor? := by
      funext other
      rw [requestFor?, requestFor?, engine]
    have later := ih (batch.runDirectEntry entry) (by rwa [engine])
    rw [same] at later
    rw [List.foldl_cons, List.filterMap_cons]
    have both := first.trans later
    cases asked : batch.requestFor? entry <;> rw [asked] at both <;> exact both

lemma accounts_runOrDefer (batch : Batch H) (indexed : batch.engine.registry.Indexed) (now : Bool)
    (id : DeclarationId) (source : String) :
    ∃ made, Accounts batch (batch.runOrDefer now id source) made := by
  simp only [runOrDefer]
  split
  · exact ⟨[], .refl batch⟩
  · split
    · exact ⟨[], rfl, (List.append_nil _).symm⟩
    · split
      · obtain ⟨recorded, reported⟩ :=
          accounts_emit { batch with report.cascaded := true } indexed id source .runningCascaded
        exact ⟨_, recorded, reported⟩
      · exact ⟨[], rfl, (List.append_nil _).symm⟩

variable [Host H]

lemma accounts_runCascadedEntry (batch : Batch H) (indexed : batch.engine.registry.Indexed)
    (now : Bool) (id : DeclarationId) :
    ∃ made, Accounts batch (batch.runCascadedEntry now id) made := by
  rw [runCascadedEntry_eq]
  cases batch.located id with
  | none => exact ⟨[], rfl, (List.append_nil _).symm⟩
  | some source =>
    obtain ⟨made, recorded, reported⟩ :=
      accounts_runOrDefer (batch.asked id) indexed now id source
    exact ⟨made, recorded, reported⟩

lemma accounts_foldl_runCascadedEntry (now : Bool) (ids : List DeclarationId) (batch : Batch H)
    (indexed : batch.engine.registry.Indexed) :
    ∃ made, Accounts batch (ids.foldl (runCascadedEntry now) batch) made := by
  induction ids generalizing batch with
  | nil => exact ⟨[], .refl batch⟩
  | cons id rest ih =>
    have engine : (batch.runCascadedEntry now id).engine = batch.engine :=
      congrArg Plan.engine (plan_runCascadedEntry now id batch)
    obtain ⟨made, first⟩ := accounts_runCascadedEntry batch indexed now id
    obtain ⟨more, later⟩ := ih (batch.runCascadedEntry now id) (by rwa [engine])
    exact ⟨made ++ more, first.trans later⟩

/-! ## A whole batch -/

variable {session : Session H} {paths : List String} {forced : Bool}

lemma site_run :
    (run session paths forced).session.world.site
      = (ranCascaded session paths forced).session.world.site :=
  unreported_run (fun batch => batch.session.world.site) (fun _ => rfl)
    fun batch => congrArg Ledger.site (ledger_requestReimports batch)

/-- The requests of a batch: first those for the direct declarations, each for its source. Without
plugins the report would list the declarations of all of them. -/
theorem since_run (indexed : session.engine.registry.Indexed) :
    (∃ more, (run session paths forced).session.world.site.since session.world.site
        = (resolved session paths forced).direct.entries.filterMap
          (start session forced).requestFor? ++ more) ∧
      session.ranIn paths forced = (ranCascaded session paths forced).report.ran := by
  have indexedResolved : (resolved session paths forced).engine.registry.Indexed := by
    rwa [registry_resolved]
  have indexedDirect : (ranDirect session paths forced).engine.registry.Indexed := by
    rwa [registry_ranDirect]
  have asks : (resolved session paths forced).requestFor? = (start session forced).requestFor? := by
    funext entry
    rw [requestFor?, registry_resolved, settings_resolved]
    rfl
  have direct := accounts_foldl_runDirectEntry (resolved session paths forced).direct.entries
    (resolved session paths forced) indexedResolved
  rw [asks] at direct
  obtain ⟨more, cascaded⟩ :=
    accounts_foldl_runCascadedEntry (ranDirect session paths forced).runsNow
    (ranDirect session paths forced).pending (ranDirect session paths forced) indexedDirect
  obtain ⟨recorded, reported⟩ := direct.trans cascaded
  rw [site_resolved] at recorded
  rw [(fresh_resolved session paths forced).1, List.nil_append] at reported
  have since : (ranCascaded session paths forced).session.world.site.since session.world.site = _ :=
    Site.since_eq recorded
  rw [Session.ranIn, site_run]
  exact ⟨⟨more, since⟩, (congrArg (List.map Emission.declaration) since).trans reported.symm⟩

/-- A report that plugins only append diagnostics to lists the declarations that ran. -/
lemma ran_eq_ranIn (indexed : session.engine.registry.Indexed)
    (observers : ∀ plugin ∈ session.engine.plugins, plugin.AppendsOnly) :
    (run session paths forced).report.ran = session.ranIn paths forced := by
  rw [(since_run indexed).2, reported_run observers]

lemma ranIn_of_direct (indexed : session.engine.registry.Indexed) {id : DeclarationId}
    (direct : id ∈ (run session paths forced).direct.keys) : id ∈ session.ranIn paths forced := by
  rw [direct_run] at direct
  rw [(since_run indexed).2]
  cases decided : (ranDirect session paths forced).runsNow with
  | true =>
    rw [(ranCascaded_now indexed decided).1]
    exact List.mem_append_left _ direct
  | false =>
    rw [(ranCascaded_later indexed decided).1]
    exact direct

/-- A cascaded declaration runs or is put off when the host has a source for it at its turn that is
there and admitted. -/
theorem ranIn_or_deferred (indexed : session.engine.registry.Indexed) {id : DeclarationId}
    (cascaded : id ∈ (run session paths forced).cascaded) {source : String}
    (located : ((ranDirect session paths forced).turn id).located id = some source)
    (admitted : (forced || session.engine.settings.isAutomaticSource source) = true)
    (present : ((ranDirect session paths forced).turn id).pathExists source = true) :
    id ∈ session.ranIn paths forced ∨ source ∈ (run session paths forced).deferred := by
  by_cases direct : id ∈ (run session paths forced).direct.keys
  · exact .inl (ranIn_of_direct indexed direct)
  · rw [cascaded_run] at cascaded
    rw [direct_run] at direct
    rw [(since_run indexed).2, deferred_eq_ranCascaded]
    exact ran_or_putOff indexed (mem_pending_ranDirect.mpr ⟨cascaded, direct⟩)
      located admitted present

end Batch

end SourceGen
