import Mathlib.Data.List.Forall2
import SourceGen.Proofs.Batch.Attempts
import SourceGen.Proofs.Registry.Generators

/-!
# A failing generator beside one that declines

Two runs of a batch are compared here. In the second one the generators are exchanged for others
that reply the same, except that they may decline where the first ones fail or panic
(`Registry.CalmedBy`). Either reply ends the attempt with nothing written, so the runs stay side by
side: every step takes two batches that differ only in their generators and in their diagnostics to
two such batches.

What a step adds to the diagnostics of the first run is what it adds to those of the second, with
one error for each attempt that failed instead of being declined. `Batch.Isolates` states both for
one step, and it composes. Most steps do not come near a generator (`Batch.Indifferent`), and that
they append the same diagnostics on both sides is known from their being framed.
-/

namespace SourceGen

/-! ## Two lists in one -/

/-- The first list consists of the two others, each in its order. -/
inductive Interleaved {α : Type} : (whole left right : List α) → Prop
  | nil : Interleaved [] [] []
  | left (a : α) {whole left right : List α} :
      Interleaved whole left right → Interleaved (a :: whole) (a :: left) right
  | right (a : α) {whole left right : List α} :
      Interleaved whole left right → Interleaved (a :: whole) left (a :: right)

lemma Interleaved.alone {α : Type} (items : List α) : Interleaved items items [] := by
  induction items with
  | nil => exact .nil
  | cons a _ ih => exact .left a ih

lemma Interleaved.append {α : Type} {whole left right more moreLeft moreRight : List α}
    (first : Interleaved whole left right) (second : Interleaved more moreLeft moreRight) :
    Interleaved (whole ++ more) (left ++ moreLeft) (right ++ moreRight) := by
  induction first with
  | nil => exact second
  | left a _ ih => exact .left a ih
  | right a _ ih => exact .right a ih

/-! ## Replies side by side -/

/-- The generator returned an error or panicked. -/
def Reply.fails : Reply → Bool
  | .failed _ | .panicked _ => true
  | .finished _ _ _ => false

/-- The generator finished and wants nothing kept. -/
def Reply.declines : Reply → Bool
  | .finished keep _ _ => !keep
  | .failed _ | .panicked _ => false

/-- The generators reply to every request as those of the registry do, or decline it where those
fail. -/
def Registry.CalmedBy (registry : Registry) (generators : DeclarationId → Generator) : Prop :=
  ∀ registration ∈ registry.all, ∀ earlier request,
    let first := registration.generator.emit earlier request
    let second := (generators registration.id).emit earlier request
    second = first ∨ first.fails = true ∧ second.declines = true

namespace Registration

variable {registration : Registration} (root : String) {settings : Settings} (forced : Bool)
  {source : String} {site : Site}

lemma emit_of_fails (fails : (registration.reply settings source site).fails = true) :
    ∃ error, registration.emit root settings forced source site
      = (registration.askedOn settings source site, .error error) := by
  cases replied : registration.reply settings source site with
  | panicked panic => exact ⟨_, emit_of_panicked root forced replied⟩
  | failed chain => exact ⟨_, emit_of_failed root forced replied⟩
  | finished keep context buffer =>
    rw [replied] at fails
    cases fails

lemma emit_of_declines (declines : (registration.reply settings source site).declines = true) :
    registration.emit root settings forced source site
      = (registration.askedOn settings source site, .ok .discarded) := by
  refine emit_of_discards root forced ?_
  generalize registration.reply settings source site = reply at declines
  match reply, declines with
  | .finished false context buffer, _ => exact ⟨false, context, buffer, rfl, .inl rfl⟩

lemma emit_answeredBy_of_eq {generators : DeclarationId → Generator}
    (same : (registration.answeredBy generators).reply settings source site
      = registration.reply settings source site) :
    (registration.answeredBy generators).emit root settings forced source site
      = registration.emit root settings forced source site := by
  have asked : (registration.answeredBy generators).request settings source
      = registration.request settings source := rfl
  rw [reply, reply, asked] at same
  rw [emit, emit, asked, same]
  rfl

end Registration

/-- The other generators reply otherwise to the request of the attempt. -/
def Attempt.isCalmed (generators : DeclarationId → Generator) (settings : Settings)
    (attempt : Attempt) : Bool :=
  (attempt.registration.answeredBy generators).reply settings attempt.source attempt.before
    ≠ attempt.registration.reply settings attempt.source attempt.before

/-- The diagnostic is the error that a failed attempt leaves: it carries the phase of the attempt
and names its declaration. -/
def Attempt.Reports (attempt : Attempt) (diagnostic : Diagnostic) : Prop :=
  ∃ error, attempt.outcome = .error error ∧
    diagnostic = ⟨.error, attempt.phase, error.message, some attempt.registration.id.text⟩

/-- What becomes of the attempt with the other generators. -/
def Attempt.answeredBy (generators : DeclarationId → Generator) (foundation : Batch.Foundation)
    (attempt : Attempt) : Attempt :=
  let result :=
    (attempt.registration.answeredBy generators).emit foundation.root foundation.settings
    foundation.forced attempt.source attempt.before
  { attempt with
    registration := attempt.registration.answeredBy generators
    after := result.1
    outcome := result.2 }

lemma Attempt.answeredBy_of_not_isCalmed {generators : DeclarationId → Generator}
    {foundation : Batch.Foundation} {attempt : Attempt} (genuine : attempt.IsOf foundation)
    (alike : attempt.isCalmed generators foundation.settings = false) :
    (attempt.answeredBy generators foundation).after = attempt.after ∧
      (attempt.answeredBy generators foundation).outcome = attempt.outcome := by
  have same := attempt.registration.emit_answeredBy_of_eq foundation.root foundation.forced
    (by simpa [isCalmed] using alike)
  rw [genuine.result] at same
  rw [answeredBy, same]
  exact ⟨rfl, rfl⟩

lemma Attempt.answeredBy_of_isCalmed {generators : DeclarationId → Generator}
    {foundation : Batch.Foundation} {attempt : Attempt} (genuine : attempt.IsOf foundation)
    (calmed : foundation.registry.CalmedBy generators)
    (differs : attempt.isCalmed generators foundation.settings = true) :
    ∃ error, attempt.outcome = .error error ∧
      (attempt.answeredBy generators foundation).after = attempt.after ∧
      (attempt.answeredBy generators foundation).outcome = .ok .discarded := by
  have differs : (attempt.registration.answeredBy generators).reply foundation.settings
      attempt.source attempt.before
        ≠ attempt.registration.reply foundation.settings attempt.source attempt.before := by
    simpa [isCalmed] using differs
  obtain ⟨id, found⟩ := genuine.registered
  obtain ⟨fails, declines⟩ := (calmed attempt.registration (Registry.mem_all_of_get? found)
    attempt.before.emissions (attempt.request foundation.settings)).resolve_left differs
  obtain ⟨error, failed⟩ :=
    attempt.registration.emit_of_fails foundation.root foundation.forced fails
  rw [genuine.result] at failed
  have declined := (attempt.registration.answeredBy generators).emit_of_declines foundation.root
    foundation.forced declines
  obtain ⟨after, outcome⟩ := Prod.mk.inj failed
  rw [answeredBy, declined]
  exact ⟨error, outcome, after.symm, rfl⟩

namespace Batch

variable {H : Type}

/-- The batch with other generators. -/
def answeredBy (generators : DeclarationId → Generator) (batch : Batch H) : Batch H :=
  { batch with session.engine.registry := batch.engine.registry.answeredBy generators }

/-- The batch with other diagnostics. -/
def telling (batch : Batch H) (diagnostics : List Diagnostic) : Batch H :=
  { batch with report.diagnostics := diagnostics }

/-! ## Steps side by side -/

/-- Beside a run with other generators and other diagnostics, the step does the same there, and each
run appends to its diagnostics the same, but for one error in the first run for each attempt
listed. -/
def Isolates (generators : DeclarationId → Generator) (failing : List Attempt)
    (step : Batch H → Batch H) (batch : Batch H) : Prop :=
  ∃ whole kept errors, Interleaved whole kept errors ∧ List.Forall₂ Attempt.Reports failing errors ∧
    (step batch).report.diagnostics = batch.report.diagnostics ++ whole ∧
    ∀ diagnostics, step ((batch.answeredBy generators).telling diagnostics)
      = ((step batch).answeredBy generators).telling (diagnostics ++ kept)

variable {generators : DeclarationId → Generator}

lemma Isolates.comp {first second : Batch H → Batch H} {failing more : List Attempt}
    {batch : Batch H} (left : Isolates generators failing first batch)
    (right : Isolates generators more second (first batch)) :
    Isolates generators (failing ++ more) (fun batch => second (first batch)) batch := by
  obtain ⟨whole, kept, errors, interleaved, reports, noted, beside⟩ := left
  obtain ⟨whole', kept', errors', interleaved', reports', noted', beside'⟩ := right
  refine ⟨whole ++ whole', kept ++ kept', errors ++ errors', interleaved.append interleaved',
    List.rel_append reports reports', ?_, ?_⟩
  · rw [noted', noted, List.append_assoc]
  · intro diagnostics
    dsimp only
    rw [beside, beside', List.append_assoc]

/-- A run of steps isolates the failing ones among the attempts that it shows. -/
lemma Isolates.foldl {α : Type} {foundation : Foundation} {step : Batch H → α → Batch H}
    {look : Batch H → α → Option Attempt} {calmed : Attempt → Bool}
    (keeps : ∀ a, Keeps Batch.foundation fun batch => step batch a)
    (one : ∀ (batch : Batch H) (a : α), batch.foundation = foundation →
      Isolates generators ((look batch a).toList.filter calmed) (fun batch => step batch a) batch)
    (items : List α) (batch : Batch H) (founded : batch.foundation = foundation) :
    Isolates generators ((along step look batch items).filter calmed)
      (fun batch => items.foldl step batch) batch := by
  induction items generalizing batch with
  | nil => exact ⟨[], [], [], .nil, .nil, (List.append_nil _).symm, fun diagnostics => by simp⟩
  | cons a rest ih =>
    rw [along, List.filter_append]
    exact (one batch a founded).comp (ih (step batch a) ((keeps a batch).trans founded))

/-! ## Steps that come near no generator -/

/-- The step does the same whatever generators there are. -/
def Indifferent (generators : DeclarationId → Generator) (step : Batch H → Batch H) : Prop :=
  ∀ batch, step (batch.answeredBy generators) = (step batch).answeredBy generators

lemma Indifferent.foldl {α : Type} {step : Batch H → α → Batch H}
    (indifferent : ∀ a, Indifferent generators fun batch => step batch a) (items : List α) :
    Indifferent generators fun batch => items.foldl step batch := by
  induction items with
  | nil => exact fun _ => rfl
  | cons a rest ih =>
    intro batch
    have first : step (batch.answeredBy generators) a = (step batch a).answeredBy generators :=
      indifferent a batch
    dsimp only [List.foldl_cons]
    rw [first]
    exact ih (step batch a)

lemma Framed.telling {step : Batch H → Batch H} (framed : Framed step) (batch : Batch H) :
    ∃ added, ∀ diagnostics,
      step (batch.telling diagnostics) = (step batch).telling (diagnostics ++ added) := by
  refine ⟨(step batch.mute).report.diagnostics, fun diagnostics => ?_⟩
  rw [framed.eq_under_mute batch, framed.eq_under_mute (batch.telling diagnostics)]
  rfl

lemma Framed.isolates {step : Batch H → Batch H} (framed : Framed step)
    (indifferent : Indifferent generators step) (batch : Batch H) :
    Isolates generators [] step batch := by
  obtain ⟨added, tells⟩ := framed.telling batch
  refine ⟨added, added, [], .alone added, .nil, ?_, fun diagnostics => ?_⟩
  · have own := tells batch.report.diagnostics
    rw [show batch.telling batch.report.diagnostics = batch from rfl] at own
    conv_lhs => rw [own]
    rfl
  · have beside := indifferent (batch.telling diagnostics)
    rw [tells] at beside
    exact beside

lemma isolates_of_silent {step : Batch H → Batch H} {batch : Batch H}
    (silent : (step batch).report.diagnostics = batch.report.diagnostics)
    (beside : ∀ diagnostics, step ((batch.answeredBy generators).telling diagnostics)
      = ((step batch).answeredBy generators).telling diagnostics) :
    Isolates generators [] step batch :=
  ⟨[], [], [], .nil, .nil, by rw [silent, List.append_nil], fun diagnostics => by
    rw [beside, List.append_nil]⟩

lemma indifferent_collectPath (path : String) :
    Indifferent generators fun batch : Batch H => batch.collectPath path := by
  intro batch
  have waits : (!(batch.answeredBy generators).forced
        && path ∈ (batch.answeredBy generators).engine.suppressed)
      = (!batch.forced && path ∈ batch.engine.suppressed) := rfl
  simp only [collectPath, waits]
  split
  · rfl
  · rw [apply_ite (answeredBy generators)]
    rfl

variable (generators) in
lemma siblings_answeredBy (registry : Registry) (target : TypeName) (registration : Registration) :
    siblings (registry.answeredBy generators) target (registration.answeredBy generators)
      = siblings registry target registration := by
  have generator : (registration.answeredBy generators).id.generator
      = registration.id.generator := rfl
  rw [siblings, siblings, generator, Registry.forGenerator_answeredBy, List.filter_map,
    List.map_map]
  rfl

lemma scheduleDirect_answeredBy (target : TypeName) (path : String) (fanOut : Bool)
    (registration : Registration) (batch : Batch H) :
    (batch.answeredBy generators).scheduleDirect target path fanOut
      (registration.answeredBy generators)
      = (batch.scheduleDirect target path fanOut registration).answeredBy generators := by
  have fan := siblings_answeredBy generators batch.engine.registry target registration
  cases fanOut with
  | false => rfl
  | true =>
    simp only [scheduleDirect, if_true]
    simp only [answeredBy, engine] at fan ⊢
    rw [fan]
    rfl

lemma foldl_scheduleDirect_answeredBy (target : TypeName) (path : String) (fanOut : Bool)
    (registrations : List Registration) (batch : Batch H) :
    registrations.foldl (fun batch registration =>
        batch.scheduleDirect target path fanOut (registration.answeredBy generators))
        (batch.answeredBy generators)
      = (registrations.foldl (scheduleDirect target path fanOut) batch).answeredBy generators := by
  induction registrations generalizing batch with
  | nil => rfl
  | cons registration rest ih =>
    rw [List.foldl_cons, scheduleDirect_answeredBy, ih]
    rfl

lemma scheduleGenerator_answeredBy (batch : Batch H) (type : TypeName) :
    (batch.answeredBy generators).scheduleGenerator type
      = (batch.scheduleGenerator type).answeredBy generators := by
  have same := Registry.forGenerator_answeredBy generators batch.engine.registry type
  simp only [scheduleGenerator, answeredBy, engine] at same ⊢
  rw [same, List.map_map]
  rfl

lemma indifferent_schedule (path : String) (classification : Classification) :
    Indifferent generators fun batch : Batch H => batch.schedule path classification := by
  intro batch
  have sameForced : (batch.answeredBy generators).forced = batch.forced := rfl
  cases classification with
  | direct target =>
    have listed := Registry.forTarget_answeredBy generators batch.engine.registry target
    have fan : (batch.answeredBy generators).deferredHits = batch.deferredHits := rfl
    have registry : (batch.answeredBy generators).engine.registry
        = batch.engine.registry.answeredBy generators := rfl
    simp only [schedule, registry, listed, fan, List.foldl_map]
    exact foldl_scheduleDirect_answeredBy target path _ _ batch
  | generated generator =>
    simp only [schedule, sameForced, scheduleGenerator_answeredBy]
    split <;> rfl
  | generatorSource type => exact scheduleGenerator_answeredBy batch type
  | irrelevant =>
    simp only [schedule, sameForced]
    split <;> rfl

/-! ## Attempts -/

/-- The diagnostics that come of an emission. -/
def reported (id : DeclarationId) (phase : Phase) : Except EmitError EmitOutcome → List Diagnostic
  | .error error => [⟨.error, phase, error.message, some id.text⟩]
  | .ok _ => []

lemma reported_of_failed (id : DeclarationId) (phase : Phase)
    {outcome : Except EmitError EmitOutcome} {error : EmitError} (failed : outcome = .error error) :
    reported id phase outcome = [⟨.error, phase, error.message, some id.text⟩] := by
  rw [failed, reported]

lemma settle_telling (batch : Batch H) (id : DeclarationId) (phase : Phase)
    (outcome : Except EmitError EmitOutcome) (diagnostics : List Diagnostic) :
    (batch.telling diagnostics).settle id phase outcome
      = (batch.settle id phase outcome).telling (diagnostics ++ reported id phase outcome) := by
  rcases outcome with error | path | _ | path
  · rfl
  · have same : (batch.telling diagnostics).written = batch.written := rfl
    simp only [settle, same, reported, List.append_nil]
    split <;> rfl
  · simp [settle, reported, telling]
  · simp [settle, reported, telling]

/-- What is done with an emission neither looks at the diagnostics nor at the generators. -/
structure Finishes (generators : DeclarationId → Generator) (finish : Batch H → Bool → Batch H) :
    Prop where
  telling : ∀ batch wrote diagnostics,
    finish (batch.telling diagnostics) wrote = (finish batch wrote).telling diagnostics
  answered : ∀ batch wrote,
    finish (batch.answeredBy generators) wrote = (finish batch wrote).answeredBy generators

lemma finish_emit_telling {finish : Batch H → Bool → Batch H}
    (finishes : Finishes generators finish) {batch : Batch H} {phase : Phase} {id : DeclarationId}
    {source : String} {attempt : Attempt} (made : batch.attempt? phase id source = some attempt)
    (diagnostics : List Diagnostic) :
    finish ((batch.telling diagnostics).emit id source phase).1
        ((batch.telling diagnostics).emit id source phase).2
      = (finish (batch.enter id attempt) (wrote attempt.outcome)).telling
          (diagnostics ++ reported id attempt.phase attempt.outcome) := by
  have made : (batch.telling diagnostics).attempt? phase id source = some attempt := made
  have entered : (batch.telling diagnostics).enter id attempt
      = (batch.enter id attempt).telling
        (diagnostics ++ reported id attempt.phase attempt.outcome) :=
    settle_telling { batch with
      session.world.site := attempt.after
      report.ran := batch.report.ran ++ [id] } id attempt.phase attempt.outcome diagnostics
  rw [emit_of_attempt? made, entered, finishes.telling]

lemma finish_emit_none {finish : Batch H → Bool → Batch H} (finishes : Finishes generators finish)
    {batch : Batch H} {phase : Phase} {id : DeclarationId} {source : String}
    (none : batch.attempt? phase id source = none) (diagnostics : List Diagnostic) :
    finish ((batch.telling diagnostics).emit id source phase).1
        ((batch.telling diagnostics).emit id source phase).2
      = (finish batch false).telling diagnostics := by
  have none : (batch.telling diagnostics).attempt? phase id source = Option.none := none
  rw [emit_of_attempt?_eq_none none, finishes.telling]

lemma enter_answeredBy {batch : Batch H} {id : DeclarationId} {attempt other : Attempt}
    (phase : other.phase = attempt.phase) (after : other.after = attempt.after)
    (outcome : other.outcome = attempt.outcome) :
    (batch.answeredBy generators).enter id other
      = (batch.enter id attempt).answeredBy generators := by
  unfold enter
  rw [phase, after, outcome]
  rcases attempt.outcome with error | path | _ | path
  · rfl
  · have same : (batch.answeredBy generators).written = batch.written := rfl
    simp only [settle, same]
    split <;> rfl
  · rfl
  · rfl

variable (generators) in
lemma attempt?_answeredBy (batch : Batch H) (phase : Phase) (id : DeclarationId) (source : String) :
    (batch.answeredBy generators).attempt? phase id source
      = (batch.attempt? phase id source).map (Attempt.answeredBy generators batch.foundation) := by
  have found := Registry.get?_answeredBy generators batch.engine.registry id
  have registry : (batch.answeredBy generators).engine.registry
      = batch.engine.registry.answeredBy generators := rfl
  rw [attempt?, registry, found, Option.map_map, attempt?, Option.map_map]
  rfl

/-- A failed attempt is entered as a declined one, but for the error that is reported. -/
lemma enter_of_failed {batch : Batch H} {id : DeclarationId} {attempt : Attempt} {error : EmitError}
    (failed : attempt.outcome = .error error) :
    batch.enter id attempt = (batch.enter id { attempt with outcome := .ok .discarded }).telling
      (batch.report.diagnostics ++ reported id attempt.phase attempt.outcome) := by
  rw [reported_of_failed id attempt.phase failed, enter, failed]
  rfl

/-- An emission isolates its attempt. If the other generators reply the same, both runs settle the
same outcome; if they decline instead, the first run differs by the error. -/
lemma isolates_emit {finish : Batch H → Bool → Batch H} (finishes : Finishes generators finish)
    {batch : Batch H} (indexed : batch.engine.registry.Indexed)
    (calmed : batch.engine.registry.CalmedBy generators)
    (id : DeclarationId) (source : String) (phase : Phase) :
    Isolates generators
      ((batch.attempt? phase id source).toList.filter
        (Attempt.isCalmed generators batch.engine.settings))
      (fun b => finish (b.emit id source phase).1 (b.emit id source phase).2) batch := by
  have beside := attempt?_answeredBy generators batch phase id source
  cases made : batch.attempt? phase id source with
  | none =>
    rw [made] at beside
    refine ⟨[], [], [], .nil, .nil, ?_, fun diagnostics => ?_⟩
    · exact (congrArg (fun b : Batch H => b.report.diagnostics)
        (finish_emit_none finishes made batch.report.diagnostics)).trans (List.append_nil _).symm
    · refine (finish_emit_none finishes beside diagnostics).trans ?_
      dsimp only
      rw [finishes.answered, emit_of_attempt?_eq_none made, List.append_nil]
  | some attempt =>
    rw [made] at beside
    have noted := congrArg (fun b : Batch H => b.report.diagnostics)
      (finish_emit_telling finishes made batch.report.diagnostics)
    have genuine : attempt.IsOf batch.foundation := isOf_of_attempt? made
    have names : attempt.registration.id = id := indexed.keyed id _ (attempt?_eq_some made).1
    have phases : (attempt.answeredBy generators batch.foundation).phase = attempt.phase := rfl
    cases calm : attempt.isCalmed generators batch.engine.settings with
    | false =>
      obtain ⟨after, outcome⟩ := attempt.answeredBy_of_not_isCalmed genuine calm
      refine ⟨_, _, [], .alone (reported id attempt.phase attempt.outcome), ?_, noted,
        fun diagnostics => ?_⟩
      · simp [calm]
      · refine (finish_emit_telling finishes beside diagnostics).trans ?_
        dsimp only
        rw [enter_answeredBy phases after outcome, finishes.answered, outcome, phases,
          emit_of_attempt? made]
    | true =>
      obtain ⟨error, failed, after, declined⟩ := attempt.answeredBy_of_isCalmed genuine calmed calm
      have errors := reported_of_failed id attempt.phase failed
      refine ⟨_, [], _, .right _ .nil, ?_,
        noted.trans (congrArg (batch.report.diagnostics ++ ·) errors),
        fun diagnostics => ?_⟩
      · simpa [calm] using ⟨error, failed, by rw [names]⟩
      · refine (finish_emit_telling finishes beside diagnostics).trans ?_
        dsimp only
        have besideEntered : (batch.answeredBy generators).enter id _
            = (batch.enter id { attempt with outcome := .ok .discarded }).answeredBy generators :=
          enter_answeredBy phases after declined
        rw [besideEntered, finishes.answered, declined, emit_of_attempt? made,
          enter_of_failed failed, failed, finishes.telling]
        rfl

/-! ## The steps of the phases -/

lemma isolates_runDirectEntry {batch : Batch H} (indexed : batch.engine.registry.Indexed)
    (calmed : batch.engine.registry.CalmedBy generators) (entry : DeclarationId × String) :
    Isolates generators ((batch.attempt? .runningDirect entry.1 entry.2).toList.filter
        (Attempt.isCalmed generators batch.engine.settings))
      (fun batch => batch.runDirectEntry entry) batch := by
  have finishes : Finishes generators fun (batch : Batch H) wrote =>
      { batch with updated := batch.updated || wrote } := ⟨fun _ _ _ => rfl, fun _ _ => rfl⟩
  exact isolates_emit finishes indexed calmed entry.1 entry.2 .runningDirect

/-- Only what a step does with the two batches counts. -/
lemma Isolates.congr {step other : Batch H → Batch H} {failing : List Attempt} {batch : Batch H}
    (isolates : Isolates generators failing other batch) (first : step batch = other batch)
    (second : ∀ diagnostics, step ((batch.answeredBy generators).telling diagnostics)
      = other ((batch.answeredBy generators).telling diagnostics)) :
    Isolates generators failing step batch := by
  obtain ⟨whole, kept, errors, interleaved, reports, noted, beside⟩ := isolates
  refine ⟨whole, kept, errors, interleaved, reports, by rw [first, noted], fun diagnostics => ?_⟩
  rw [second, beside, first]

lemma isolates_runOrDefer {batch : Batch H} (indexed : batch.engine.registry.Indexed)
    (calmed : batch.engine.registry.CalmedBy generators) (now : Bool) (id : DeclarationId)
    (source : String) :
    Isolates generators ((batch.attemptIfDue? now id source).toList.filter
        (Attempt.isCalmed generators batch.engine.settings))
      (fun batch => batch.runOrDefer now id source) batch := by
  let beside := fun diagnostics => (batch.answeredBy generators).telling diagnostics
  rw [attemptIfDue?]
  -- What decides is the same for a batch beside this one.
  cases admitted : batch.admits source with
  | false =>
    have admittedBeside : ∀ diagnostics, (beside diagnostics).admits source = false :=
      fun _ => admitted
    exact isolates_of_silent (congrArg (fun b : Batch H => b.report.diagnostics)
        (runOrDefer_refused admitted now id)) fun diagnostics => by
      rw [runOrDefer_refused admitted, runOrDefer_refused (admittedBeside diagnostics)]
  | true =>
    have admittedBeside : ∀ diagnostics, (beside diagnostics).admits source = true :=
      fun _ => admitted
    cases now with
    | false =>
      exact isolates_of_silent (by rw [runOrDefer_later]) fun diagnostics => by
        rw [runOrDefer_later, runOrDefer_later]
        rfl
    | true =>
      cases present : batch.pathExists source with
      | false =>
        have presentBeside : ∀ diagnostics, (beside diagnostics).pathExists source = false :=
          fun _ => present
        exact ((framed_note .warning .runningCascaded "source does not exist" source).isolates
            (fun _ => rfl) batch).congr (runOrDefer_absent admitted present id) fun diagnostics =>
          runOrDefer_absent (admittedBeside diagnostics) (presentBeside diagnostics) id
      | true =>
        have presentBeside : ∀ diagnostics, (beside diagnostics).pathExists source = true :=
          fun _ => present
        let flagged : Batch H := { batch with report.cascaded := true }
        have flags :
            Isolates generators [] (fun b : Batch H => { b with report.cascaded := true }) batch :=
          isolates_of_silent rfl fun _ => rfl
        have finishes : Finishes generators fun (b : Batch H) _ => b :=
          ⟨fun _ _ _ => rfl, fun _ _ => rfl⟩
        have indexedFlagged : flagged.engine.registry.Indexed := indexed
        exact (flags.comp
          (isolates_emit finishes indexedFlagged calmed id source .runningCascaded)).congr
          (runOrDefer_due admitted present id) fun diagnostics =>
            runOrDefer_due (admittedBeside diagnostics) (presentBeside diagnostics) id

variable [Host H]

lemma isolates_runCascadedEntry {batch : Batch H} (indexed : batch.engine.registry.Indexed)
    (calmed : batch.engine.registry.CalmedBy generators) (now : Bool) (id : DeclarationId) :
    Isolates generators ((batch.cascadedAttempt? now id).toList.filter
        (Attempt.isCalmed generators batch.engine.settings))
      (fun batch => batch.runCascadedEntry now id) batch := by
  let beside := fun diagnostics => (batch.answeredBy generators).telling diagnostics
  have asks : Isolates generators [] (fun b : Batch H => b.asked id) batch :=
    isolates_of_silent rfl fun _ => rfl
  rw [cascadedAttempt?]
  cases located : batch.located id with
  | none =>
    have missing : ∀ other : Batch H, other.located id = none → other.runCascadedEntry now id
        = (other.asked id).note .warning .runningCascaded "no source found for target" id.text := by
      intro other none
      rw [runCascadedEntry_eq, none]
    exact (asks.comp
      ((framed_note .warning .runningCascaded "no source found for target" id.text).isolates
        (fun _ => rfl) (batch.asked id))).congr (missing batch located) fun diagnostics =>
      missing (beside diagnostics) located
  | some source =>
    have found : ∀ other : Batch H, other.located id = some source →
        other.runCascadedEntry now id = (other.asked id).runOrDefer now id source := by
      intro other here
      rw [runCascadedEntry_eq, here]
    have indexedAsked : (batch.asked id).engine.registry.Indexed := indexed
    exact (asks.comp (isolates_runOrDefer indexedAsked calmed now id source)).congr
      (found batch located)
      fun diagnostics => found (beside diagnostics) located

lemma classify_answeredBy (batch : Batch H) (path : String) :
    (batch.answeredBy generators).classify path = batch.classify path :=
  Classification.ofPath_answeredBy generators batch.engine.registry batch.engine.settings
    batch.forced batch.files path batch.lookups batch.host

lemma indifferent_resolvePath (path : String) :
    Indifferent generators fun batch : Batch H => batch.resolvePath path := by
  intro batch
  cases present : batch.pathExists path with
  | true =>
    have presentBeside : (batch.answeredBy generators).pathExists path = true := present
    dsimp only
    rw [resolvePath_of_present present, resolvePath_of_present presentBeside, classify_answeredBy]
    generalize batch.classify path = answer
    exact indifferent_schedule path answer.1 (batch.informed answer.2.1 answer.2.2)
  | false =>
    have presentBeside : (batch.answeredBy generators).pathExists path = false := present
    have forced : (batch.answeredBy generators).forced = batch.forced := rfl
    dsimp only
    rw [resolvePath, resolvePath, present, presentBeside, forced, if_neg Bool.false_ne_true,
      if_neg Bool.false_ne_true]
    split <;> rfl

omit [Host H] in
lemma isolates_collect (paths : List String) (batch : Batch H) :
    Isolates generators [] (collect paths) batch :=
  (framed_collect paths).isolates (Indifferent.foldl indifferent_collectPath _) batch

lemma isolates_resolveTargets (batch : Batch H) : Isolates generators [] resolveTargets batch :=
  framed_resolveTargets.isolates
    (fun batch => Indifferent.foldl indifferent_resolvePath batch.collected batch) batch

omit [Host H] in
lemma isolates_runDirect {batch : Batch H} (indexed : batch.engine.registry.Indexed)
    (calmed : batch.engine.registry.CalmedBy generators) :
    Isolates generators ((along runDirectEntry
          (fun batch entry => batch.attempt? .runningDirect entry.1 entry.2) batch
          batch.direct.entries).filter (Attempt.isCalmed generators batch.engine.settings))
      runDirect batch := by
  have entry : ∀ (b : Batch H) (entry : DeclarationId × String), b.foundation = batch.foundation →
      Isolates generators
        ((b.attempt? .runningDirect entry.1 entry.2).toList.filter
          (Attempt.isCalmed generators batch.engine.settings))
        (fun b => b.runDirectEntry entry) b := by
    intro b entry founded
    have registry : b.engine.registry = batch.engine.registry :=
      congrArg Foundation.registry founded
    have settings : b.engine.settings = batch.engine.settings :=
      congrArg Foundation.settings founded
    rw [← settings]
    exact isolates_runDirectEntry (registry ▸ indexed) (registry ▸ calmed) entry
  exact Isolates.foldl (fun entry b => congrArg (fun s : Standing H => s.plan.foundation)
    (standing_runDirectEntry entry b)) entry batch.direct.entries batch rfl

lemma isolates_runCascaded {batch : Batch H} (indexed : batch.engine.registry.Indexed)
    (calmed : batch.engine.registry.CalmedBy generators) :
    Isolates generators
      ((along (runCascadedEntry batch.runsNow) (cascadedAttempt? batch.runsNow) batch
          batch.pending).filter (Attempt.isCalmed generators batch.engine.settings))
      runCascaded batch := by
  have entry : ∀ (b : Batch H) (id : DeclarationId), b.foundation = batch.foundation →
      Isolates generators ((b.cascadedAttempt? batch.runsNow id).toList.filter
          (Attempt.isCalmed generators batch.engine.settings))
        (fun b => b.runCascadedEntry batch.runsNow id) b := by
    intro b id founded
    have registry : b.engine.registry = batch.engine.registry :=
      congrArg Foundation.registry founded
    have settings : b.engine.settings = batch.engine.settings :=
      congrArg Foundation.settings founded
    rw [← settings]
    exact isolates_runCascadedEntry (registry ▸ indexed) (registry ▸ calmed) batch.runsNow id
  exact Isolates.foldl (fun id b =>
    congrArg Plan.foundation (plan_runCascadedEntry batch.runsNow id b)) entry
    batch.pending batch rfl

lemma isolates_requestReimports (batch : Batch H) :
    Isolates generators [] requestReimports batch := by
  have refresh : ∀ b : Batch H, b.requestRefresh.report.diagnostics = b.report.diagnostics := by
    intro b
    simp only [requestRefresh]
    split <;> rfl
  have refreshBeside : ∀ (b : Batch H) diagnostics,
      ((b.answeredBy generators).telling diagnostics).requestRefresh
        = (b.requestRefresh.answeredBy generators).telling diagnostics := by
    intro b diagnostics
    simp only [requestRefresh]
    rw [apply_ite (answeredBy generators), apply_ite (telling · diagnostics)]
    rfl
  refine isolates_of_silent ?_ fun diagnostics => ?_
  · rw [requestReimports_eq]
    split
    · rfl
    · rw [refresh]
      rfl
  · have host : ((batch.answeredBy generators).telling diagnostics).host = batch.host := rfl
    rw [requestReimports_eq, requestReimports_eq, host]
    split
    · rfl
    · exact refreshBeside batch.afterRequests diagnostics

end Batch

end SourceGen
