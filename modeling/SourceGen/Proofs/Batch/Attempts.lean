import SourceGen.Proofs.Batch.Asking
import SourceGen.Proofs.Batch.Writing

/-!
# The attempts of a batch

A batch touches files and calls generators at one kind of step only, when a declaration has its
turn. Each such step is recorded here as an *attempt*: the registration, the source it runs for,
the phase, the site as it is before and after, and the outcome. The attempts of a batch, in their
order (`Session.attempts`), tell all that happens to the site: each begins where the one before has
ended, the first one where the batch begins and the last one ends where the batch ends
(`leads_attempts`).

The record is read off the plain composition of the phases. Plugins work on the report alone, so it
is that of every batch on the session, whatever its plugins do.
-/

namespace SourceGen

/-- A declaration at its turn: the registration that runs and the source it runs for, with the site
before and after, and what came of it. -/
structure Attempt where
  phase : Phase
  registration : Registration
  source : String
  before : Site
  after : Site
  outcome : Except EmitError EmitOutcome

/-- The attempts take the site from one state to another. -/
def Site.Leads : Site → List Attempt → Site → Prop
  | first, [], last => last = first
  | first, attempt :: rest, last => attempt.before = first ∧ attempt.after.Leads rest last

lemma Site.Leads.append {first middle last : Site} {made more : List Attempt}
    (left : first.Leads made middle) (right : middle.Leads more last) : first.Leads
      (made ++ more) last := by
  induction made generalizing first with
  | nil =>
    obtain rfl : middle = first := left
    exact right
  | cons attempt rest ih => exact ⟨left.1, ih left.2⟩

/-- An attempt splits the way into that before it and that after it. -/
lemma Site.Leads.split {first last : Site} {made more : List Attempt} {attempt : Attempt}
    (leads : first.Leads (made ++ attempt :: more) last) :
    first.Leads made attempt.before ∧ attempt.after.Leads more last := by
  induction made generalizing first with
  | nil => exact ⟨leads.1, leads.2⟩
  | cons other rest ih => exact ⟨⟨leads.1, (ih leads.2).1⟩, (ih leads.2).2⟩

/-- The request that an attempt makes. -/
def Attempt.request (attempt : Attempt) (settings : Settings) : Emission :=
  attempt.registration.request settings attempt.source

/-- The attempt is what becomes of a registered declaration under the settings of a batch. -/
structure Attempt.IsOf (foundation : Batch.Foundation) (attempt : Attempt) : Prop where
  registered : ∃ id, foundation.registry.get? id = some attempt.registration
  result : attempt.registration.emit foundation.root foundation.settings
    foundation.forced attempt.source attempt.before = (attempt.after, attempt.outcome)

lemma Site.Leads.emissions {foundation : Batch.Foundation} {made : List Attempt}
    (genuine : ∀ attempt ∈ made, attempt.IsOf foundation) {first last : Site}
    (leads : first.Leads made last) :
    last.emissions = (made.map fun attempt => attempt.request foundation.settings).reverse
      ++ first.emissions := by
  induction made generalizing first with
  | nil =>
    obtain rfl : last = first := leads
    rfl
  | cons attempt rest ih =>
    obtain ⟨began, later⟩ := leads
    have asked := attempt.registration.emissions_emit foundation.root foundation.settings
      foundation.forced attempt.source attempt.before
    rw [(genuine attempt List.mem_cons_self).result] at asked
    rw [ih (fun other listed => genuine other (List.mem_cons_of_mem _ listed)) later, asked, began]
    simp [Attempt.request]

namespace Batch

variable {H : Type}

/-- What a run of steps shows at each of them, where it shows anything. -/
def along {α γ : Type} (step : Batch H → α → Batch H) (look : Batch H → α → Option γ) :
    Batch H → List α → List γ
  | _, [] => []
  | batch, a :: rest => (look batch a).toList ++ along step look (step batch a) rest

lemma mem_along {α γ : Type} {step : Batch H → α → Batch H} {look : Batch H → α → Option γ}
    {shown : γ} {items : List α} {batch : Batch H} :
    shown ∈ along step look batch items ↔
      ∃ front a rest, items = front ++ a :: rest ∧ look (front.foldl step batch) a
        = some shown := by
  induction items generalizing batch with
  | nil => simp [along]
  | cons b items ih =>
    rw [along, List.mem_append, Option.mem_toList, ih]
    constructor
    · rintro (here | ⟨front, a, rest, rfl, later⟩)
      · exact ⟨[], b, items, rfl, here⟩
      · exact ⟨b :: front, a, rest, rfl, later⟩
    · rintro ⟨_ | ⟨first, front⟩, a, rest, whole, shows⟩
      · obtain ⟨rfl, rfl⟩ := List.cons.inj whole
        exact .inl shows
      · obtain ⟨rfl, rfl⟩ := List.cons.inj whole
        exact .inr ⟨front, a, rest, rfl, shows⟩

/-! ## One attempt -/

/-- What becomes of a declaration for a source, as things stand. -/
def attempt? (batch : Batch H) (phase : Phase) (id : DeclarationId) (source : String) :
    Option Attempt :=
  (batch.engine.registry.get? id).map fun registration =>
    let result := registration.emit batch.engine.root batch.engine.settings batch.forced source
      batch.session.world.site
    { phase, registration, source
      before := batch.session.world.site
      after := result.1
      outcome := result.2 }

lemma attempt?_eq_some {batch : Batch H} {phase : Phase} {id : DeclarationId} {source : String}
    {attempt : Attempt} (made : batch.attempt? phase id source = some attempt) :
    batch.engine.registry.get? id = some attempt.registration ∧ attempt.phase = phase ∧
      attempt.source = source ∧ attempt.before = batch.session.world.site := by
  obtain ⟨registration, found, rfl⟩ := Option.map_eq_some_iff.mp made
  exact ⟨found, rfl, rfl, rfl⟩

lemma isOf_of_attempt? {batch : Batch H} {phase : Phase} {id : DeclarationId} {source : String}
    {attempt : Attempt} (made : batch.attempt? phase id source = some attempt) :
    attempt.IsOf batch.foundation := by
  obtain ⟨registration, found, rfl⟩ := Option.map_eq_some_iff.mp made
  exact ⟨⟨id, found⟩, rfl⟩

lemma exists_attempt? {batch : Batch H} {id : DeclarationId} {registration : Registration}
    (found : batch.engine.registry.get? id = some registration) (phase : Phase) (source : String) :
    ∃ attempt, batch.attempt? phase id source = some attempt := by
  rw [attempt?, found]
  exact ⟨_, rfl⟩

/-- Enters an attempt into the batch. -/
def enter (batch : Batch H) (id : DeclarationId) (attempt : Attempt) : Batch H :=
  settle
    { batch with
      session.world.site := attempt.after
      report.ran := batch.report.ran ++ [id] } id attempt.phase attempt.outcome

lemma emit_of_attempt? {batch : Batch H} {phase : Phase} {id : DeclarationId} {source : String}
    {attempt : Attempt} (made : batch.attempt? phase id source = some attempt) :
    batch.emit id source phase = (batch.enter id attempt, wrote attempt.outcome) := by
  obtain ⟨registration, found, rfl⟩ := Option.map_eq_some_iff.mp made
  rw [emit, found]
  rfl

lemma emit_of_attempt?_eq_none {batch : Batch H} {phase : Phase} {id : DeclarationId}
    {source : String} (none : batch.attempt? phase id source = none) :
    batch.emit id source phase = (batch, false) := by
  rw [emit, Option.map_eq_none_iff.mp none]

/-- The attempt of a cascaded declaration for a source, when cascades run now. -/
def attemptIfDue? (now : Bool) (id : DeclarationId) (source : String) (batch : Batch H) :
    Option Attempt :=
  if batch.admits source && now && batch.pathExists source then
    batch.attempt? .runningCascaded id source
  else none

lemma attemptIfDue?_asked [Host H] (now : Bool) (id : DeclarationId) (source : String)
    (batch : Batch H) :
    (batch.asked id).attemptIfDue? now id source = batch.attemptIfDue? now id source :=
  rfl

/-- The attempt of a cascaded declaration at its turn. -/
def cascadedAttempt? [Host H] (now : Bool) (batch : Batch H) (id : DeclarationId) :
    Option Attempt :=
  (batch.located id).bind fun source => (batch.asked id).attemptIfDue? now id source

/-! ## What attempts account for -/

/-- From the first batch to the second, the attempts account for the site and for the outputs
written. -/
structure Makes (foundation : Foundation) (before after : Batch H) (made : List Attempt) :
    Prop where
  leads : before.session.world.site.Leads made after.session.world.site
  genuine : ∀ attempt ∈ made, attempt.IsOf foundation
  written : after.written
    = before.written.insertAll (made.filterMap fun attempt => writtenPath? attempt.outcome)

lemma Makes.refl (foundation : Foundation) (batch : Batch H) : Makes foundation batch batch [] :=
  ⟨rfl, fun _ none => absurd none List.not_mem_nil, rfl⟩

lemma Makes.trans {foundation : Foundation} {first second third : Batch H}
    {made more : List Attempt} (left : Makes foundation first second made)
    (right : Makes foundation second third more) :
    Makes foundation first third (made ++ more) := by
  refine ⟨left.leads.append right.leads, ?_, ?_⟩
  · intro attempt listed
    exact (List.mem_append.mp listed).elim (left.genuine attempt) (right.genuine attempt)
  · rw [right.written, left.written, List.filterMap_append, OrderedSet.insertAll_append]

lemma Makes.foldl {α : Type} {foundation : Foundation} {step : Batch H → α → Batch H}
    {look : Batch H → α → Option Attempt} (keeps : ∀ a,
      Keeps Batch.foundation fun batch => step batch a)
    (one : ∀ (batch : Batch H) (a : α), batch.foundation = foundation →
      Makes foundation batch (step batch a) (look batch a).toList)
    (items : List α) (batch : Batch H) (founded : batch.foundation = foundation) :
    Makes foundation batch (items.foldl step batch) (along step look batch items) := by
  induction items generalizing batch with
  | nil => exact .refl foundation batch
  | cons a rest ih =>
    exact (one batch a founded).trans (ih (step batch a) ((keeps a batch).trans founded))

lemma makes_emit {foundation : Foundation} {batch : Batch H}
    (founded : batch.foundation = foundation) (phase : Phase) (id : DeclarationId)
    (source : String) :
    Makes foundation batch (batch.emit id source phase).1
      (batch.attempt? phase id source).toList := by
  subst founded
  cases made : batch.attempt? phase id source with
  | none =>
    rw [emit_of_attempt?_eq_none made]
    exact .refl batch.foundation batch
  | some attempt =>
    rw [emit_of_attempt? made]
    have entered : (batch.enter id attempt).session.world.site = attempt.after :=
      site_settle id attempt.phase attempt.outcome _
    have written : (batch.enter id attempt).written = _ :=
      written_settle _ id attempt.phase attempt.outcome
    refine ⟨⟨(attempt?_eq_some made).2.2.2, entered⟩, ?_, ?_⟩
    · exact List.forall_mem_singleton.mpr (isOf_of_attempt? made)
    · rw [written, Option.toList_some, List.filterMap_cons]
      cases writtenPath? _ <;> rfl

lemma makes_runDirectEntry {foundation : Foundation} {batch : Batch H}
    (founded : batch.foundation = foundation) (entry : DeclarationId × String) :
    Makes foundation batch (batch.runDirectEntry entry)
      (batch.attempt? .runningDirect entry.1 entry.2).toList :=
  let made := makes_emit founded .runningDirect entry.1 entry.2
  ⟨made.leads, made.genuine, made.written⟩

lemma makes_runOrDefer {foundation : Foundation} {batch : Batch H}
    (founded : batch.foundation = foundation) (now : Bool) (id : DeclarationId) (source : String) :
    Makes foundation batch (batch.runOrDefer now id source)
      (batch.attemptIfDue? now id source).toList := by
  have nothing : ∀ after : Batch H, after.session.world.site = batch.session.world.site →
      after.written = batch.written → Makes foundation batch after [] := fun after site written =>
    ⟨site, fun _ none => absurd none List.not_mem_nil, written⟩
  rw [runOrDefer, attemptIfDue?, not_admits]
  cases batch.admits source with
  | false => exact nothing _ rfl rfl
  | true =>
    cases now with
    | false => exact nothing _ rfl rfl
    | true =>
      cases batch.pathExists source with
      | false => exact nothing _ rfl rfl
      | true =>
        have flagged : Batch.foundation { batch with report.cascaded := true } = foundation :=
          founded
        let made := makes_emit flagged .runningCascaded id source
        exact ⟨made.leads, made.genuine, made.written⟩

variable [Host H]

lemma makes_runCascadedEntry {foundation : Foundation} {batch : Batch H}
    (founded : batch.foundation = foundation) (now : Bool) (id : DeclarationId) :
    Makes foundation batch (batch.runCascadedEntry now id)
      (batch.cascadedAttempt? now id).toList := by
  rw [runCascadedEntry_eq, cascadedAttempt?]
  cases batch.located id with
  | none => exact ⟨rfl, fun _ none => absurd none List.not_mem_nil, rfl⟩
  | some source =>
    have asked : (batch.asked id).foundation = foundation := founded
    let made := makes_runOrDefer asked now id source
    exact ⟨made.leads, made.genuine, made.written⟩

end Batch

open Batch

/-! ## The attempts of a whole batch -/

section Session

variable {H : Type} [Host H]

/-- The attempts of a batch on the session: those of the direct declarations, then those of the
cascaded ones, each list in the order in which they run. -/
def Session.attempts (session : Session H) (paths : List String) (forced : Bool) : List Attempt :=
  along runDirectEntry (fun batch entry => batch.attempt? .runningDirect entry.1 entry.2)
      (resolved session paths forced) (resolved session paths forced).direct.entries
    ++ along (runCascadedEntry (ranDirect session paths forced).runsNow)
      (cascadedAttempt? (ranDirect session paths forced).runsNow) (ranDirect session paths forced)
      (ranDirect session paths forced).pending

variable {session : Session H} {paths : List String} {forced : Bool}

lemma Batch.foundation_ranDirect :
    (ranDirect session paths forced).foundation = (start session forced).foundation :=
  (congrArg (fun s : Standing H => s.plan.foundation) standing_ranDirect).trans foundation_resolved

/-- The attempts of the direct declarations account for what these have done. -/
lemma Batch.makes_direct :
    Makes (start session forced).foundation (resolved session paths forced)
      (ranDirect session paths forced)
      (along runDirectEntry (fun batch entry => batch.attempt? .runningDirect entry.1 entry.2)
        (resolved session paths forced) (resolved session paths forced).direct.entries) :=
  Makes.foldl (fun entry batch => congrArg (fun s : Standing H => s.plan.foundation)
      (standing_runDirectEntry entry batch))
    (fun _ entry founded => makes_runDirectEntry founded entry)
    (resolved session paths forced).direct.entries (resolved session paths forced)
      foundation_resolved

lemma Batch.makes_attempts :
    Makes (start session forced).foundation (resolved session paths forced)
      (ranCascaded session paths forced) (session.attempts paths forced) := by
  have cascaded : Makes (start session forced).foundation (ranDirect session paths forced)
      (ranCascaded session paths forced) _ :=
    Makes.foldl (fun id batch => congrArg Plan.foundation (plan_runCascadedEntry _ id batch))
      (fun _ id founded =>
        makes_runCascadedEntry founded (ranDirect session paths forced).runsNow id)
      (ranDirect session paths forced).pending (ranDirect session paths forced) foundation_ranDirect
  exact makes_direct.trans cascaded

/-- **The attempts of a batch lead from the site that it finds to the site that it leaves**,
whatever its plugins do. -/
theorem Session.leads_attempts :
    session.world.site.Leads (session.attempts paths forced)
      (run session paths forced).session.world.site := by
  rw [site_run, ← site_resolved]
  exact makes_attempts.leads

lemma Session.isOf_of_mem_attempts {attempt : Attempt}
    (made : attempt ∈ session.attempts paths forced) :
    attempt.IsOf (start session forced).foundation :=
  makes_attempts.genuine attempt made

/-- The outputs of a batch, in the order of the first attempt that wrote each. -/
lemma Session.written_attempts :
    (run session paths forced).written
      = .ofList ((session.attempts paths forced).filterMap fun attempt =>
          writtenPath? attempt.outcome) := by
  rw [written_eq_ranCascaded, makes_attempts.written, written_resolved]
  rfl

lemma Session.since_attempts :
    (run session paths forced).session.world.site.since session.world.site
      = (session.attempts paths forced).map fun attempt =>
        attempt.request session.engine.settings :=
  Site.since_eq (leads_attempts.emissions fun _ => isOf_of_mem_attempts)

lemma Session.ranIn_attempts :
    session.ranIn paths forced = (session.attempts paths forced).map fun attempt =>
      attempt.registration.id := by
  rw [Session.ranIn, since_attempts, List.map_map]
  rfl

/-! ## Which attempts are made -/

lemma Batch.foundation_direct (front : List (DeclarationId × String)) :
    (front.foldl runDirectEntry (resolved session paths forced)).foundation
      = (start session forced).foundation :=
  (congrArg (fun s : Standing H => s.plan.foundation)
    (Keeps.foldl standing_runDirectEntry front (resolved session paths forced))).trans
      foundation_resolved

/-- The turn of a declaration comes when those listed before it have had theirs. -/
lemma Batch.turn_eq {front rest : List DeclarationId} {id : DeclarationId}
    (listed : (ranDirect session paths forced).pending = front ++ id :: rest) :
    (ranDirect session paths forced).turn id
      = front.foldl (runCascadedEntry (ranDirect session paths forced).runsNow)
          (ranDirect session paths forced) := by
  have distinct := (ranDirect session paths forced).nodup_pending
  have cut : front ++ id :: rest = (front ++ [id]) ++ rest := by simp
  have absent : id ∉ front := by
    rw [listed, cut] at distinct
    exact List.disjoint_singleton.mp
      (List.disjoint_of_nodup_append (List.Nodup.of_append_left distinct))
  rw [turn, listed, cut, turnAmong_append_of_mem _ (by simp), turnAmong_append_self _ absent]

/-- Every attempt is that of a direct declaration for the source it is scheduled with, or that of a
cascaded one in its turn for the source that the host has. -/
theorem Session.scheduled_of_mem_attempts {attempt : Attempt}
    (made : attempt ∈ session.attempts paths forced) :
    ∃ id, session.engine.registry.get? id = some attempt.registration ∧
      ((attempt.phase = .runningDirect ∧
          (resolved session paths forced).direct.get? id = some attempt.source) ∨
        (attempt.phase = .runningCascaded ∧ (ranDirect session paths forced).runsNow = true ∧
          id ∈ (ranDirect session paths forced).pending ∧
          ((ranDirect session paths forced).turn id).located id = some attempt.source ∧
          (forced || session.engine.settings.isAutomaticSource attempt.source) = true ∧
          attempt.before.files.pathExists
            (FilePath.join session.engine.root attempt.source) = true)) := by
  rcases List.mem_append.mp made with direct | cascaded
  · obtain ⟨front, ⟨id, source⟩, rest, listed, made⟩ := mem_along.mp direct
    obtain ⟨found, phase, same, _⟩ := attempt?_eq_some made
    have registry : (front.foldl runDirectEntry (resolved session paths forced)).engine.registry
        = session.engine.registry := congrArg Foundation.registry (foundation_direct front)
    rw [registry] at found
    refine ⟨id, found, .inl ⟨phase, ?_⟩⟩
    rw [same, ← OrderedMap.mem_entries_iff, listed]
    exact List.mem_append_right _ List.mem_cons_self
  · obtain ⟨front, id, rest, listed, made⟩ := mem_along.mp cascaded
    rw [← turn_eq listed] at made
    have founded : ((ranDirect session paths forced).turn id).foundation = _ := foundation_turn id
    have registry : ((ranDirect session paths forced).turn id).engine.registry
        = session.engine.registry :=
      congrArg Foundation.registry founded
    have root : ((ranDirect session paths forced).turn id).engine.root = session.engine.root :=
      congrArg Foundation.root founded
    obtain ⟨source, located, made⟩ := Option.bind_eq_some_iff.mp made
    rw [attemptIfDue?_asked, attemptIfDue?] at made
    split at made
    · next due =>
      obtain ⟨found, phase, same, before⟩ := attempt?_eq_some made
      rw [registry] at found
      rw [Bool.and_eq_true, Bool.and_eq_true, admits_turn, pathExists, root] at due
      obtain ⟨⟨admitted, now⟩, present⟩ := due
      refine ⟨id, found, .inr ⟨phase, now, ?_, same ▸ located, same ▸ admitted, ?_⟩⟩
      · rw [listed]
        exact List.mem_append_right _ List.mem_cons_self
      · rw [same, before]
        exact present
    · cases made

lemma Session.attempted_of_direct {id : DeclarationId} {registration : Registration}
    {source : String} (registered : session.engine.registry.get? id = some registration)
    (scheduled : (resolved session paths forced).direct.get? id = some source) :
    ∃ attempt ∈ session.attempts paths forced, attempt.phase = .runningDirect ∧
      attempt.registration = registration ∧ attempt.source = source := by
  obtain ⟨front, rest, listed⟩ := List.append_of_mem (OrderedMap.mem_entries_iff.mpr scheduled)
  have registry : (front.foldl runDirectEntry (resolved session paths forced)).engine.registry
      = session.engine.registry := congrArg Foundation.registry (foundation_direct front)
  rw [← registry] at registered
  obtain ⟨attempt, made⟩ := exists_attempt? registered .runningDirect source
  obtain ⟨found, phase, same, _⟩ := attempt?_eq_some made
  exact ⟨attempt,
    List.mem_append_left _ (mem_along.mpr ⟨front, (id, source), rest, listed, made⟩), phase,
    Option.some.inj (found.symm.trans registered), same⟩

/-- A cascaded declaration is attempted for its source when cascades run now and the source is
admitted and there. -/
lemma Session.attempted_of_pending {id : DeclarationId} {registration : Registration}
    {source : String} (registered : session.engine.registry.get? id = some registration)
    (now : (ranDirect session paths forced).runsNow = true)
    (pending : id ∈ (ranDirect session paths forced).pending)
    (located : ((ranDirect session paths forced).turn id).located id = some source)
    (admitted : (forced || session.engine.settings.isAutomaticSource source) = true)
    (present : ((ranDirect session paths forced).turn id).pathExists source = true) :
    ∃ attempt ∈ session.attempts paths forced,
      attempt.registration = registration ∧ attempt.source = source := by
  obtain ⟨front, rest, listed⟩ := List.append_of_mem pending
  have registry : ((ranDirect session paths forced).turn id).engine.registry
      = session.engine.registry :=
    congrArg Foundation.registry (foundation_turn id)
  rw [← registry] at registered
  obtain ⟨attempt, made⟩ := exists_attempt? registered .runningCascaded source
  obtain ⟨found, _, same, _⟩ := attempt?_eq_some made
  refine ⟨attempt, List.mem_append_right _ (mem_along.mpr ⟨front, id, rest, listed, ?_⟩),
    Option.some.inj (found.symm.trans registered), same⟩
  rw [← turn_eq listed, cascadedAttempt?, located, Option.bind_some, attemptIfDue?_asked,
    attemptIfDue?, admits_turn, admitted, now, present]
  exact made

lemma Session.mem_written_ranDirect {path : String} :
    path ∈ (ranDirect session paths forced).written ↔
      ∃ attempt ∈ session.attempts paths forced, attempt.phase = .runningDirect ∧
        attempt.outcome = .ok (.written path) := by
  have phases : ∀ attempt, attempt ∈ along runDirectEntry
      (fun batch entry => batch.attempt? .runningDirect entry.1 entry.2)
      (resolved session paths forced) (resolved session paths forced).direct.entries ↔
        attempt ∈ session.attempts paths forced ∧ attempt.phase = .runningDirect := by
    intro attempt
    constructor
    · intro made
      obtain ⟨_, _, _, _, shows⟩ := mem_along.mp made
      exact ⟨List.mem_append_left _ made, (attempt?_eq_some shows).2.1⟩
    · rintro ⟨made, phase⟩
      refine (List.mem_append.mp made).resolve_right fun cascaded => ?_
      obtain ⟨_, _, _, _, shows⟩ := mem_along.mp cascaded
      obtain ⟨_, _, shows⟩ := Option.bind_eq_some_iff.mp shows
      rw [attemptIfDue?] at shows
      split at shows
      · have other := (attempt?_eq_some shows).2.1
        rw [phase] at other
        cases other
      · cases shows
  rw [makes_direct.written, written_resolved, OrderedSet.mem_insertAll, List.mem_filterMap]
  simp only [phases, and_assoc, writtenPath?_eq_some_iff]
  exact or_iff_right (OrderedSet.not_mem_empty path)

end Session

end SourceGen
