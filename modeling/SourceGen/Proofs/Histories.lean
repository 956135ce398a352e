import SourceGen.Proofs.Batch.Requesting

/-!
# Histories of an engine

An engine outlives its batches, its hosts and the files: between two calls anything may have changed
but the engine itself. A `History` is what becomes of a new engine over a list of calls, each with
a host and a world of its own, together with the *rounds*, the batches that the calls have run.

All that a call does to an engine is to run a batch or to rediscover, so what both keep holds of an
engine all along (`History.induction`, `History.invariant`).
-/

namespace SourceGen

/-! ## Rounds -/

/-- A batch that was run, with the session it began with, on a host of some type `H`. -/
structure Round : Type 1 where
  {H : Type}
  [services : Host H]
  session : Session H
  paths : List String
  forced : Bool

namespace Round

attribute [instance] Round.services

/-- The batch after all its phases. -/
def batch (round : Round) : Batch round.H :=
  .run round.session round.paths round.forced

/-- Whether the host was building when the requests were due. -/
def wasBuilding (round : Round) : Bool :=
  Host.isBuilding (Batch.ranCascaded round.session round.paths round.forced).host

/-- Whether an unforced batch was notified of the path. -/
def Consumes (round : Round) (path : String) : Prop :=
  round.forced = false ∧ ∃ notified ∈ round.paths, SourcePath.normalize notified = path

end Round

/-! ## Calls -/

/-- A call on an engine, with the world it finds. -/
inductive Call : Type 1 where
  | discover (catalog : Catalog) (declarations : List Declaration)
  | notify {H : Type} [Host H] (world : World H) (paths : List String)
  | forcePaths {H : Type} [Host H] (world : World H) (paths : List String)
  | forceType {H : Type} [Host H] (world : World H) (type : TypeName)
  | force {H : Type} [Host H] (world : World H) (type : TypeName)

namespace Call

/-- The engine after the call. -/
def after (engine : Engine) : Call → Engine
  | discover catalog declarations => (engine.discover catalog declarations).2
  | notify world paths => (Session.onFilesChanged ⟨engine, world⟩ paths).2.engine
  | forcePaths world paths => (Session.forcePaths ⟨engine, world⟩ paths).2.engine
  | forceType world type => (Session.forceType ⟨engine, world⟩ type).2.engine
  | force world type => (Session.force ⟨engine, world⟩ type).2.engine

/-- The round of a forced run for a type, when the host has a source for it. -/
def roundOfType {H : Type} [Host H] (engine : Engine) (world : World H) (type : TypeName) :
    Option Round :=
  let (path, host) := Host.pathOfType world.host world.site.files type
  path.map fun path => { session := ⟨engine, { world with host }⟩, paths := [path], forced := true }

/-- The batch that the call runs, if any. -/
def round? (engine : Engine) : Call → Option Round
  | discover _ _ => none
  | notify world paths => some { session := ⟨engine, world⟩, paths, forced := false }
  | forcePaths world paths => some { session := ⟨engine, world⟩, paths, forced := true }
  | forceType world type | force world type => roundOfType engine world type

end Call

/-- An engine with the rounds it went through, oldest first. -/
structure History : Type 1 where
  engine : Engine
  rounds : List Round

namespace History

/-- One more call. -/
def extend (history : History) (call : Call) : History where
  engine := call.after history.engine
  rounds := history.rounds ++ (call.round? history.engine).toList

/-- The history of an engine over a list of calls. -/
def ofCalls (engine : Engine) (calls : List Call) : History :=
  calls.foldl extend ⟨engine, []⟩

end History

namespace Call

/-- A call that runs a batch leaves its engine, and the batch begins with the engine of the call. -/
lemma after_of_round {engine : Engine} {call : Call} {round : Round}
    (runs : call.round? engine = some round) :
    call.after engine = round.batch.engine ∧ round.session.engine = engine := by
  have ofType : ∀ {H : Type} [Host H] (world : World H) (type : TypeName),
      roundOfType engine world type = some round →
      (Session.forceType ⟨engine, world⟩ type).2.engine = round.batch.engine ∧
        round.session.engine = engine := by
    intro H _ world type runs
    unfold roundOfType at runs
    unfold Session.forceType
    dsimp only at runs ⊢
    cases located : (Host.pathOfType world.host world.site.files type).1 with
    | none => simp [located] at runs
    | some path =>
      simp only [located, Option.map_some, Option.some.injEq] at runs
      subst runs
      exact ⟨rfl, rfl⟩
  cases call with
  | discover => cases runs
  | notify world paths | forcePaths world paths =>
    obtain rfl := Option.some.inj runs
    exact ⟨rfl, rfl⟩
  | forceType world type | force world type => exact ofType world type runs

/-- A call that runs no batch changes the engine by a discovery if at all. -/
lemma after_of_none {engine : Engine} {call : Call} (idle : call.round? engine = none) :
    call.after engine = engine ∨
      ∃ catalog declarations, call.after engine = (engine.discover catalog declarations).2 := by
  have ofType : ∀ {H : Type} [Host H] (world : World H) (type : TypeName),
      roundOfType engine world type = none →
      (Session.forceType ⟨engine, world⟩ type).2.engine = engine := by
    intro H _ world type idle
    unfold roundOfType at idle
    unfold Session.forceType
    dsimp only at idle ⊢
    rw [Option.map_eq_none_iff] at idle
    rw [idle]
  cases call with
  | discover catalog declarations => exact .inr ⟨catalog, declarations, rfl⟩
  | notify | forcePaths => cases idle
  | forceType world type | force world type => exact .inl (ofType world type idle)

end Call

namespace History

lemma ofCalls_append (engine : Engine) (calls : List Call) (call : Call) :
    ofCalls engine (calls ++ [call]) = (ofCalls engine calls).extend call :=
  List.foldl_append

/-- What holds of a new engine, and is kept by discoveries and by rounds, holds of every history. -/
theorem induction {P : History → Prop} {engine : Engine} (begins : P ⟨engine, []⟩)
    (discovers : ∀ (history : History) catalog declarations, P history →
      P { history with engine := (Engine.discover history.engine catalog declarations).2 })
    (runs : ∀ (history : History) (round : Round), round.session.engine = history.engine →
      P history → P ⟨round.batch.engine, history.rounds ++ [round]⟩) (calls : List Call) :
    P (ofCalls engine calls) := by
  refine List.foldlRecOn (motive := P) calls extend begins fun history holds call _ => ?_
  cases called : call.round? history.engine with
  | none =>
    have extended : history.extend call = { history with engine := call.after history.engine } := by
      simp [extend, called]
    rw [extended]
    rcases Call.after_of_none called with same | ⟨catalog, declarations, same⟩
    · rw [same]
      exact holds
    · rw [same]
      exact discovers history catalog declarations holds
  | some round =>
    obtain ⟨after, began⟩ := Call.after_of_round called
    have extended : history.extend call = ⟨round.batch.engine, history.rounds ++ [round]⟩ := by
      simp [extend, called, after]
    rw [extended]
    exact runs history round began holds

/-- What discoveries and batches keep holds of an engine all along, also whenever a batch begins. -/
theorem invariant {P : Engine → Prop} {engine : Engine} (begins : P engine)
    (discovers : ∀ engine catalog declarations, P engine →
      P (Engine.discover engine catalog declarations).2)
    (runs : ∀ round : Round, P round.session.engine → P round.batch.engine) (calls : List Call) :
    P (ofCalls engine calls).engine ∧ ∀ round ∈ (ofCalls engine calls).rounds,
      P round.session.engine := by
  refine induction (P := fun history => P history.engine ∧ ∀ round ∈ history.rounds,
    P round.session.engine)
    ⟨begins, fun _ listed => absurd listed List.not_mem_nil⟩
    (fun _ catalog declarations holds => ⟨discovers _ catalog declarations holds.1, holds.2⟩)
    (fun history round began holds => ?_) calls
  have atRound : P round.session.engine := began ▸ holds.1
  refine ⟨runs round atRound, fun other listed => ?_⟩
  rcases List.mem_append.mp listed with old | new
  · exact holds.2 other old
  · exact List.mem_singleton.mp new ▸ atRound

lemma discovered (root : String) (settings : Settings) (plugins : List Plugin) (calls : List Call) :
    ∀ round ∈ (ofCalls { root, settings, plugins } calls).rounds,
      round.session.engine.registry.Discovered := by
  have begins : Registry.Discovered (Engine.registry { root, settings, plugins }) :=
    ⟨.ofList [], [], rfl⟩
  refine (invariant (P := fun engine => engine.registry.Discovered) begins ?_ ?_ calls).2
  · exact fun _ catalog declarations _ => ⟨catalog, declarations, rfl⟩
  · intro round known
    obtain ⟨_, _, registry, _⟩ := Batch.engine_run round.session round.paths round.forced
    rw [Round.batch, registry]
    exact known

end History

end SourceGen
