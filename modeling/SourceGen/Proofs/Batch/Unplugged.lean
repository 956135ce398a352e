import SourceGen.Proofs.Batch.Recasting

/-!
# The same batch without its plugins

The list of plugins is a part of the engine, which every step of a batch holds. But the work of a
phase never reads it, so an engine with other plugins does the same work (`Batch.unaware_work`).
Only the calls between the works depend on it.
-/

namespace SourceGen

/-- The session of an engine without plugins. -/
def Session.unplugged {H : Type} (session : Session H) : Session H :=
  { session with engine.plugins := [] }

namespace Batch

variable {H : Type}

/-- The batch of an engine with other plugins. -/
def withPlugins (plugins : List Plugin) (batch : Batch H) : Batch H :=
  { batch with session.engine.plugins := plugins }

/-- The step does the same whatever plugins there are. -/
def Unaware (plugins : List Plugin) (step : Batch H → Batch H) : Prop :=
  ∀ batch, step (batch.withPlugins plugins) = (step batch).withPlugins plugins

variable {plugins : List Plugin}

lemma Unaware.comp {first second : Batch H → Batch H} (hs : Unaware plugins second)
    (hf : Unaware plugins first) : Unaware plugins fun batch => second (first batch) := by
  intro batch
  dsimp only
  rw [hf, hs]

/-- The work of no phase depends on the plugins. -/
theorem unaware_work [Host H] (paths : List String) (phase : Phase) :
    Unaware plugins fun batch : Batch H => work paths phase batch := by
  have itself : Host.Follows fun host : H => host :=
    ⟨⟨fun _ _ => rfl, fun _ => rfl⟩, fun _ _ _ => rfl, fun _ _ _ => rfl, fun _ => rfl⟩
  have recasts : Recasts (fun host : H => host) id (fun _ => plugins)
      (fun batch => work paths phase batch)
      fun batch => work paths phase batch := recasts_work itself paths phase
  exact recasts

end Batch

end SourceGen
