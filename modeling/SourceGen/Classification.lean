import SourceGen.Host.Basic
import SourceGen.Registry.Basic
import SourceGen.Settings

/-!
# Classification of changed paths

What a changed path means: the source of a target, a generated file, the source of a generator, or
nothing of interest. A generated file is told by its name alone, before the host is asked, so it is
never taken for a source.
-/

namespace SourceGen

/-- What a changed path means: it is the source of a registered target, a generated file, with the
generator that produced it, the source of a generator that is no target, or nothing of interest. -/
inductive Classification where
  | direct (target : TypeName)
  | generated (generator : TypeName)
  | generatorSource (type : TypeName)
  | irrelevant
deriving DecidableEq, Inhabited

namespace Lookups

variable {H : Type} [Host H]

/-- The type that a source declares, asked of the host the first time. -/
def typeOfPath (lookups : Lookups) (host : H) (files : FileSystem) (path : String) :
    Option TypeName × Lookups × H :=
  match lookups.types.get? path with
  | some answer => (answer, lookups, host)
  | none =>
    let (answer, host) := Host.typeOfPath host files path
    (answer, { lookups with types := lookups.types.insert path answer }, host)

/-- The normalized path of the source of a type, asked of the host the first time. -/
def pathOfType (lookups : Lookups) (host : H) (files : FileSystem) (type : TypeName) :
    Option String × Lookups × H :=
  match lookups.paths.get? type with
  | some answer => (answer, lookups, host)
  | none =>
    let (answer, host) := Host.pathOfType host files type
    let answer := answer.map SourcePath.normalize
    (answer, { lookups with paths := lookups.paths.insert type answer }, host)

end Lookups

namespace Classification

/-- The meaning of a generated file. -/
def ofGeneratedFile (registry : Registry) (fileName : String) : Classification :=
  match registry.generatorOfFile? fileName with
  | some owner => .generated owner
  | none => .irrelevant

/-- The meaning of the source of a type. -/
def ofType (registry : Registry) : Option TypeName → Classification
  | none => .irrelevant
  | some type =>
    if registry.isTarget type then .direct type
    else if registry.isGenerator type then .generatorSource type
    else .irrelevant

variable {H : Type} [Host H]

/-- The meaning of a normalized path. A forced run does not ask the source filters. -/
def ofPath (registry : Registry) (settings : Settings) (forced : Bool) (files : FileSystem)
    (path : String) (lookups : Lookups) (host : H) : Classification × Lookups × H :=
  let name := SourcePath.fileName path
  if isGeneratedFileName name then (ofGeneratedFile registry name, lookups, host)
  else if !forced && !settings.isSourceCandidate path then (.irrelevant, lookups, host)
  else
    let (type, lookups, host) := lookups.typeOfPath host files path
    (ofType registry type, lookups, host)

end Classification

end SourceGen
