import SourceGen.Emit
import SourceGen.Host.Basic
import SourceGen.Ordered.Set
import SourceGen.Plugin
import SourceGen.Registry.Discovery

/-!
# The engine

The engine owns the registry and the two sets that outlive a batch: the outputs whose reimport it
must absorb, and the sources that it has put off to a later batch. Each member of either set is used
once. A `Session` is an engine together with the world it works in: a host, the files, and the calls
made to generators and plugins so far.
-/

namespace SourceGen

/-- The engine of a project. `suppressed` are the outputs waiting for their reimport, which will be
absorbed; `deferred` are the sources reimported to run what was put off. The plugins come in the
order of their registration. -/
structure Engine where
  root : String
  settings : Settings := {}
  registry : Registry := {}
  suppressed : OrderedSet String := ∅
  deferred : OrderedSet String := ∅
  plugins : List Plugin := []
deriving Inhabited

namespace Engine

/-- Rebuilds the registry from a list of declarations. -/
def discover (engine : Engine) (catalog : Catalog) (declarations : List Declaration) :
    Discovery × Engine :=
  let discovery := Discovery.ofDeclarations catalog declarations
  (discovery, { engine with registry := discovery.registry })

/-- Whether the next notification of a path will be absorbed. -/
def isSuppressed (engine : Engine) (path : String) : Bool :=
  SourcePath.normalize path ∈ engine.suppressed

end Engine

/-- What an engine works in: the host, the files with the requests to generators, and the calls of
plugins, oldest first. -/
structure World (H : Type) where
  host : H
  site : Site
  hookCalls : List HookCall := []

/-- An engine at work. -/
structure Session (H : Type) where
  engine : Engine
  world : World H

end SourceGen
