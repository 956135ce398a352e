import SourceGen.FileSystem.Basic
import SourceGen.Ordered.Map
import SourceGen.TypeName

/-!
# Hosts

The host knows which source declares which type, takes requests to process a file again or to
refresh its index, and tells whether it is in the middle of a build. Asking it may change it: a host
may count its questions or build an index when first asked. Within one batch each question is asked
once; the answers are kept in `Lookups`.
-/

namespace SourceGen

/-- The services of a host of type `H`. A question, for the type that a source declares or for the
source that declares a type, is answered with the host after it. The host takes requests to process
a file again and to refresh its index, and `isBuilding` tells whether it is in the middle of a
build, when no requests are sent to it. -/
class Host (H : Type) where
  typeOfPath : H → FileSystem → (path : String) → Option TypeName × H
  pathOfType : H → FileSystem → (type : TypeName) → Option String × H
  requestReimport : H → (path : String) → H
  requestRefresh : H → H
  isBuilding : H → Bool

/-- The answers of a host in one batch: the types of the paths asked for, and the paths of the types
asked for, normalized. -/
structure Lookups where
  types : OrderedMap String (Option TypeName) := ∅
  paths : OrderedMap TypeName (Option String) := ∅
deriving Inhabited

end SourceGen
