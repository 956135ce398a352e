import SourceGen.Engine.Session

/-!
# Recording hosts

A host in memory: a table of which path declares which type, and a record of what was asked of it.
Two loops drive a session by its record: feeding the requested reimports back once, or until none
are left.
-/

namespace SourceGen

/-- A host that records what it is asked. `types` tells the type that each path declares; `lookups`
and `refreshes` count the questions answered and the refreshes requested, and `reimports` are those
requested and not yet taken. -/
structure RecordingHost where
  types : OrderedMap String TypeName := ∅
  lookups : Nat := 0
  reimports : List String := []
  refreshes : Nat := 0
  building : Bool := false
deriving Inhabited

namespace RecordingHost

/-- Enters the type that a path declares. -/
def declare (host : RecordingHost) (path : String) (type : TypeName) : RecordingHost :=
  { host with types := host.types.insert path type }

/-- The first path that declares a type. -/
def pathOf? (host : RecordingHost) (type : TypeName) : Option String :=
  (host.types.entries.find? fun (_, declared) => declared = type).map Prod.fst

instance : Host RecordingHost where
  typeOfPath host _ path := (host.types.get? path, { host with lookups := host.lookups + 1 })
  pathOfType host _ type := (host.pathOf? type, { host with lookups := host.lookups + 1 })
  requestReimport host path := { host with reimports := host.reimports ++ [path] }
  requestRefresh host := { host with refreshes := host.refreshes + 1 }
  isBuilding host := host.building

end RecordingHost

namespace Session

/-- Takes the requested reimports, leaving none behind. -/
def takeRecorded (session : Session RecordingHost) : List String × Session RecordingHost :=
  (session.world.host.reimports,
    { session with world.host := { session.world.host with reimports := [] } })

/-- Takes the requested reimports and notifies the engine of them. -/
def feedBack (session : Session RecordingHost) : BatchReport × Session RecordingHost :=
  let (paths, session) := session.takeRecorded
  session.onFilesChanged paths

/-- Feeds reimports back until none are left, at most `limit` times. -/
def settle : (limit : Nat) → Session RecordingHost → List BatchReport × Session RecordingHost
  | 0, session => ([], session)
  | limit + 1, session =>
    if session.world.host.reimports.isEmpty then ([], session)
    else
      let (report, session) := session.feedBack
      let (reports, session) := settle limit session
      (report :: reports, session)

end Session

end SourceGen
