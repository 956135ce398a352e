import SourceGen.Plugin

/-!
# Scripted plugins

A plugin that notes or fails at chosen points, for trying out an engine.
-/

namespace SourceGen

/-- The plugin that adds a note to the report at the points `noteOn` and fails at the points
`failOn`. -/
def Plugin.scripted (name : String) (noteOn failOn : List String) : Plugin where
  name
  hook _ point report :=
    let report :=
      if noteOn.contains point.text then report.add ⟨.info, point.phase, "note", some name⟩
      else report
    (report, if failOn.contains point.text then some ("hook " ++ point.text ++ " failed") else none)

end SourceGen
