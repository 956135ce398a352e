import SourceGen.Report

/-!
# Plugins

A plugin is called before and after each phase of every batch. It may change the report and may
fail; a failure becomes a diagnostic and stops nothing. It may remember what it saw: what it makes
of a report is a function of the calls made so far, which is all that a deterministic program can
remember.
-/

namespace SourceGen

/-- A point at which plugins are called. -/
inductive HookPoint where
  | before (phase : Phase)
  | after (phase : Phase)
deriving DecidableEq, Inhabited

namespace HookPoint

/-- The phase that the point belongs to. -/
def phase : HookPoint → Phase
  | before phase | after phase => phase

/-- The name of a point: a sign for before or after, and the phase. -/
def text : HookPoint → String
  | before phase => "+" ++ phase.text
  | after phase => "-" ++ phase.text

/-- The points of a batch in the order in which they come. -/
def all : List HookPoint :=
  Phase.all.flatMap fun phase => [before phase, after phase]

end HookPoint

/-- A call of the plugin of a name at a point, with the report that it was handed. -/
structure HookCall where
  plugin : String
  point : HookPoint
  report : BatchReport
deriving DecidableEq, Inhabited

/-- An observer of batches. Given all earlier calls of plugins, oldest first, `hook` tells what it
makes of the report at a point, with the message of its failure if it fails. -/
structure Plugin where
  name : String
  hook : (earlier : List HookCall) → HookPoint → BatchReport → BatchReport × Option String

instance : Inhabited Plugin :=
  ⟨⟨"", fun _ _ report => (report, none)⟩⟩

/-- The report after a call of a plugin: what the plugin made of it, and an error at the plugin's
name when it failed. -/
def Plugin.call (plugin : Plugin) (earlier : List HookCall) (point : HookPoint)
    (report : BatchReport) : BatchReport :=
  match plugin.hook earlier point report with
  | (report, none) => report
  | (report, some message) =>
    report.add
      { severity := .error
        phase := point.phase
        message := "plugin hook failed: " ++ message
        location := some plugin.name }

end SourceGen
