import SourceGen.Declaration

/-!
# Batch reports

A batch goes through six phases and tells what it did in a report: the declarations it ran, the
paths it wrote, kept, absorbed and put off, and its diagnostics.
-/

namespace SourceGen

/-- The phases of a batch. -/
inductive Phase where
  | collecting
  | resolvingTargets
  | runningDirect
  | runningCascaded
  | requestingReimport
  | done
deriving DecidableEq, Inhabited

namespace Phase

/-- The phases in the order in which they run. -/
def all : List Phase :=
  [collecting, resolvingTargets, runningDirect, runningCascaded, requestingReimport, done]

/-- The name of a phase. -/
def text : Phase → String
  | collecting => "collecting"
  | resolvingTargets => "resolving_targets"
  | runningDirect => "running_direct"
  | runningCascaded => "running_cascaded"
  | requestingReimport => "requesting_reimport"
  | done => "done"

/-- The phase of a name. -/
def ofText? (text : String) : Option Phase :=
  all.find? (·.text = text)

end Phase

/-- How serious a diagnostic is. An error tells that a declaration failed to run or to write, a
warning that something was passed over. -/
inductive Severity where
  | error
  | warning
  | info
deriving DecidableEq, Inhabited

namespace Severity

/-- The name of a severity. -/
def text : Severity → String
  | error => "error"
  | warning => "warning"
  | info => "info"

/-- The severity of a name. -/
def ofText? (text : String) : Option Severity :=
  [error, warning, info].find? (·.text = text)

end Severity

/-- A message of a phase, located at the declaration, path or plugin that it is about. -/
structure Diagnostic where
  severity : Severity
  phase : Phase
  message : String
  location : Option String := none
deriving DecidableEq, Inhabited

namespace Diagnostic

/-- The diagnostic about something else. -/
def located (diagnostic : Diagnostic) (location : String) : Diagnostic :=
  { diagnostic with location := some location }

/-- The diagnostic in one line. -/
def text (diagnostic : Diagnostic) : String :=
  diagnostic.severity.text ++ ": " ++ diagnostic.message
    ++ match diagnostic.location with
       | some location => " (at " ++ location ++ ")"
       | none => ""

/-- Whether this is an error. -/
def isError (diagnostic : Diagnostic) : Bool :=
  diagnostic.severity = .error

/-- Whether this is a warning. -/
def isWarning (diagnostic : Diagnostic) : Bool :=
  diagnostic.severity = .warning

end Diagnostic

/-- What happened in a batch. `ran` are the declarations that ran, in order. Of the outputs,
`written` were written and `skipped` kept, since they exist and may not be replaced. `suppressed`
are the notified paths that were the engine's own writes, and `deferred` the sources put off to a
later batch. `cascaded` tells whether cascaded declarations ran, `refreshRequested` whether the host
was asked to refresh its index. -/
structure BatchReport where
  forced : Bool
  ran : List DeclarationId := []
  written : List String := []
  skipped : List String := []
  suppressed : List String := []
  deferred : List String := []
  cascaded : Bool := false
  refreshRequested : Bool := false
  diagnostics : List Diagnostic := []
deriving DecidableEq, Inhabited

namespace BatchReport

/-- Whether any file was written. -/
def wroteAny (report : BatchReport) : Bool :=
  !report.written.isEmpty

/-- The errors. -/
def errors (report : BatchReport) : List Diagnostic :=
  report.diagnostics.filter Diagnostic.isError

/-- The warnings. -/
def warnings (report : BatchReport) : List Diagnostic :=
  report.diagnostics.filter Diagnostic.isWarning

/-- Whether there are errors. -/
def hasErrors (report : BatchReport) : Bool :=
  report.diagnostics.any Diagnostic.isError

/-- Adds a message. -/
def add (report : BatchReport) (diagnostic : Diagnostic) : BatchReport :=
  { report with diagnostics := report.diagnostics ++ [diagnostic] }

end BatchReport

end SourceGen
