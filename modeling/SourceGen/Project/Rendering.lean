import SourceGen.Project.Basic

/-!
# Rendering reports

A report is rendered as a list of lines that say what they are; how a line looks, and whether it
goes to the output or to the errors, is settled by `ReportLine.text` and `ReportLine.isWarning`.
-/

namespace SourceGen

/-- A line of a rendered report: a heading, a property of the item above, an item of a list, an item
that is new, a warning, text as it is, or an empty line. -/
inductive ReportLine where
  | heading (name : String)
  | keyValue (key value : String)
  | listItem (text : String)
  | addedItem (text : String)
  | warning (text : String)
  | preformatted (text : String)
  | newline
deriving DecidableEq, Inhabited

namespace ReportLine

/-- How a line looks. -/
def text : ReportLine → String
  | .heading name => name ++ ":"
  | keyValue key value => "    " ++ key ++ ": " ++ value
  | listItem text => "  - " ++ text
  | addedItem text => "  + " ++ text
  | warning text => text
  | preformatted text => text
  | newline => ""

/-- Whether a line goes to the errors. -/
def isWarning : ReportLine → Bool
  | warning _ => true
  | _ => false

end ReportLine

namespace BatchReport

/-- The diagnostics that are shown. -/
def shownDiagnostics (report : BatchReport) : List Diagnostic :=
  report.diagnostics.filter fun diagnostic => diagnostic.severity ≠ .info

/-- The lines of one batch. -/
def lines (report : BatchReport) : List ReportLine :=
  report.written.map .addedItem
    ++ report.skipped.map (fun path => .listItem (path ++ " (exists, kept)"))
    ++ report.suppressed.map (fun path => .listItem (path ++ " (own write)"))
    ++ report.deferred.map (fun path => .listItem (path ++ " (deferred)"))
    ++ report.shownDiagnostics.map fun diagnostic => .warning ("  " ++ diagnostic.text)

/-- Whether a batch did nothing worth a line. -/
def isQuiet (report : BatchReport) : Bool :=
  report.lines.isEmpty

end BatchReport

namespace Project

/-- The lines of a batch with its number, unless it was quiet. -/
def numberedLines (entry : BatchReport × Nat) : List ReportLine :=
  if entry.1.isQuiet then []
  else .heading ("batch " ++ toString (entry.2 + 1)) :: entry.1.lines

/-- The last line about a run. -/
def summary (report : ProcessReport) : String :=
  if report.written.isEmpty then "nothing written"
  else
    "wrote " ++ toString report.written.length ++ " file(s) in "
      ++ toString report.batches.length ++ " batch(es)"

/-- The lines of a run. -/
def ProcessReport.lines (report : ProcessReport) : List ReportLine :=
  report.batches.zipIdx.flatMap numberedLines
    ++ (if report.pending.isEmpty then []
        else .heading "pending reimports" :: report.pending.map .listItem)
    ++ [.preformatted (summary report)]

/-- The lines of a forced run. -/
def ForceRun.lines (run : ForceRun) : List ReportLine :=
  .heading run.target :: run.report.lines
    ++ if run.report.wroteAny then [] else [.listItem "nothing written"]

/-- The lines of a listed declaration. -/
def DeclarationInfo.lines (info : DeclarationInfo) : List ReportLine :=
  [.listItem info.id.text, .keyValue "output" info.outputName]
    ++ (match info.source, info.outputPath with
        | some source, some path => [.keyValue "source" source, .keyValue "path" path]
        | _, _ => [.keyValue "source" "(not found)"])
    ++ if info.overwrite then [] else [.keyValue "overwrite" "never"]

/-- The line of a generator that several declarations share. -/
def sharedLine (entry : TypeName × Nat) : ReportLine :=
  .listItem (entry.1.text ++ " (" ++ toString entry.2 ++ " targets)")

/-- A part of a list that is shown only when there is something in it. -/
def optionalSection (name : String) (lines : List ReportLine) : List ReportLine :=
  if lines.isEmpty then [] else .newline :: .heading name :: lines

/-- The lines of a list. -/
def ListReport.lines (report : ListReport) : List ReportLine :=
  .heading "Declarations" :: report.declarations.flatMap DeclarationInfo.lines
    ++ optionalSection "Shared generators" (report.shared.map sharedLine)
    ++ optionalSection "Rejected"
        (report.rejected.map fun rejection => .warning ("  " ++ rejection.text))

/-- The lines of a check. -/
def CheckReport.lines (report : CheckReport) : List ReportLine :=
  report.errors.map (fun error => .warning ("error: " ++ error))
    ++ report.warnings.map (fun warning => .warning ("warning: " ++ warning))
    ++ report.infos.map (fun info => .preformatted ("info: " ++ info))
    ++ (if report.warnings.isEmpty && report.errors.isEmpty then [] else [.newline])
    ++ if report.isValid then [.preformatted ("✓ " ++ report.configPath ++ " is valid")] else []

end Project

end SourceGen
