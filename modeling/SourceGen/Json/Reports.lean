import SourceGen.Json.Basic
import SourceGen.Project.Basic

/-!
# Reports as JSON

The JSON form of what the program tells: identities, diagnostics, batch reports, rejections and
lists.
-/

namespace SourceGen

/-- An identity as JSON. -/
def DeclarationId.toJson (id : DeclarationId) : Json :=
  .object [("target", .text id.target.text), ("generator", .text id.generator.text)]

/-- A diagnostic as JSON. -/
def Diagnostic.toJson (diagnostic : Diagnostic) : Json :=
  .object
    [ ("severity", .text diagnostic.severity.text),
      ("phase", .text diagnostic.phase.text),
      ("message", .text diagnostic.message),
      ("location", .optionalText diagnostic.location) ]

/-- The fields of a batch report. -/
def BatchReport.jsonFields (report : BatchReport) : List (String × Json) :=
  [ ("forced", .boolean report.forced),
    ("ran", .ofList DeclarationId.toJson report.ran),
    ("written", .texts report.written),
    ("skipped", .texts report.skipped),
    ("suppressed", .texts report.suppressed),
    ("deferred", .texts report.deferred),
    ("cascaded", .boolean report.cascaded),
    ("refresh_requested", .boolean report.refreshRequested),
    ("diagnostics", .ofList Diagnostic.toJson report.diagnostics) ]

/-- A batch report as JSON. -/
def BatchReport.toJson (report : BatchReport) : Json :=
  .object report.jsonFields

/-- The fields of a reason: its kind, and the text of a panic. -/
def RejectReason.jsonFields : RejectReason → List (String × Json)
  | duplicate => [("reason", .text "duplicate")]
  | missingGenerator => [("reason", .text "missing_generator")]
  | blankOutputName => [("reason", .text "blank_output_name")]
  | outputNameFailed panic =>
    [("reason", .text "output_name_failed"), ("detail", .text panic.message)]

/-- A rejection as JSON. -/
def Rejection.toJson (rejection : Rejection) : Json :=
  .object (("id", rejection.id.toJson) :: rejection.reason.jsonFields)

namespace Project

/-- A run as JSON. -/
def ProcessReport.toJson (report : ProcessReport) : Json :=
  .object
    [("batches", .ofList BatchReport.toJson report.batches), ("pending", .texts report.pending)]

/-- A listed declaration as JSON. -/
def DeclarationInfo.toJson (info : DeclarationInfo) : Json :=
  .object
    [ ("id", info.id.toJson),
      ("output_name", .text info.outputName),
      ("source", .optionalText info.source),
      ("output_path", .optionalText info.outputPath),
      ("overwrite_if_exists", .boolean info.overwrite),
      ("encoding", .text info.encoding.name) ]

/-- A shared generator as JSON. -/
def sharedJson (entry : TypeName × Nat) : Json :=
  .object [("generator", .text entry.1.text), ("targets", .count entry.2)]

/-- A list as JSON. -/
def ListReport.toJson (report : ListReport) : Json :=
  .object
    [ ("declarations", .ofList DeclarationInfo.toJson report.declarations),
      ("emitters", .ofList sharedJson report.shared),
      ("rejected", .ofList Rejection.toJson report.rejected) ]

end Project

end SourceGen
