import SourceGen.FileSystem.Write
import SourceGen.Registry.Basic
import SourceGen.Settings

/-!
# Emitting one declaration

One emission asks a generator to fill a buffer that starts with the header, and writes what it made
unless nothing came of it: the generator declined, nothing but blanks stands behind the header, or
no output path is left. Where the output goes and how it is encoded depends on the final output path
and on the declaration alone. Whether an existing file is kept is decided after the generator has
run.
-/

namespace SourceGen

/-- What generators work on: the files, and the requests made so far, newest first. -/
structure Site where
  files : FileSystem
  emissions : List Emission := []
deriving Inhabited

/-- What came of an emission that did not fail: the output was written to a project path, there was
nothing to write, or the output exists at a project path and was kept. -/
inductive EmitOutcome where
  | written (path : String)
  | discarded
  | kept (path : String)
deriving DecidableEq, Inhabited

/-- Why an emission failed: the generator panicked; it failed, with the messages from its failure to
the first cause; or the output could not be written. -/
inductive EmitError where
  | panicked (panic : Panic)
  | failed (generator : TypeName) (chain : List String)
  | write (error : WriteError)

/-- The words for a failure, causes behind it. -/
def EmitError.message : EmitError → String
  | panicked panic => "generator panicked: " ++ panic.message
  | failed generator chain =>
    String.intercalate ": " (("generator '" ++ generator.text ++ "' failed") :: chain)
  | write error => error.message

namespace Registration

/-- The header line in front of what a generator makes; empty when none is configured. -/
def headerLine (registration : Registration) (settings : Settings) : String :=
  match settings.renderHeader? registration.id.generator with
  | some header => header ++ "\n"
  | none => ""

/-- The request that starts an emission for a source. -/
def request (registration : Registration) (settings : Settings) (source : String) : Emission :=
  let source := SourcePath.normalize source
  { generator := registration.id.generator
    context :=
      { target := registration.id.target
        sourcePath := source
        outputPath := registration.outputPath source }
    buffer := registration.headerLine settings }

/-- Whether a buffer holds nothing but blanks behind its header. A buffer that no longer starts with
the header is looked at as a whole. -/
def isVoid (header buffer : String) : Bool :=
  Text.isBlankText ((Text.dropPrefix? header.toList buffer.toList).getD buffer.toList)

/-- Writes a buffer to its output path. -/
def persist (registration : Registration) (root : String) (force : Bool) (files : FileSystem)
    (path buffer : String) : FileSystem × Except EmitError EmitOutcome :=
  let overwrite := if registration.overwrite || force then Overwrite.always else .ifMissing
  match files.writeUnless (FilePath.join root path) buffer registration.encoding overwrite with
  | (files, .ok .written) => (files, .ok (.written path))
  | (files, .ok .skipped) => (files, .ok (.kept path))
  | (files, .error error) => (files, .error (.write error))

/-- Runs the generator of a registration for a source and writes what it made. -/
def emit (registration : Registration) (root : String) (settings : Settings) (force : Bool)
    (source : String) (site : Site) : Site × Except EmitError EmitOutcome :=
  let request := registration.request settings source
  let asked : Site := { site with emissions := request :: site.emissions }
  match registration.generator.emit site.emissions request with
  | .panicked panic => (asked, .error (.panicked panic))
  | .failed chain => (asked, .error (.failed registration.id.generator chain))
  | .finished keep context buffer =>
    let path := SourcePath.normalize context.outputPath
    if !keep || isVoid (registration.headerLine settings) buffer || path.isEmpty then
      (asked, .ok .discarded)
    else
      let (files, outcome) := registration.persist root force site.files path buffer
      ({ asked with files }, outcome)

end Registration

end SourceGen
