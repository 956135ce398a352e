import SourceGen.CommandLine.Arguments
import SourceGen.Json.Reports
import SourceGen.Project.Rendering

/-!
# Running a command line

A run takes the arguments, the files and the text of the standard input, and gives what it printed,
its exit code and the files as it left them. A project is loaded with the sample generators. The
exit code is 1 when a manifest cannot be used, when a batch had errors or when a check found any.
-/

namespace SourceGen.CommandLine

/-- What a run left behind: its exit code, the lines on the standard output and on the standard
error output, and the files. -/
structure Run where
  exitCode : Nat := 0
  output : List String := []
  errors : List String := []
  files : FileSystem
deriving Inhabited

/-- The name of the program with its version. -/
def versionLine : String :=
  "altgen 0.1.0"

/-- How a command is used, in one line. -/
def usageLine (form : CommandForm) : String :=
  "  " ++ form.name
    ++ (if form.onProject then " [--config <CONFIG>]" else "")
    ++ String.join (form.flags.map fun flag => " [--" ++ flag ++ "]")
    ++ match form.positionals with
       | .nothing => ""
       | .any => " [PATHS]..."
       | .atLeastOne => " <TARGETS>..."
       | .shell => " <SHELL>"

/-- The help of the program. -/
def helpLines : List String :=
  [ "Regenerate source files when the sources they derive from change", "",
    "Usage: altgen [--verbose]... <COMMAND>", "", "Commands:" ] ++ commands.map usageLine

/-- A run that ends with a refusal. -/
def refuse (files : FileSystem) (refusal : Refusal) : Run :=
  match refusal with
  | .displayHelp => { output := helpLines, files }
  | .displayVersion => { output := [versionLine], files }
  | .displayHelpOnMissing => { exitCode := 2, errors := helpLines, files }
  | other => { exitCode := 2, errors := ("error: " ++ other.name) :: "" :: helpLines, files }

/-- The lines that tell what is wrong with a manifest. -/
def manifestLines (error : ManifestError) : List String :=
  let labels := error.fault.labels.map fun (label, span) =>
    "  " ++ error.source ++ ":" ++ toString span.offset ++ ": " ++ label
  ("error: " ++ error.message) :: (error.fault.detail?.map ("  " ++ ·)).toList ++ labels
    ++ (error.fault.help?.map ("  help: " ++ ·)).toList

/-- Whether a command reads its paths from the standard input, because no arguments name any. -/
def Invocation.readsInput (invocation : Invocation) : Bool :=
  invocation.form.name = "process" && invocation.given.values.isEmpty

/-- The changed paths that the standard input lists: its lines without blanks at their ends, empty
ones left out. -/
def listedPaths (input : String) : List String :=
  ((Text.pieces (· = '\n') input.toList).map fun line => String.ofList (Text.trim line)).filter
    fun line => !line.isEmpty

/-- A run that prints rendered lines. -/
def printed (exitCode : Nat) (lines : List ReportLine) (files : FileSystem) : Run where
  exitCode
  output := (lines.filter fun line => !line.isWarning).map ReportLine.text
  errors := (lines.filter ReportLine.isWarning).map ReportLine.text
  files

/-- A script that completes the names of the commands in a shell. -/
def completion (shell : String) : String :=
  let words := String.intercalate " " (commands.map CommandForm.name ++ [helpName])
  match shell with
  | "fish" => "complete -c altgen -a '" ++ words ++ "'"
  | "zsh" => "compctl -k '(" ++ words ++ ")' altgen"
  | "bash" => "complete -W '" ++ words ++ "' altgen"
  | _ => "# altgen: " ++ words

/-- Runs a command on a loaded project. -/
def runOn (project : Project) (invocation : Invocation) (input : String) : Run :=
  let given := invocation.given
  let json := given.flags.contains "json"
  match invocation.form.name with
  | "process" =>
    let paths := if invocation.readsInput then listedPaths input else given.values
    let (report, project) := project.process paths (!given.flags.contains "once")
    let exitCode := if report.hasErrors then 1 else 0
    if json then { exitCode, output := [report.toJson.pretty], files := project.files }
    else printed exitCode report.lines project.files
  | "force" =>
    let (runs, project) := project.force given.values
    let failed := runs.any fun run => run.report.hasErrors
    printed (if failed then 1 else 0) (runs.flatMap Project.ForceRun.lines) project.files
  | "list" =>
    let (report, project) := project.list
    if json then { output := [report.toJson.pretty], files := project.files }
    else printed 0 report.lines project.files
  | _ =>
    let report := project.check
    printed (if report.isValid then 0 else 1) report.lines project.files

/-- The path of the manifest that arguments name. -/
def configPath (given : Given) : String :=
  given.config.getD "altgen.toml"

/-- Runs a command. -/
def runCommand (invocation : Invocation) (files : FileSystem) (input : String) : Run :=
  if invocation.form.onProject then
    match ManifestFile.openAt files (configPath invocation.given) with
    | .error error => { exitCode := 1, errors := manifestLines error, files }
    | .ok file =>
      runOn (Project.load file Samples.catalog { files }) invocation input
  else { output := invocation.given.values.map completion, files }

/-- Runs a command line. -/
def run (arguments : List String) (files : FileSystem) (input : String) : Run :=
  match parse arguments with
  | .error refusal => refuse files refusal
  | .ok invocation => runCommand invocation files input

end SourceGen.CommandLine
