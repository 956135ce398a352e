import SourceGen.Text.Split

/-!
# Command line arguments

The grammar of the command line: options of the program, the name of a command, then options and
positional arguments of that command in any order. An option that takes a value may have it attached
or in the next argument; what such a value is worth is looked at only when the next known option or
positional argument comes, or at the end, so an unknown argument behind it is reported first.
-/

namespace SourceGen.CommandLine

/-- The shells with completions. -/
def shells : List String :=
  ["bash", "elvish", "fish", "powershell", "zsh"]

/-- What a command takes behind its options: nothing, any number of texts, at least one text, or the
name of a shell. -/
inductive Positionals where
  | nothing
  | any
  | atLeastOne
  | shell
deriving DecidableEq, Inhabited

/-- The form of a command. A command `onProject` takes the path of a manifest; `flags` are its
options without value. -/
structure CommandForm where
  name : String
  onProject : Bool := true
  flags : List String := []
  positionals : Positionals := .nothing
deriving DecidableEq, Inhabited

/-- The commands. -/
def commands : List CommandForm :=
  [ { name := "process", flags := ["once", "json"], positionals := .any },
    { name := "force", positionals := .atLeastOne },
    { name := "list", flags := ["json"] },
    { name := "check" },
    { name := "completions", onProject := false, positionals := .shell } ]

/-- The command of a name. -/
def commandNamed? (name : String) : Option CommandForm :=
  commands.find? (·.name = name)

/-- The name of the command that shows help. -/
def helpName : String := "help"

/-- Why no command can be run. The first three are answers rather than mistakes, of which the last
is given when there are no arguments at all. -/
inductive Refusal where
  | displayHelp
  | displayVersion
  | displayHelpOnMissing
  | missingSubcommand
  | invalidSubcommand
  | missingRequiredArgument
  | unknownArgument
  | invalidValue
  | argumentConflict
  | tooManyValues
deriving DecidableEq, Inhabited

/-- The name of a refusal. -/
def Refusal.name : Refusal → String
  | displayHelp => "DisplayHelp"
  | displayVersion => "DisplayVersion"
  | displayHelpOnMissing => "DisplayHelpOnMissingArgumentOrSubcommand"
  | missingSubcommand => "MissingSubcommand"
  | invalidSubcommand => "InvalidSubcommand"
  | missingRequiredArgument => "MissingRequiredArgument"
  | unknownArgument => "UnknownArgument"
  | invalidValue => "InvalidValue"
  | argumentConflict => "ArgumentConflict"
  | tooManyValues => "TooManyValues"

/-- The exit code of a refusal: help and version were asked for, all else is a mistake. -/
def Refusal.exitCode : Refusal → Nat
  | displayHelp | displayVersion => 0
  | _ => 2

/-! ## The form of an argument -/

/-- What an argument looks like: two dashes alone, behind which only positional arguments follow; an
option by its long name, with the value attached to it; a cluster of one-letter options; or anything
else. -/
inductive Argument where
  | escape
  | long (name : String) (value : Option String)
  | short (letters : List Char)
  | plain (text : String)
deriving DecidableEq, Inhabited

/-- Cuts at the first equals sign. -/
def splitValue (text : List Char) : String × Option String :=
  let name := String.ofList (text.takeWhile (· ≠ '='))
  match text.dropWhile (· ≠ '=') with
  | [] => (name, none)
  | _ :: value => (name, some (String.ofList value))

/-- The form of an argument. A dash alone is plain. -/
def Argument.ofText (text : String) : Argument :=
  match text.toList with
  | ['-', '-'] => .escape
  | '-' :: '-' :: rest =>
    let (name, value) := splitValue rest
    .long name value
  | '-' :: c :: rest => .short (c :: rest)
  | _ => .plain text

/-! ## The arguments of a command -/

/-- A value that has not been looked at, if there is one: that of the option for the manifest, once
it has come, or the name of a shell. -/
inductive Unchecked where
  | nothing
  | config (value : Option String)
  | shell (name : String)
deriving DecidableEq, Inhabited

/-- What has been read of the arguments of a command. `verbose` counts how often more words were
asked for, `flags` are the options without value and `values` the positional arguments. -/
structure Given where
  verbose : Nat := 0
  config : Option String := none
  flags : List String := []
  values : List String := []
  unchecked : Unchecked := .nothing
deriving DecidableEq, Inhabited

/-- The most that the count of words asked for can be. -/
def maxVerbose : Nat := 255

/-- One more. -/
def countUp (n : Nat) : Nat :=
  min (n + 1) maxVerbose

namespace Given

/-- Takes the path of the manifest, which may be given once and not be empty. -/
def takeConfig (given : Given) (value : String) : Except Refusal Given :=
  if given.config.isSome then .error .argumentConflict
  else if value.isEmpty then .error .invalidValue
  else .ok { given with config := some value }

/-- Looks at the value that has not been looked at. -/
def resolve (given : Given) : Except Refusal Given :=
  match given.unchecked with
  | .nothing => .ok given
  | .config none => .error .invalidValue
  | .config (some value) => { given with unchecked := .nothing }.takeConfig value
  | .shell name =>
    if name ∈ shells then .ok { given with unchecked := .nothing, values := [name] }
    else .error .invalidValue

/-- Takes an option without value, which may be given once. -/
def takeFlag (given : Given) (name : String) : Except Refusal Given := do
  let given ← given.resolve
  if name ∈ given.flags then .error .argumentConflict
  else .ok { given with flags := given.flags ++ [name] }

/-- Counts one request for more words. -/
def takeVerbose (given : Given) : Except Refusal Given := do
  let given ← given.resolve
  return { given with verbose := countUp given.verbose }

/-- Takes the option for the manifest with the value attached to it, or waits for the value. -/
def takeConfigOption (given : Given) (value : Option String) : Except Refusal Given := do
  let given ← given.resolve
  match value with
  | some value => given.takeConfig value
  | none => .ok { given with unchecked := .config none }

/-- Shows help, when what came before is in order. -/
def takeHelp (given : Given) : Except Refusal Given := do
  let _ ← given.resolve
  .error .displayHelp

/-- An option without value that has one attached. -/
def withoutValue (value : Option String) (take : Except Refusal Given) : Except Refusal Given :=
  if value.isSome then .error .tooManyValues else take

/-- Takes an option by its long name. -/
def takeLong (form : CommandForm) (given : Given) (name : String) (value : Option String) :
    Except Refusal Given :=
  if name = "help" then withoutValue value given.takeHelp
  else if name = "verbose" then withoutValue value given.takeVerbose
  else if name = "config" && form.onProject then given.takeConfigOption value
  else if name ∈ form.flags then withoutValue value (given.takeFlag name)
  else .error .unknownArgument

/-- The value attached to a one-letter option, with or without an equals sign. -/
def attached? : List Char → Option String
  | [] => none
  | '=' :: rest => some (String.ofList rest)
  | rest => some (String.ofList rest)

/-- Takes a cluster of one-letter options. -/
def takeShort (form : CommandForm) : Given → List Char → Except Refusal Given
  | given, [] => .ok given
  | given, c :: rest =>
    if c = 'h' then given.takeHelp
    else if c = 'v' then
      match given.takeVerbose with
      | .ok given => takeShort form given rest
      | .error refusal => .error refusal
    else if c = 'c' && form.onProject then given.takeConfigOption (attached? rest)
    else .error .unknownArgument

/-- Takes a positional argument. -/
def takePositional (form : CommandForm) (given : Given) (text : String) : Except Refusal Given :=
  match form.positionals with
  | .nothing => .error .unknownArgument
  | .any | .atLeastOne => do
    let given ← given.resolve
    return { given with values := given.values ++ [text] }
  | .shell =>
    match given.unchecked with
    | .shell _ => .error .unknownArgument
    | _ =>
      if given.values.isEmpty then do
        let given ← given.resolve
        return { given with unchecked := .shell text }
      else .error .unknownArgument

/-- Takes an argument that is no option: the value that an option waits for, or a positional one. -/
def takePlain (form : CommandForm) (given : Given) (text : String) : Except Refusal Given :=
  match given.unchecked with
  | .config none => .ok { given with unchecked := .config (some text) }
  | _ => given.takePositional form text

/-- Takes the arguments of a command. Behind two dashes all are positional. -/
def takeAll (form : CommandForm) : (escaped : Bool) → Given → List String → Except Refusal Given
  | _, given, [] => given.resolve
  | true, given, text :: rest => do
    let given ← given.takePositional form text
    takeAll form true given rest
  | false, given, text :: rest =>
    match Argument.ofText text with
    | .escape => takeAll form true given rest
    | .long name value => do
      let given ← given.takeLong form name value
      takeAll form false given rest
    | .short letters => do
      let given ← given.takeShort form letters
      takeAll form false given rest
    | .plain text => do
      let given ← given.takePlain form text
      takeAll form false given rest

/-- Refuses when something is missing. -/
def complete (form : CommandForm) (given : Given) : Except Refusal Given :=
  match form.positionals with
  | .nothing | .any => .ok given
  | .atLeastOne | .shell =>
    if given.values.isEmpty then .error .missingRequiredArgument else .ok given

end Given

/-! ## The whole command line -/

/-- A command with its arguments. -/
structure Invocation where
  form : CommandForm
  given : Given
deriving DecidableEq, Inhabited

/-- Takes a cluster of one-letter options of the program. -/
def takeShort : (verbose : Nat) → List Char → Except Refusal Nat
  | verbose, [] => .ok verbose
  | verbose, c :: rest =>
    if c = 'v' then takeShort (countUp verbose) rest
    else if c = 'h' then .error .displayHelp
    else if c = 'V' then .error .displayVersion
    else .error .unknownArgument

/-- Takes an option of the program by its long name. -/
def takeLong (verbose : Nat) (name : String) (value : Option String) : Except Refusal Nat :=
  if name = "verbose" || name = "help" || name = "version" then
    if value.isSome then .error .tooManyValues
    else if name = "verbose" then .ok (countUp verbose)
    else if name = "help" then .error .displayHelp
    else .error .displayVersion
  else .error .unknownArgument

/-- Shows help for the command that the arguments name. -/
def takeHelp : List String → Refusal
  | [] => .displayHelp
  | name :: rest =>
    if (name = helpName || (commandNamed? name).isSome) && rest.isEmpty then .displayHelp
    else .invalidSubcommand

/-- What is wrong with an argument behind two dashes, where no command may stand. -/
def escapedRefusal (text : String) : Refusal :=
  if text = helpName || (commandNamed? text).isSome then .unknownArgument else .invalidSubcommand

/-- Takes a command with its arguments. More words asked for behind the command count instead of
those before it. -/
def takeCommand (verbose : Nat) (form : CommandForm) (arguments : List String) :
    Except Refusal Invocation := do
  let given ← Given.takeAll form false {} arguments
  let given ← given.complete form
  return { form, given := { given with
    verbose := if given.verbose = 0 then verbose else given.verbose } }

/-- What is wrong when the arguments end before a command has come. -/
def noCommand (verbose : Nat) : Refusal :=
  if verbose = 0 then .displayHelpOnMissing else .missingSubcommand

/-- Takes the arguments of the program up to and with the command. -/
def takeProgram : (verbose : Nat) → List String → Except Refusal Invocation
  | verbose, [] => .error (noCommand verbose)
  | verbose, text :: rest =>
    if text = helpName then .error (takeHelp rest)
    else
      match commandNamed? text with
      | some form => takeCommand verbose form rest
      | none =>
        match Argument.ofText text with
        | .escape =>
          match rest with
          | [] => .error (noCommand verbose)
          | text :: _ => .error (escapedRefusal text)
        | .long name value => do
          let verbose ← takeLong verbose name value
          takeProgram verbose rest
        | .short letters => do
          let verbose ← takeShort verbose letters
          takeProgram verbose rest
        | .plain _ => .error .invalidSubcommand

/-- Reads a command line. -/
def parse (arguments : List String) : Except Refusal Invocation :=
  takeProgram 0 arguments

end SourceGen.CommandLine
