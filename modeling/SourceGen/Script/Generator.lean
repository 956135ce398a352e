import SourceGen.Generator

/-!
# Scripted generators

A generator described by a list of steps, for trying out an engine. The steps edit the buffer and
the circumstances, and end in keeping or declining the buffer, in a failure or in a panic. A script
counts its own calls, so a step may depend on how often the generator has been called.
-/

namespace SourceGen

/-- A part of the circumstances that a script can write; `count` is the number of calls so far, this
one included. -/
inductive ScriptPart where
  | target
  | shortName
  | scope
  | source
  | output
  | count
deriving DecidableEq, Inhabited

/-- One step of a script. It writes a part of the circumstances, empties the buffer, or writes a
text behind or in front of it; it changes a path or the target; or it ends the script. A script ends
by keeping or declining the buffer, `finishOn` keeping it at the listed calls, or by a failure,
whose messages lead to the first cause, or a panic. -/
inductive ScriptStep where
  | write (part : ScriptPart)
  | clear
  | push (text : String)
  | insert (text : String)
  | setOutput (path : String)
  | appendOutput (text : String)
  | setSource (path : String)
  | setTarget (type : TypeName)
  | finish (keep : Bool)
  | finishOn (calls : List Nat)
  | fail (chain : List String)
  | panic (payload : Panic)
deriving DecidableEq, Inhabited

namespace ScriptStep

/-- The text of a part. -/
def partText (count : Nat) (context : EmissionContext) : ScriptPart → String
  | .target => context.target.text
  | .shortName => context.target.shortName
  | .scope => context.target.scope?.getD "-"
  | .source => context.sourcePath
  | .output => context.outputPath
  | .count => toString count

/-- The reply of the steps that are left. A script that runs to its end keeps the buffer. -/
def run (count : Nat) : List ScriptStep → EmissionContext → String → Reply
  | [], context, buffer => .finished true context buffer
  | step :: rest, context, buffer =>
    match step with
    | write part => run count rest context (buffer ++ partText count context part)
    | clear => run count rest context ""
    | push text => run count rest context (buffer ++ text)
    | insert text => run count rest context (text ++ buffer)
    | setOutput path => run count rest { context with outputPath := path } buffer
    | appendOutput text =>
      run count rest { context with outputPath := context.outputPath ++ text } buffer
    | setSource path => run count rest { context with sourcePath := path } buffer
    | setTarget type => run count rest { context with target := type } buffer
    | finish keep => .finished keep context buffer
    | finishOn calls => .finished (calls.contains count) context buffer
    | fail chain => .failed chain
    | panic payload => .panicked payload

end ScriptStep

/-- A generator by script: the name it asks for, or its panic, the steps for a target without steps
of its own, and the steps for particular targets. -/
structure Script where
  name : TypeName
  fileName : Except Panic String
  steps : List ScriptStep := []
  cases : List (TypeName × List ScriptStep) := []

namespace Script

/-- The steps for a target. -/
def stepsFor (script : Script) (target : TypeName) : List ScriptStep :=
  ((script.cases.find? fun (type, _) => type = target).map Prod.snd).getD script.steps

/-- The generator that follows a script. `before` is the number of requests made before the
generator came to be; its own calls are counted from there on. -/
def generator (script : Script) (before : Nat) : Generator where
  fileName _ := script.fileName
  emit earlier request :=
    let own := (earlier.take (earlier.length - before)).countP (·.generator = script.name)
    ScriptStep.run (own + 1) (script.stepsFor request.context.target) request.context request.buffer

end Script

end SourceGen
