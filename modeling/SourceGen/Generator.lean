import SourceGen.Ordered.Map
import SourceGen.TypeName

/-!
# Generators

A generator names the file it wants and fills a buffer on request. It may decline, fail or panic, it
may redirect its output, and it may remember what it was asked before: its reply is a function of
the requests made so far, which is all that a deterministic program can remember. A generator does
not touch the files itself.
-/

namespace SourceGen

/-- A panic, with its text when it carries one. -/
structure Panic where
  text? : Option String
deriving DecidableEq, Inhabited

/-- What is said of a panic. -/
def Panic.message (panic : Panic) : String :=
  panic.text?.getD "unknown panic"

/-- The circumstances of one request, which the generator may change: the type whose source
triggered generation, the normalized path of that source, and where the output will be written. -/
structure EmissionContext where
  target : TypeName
  sourcePath : String
  outputPath : String
deriving DecidableEq, Inhabited

/-- One request to a generator. The buffer holds the header already. -/
structure Emission where
  generator : TypeName
  context : EmissionContext
  buffer : String
deriving DecidableEq, Inhabited

/-- What a generator makes of a request. It finishes and tells whether the buffer should be kept; it
fails, with messages that lead from the failure to its first cause; or it panics. -/
inductive Reply where
  | finished (keep : Bool) (context : EmissionContext) (buffer : String)
  | failed (chain : List String)
  | panicked (panic : Panic)
deriving DecidableEq, Inhabited

/-- A source generator. `fileName` is the name it asks for its files, or its panic, where `asked`
counts the questions for names that came before in the same discovery. `emit` is the reply to a
request, given all earlier requests to any generator, newest first. -/
structure Generator where
  fileName : (asked : Nat) → Except Panic String
  emit : (earlier : List Emission) → Emission → Reply

instance : Inhabited Generator :=
  ⟨⟨fun _ => .ok "", fun _ request => .finished false request.context request.buffer⟩⟩

/-- Generators by type name, in the order of their first registration. -/
abbrev Catalog := OrderedMap TypeName Generator

/-- A catalog from a list of generators. A later generator of the same name takes the place of the
earlier one. -/
def Catalog.ofList (generators : List (TypeName × Generator)) : Catalog :=
  generators.foldl (fun catalog (name, generator) => catalog.insert name generator) ∅

end SourceGen
