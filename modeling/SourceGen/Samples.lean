import SourceGen.Declaration
import SourceGen.Generator

/-!
# Sample generators

Two generators that come with the program. `Samples.MinimalGenerator` declares itself: a source of
that stem makes it run. `Samples.PanicMethodGenerator` is meant to be declared on a target.
-/

namespace SourceGen.Samples

/-- The name of the minimal sample. -/
def minimalName : TypeName :=
  ⟨"Samples.MinimalGenerator"⟩

/-- The name of the sample that adds a method. -/
def panicMethodName : TypeName :=
  ⟨"Samples.PanicMethodGenerator"⟩

/-- Greets, and redirects its output. -/
def minimal : Generator where
  fileName _ := .ok "Test.cs"
  emit _ request :=
    let context := request.context
    .finished true
      { context with outputPath := context.outputPath ++ "_MyFirstTest.txt" }
      (request.buffer ++ "Asset Path: " ++ context.sourcePath ++ "\nHello World from "
        ++ minimalName.text ++ "\n")

/-- The class that the method is added to. -/
def panicMethodText (scope name : String) : String :=
  "namespace " ++ scope ++ "\n\x7b\n    internal partial class " ++ name
    ++ "\n    \x7b\n        public void Panic() => throw new System.Exception();\n    \x7d\n\x7d\n"

/-- Adds a method to a partial class. Declines targets outside a namespace. -/
def panicMethod : Generator where
  fileName _ := .ok "PanicMethod.cs"
  emit _ request :=
    let context := request.context
    match context.target.scope? with
    | none => .finished false context request.buffer
    | some scope =>
      .finished true context (request.buffer ++ panicMethodText scope context.target.shortName)

/-- The samples by name. -/
def all : List (TypeName × Generator) :=
  [(minimalName, minimal), (panicMethodName, panicMethod)]

/-- The catalog of the samples. -/
def catalog : Catalog :=
  Catalog.ofList all

/-- What the samples declare of themselves. -/
def declarations : List Declaration :=
  [{ target := minimalName, overwrite := false }]

end SourceGen.Samples
