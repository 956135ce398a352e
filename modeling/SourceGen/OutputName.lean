import SourceGen.TypeName

/-!
# Names of generated files

A generated file is called `<base>.<Target>[.<Generator>].g<extension>`. The generator segment is
there only when the generator is another type than the target, so one target can carry several
generators. `OutputName.resolve?` builds a name, `isGeneratedFileName` and `generatedOwner?` read
one.
-/

namespace SourceGen

/-- The parts of the name of a generated file: the requested name without its extension, the short
name of the target, the short name of the generator, when it is another type than the target, and
the extension with its dot, or nothing. -/
structure OutputName where
  base : String
  target : String
  generator : Option String
  extension : String
deriving DecidableEq, Inhabited

/-- The mark that stands right before the extension of every generated file. -/
def generatedMark : List Char :=
  ['.', 'g']

/-- Whether a character separates the components of a path, in either spelling. -/
def isPathSeparator (c : Char) : Bool :=
  c = '/' || c = '\\'

namespace OutputName

/-- Cuts a file name in front of its last dot. A name without a dot, or whose only dot is its first
character, has no extension. -/
def splitExtension (name : List Char) : List Char × List Char :=
  match Text.cutLast? '.' name with
  | none | some ([], _) => (name, [])
  | some (base, extension) => (base, '.' :: extension)

/-- Builds the output name from the name that a generator requests, of which only the last path
component counts. A blank request has no name. -/
def resolve? (requested : String) (target generator : TypeName) : Option OutputName :=
  let name := Text.afterLast isPathSeparator (Text.trim requested.toList)
  if name.isEmpty then none
  else
    let (base, extension) := splitExtension name
    some
      { base := String.ofList base
        target := target.shortName
        generator := if generator = target then none else some generator.shortName
        extension := String.ofList extension }

/-- The characters of the file name. -/
def toChars (name : OutputName) : List Char :=
  name.base.toList ++ '.' :: name.target.toList
    ++ (match name.generator with
        | some generator => '.' :: generator.toList
        | none => [])
    ++ generatedMark ++ name.extension.toList

/-- The file name. -/
def fileName (name : OutputName) : String :=
  String.ofList name.toChars

end OutputName

/-! ## Reading a generated name -/

/-- What stands before the mark of a generated file name: the mark ends the name, or it ends what
stands before the last dot. -/
def beforeMark? (fileName : List Char) : Option (List Char) :=
  (Text.dropSuffix? generatedMark fileName).or
    ((Text.cutLast? '.' fileName).bind fun (head, _) => Text.dropSuffix? generatedMark head)

/-- Whether a file name is marked as generated. -/
def isGeneratedFileName (fileName : String) : Bool :=
  (beforeMark? fileName.toList).isSome

/-- The short name of the type that produced a generated file: the last segment before the mark. For
a delegated generator that is the generator segment, else the target, which is the generator
itself. -/
def generatedOwner? (fileName : String) : Option String :=
  ((beforeMark? fileName.toList).bind (Text.cutLast? '.')).bind fun (_, owner) =>
    if owner.isEmpty then none else some (String.ofList owner)

end SourceGen
