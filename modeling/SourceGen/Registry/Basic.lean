import SourceGen.Declaration
import SourceGen.Generator
import SourceGen.SourcePath

/-!
# The registry

Registered declarations with their generators, indexed by target and by generator. The indexes list
identities in the order of registration.
-/

namespace SourceGen

/-- A declaration whose generator and output name are settled. The generator was asked for the name
once. -/
structure Registration where
  id : DeclarationId
  overwrite : Bool
  encoding : Encoding
  outputName : OutputName
  generator : Generator
deriving Inhabited

/-- Where the output of a registration goes for a given source: into the generated directory next to
the source, under the output name. -/
def Registration.outputPath (registration : Registration) (source : String) : String :=
  SourcePath.output source registration.outputName.fileName

/-- The registered declarations by identity, with the identities of each target and of each
generator. -/
structure Registry where
  registrations : OrderedMap DeclarationId Registration := ∅
  byTarget : OrderedMap TypeName (List DeclarationId) := ∅
  byGenerator : OrderedMap TypeName (List DeclarationId) := ∅
deriving Inhabited

namespace Registry

/-- Adds a registration under its identity. -/
def insert (registry : Registry) (registration : Registration) : Registry where
  registrations := registry.registrations.insert registration.id registration
  byTarget := registry.byTarget.update registration.id.target [] (· ++ [registration.id])
  byGenerator := registry.byGenerator.update registration.id.generator [] (· ++ [registration.id])

/-- The registration of an identity. -/
def get? (registry : Registry) (id : DeclarationId) : Option Registration :=
  registry.registrations.get? id

/-- All registrations, in the order of discovery. -/
def all (registry : Registry) : List Registration :=
  registry.registrations.values

/-- The number of registrations. -/
def size (registry : Registry) : Nat :=
  registry.registrations.size

/-- The registrations of the identities that an index lists. -/
def ofIds (registry : Registry) (ids : Option (List DeclarationId)) : List Registration :=
  (ids.getD []).filterMap registry.get?

/-- The registrations of a target. -/
def forTarget (registry : Registry) (target : TypeName) : List Registration :=
  registry.ofIds (registry.byTarget.get? target)

/-- The registrations that use a generator. -/
def forGenerator (registry : Registry) (generator : TypeName) : List Registration :=
  registry.ofIds (registry.byGenerator.get? generator)

/-- Whether a type is the target of a registration. -/
def isTarget (registry : Registry) (type : TypeName) : Bool :=
  registry.byTarget.contains type

/-- Whether a type is the generator of a registration. -/
def isGenerator (registry : Registry) (type : TypeName) : Bool :=
  registry.byGenerator.contains type

/-- The target types, in the order of discovery. -/
def targets (registry : Registry) : List TypeName :=
  registry.byTarget.keys

/-- The generator types, in the order of discovery. -/
def generators (registry : Registry) : List TypeName :=
  registry.byGenerator.keys

/-- The generators of more than one registration, with their number. -/
def sharedGenerators (registry : Registry) : List (TypeName × Nat) :=
  (registry.byGenerator.entries.filter fun (_, ids) => 1 < ids.length).map fun (generator, ids) =>
    (generator, ids.length)

/-- The generator that produced a generated file. The first registration with exactly this output
name decides; else the first generator whose short name is the owner that the name tells, which
finds files that a generator has redirected. -/
def generatorOfFile? (registry : Registry) (fileName : String) : Option TypeName :=
  match registry.all.find? fun registration => registration.outputName.fileName = fileName with
  | some registration => some registration.id.generator
  | none =>
    (generatedOwner? fileName).bind fun owner =>
      registry.generators.find? fun generator => generator.shortName = owner

end Registry

end SourceGen
