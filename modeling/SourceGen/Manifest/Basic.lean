import SourceGen.Manifest.Error
import SourceGen.Ordered.Map
import SourceGen.Settings
import SourceGen.Toml.Document

/-!
# Manifests

A manifest holds the settings of a project and its declarations. Reading one takes three steps: the
text is read as TOML, the data is read into a `Manifest`, and the manifest is checked. The check
stops at the first fault: a blank header, then for each declaration in order its target, its
generator, and whether its identity has been declared before.
-/

namespace SourceGen

/-- The settings of a project and its declarations, in the order of the file. -/
structure Manifest where
  settings : Settings := {}
  declarations : List Declaration := []
deriving DecidableEq, Inhabited

namespace Manifest

/-! ## Reading -/

/-- The names of the parts. -/
def fields : List String :=
  ["settings", "declarations"]

/-- Sets one part. -/
def set (manifest : Manifest) (field : String) (value : Value) : Except ShapeError Manifest :=
  match field with
  | "settings" => return { manifest with settings := ← Settings.ofValue value }
  | "declarations" =>
    return { manifest with declarations := ← value.asSequence Declaration.ofValue }
  | other => .error (.unknownField other fields)

/-- Reads a manifest from data. -/
def ofValue (value : Value) : Except ShapeError Manifest :=
  value.asRecord "struct Manifest" fields {} set

/-! ## Checking -/

/-- The first place of a quoted value in the source. -/
def firstPlace? (source value : String) : Option Span :=
  (Span.ofValue source value).head?

/-- The fault of a header: it is there and blank. -/
def headerFault? (source : String) (settings : Settings) : Option ManifestFault :=
  match settings.header with
  | some header =>
    if Text.isBlankText header.toList then some (.blankHeader (firstPlace? source header)) else none
  | none => none

/-- The fault of a type name in a field of a declaration. -/
def nameFault? (source : String) (field : NameField) (name : TypeName) : Option ManifestFault :=
  name.defect?.map fun defect => .invalidName field name defect (firstPlace? source name.text)

/-- The fault of declaring an identity for the `count`-th time. The places are the first and the
`count`-th at which the target's name is quoted. -/
def duplicateFault (source : String) (id : DeclarationId) (count : Nat) : ManifestFault :=
  let places := Span.ofValue source id.target.text
  match places.head?, places[count - 1]? with
  | some first, some second => .duplicate id (some (first, second))
  | _, _ => .duplicate id none

/-- The first fault of the declarations, given how often each identity has been declared before. -/
def declarationFault? (source : String) :
    (seen : OrderedMap DeclarationId Nat) → List Declaration → Option ManifestFault
  | _, [] => none
  | seen, declaration :: rest =>
    (nameFault? source .target declaration.target)
      |>.or (declaration.generator.bind (nameFault? source .generator))
      |>.or
        (let count := (seen.get? declaration.id).getD 0 + 1
         if 1 < count then some (duplicateFault source declaration.id count)
         else declarationFault? source (seen.insert declaration.id count) rest)

/-- The first fault of a manifest that was read from `source`. -/
def fault? (source : String) (manifest : Manifest) : Option ManifestFault :=
  (headerFault? source manifest.settings).or (declarationFault? source ∅ manifest.declarations)

/-- The fault of data that does not have the shape of a manifest. A numeral without a number is a
fault of the text, and comes first. -/
def shapeFault (value : Value) (cause : ShapeError) : ManifestFault :=
  if value.isExact then .misshapen cause else .malformed

/-- Reads and checks a manifest. A numeral without a number does no harm where nothing asks for
it. -/
def ofSource (source : String) : Except ManifestFault Manifest :=
  match Toml.read source with
  | none => .error .malformed
  | some value =>
    match ofValue value with
    | .error cause => .error (shapeFault value cause)
    | .ok manifest =>
      match manifest.fault? source with
      | some fault => .error fault
      | none => .ok manifest

/-- Reads and checks the manifest `name`. -/
def ofText (name source : String) : Except ManifestError Manifest :=
  (ofSource source).mapError fun fault => ⟨name, fault⟩

/-! ## Queries -/

/-- The declarations of a generator. -/
def ofGenerator (manifest : Manifest) (generator : TypeName) : List Declaration :=
  manifest.declarations.filter fun declaration => declaration.generatorType = generator

end Manifest

end SourceGen
