import SourceGen.Declaration
import SourceGen.Manifest.Span

/-!
# Manifest errors

Why a manifest cannot be used. An error is a cause together with the name of the file; its message,
its help and the places it points at are functions of the cause.
-/

namespace SourceGen

/-- The field of a declaration that holds a type name. -/
inductive NameField where
  | target
  | generator
deriving DecidableEq, Inhabited

/-- The name of the field in messages. -/
def NameField.text : NameField → String
  | target => "target"
  | generator => "generator"

/-- What is wrong with a manifest: the file cannot be read as text, or the text is not of the data
format at all; the data does not have the shape of a manifest; the header is there but blank; a
declaration holds a type name that is not valid; or two declarations have the same identity, with
their places when both can be told. -/
inductive ManifestFault where
  | unreadable
  | malformed
  | misshapen (cause : ShapeError)
  | blankHeader (place : Option Span)
  | invalidName (field : NameField) (name : TypeName) (defect : TypeName.Defect)
    (place : Option Span)
  | duplicate (id : DeclarationId) (places : Option (Span × Span))

/-- A fault of a manifest, with the file name that messages give as its source. -/
structure ManifestError where
  source : String
  fault : ManifestFault

namespace ManifestFault

/-- The message for a duplicate. -/
def duplicateMessage (id : DeclarationId) : String :=
  "duplicate declaration of generator '" ++ id.generator.text ++ "' on '" ++ id.target.text ++ "'"

/-- What is said of a blank header. -/
def blankHeaderMessage : String :=
  "header cannot be blank, remove it to disable headers"

/-- The words for a fault of the manifest `source`. -/
def message (source : String) : ManifestFault → String
  | unreadable => "failed to read '" ++ source ++ "'"
  | malformed | misshapen _ => "failed to parse altgen.toml"
  | blankHeader _ => blankHeaderMessage
  | invalidName field name _ _ => "invalid " ++ field.text ++ " type name '" ++ name.text ++ "'"
  | duplicate id _ => duplicateMessage id

/-- What is said of the shape of the data, if that is the fault. -/
def detail? : ManifestFault → Option String
  | misshapen cause => cause.message? .plain
  | _ => none

/-- What the user can do about a fault. -/
def help? : ManifestFault → Option String
  | unreadable => some "create an altgen.toml in the project root"
  | malformed | misshapen _ | blankHeader _ | duplicate _ none => none
  | invalidName _ _ defect _ =>
    some (defect.message ++ ". Use identifiers separated by '.' or '::', e.g. 'Sample.Foo'.")
  | duplicate _ (some _) =>
    some "a target can carry a generator only once, remove one of the declarations"

/-- The kinds of fault that are told apart by a code. -/
inductive Kind where
  | io
  | parse
  | invalidTypeName
  | duplicateDeclaration
  | validation
deriving DecidableEq

/-- The kind of a fault. A duplicate whose places cannot be told is an ordinary validation fault. -/
def kind : ManifestFault → Kind
  | unreadable => .io
  | malformed | misshapen _ => .parse
  | blankHeader _ | duplicate _ none => .validation
  | invalidName .. => .invalidTypeName
  | duplicate _ (some _) => .duplicateDeclaration

/-- The code of a kind. -/
def Kind.code? : Kind → Option String
  | io => none
  | parse => some "altgen::parse_error"
  | invalidTypeName => some "altgen::invalid_type_name"
  | duplicateDeclaration => some "altgen::duplicate_declaration"
  | validation => some "altgen::validation_error"

/-- The places in the source that a fault points at, each with its label. -/
def labels : ManifestFault → List (String × Span)
  | unreadable | malformed | misshapen _ | duplicate _ none => []
  | blankHeader place => (place.map (blankHeaderMessage, ·)).toList
  | invalidName _ _ _ place => (place.map ("invalid type name", ·)).toList
  | duplicate _ (some (first, second)) =>
    [("first declared here", first), ("declared again here", second)]

end ManifestFault

/-- The words for an error. -/
def ManifestError.message (error : ManifestError) : String :=
  error.fault.message error.source

end SourceGen
