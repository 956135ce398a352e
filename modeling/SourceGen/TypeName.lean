import SourceGen.Text.Alphabetic
import SourceGen.Text.Blank
import SourceGen.Text.Numeric
import SourceGen.Text.Split

/-!
# Type names

The identity of a type that takes part in generation. A name is written with dots (`Sample.Foo`) or
with double colons (`sample::Foo`); its last segment, the short name, is what file names are built
from. Any text can stand as a name, and `TypeName.defect?` says what keeps it from being a valid
one.
-/

namespace SourceGen

/-- The name of a type as written, valid or not. -/
structure TypeName where
  text : String
deriving DecidableEq, Inhabited

/-! ## Segments -/

namespace TypeName

/-- Whether a text begins with a double colon. -/
def startsWithColons : List Char → Bool
  | ':' :: ':' :: _ => true
  | _ => false

/-- Whether a double colon occurs anywhere. -/
def hasColons : List Char → Bool
  | [] => false
  | c :: rest => startsWithColons (c :: rest) || hasColons rest

/-- The text after the rightmost double colon, or all of it when there is none. In a run of three
colons the rightmost pair counts. -/
def afterLastColons : List Char → List Char
  | [] => []
  | c :: rest =>
    if hasColons rest then afterLastColons rest
    else if startsWithColons (c :: rest) then rest.drop 1
    else c :: rest

/-- The parts between double colons, found from the left: in a run of three colons the leftmost pair
counts. -/
def colonPieces : List Char → List (List Char)
  | [] => [[]]
  | ':' :: ':' :: rest => [] :: colonPieces rest
  | c :: rest =>
    match colonPieces rest with
    | [] => [[c]]
    | first :: others => (c :: first) :: others

/-- The segments that validation looks at: the parts between double colons, each cut at its dots. -/
def segments (name : List Char) : List (List Char) :=
  (colonPieces name).flatMap (Text.pieces (· = '.'))

/-! ## Short name and namespace -/

/-- The characters of the last segment. -/
def shortChars (name : List Char) : List Char :=
  Text.afterLast (· = '.') (afterLastColons name)

/-- The last segment of the name (`Foo` for `Sample.Foo`). -/
def shortName (name : TypeName) : String :=
  String.ofList (shortChars name.text.toList)

/-- The characters before the short name without their trailing separator; nothing when no separator
stands there or when nothing stands before it. -/
def scopeChars? (name : List Char) : Option (List Char) :=
  let head := name.take (name.length - (shortChars name).length)
  let bare := (Text.dropSuffix? [':', ':'] head).or (Text.dropSuffix? ['.'] head)
  bare.filter fun text => !text.isEmpty

/-- Everything before the short name, without the separator between them. -/
def scope? (name : TypeName) : Option String :=
  (scopeChars? name.text.toList).map String.ofList

/-! ## Validity -/

/-- What keeps a text from being a valid type name: nothing but blanks, a segment without
characters, a segment whose first character is no letter and no underscore, or one with a later
character that is no letter, no number and no underscore. -/
inductive Defect where
  | blank
  | emptySegment (name : String)
  | badStart (segment : String)
  | badCharacter (segment : String) (c : Char)
deriving DecidableEq

/-- The reason as it is shown to the user. -/
def Defect.message : Defect → String
  | .blank => "type name cannot be empty"
  | .emptySegment name => "'" ++ name ++ "' contains an empty segment"
  | .badStart segment => "segment '" ++ segment ++ "' must start with a letter or underscore"
  | .badCharacter segment c =>
    "segment '" ++ segment ++ "' contains invalid character '" ++ c.toString ++ "'"

/-- The characters that may begin an identifier. -/
def isIdentifierStart (c : Char) : Bool :=
  Text.isAlphabetic c || c = '_'

/-- The characters that may continue an identifier. -/
def isIdentifierRest (c : Char) : Bool :=
  Text.isAlphabetic c || Text.isNumeric c || c = '_'

/-- What is wrong with one segment of `name`. -/
def segmentDefect? (name : String) (segment : List Char) : Option Defect :=
  match segment with
  | [] => some (.emptySegment name)
  | c :: rest =>
    if isIdentifierStart c then
      (rest.find? fun d => !isIdentifierRest d).map (.badCharacter (String.ofList segment))
    else some (.badStart (String.ofList segment))

/-- What keeps the name from being valid: the defect of its leftmost bad segment. -/
def defect? (name : TypeName) : Option Defect :=
  if Text.isBlankText name.text.toList then some .blank
  else (segments name.text.toList).findSome? (segmentDefect? name.text)

/-- A name whose segments are all identifiers. -/
def Valid (name : TypeName) : Prop :=
  name.defect? = none

instance (name : TypeName) : Decidable name.Valid :=
  inferInstanceAs (Decidable (_ = _))

/-- Reads a valid type name. -/
def ofString? (text : String) : Except Defect TypeName :=
  match defect? ⟨text⟩ with
  | some defect => .error defect
  | none => .ok ⟨text⟩

end TypeName

end SourceGen
