import SourceGen.Data.Value
import SourceGen.Decimal.Style
import SourceGen.Text.Quoted

/-!
# Shapes of data

Readers from data values to what a program expects in their place. A reader refuses a value by a
cause, and `ShapeError.message?` words it. The first cause met in the order of the entries is the
one reported.
-/

namespace SourceGen

/-- Why a value does not have the expected shape. A table has an entry that nothing asks for or
lacks one without default, or a text is none of the names of an enumeration; `notAName` is for a
value that cannot stand for such a name, for which the data format has its own words. A value of
another kind stands where `expected` should. A sequence that stands for a record ends before an item
without default or goes on behind the last field. -/
inductive ShapeError where
  | unknownField (name : String) (known : List String)
  | missingField (name : String)
  | unknownVariant (name : String) (known : List String)
  | wrongKind (found : Value) (expected : String)
  | tooShort (length : Nat) (expected : String)
  | tooLong (length : Nat)
  | notAName

namespace ShapeError

/-- A name between backticks. -/
def ticked (name : String) : String :=
  "`" ++ name ++ "`"

/-- The names to choose from. -/
def oneOf : List String → String
  | [name] => ticked name
  | [first, second] => ticked first ++ " or " ++ ticked second
  | names => "one of " ++ String.intercalate ", " (names.map ticked)

/-- How a value that stands in the wrong place is named; `style` is how the data format writes
numbers. -/
def kindOf (style : Binary64.Style) : Value → String
  | .null => "null"
  | .boolean value => "boolean " ++ ticked (if value then "true" else "false")
  | .integer value => "integer " ++ ticked (toString value)
  | .float value => "floating point " ++ ticked (style.write value)
  | .numeral written => "number " ++ ticked written
  | .text value => "string " ++ Text.quoted value
  | .sequence _ => "sequence"
  | .datetime _ | .table _ => "map"

/-- The words for a cause, if this library has to find them. -/
def message? (style : Binary64.Style) : ShapeError → Option String
  | unknownField name known =>
    some ("unknown field " ++ ticked name ++ ", expected " ++ oneOf known)
  | missingField name => some ("missing field " ++ ticked name)
  | unknownVariant name known =>
    some ("unknown variant " ++ ticked name ++ ", expected " ++ oneOf known)
  | wrongKind found expected =>
    some ("invalid type: " ++ kindOf style found ++ ", expected " ++ expected)
  | tooShort length expected =>
    some ("invalid length " ++ toString length ++ ", expected " ++ expected)
  | tooLong length =>
    some ("invalid length " ++ toString length ++ ", expected fewer elements in array")
  | notAName => none

end ShapeError

namespace Value

/-- The one entry under which a date or time shows itself to a reader of tables. -/
def datetimeField : String :=
  "$__toml_private_datetime"

/-- Reads a truth value. -/
def asBoolean : Value → Except ShapeError Bool
  | boolean value => .ok value
  | other => .error (.wrongKind other "a boolean")

/-- Reads a text. -/
def asText : Value → Except ShapeError String
  | text value => .ok value
  | other => .error (.wrongKind other "a string")

/-- Reads a text that may be absent. -/
def asText? : Value → Except ShapeError (Option String)
  | null => .ok none
  | other => other.asText.map some

/-- Reads a sequence, item by item. -/
def asSequence {α : Type} (item : Value → Except ShapeError α) : Value → Except ShapeError (List α)
  | sequence items => items.mapM item
  | other => .error (.wrongKind other "a sequence")

/-- Reads a record: a table, whose entries are set one by one, or a sequence, whose items are the
fields in order. -/
def asRecord {α : Type} (name : String) (fields : List String) (start : α)
    (set : α → String → Value → Except ShapeError α) : Value → Except ShapeError α
  | table entries => entries.foldlM (fun record (field, value) => set record field value) start
  | sequence items =>
    (fields.zip items).foldlM (fun record (field, value) => set record field value) start
  | datetime _ => .error (.unknownField datetimeField fields)
  | other => .error (.wrongKind other name)

end Value

end SourceGen
