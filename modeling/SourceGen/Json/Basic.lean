/-!
# JSON text

JSON values with objects in the order of their fields, and their text: compact, or pretty with two
blanks for each level.
-/

namespace SourceGen

/-- A JSON value. Numbers are whole. -/
inductive Json where
  | null
  | boolean (value : Bool)
  | number (value : Int)
  | text (value : String)
  | array (items : List Json)
  | object (fields : List (String × Json))
deriving Inhabited

namespace Json

/-! ## Building values -/

/-- An optional value, absent ones being `null`. -/
def ofOption {α : Type} (encode : α → Json) : Option α → Json
  | some value => encode value
  | none => null

/-- A list of values. -/
def ofList {α : Type} (encode : α → Json) (items : List α) : Json :=
  array (items.map encode)

/-- An optional text. -/
def optionalText (value : Option String) : Json :=
  ofOption text value

/-- A list of texts. -/
def texts (items : List String) : Json :=
  ofList text items

/-- A count. -/
def count (n : Nat) : Json :=
  number (Int.ofNat n)

/-! ## Text -/

/-- The hexadecimal digits of a number below 256. -/
def twoHexDigits (n : Nat) : List Char :=
  [Nat.digitChar (n / 16), Nat.digitChar (n % 16)]

/-- How one character stands in a string. -/
def escapedChar (c : Char) : List Char :=
  if c = '"' || c = '\\' then ['\\', c]
  else if c = '\n' then ['\\', 'n']
  else if c = '\r' then ['\\', 'r']
  else if c = '\t' then ['\\', 't']
  else if c = '\x08' then ['\\', 'b']
  else if c = '\x0c' then ['\\', 'f']
  else if c < ' ' then ['\\', 'u', '0', '0'] ++ twoHexDigits c.toNat
  else [c]

/-- A text as a JSON string. -/
def stringText (value : String) : String :=
  String.ofList ('"' :: value.toList.flatMap escapedChar ++ ['"'])

/-- The text of a value without parts. -/
def atomText : Json → String
  | boolean value => if value then "true" else "false"
  | number value => toString value
  | text value => stringText value
  | _ => "null"

mutual

/-- The text of a value on one line, without blanks. -/
def compact : Json → String
  | array items => "[" ++ String.intercalate "," (compactItems items) ++ "]"
  | object fields => "\x7b" ++ String.intercalate "," (compactFields fields) ++ "\x7d"
  | atom => atomText atom

/-- The texts of the items of an array. -/
def compactItems : List Json → List String
  | [] => []
  | item :: rest => item.compact :: compactItems rest

/-- The texts of the fields of an object. -/
def compactFields : List (String × Json) → List String
  | [] => []
  | (name, value) :: rest => (stringText name ++ ":" ++ value.compact) :: compactFields rest

end

/-- The blanks in front of a line. -/
def indent (level : Nat) : String :=
  String.ofList (List.replicate (2 * level) ' ')

/-- Lines between brackets; brackets without lines stand next to each other. -/
def block (left right : String) (level : Nat) (lines : List String) : String :=
  if lines.isEmpty then left ++ right
  else
    left ++ "\n" ++ String.intercalate ",\n" (lines.map (indent (level + 1) ++ ·)) ++ "\n"
      ++ indent level ++ right

mutual

/-- The text of a value over several lines, at a level of indentation. -/
def prettyAt (level : Nat) : Json → String
  | array items => block "[" "]" level (prettyItems (level + 1) items)
  | object fields => block "\x7b" "\x7d" level (prettyFields (level + 1) fields)
  | atom => atomText atom

/-- The texts of the items of an array. -/
def prettyItems (level : Nat) : List Json → List String
  | [] => []
  | item :: rest => item.prettyAt level :: prettyItems level rest

/-- The texts of the fields of an object. -/
def prettyFields (level : Nat) : List (String × Json) → List String
  | [] => []
  | (name, value) :: rest =>
    (stringText name ++ ": " ++ value.prettyAt level) :: prettyFields level rest

end

/-- The text of a value over several lines. -/
def pretty (value : Json) : String :=
  value.prettyAt 0

end Json

end SourceGen
