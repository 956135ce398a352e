import SourceGen.Toml.Lexeme
import SourceGen.Toml.Scalar
import SourceGen.Toml.Table

/-!
# TOML documents

A document is a list of statements, one a line: headers, repeated headers, and keys with their
values. `Toml.statements` reads them, `Toml.build` turns them into tables, and `Toml.read` is the
two together. The dialect is TOML 1.1: inline tables may span lines and end in a comma. How deep
values may be nested is limited, and so is the number of parts of a key.
-/

namespace SourceGen.Toml

/-! ## Values -/

/-- Gives one key of a table its value. -/
def assign (entries : Entries) (pair : List String × Value) : Option Entries :=
  match pair.1.getLast? with
  | some key => setPath pair.1.dropLast key pair.2 entries
  | none => none

/-- The value of an inline table, made from its keys in order. -/
def inlineTable (pairs : List (List String × Value)) : Option Value :=
  (pairs.foldlM assign []).map fun entries => .table (entriesToValues entries)

/-- The text of a string as a value. -/
def textValue (found : Read (List Char)) : Read Value :=
  found.map fun (text, rest) => (.text (String.ofList text), rest)

/-- How deep arrays and inline tables may be nested. -/
def maxDepth : Nat := 80

mutual

/-- Reads a value in which arrays and inline tables are nested at most `depth` deep. `fuel` bounds
the steps and is never the limit when it exceeds the length of the text. -/
def value : (fuel depth : Nat) → List Char → Read Value
  | 0, _, _ => none
  | fuel + 1, depth, text =>
    match text with
    | '"' :: rest =>
      if startsTriple '"' text then textValue (basicText .plain (skipFirstLineEnd (rest.drop 2)))
      else textValue (basicString .plain rest)
    | '\'' :: rest =>
      if startsTriple '\'' text then textValue (literalText (skipFirstLineEnd (rest.drop 2)))
      else textValue (literalString rest)
    | '[' :: rest =>
      match depth with
      | 0 => none
      | depth + 1 => (items fuel depth rest).map fun (values, rest) => (.sequence values, rest)
    | '\x7b' :: rest =>
      match depth with
      | 0 => none
      | depth + 1 =>
        match assignments fuel depth rest with
        | some (pairs, rest) => (inlineTable pairs).map (·, rest)
        | none => none
    | _ => scalar text

/-- Reads the items of an array behind its bracket or behind a comma. -/
def items : (fuel depth : Nat) → List Char → Read (List Value)
  | 0, _, _ => none
  | fuel + 1, depth, text =>
    match skipLines false text with
    | none => none
    | some (']' :: rest) => some ([], rest)
    | some text =>
      match value fuel depth text with
      | none => none
      | some (first, rest) =>
        match skipLines false rest with
        | some (',' :: rest) =>
          (items fuel depth rest).map fun (others, rest) => (first :: others, rest)
        | some (']' :: rest) => some ([first], rest)
        | _ => none

/-- Reads the keys and values of an inline table behind its brace or behind a comma. -/
def assignments : (fuel depth : Nat) → List Char → Read (List (List String × Value))
  | 0, _, _ => none
  | fuel + 1, depth, text =>
    match skipLines false text with
    | none => none
    | some ('\x7d' :: rest) => some ([], rest)
    | some text =>
      match assignment true fuel depth text with
      | none => none
      | some (first, rest) =>
        match skipLines false rest with
        | some (',' :: rest) =>
          (assignments fuel depth rest).map fun (others, rest) => (first :: others, rest)
        | some ('\x7d' :: rest) => some ([first], rest)
        | _ => none

/-- Reads a key, an equals sign and a value; in an inline table each may stand on a line of its
own. -/
def assignment (overLines : Bool) : (fuel depth : Nat) → List Char → Read (List String × Value)
  | 0, _, _ => none
  | fuel + 1, depth, text =>
    match key text with
    | none => none
    | some (path, rest) =>
      match skipGap overLines rest with
      | some ('=' :: rest) =>
        match skipGap overLines rest with
        | some rest => (value fuel depth rest).map fun (value, rest) => ((path, value), rest)
        | none => none
      | _ => none

end

/-! ## Statements -/

/-- A line of a document that says something: the header of a table, a repeated header, each one a
further table of an array, or a key with its value. -/
inductive Statement where
  | table (path : List String)
  | item (path : List String)
  | assign (path : List String) (value : Value)

/-- Reads the statement at the front, without its line end. -/
def statement (fuel : Nat) : List Char → Read Statement
  | '[' :: '[' :: rest =>
    match key (skipSpace rest) with
    | some (path, ']' :: ']' :: rest) => some (.item path, rest)
    | _ => none
  | '[' :: rest =>
    match key (skipSpace rest) with
    | some (path, ']' :: rest) => some (.table path, rest)
    | _ => none
  | text =>
    (assignment false fuel maxDepth text).map fun ((path, value), rest) =>
      (.assign path value, rest)

/-- Reads the statements of a document. `fuel` bounds their number and the steps within each. -/
def statements : (fuel : Nat) → List Char → Option (List Statement)
  | 0, _ => none
  | fuel + 1, text =>
    match skipLines false text with
    | none => none
    | some [] => some []
    | some text =>
      match statement (fuel + 1) text with
      | none => none
      | some (first, rest) =>
        match skipLineEnd rest with
        | none => none
        | some rest => (statements fuel rest).map (first :: ·)

/-! ## Building the tables -/

/-- A document under construction, with the path of the table that keys go to. -/
structure Draft where
  current : List String := []
  entries : Entries := []

/-- Adds one statement to a document. -/
def Draft.add (draft : Draft) : Statement → Option Draft
  | .table path => do
    let key ← path.getLast?
    let entries ←
      changeAt false (fun _ entries => openTable key entries) path.dropLast .header draft.entries
    return { current := path, entries }
  | .item path => do
    let key ← path.getLast?
    let entries ←
      changeAt false (fun _ entries => openItem key entries) path.dropLast .header draft.entries
    return { current := path, entries }
  | .assign path value => do
    let entries ←
      changeAt false (fun _ entries => Toml.assign entries (path, value)) draft.current .header
        draft.entries
    return { draft with entries }

/-- The table that the statements of a document define. -/
def build (statements : List Statement) : Option Value :=
  (statements.foldlM Draft.add ({} : Draft)).map fun draft => .table (entriesToValues draft.entries)

/-- A document without the byte order mark that may stand in front. -/
def dropMark : List Char → List Char
  | '\uFEFF' :: rest => rest
  | text => text

/-- The table that a document writes; nothing when the text is no TOML document. -/
def read (text : String) : Option Value :=
  let document := dropMark text.toList
  (statements (document.length + 2) document).bind build

end SourceGen.Toml
