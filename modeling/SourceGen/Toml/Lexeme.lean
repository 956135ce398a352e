import SourceGen.Text.Hexadecimal
import SourceGen.Text.Split

/-!
# Lexemes of TOML

The smallest parts of a document: blanks and comments, quoted strings in their four forms, and the
parts of keys. Every reader takes the rest of the document and gives its result with what is left,
or nothing when the text is not TOML. Strings are read by recursion on the characters; what an
escape still has to consume is part of the reader's state.
-/

namespace SourceGen.Toml

/-- A reader's result with the text behind it. -/
abbrev Read (α : Type) := Option (α × List Char)

/-! ## Blanks, comments and line ends -/

/-- The blanks within a line. -/
def isSpace (c : Char) : Bool :=
  c = ' ' || c = '\t'

/-- The characters that comments and one-line strings may hold: all but the controls, of which the
tab is allowed. -/
def isPlain (c : Char) : Bool :=
  c = '\t' || (' ' ≤ c && c ≠ '\x7f')

/-- Drops the blanks at the front. -/
def skipSpace (text : List Char) : List Char :=
  text.dropWhile isSpace

/-- Drops blanks, line ends and comments at the front. Nothing when a comment holds a control or a
carriage return stands without its line feed. -/
def skipLines : (inComment : Bool) → List Char → Option (List Char)
  | _, [] => some []
  | _, '\n' :: rest => skipLines false rest
  | inComment, '\r' :: rest =>
    match rest with
    | '\n' :: _ => skipLines inComment rest
    | _ => none
  | true, c :: rest => if isPlain c then skipLines true rest else none
  | false, c :: rest =>
    if c = '#' then skipLines true rest
    else if isSpace c then skipLines false rest
    else some (c :: rest)

/-- Drops a comment up to its line end, which is dropped too. -/
def skipComment : List Char → Option (List Char)
  | [] => some []
  | '\n' :: rest => some rest
  | '\r' :: '\n' :: rest => some rest
  | c :: rest => if isPlain c then skipComment rest else none

/-- Drops what may stand between two parts of an assignment: blanks, and where the assignment may
span lines also line ends and comments. -/
def skipGap (overLines : Bool) (text : List Char) : Option (List Char) :=
  if overLines then skipLines false text else some (skipSpace text)

/-- Drops what may stand between a statement and the next line: blanks, a comment, the line end. -/
def skipLineEnd (text : List Char) : Option (List Char) :=
  match skipSpace text with
  | [] => some []
  | '\n' :: rest => some rest
  | '\r' :: '\n' :: rest => some rest
  | '#' :: rest => skipComment rest
  | _ => none

/-- Drops a line end right behind the opening quotes of a string of several lines. -/
def skipFirstLineEnd : List Char → List Char
  | '\n' :: rest => rest
  | '\r' :: '\n' :: rest => rest
  | text => text

/-! ## Escapes -/

/-- What a string reader is in the middle of: nothing, a backslash, an escape by code point, of
which `left + 1` digits are still to come and `code` is the number so far, or `left + 1` characters
to pass over. -/
inductive Pending where
  | plain
  | escape
  | digits (left code : Nat)
  | skip (left : Nat)

/-- What the character behind a backslash stands for: a character by itself, or a code point of
`left + 1` hexadecimal digits. -/
inductive Escape where
  | char (c : Char)
  | digits (left : Nat)

/-- The escapes of both forms of double-quoted strings. -/
def escape? : Char → Option Escape
  | 'b' => some (.char '\x08')
  | 't' => some (.char '\t')
  | 'n' => some (.char '\n')
  | 'f' => some (.char '\x0c')
  | 'r' => some (.char '\r')
  | 'e' => some (.char '\x1b')
  | '"' => some (.char '"')
  | '\\' => some (.char '\\')
  | 'x' => some (.digits 1)
  | 'u' => some (.digits 3)
  | 'U' => some (.digits 7)
  | _ => none

/-! ## Strings -/

/-- Puts a character in front of what a reader found. -/
def consRead (c : Char) (found : Read (List Char)) : Read (List Char) :=
  found.map fun (text, rest) => (c :: text, rest)

/-- Reads a double-quoted string of one line behind its opening quote. -/
def basicString : Pending → List Char → Read (List Char)
  | _, [] => none
  | .plain, c :: rest =>
    if c = '"' then some ([], rest)
    else if c = '\\' then basicString .escape rest
    else if isPlain c then consRead c (basicString .plain rest)
    else none
  | .escape, c :: rest =>
    match escape? c with
    | some (.char d) => consRead d (basicString .plain rest)
    | some (.digits left) => basicString (.digits left 0) rest
    | none => none
  | .digits left code, c :: rest =>
    match Text.hexValue? c with
    | none => none
    | some digit =>
      match left with
      | 0 =>
        match Text.charOf? (16 * code + digit) with
        | some d => consRead d (basicString .plain rest)
        | none => none
      | left + 1 => basicString (.digits left (16 * code + digit)) rest
  | .skip _, _ :: _ => none

/-- Reads a single-quoted string of one line behind its opening quote. -/
def literalString : List Char → Read (List Char)
  | [] => none
  | c :: rest =>
    if c = '\'' then some ([], rest)
    else if isPlain c then consRead c (literalString rest)
    else none

/-- What three closing quotes leave: up to two more quotes right behind them belong to the
string. -/
def closeTriple (quote : Char) : List Char → List Char × List Char
  | a :: b :: rest =>
    if a = quote then if b = quote then ([quote, quote], rest) else ([quote], b :: rest)
    else ([], a :: b :: rest)
  | [a] => if a = quote then ([quote], []) else ([], [a])
  | [] => ([], [])

/-- Whether a text begins with three quotes. -/
def startsTriple (quote : Char) : List Char → Bool
  | a :: b :: c :: _ => a = quote && b = quote && c = quote
  | _ => false

/-- Whether the text begins with a line end. -/
def startsLineEnd : List Char → Bool
  | '\n' :: _ => true
  | '\r' :: '\n' :: _ => true
  | _ => false

/-- Drops the blanks and line ends at the front. -/
def skipFold : List Char → List Char
  | [] => []
  | '\r' :: '\n' :: rest => skipFold rest
  | c :: rest => if isSpace c || c = '\n' then skipFold rest else c :: rest

/-- How many characters a backslash at a line's end passes over: blanks up to the line end, then all
blanks and line ends behind it. Nothing when something else ends the line. -/
def lineFold? (text : List Char) : Option Nat :=
  if startsLineEnd (skipSpace text) then some (text.length - (skipFold text).length) else none

/-- Reads a double-quoted string of several lines behind its opening quotes. -/
def basicText : Pending → List Char → Read (List Char)
  | _, [] => none
  | .plain, c :: rest =>
    if startsTriple '"' (c :: rest) then some (closeTriple '"' (rest.drop 2))
    else if c = '\\' then
      match rest with
      | d :: _ =>
        if isSpace d || d = '\n' || d = '\r' then
          match lineFold? rest with
          | some (left + 1) => basicText (.skip left) rest
          | _ => none
        else basicText .escape rest
      | [] => none
    else if isPlain c || c = '\n' then consRead c (basicText .plain rest)
    else if startsLineEnd (c :: rest) then consRead c (basicText .plain rest)
    else none
  | .escape, c :: rest =>
    match escape? c with
    | some (.char d) => consRead d (basicText .plain rest)
    | some (.digits left) => basicText (.digits left 0) rest
    | none => none
  | .digits left code, c :: rest =>
    match Text.hexValue? c with
    | none => none
    | some digit =>
      match left with
      | 0 =>
        match Text.charOf? (16 * code + digit) with
        | some d => consRead d (basicText .plain rest)
        | none => none
      | left + 1 => basicText (.digits left (16 * code + digit)) rest
  | .skip left, _ :: rest =>
    match left with
    | 0 => basicText .plain rest
    | left + 1 => basicText (.skip left) rest

/-- Reads a single-quoted string of several lines behind its opening quotes. -/
def literalText : List Char → Read (List Char)
  | [] => none
  | c :: rest =>
    if startsTriple '\'' (c :: rest) then some (closeTriple '\'' (rest.drop 2))
    else if isPlain c || startsLineEnd (c :: rest) then consRead c (literalText rest)
    else none

/-! ## Keys -/

/-- The characters of a key without quotes. -/
def isBare (c : Char) : Bool :=
  c.isAlphanum || c = '_' || c = '-'

/-- Reads one part of a key. -/
def keyPart : List Char → Read String
  | '"' :: rest => (basicString .plain rest).map fun (text, rest) => (String.ofList text, rest)
  | '\'' :: rest => (literalString rest).map fun (text, rest) => (String.ofList text, rest)
  | text =>
    let name := text.takeWhile isBare
    if name.isEmpty then none else some (String.ofList name, text.dropWhile isBare)

/-- Reads a key: parts joined by dots, blanks allowed around each dot and behind the last part.
`fuel` bounds the number of parts. -/
def keyParts : (fuel : Nat) → List Char → Read (List String)
  | 0, _ => none
  | fuel + 1, text =>
    match keyPart text with
    | none => none
    | some (part, rest) =>
      match skipSpace rest with
      | '.' :: rest =>
        (keyParts fuel (skipSpace rest)).map fun (parts, rest) => (part :: parts, rest)
      | rest => some ([part], rest)

/-- The greatest number of parts of a key. -/
def maxParts : Nat := 80

/-- Reads a key. A text has no more parts than characters. -/
def key (text : List Char) : Read (List String) :=
  (keyParts (text.length + 1) text).filter fun (parts, _) => parts.length ≤ maxParts

end SourceGen.Toml
