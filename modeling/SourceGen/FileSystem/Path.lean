import SourceGen.Text.Split

/-!
# File paths

Paths as the file system takes them: text cut at its slashes. A leading slash makes a path absolute,
empty parts and single dots stand for nothing, and two dots lead to the directory above.
-/

namespace SourceGen.FilePath

/-- The parts between the slashes. -/
def parts (path : String) : List String :=
  (Text.pieces (· = '/') path.toList).map String.ofList

/-- Whether a path begins at the top of the file system. -/
def isAbsolute (path : String) : Bool :=
  path.toList.head? == some '/'

/-- A path taken from a directory. An absolute path stands for itself; joining an empty path leaves
a slash at the end. -/
def join (directory path : String) : String :=
  if isAbsolute path || directory.isEmpty then path
  else if directory.toList.getLast? == some '/' then directory ++ path
  else directory ++ "/" ++ path

/-- Whether a part stands for nothing. -/
def isVoid (part : String) : Bool :=
  part.isEmpty || part = "."

/-- The parts behind the start of a path: for an absolute path all behind the first slash, and for a
path that begins with a dot all behind that dot. -/
def bodyParts (path : String) : List String :=
  match parts path with
  | first :: rest => if first.isEmpty || first = "." then rest else first :: rest
  | [] => []

/-- The start of a path that its body does not hold. -/
def startOf (path : String) : String :=
  if isAbsolute path then "/" else if (parts path).head? == some "." then "." else ""

/-- The parts without those at the end that stand for nothing. -/
def dropVoidEnd (parts : List String) : List String :=
  (parts.reverse.dropWhile isVoid).reverse

/-- A path from its start and its body. -/
def assemble (start : String) (body : List String) : String :=
  if body.isEmpty then start
  else if start = "." then "./" ++ String.intercalate "/" body
  else start ++ String.intercalate "/" body

/-- The path of the directory that holds the last real part of a path; nothing for the top of the
file system and for the empty path. -/
def parent? (path : String) : Option String :=
  match dropVoidEnd (bodyParts path) with
  | [] => if startOf path = "." then some "" else none
  | body => some (assemble (startOf path) (dropVoidEnd body.dropLast))

/-- A path and the directories above it, nearest first, as long as `parent?` gives one. `fuel`
bounds their number. -/
def ancestorsFrom : (fuel : Nat) → String → List String
  | 0, _ => []
  | fuel + 1, path =>
    path ::
      match parent? path with
      | some parent => ancestorsFrom fuel parent
      | none => []

/-- A path and the directories above it, nearest first. Each has fewer parts than the one before. -/
def ancestors (path : String) : List String :=
  ancestorsFrom ((parts path).length + 2) path

/-- The place that a path leads to from a place, when all directories on the way are there. -/
def placeFrom (start : List String) (path : String) : List String :=
  (parts path).foldl
    (fun place part =>
      if isVoid part then place else if part = ".." then place.dropLast else place ++ [part])
    (if isAbsolute path then [] else start)

end SourceGen.FilePath
