import SourceGen.Ordered.Sorted

/-!
# File trees

A directory tree as a value: regular files with their bytes, and directories whose entries are kept
in the byte order of their names. A place in the tree is the list of names that leads to it.
-/

namespace SourceGen

/-- A regular file with its bytes, or a directory with its entries, in ascending order of their
names. -/
inductive FileTree where
  | file (content : List UInt8)
  | directory (entries : List (String × FileTree))
deriving Inhabited

namespace FileTree

/-- Whether this is a directory. -/
def isDirectory : FileTree → Bool
  | directory _ => true
  | file _ => false

/-- The bytes of a regular file. -/
def content? : FileTree → Option (List UInt8)
  | file content => some content
  | directory _ => none

/-- What stands at a place. -/
def get? : FileTree → (place : List String) → Option FileTree
  | tree, [] => some tree
  | file _, _ :: _ => none
  | directory entries, name :: place =>
    match Sorted.get? name entries with
    | some child => child.get? place
    | none => none

/-- Puts a tree at a place, instead of what stands there. Directories on the way that are missing
are made; below a regular file nothing changes. -/
def put : FileTree → (place : List String) → FileTree → FileTree
  | _, [], new => new
  | file content, _ :: _, _ => file content
  | directory entries, name :: place, new =>
    let child := (Sorted.get? name entries).getD (directory [])
    directory (Sorted.insert name (child.put place new) entries)

/-- Removes what stands at a place. The whole tree cannot be removed. -/
def remove : FileTree → (place : List String) → FileTree
  | tree, [] => tree
  | file content, _ :: _ => file content
  | directory entries, [name] => directory (Sorted.erase name entries)
  | directory entries, name :: place =>
    match Sorted.get? name entries with
    | some child => directory (Sorted.insert name (child.remove place) entries)
    | none => directory entries

mutual

/-- The places of the regular files with their bytes, directory by directory in the order of the
entries; directories that `skip` names are left out with all they hold. -/
def files (skip : String → Bool) : FileTree → List (List String × List UInt8)
  | file content => [([], content)]
  | directory entries => filesOfEntries skip entries

/-- The regular files of the entries of a directory. -/
def filesOfEntries (skip : String → Bool) :
    List (String × FileTree) → List (List String × List UInt8)
  | [] => []
  | (name, tree) :: rest =>
    (if tree.isDirectory && skip name then []
      else (tree.files skip).map fun (place, content) => (name :: place, content))
      ++ filesOfEntries skip rest

end

end FileTree

end SourceGen
