import SourceGen.FileSystem.Tree

/-!
# Changes between two file trees

The regular files that are new or hold other bytes than before, and those that are gone. Empty
directories do not count.
-/

namespace SourceGen.FileTree

/-- All regular files with their bytes. -/
def allFiles (tree : FileTree) : List (List String × List UInt8) :=
  tree.files fun _ => false

/-- The files of `after` that `before` lacks or holds with other bytes. -/
def changedFiles (before after : FileTree) : List (List String × List UInt8) :=
  after.allFiles.filter fun (place, content) =>
    ((before.get? place).bind content?) ≠ some content

/-- The places of the files of `before` that `after` lacks. -/
def removedFiles (before after : FileTree) : List (List String) :=
  (before.allFiles.filter fun (place, _) =>
    ((after.get? place).bind content?).isNone).map Prod.fst

end SourceGen.FileTree
