import DefFragments.FileTree.Basic
import DefFragments.Path

/-!
# Differences between file trees

What has to be done to the files of one tree so that they become those of another: directories come
into being, files are written, and files disappear.
-/

namespace DefFragments

/-- What two trees differ in. Directories come before the directories and files inside them. -/
structure Difference where
  newDirectories : List Path
  written : List (Path × ByteArray)
  removed : List Path

namespace Difference

def pathOf (l : Location) : Path :=
  .ofSegments l.reverse

def newDirectory? (t : FileTree) (l : Location) : Node → Option Path
  | .directory _ => if t.isDirectory l then none else some (pathOf l)
  | .file _ _ => none

/-- What is written to turn the node of a tree at a location into a file. What cannot be read may have
any contents. -/
def write? (t : FileTree) (l : Location) : Node → Option (Path × ByteArray)
  | .directory _ => none
  | .file contents a =>
    match t.get? l with
    | some (.file before b) =>
      if before.data = contents.data ∧ b.readable = a.readable then none
      else some (pathOf l, contents)
    | _ => some (pathOf l, contents)

/-- The difference between a tree and a later one. -/
def between (before after : FileTree) : Difference where
  newDirectories := after.entries.filterMap fun e => newDirectory? before e.1 e.2
  written := after.entries.filterMap fun e => write? before e.1 e.2
  removed := (before.entries.filter fun e => e.2.isFile && !after.contains e.1).map fun e =>
    pathOf e.1

/-- A file with the contents that it has already is not written. -/
theorem write?_of_get? {t : FileTree} {l : Location} {contents : ByteArray} {a : Attributes}
    (h : t.get? l = some (.file contents a)) (now : Time) :
    write? t l (.file contents { a with modified := now }) = none := by
  simp [write?, h]

end Difference

end DefFragments
