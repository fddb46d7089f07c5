import DefFragments.FileTree.Basic
import DefFragments.FileTree.Error
import DefFragments.Path

/-!
# Faults

What the operating system refuses to do with a file tree although the tree allows it: the disk is full,
a directory must not be written to, a device fails. Each step of a change is asked for with the tree and
the path that it is about, so that every step of a run can be refused on its own.
-/

namespace DefFragments

structure Faults where
  createDirectory : FileTree → Path → Option FileError := fun _ _ => none
  createFile : FileTree → Path → Option FileError := fun _ _ => none
  /-- A write may be refused after it has written so many bytes. -/
  write : FileTree → Path → Option (Nat × FileError) := fun _ _ => none
  flush : FileTree → Path → Option FileError := fun _ _ => none
  rename : FileTree → Path → Option FileError := fun _ _ => none
  remove : FileTree → Path → Option FileError := fun _ _ => none

def Faults.none : Faults := {}

/-- No removal is refused; what is removed is always what has just been moved into place. -/
def Faults.AllowsRemovals (faults : Faults) : Prop :=
  ∀ t p, faults.remove t p = .none

/-- Go on unless the step is refused. -/
def FileTree.unlessRefused : Option FileError → Except FileError Unit
  | .none => .ok ()
  | .some e => .error e

end DefFragments
