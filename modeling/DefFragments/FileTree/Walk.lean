import DefFragments.FileTree.Basic
import DefFragments.FileTree.Error
import DefFragments.Path

/-!
# Where paths lead

A path is walked from the root, segment by segment. Every segment needs a directory to start from, the
idle ones too: this is why a slash after the name of a file leads nowhere. Two dots lead to the
directory around, and the root is its own surroundings.

Looking at something needs it at the end of the walk (`locate`), and opening it needs it readable, too.
Creating, replacing and removing need only the directory around it (`target`).
-/

namespace DefFragments.FileTree

def longestName : Nat := 255

def longestPath : Nat := 4095

/-- Check that a path can be handed to the operating system at all. -/
def checkPath (p : Path) : Except FileError Unit :=
  if '\x00' ∈ p.text.toList then .error .nulInName
  else if p.text = "" then .error .notFound
  else if longestPath < p.text.utf8ByteSize then .error .nameTooLong
  else .ok ()

def walk (t : FileTree) : List String → Location → Except FileError Location
  | [], l => .ok l
  | segment :: rest, l =>
    if !t.isDirectory l then .error .notDirectory
    else if Path.isIdle segment then t.walk rest l
    else if segment = ".." then t.walk rest l.tail
    else if longestName < segment.utf8ByteSize then .error .nameTooLong
    else if t.contains (segment :: l) then t.walk rest (segment :: l)
    else .error .notFound

def locate (t : FileTree) (p : Path) : Except FileError Location := do
  checkPath p
  t.walk p.segments []

def node (t : FileTree) (p : Path) : Except FileError Node := do
  match t.get? (← t.locate p) with
  | none => .error .notFound
  | some n => .ok n

/-- Where a path's last component may be created, replaced or removed. -/
inductive Target
  /-- A directory that cannot be replaced: the path ends in dots or is the root. -/
  | fixed
  /-- A location; the flag tells whether a slash after the name demands a directory there. -/
  | entry (location : Location) (slash : Bool)
  deriving DecidableEq

/-- The place that the last component of a path names. The directory around it must exist. -/
def target (t : FileTree) (p : Path) : Except FileError Target := do
  checkPath p
  match p.segments.reverse.dropWhile (· == "") with
  | [] => .ok .fixed
  | last :: before =>
    let around ← t.walk before.reverse []
    if !t.isDirectory around then .error .notDirectory
    else if last = "." ∨ last = ".." then .ok .fixed
    else if longestName < last.utf8ByteSize then .error .nameTooLong
    else .ok (.entry (last :: around) (p.segments.getLast? == some ""))

/-! ### Looking and reading -/

def modified (t : FileTree) (p : Path) : Except FileError Time :=
  (t.node p).map Node.modified

def namesFile (t : FileTree) (p : Path) : Bool :=
  match t.node p with
  | .ok n => n.isFile
  | .error _ => false

def namesDirectory (t : FileTree) (p : Path) : Bool :=
  match t.node p with
  | .ok n => n.isDirectory
  | .error _ => false

def openForReading (t : FileTree) (p : Path) : Except FileError Node := do
  let n ← t.node p
  if n.isReadable then .ok n else .error .permissionDenied

def read (t : FileTree) (p : Path) : Except FileError ByteArray := do
  match ← t.openForReading p with
  | .file contents _ => .ok contents
  | .directory _ => .error .isDirectory

def readText (t : FileTree) (p : Path) : Except FileError String := do
  match String.fromUTF8? (← t.read p) with
  | none => .error .invalidText
  | some text => .ok text

/-- The names in a directory. -/
def listing (t : FileTree) (dir : Location) : List EntryName :=
  (t.children dir).map .text ++ (t.foreignChildren dir).map .foreign

def list (t : FileTree) (p : Path) : Except FileError (List EntryName) := do
  let l ← t.locate p
  match t.get? l with
  | none => .error .notFound
  | some (.file _ _) => .error .notDirectory
  | some (.directory a) => if a.readable then .ok (t.listing l) else .error .permissionDenied

end DefFragments.FileTree
