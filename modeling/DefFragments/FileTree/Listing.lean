import DefFragments.FileTree.Basic
import DefFragments.Path
import DefFragments.Text.Number

/-!
# Listings of a file tree

A listing names what is below the working directory, one file or directory a line: when it was last
modified, in seconds with a fraction, then `f` for a file or `d` for a directory, then its path.
Lines of another shape, which may stand for links or devices, name nothing.
-/

namespace DefFragments

open Text

structure Listed where
  modified : Time
  isDirectory : Bool
  path : Path
  deriving DecidableEq

namespace Listed

def nanosecondsOf (fraction : List Char) : Nat :=
  decimalValue ((fraction ++ List.replicate 9 '0').take 9)

/-- Read a time in seconds, with or without a fraction. -/
def time? (s : List Char) : Option Time :=
  let fraction := (s.dropWhile (· != '.')).drop 1
  match readSigned (s.takeWhile (· != '.')) with
  | .error _ => none
  | .ok second =>
    if fraction.all isDigit then some (.ofSeconds second (nanosecondsOf fraction)) else none

/-- Read what follows the time of a line. -/
def ofKindAndPath? (modified : Time) : List Char → Option Listed
  | 'f' :: ' ' :: path => some ⟨modified, false, ⟨String.ofList path⟩⟩
  | 'd' :: ' ' :: path => some ⟨modified, true, ⟨String.ofList path⟩⟩
  | _ => none

/-- Read a line of a listing. -/
def ofLine? (line : List Char) : Option Listed := do
  let modified ← time? (line.takeWhile (· != ' '))
  ofKindAndPath? modified ((line.dropWhile (· != ' ')).drop 1)

def location (l : Listed) : Location :=
  (l.path.segments.filter (!Path.isIdle ·)).reverse

/-- What is listed, with the contents of a file unless these cannot be read. -/
def node (l : Listed) (contents? : Option ByteArray) : Node :=
  if l.isDirectory then .directory ⟨l.modified, true⟩
  else .file (contents?.getD .empty) ⟨l.modified, contents?.isSome⟩

example : (ofLine? "1110110400.25 f src/a.c".toList).map location = some ["a.c", "src"] := by cbv

example : time? "-1.5".toList = some (.ofSeconds (-1) 500000000) := by cbv

end Listed

end DefFragments
