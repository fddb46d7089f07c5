import DefFragments.Announcement
import DefFragments.Text.Affix

/-!
# Library markers

A library marker may stand anywhere on a line, in a comment for instance: the keyword `LIB_DEPENDS`
and in parentheses the name of a library to link. The leftmost one on a line counts.
-/

namespace DefFragments.Marker

open Text

def libraryHere? (s : List Char) : Option (List Char) := do
  let rest ← stripPrefix? "LIB_DEPENDS".toList s
  let rest ← stripPrefix? ['('] (dropBlanks rest)
  let rest := dropBlanks rest
  let name := rest.takeWhile isNameChar
  let _ ← stripPrefix? [')'] (dropBlanks (rest.dropWhile isNameChar))
  if name ≠ [] then some name else none

/-- The library name of the leftmost marker in a text. -/
def libraryName? : List Char → Option (List Char)
  | [] => none
  | c :: s => (libraryHere? (c :: s)).or (libraryName? s)

def library? (line : List Char) : Option Announcement :=
  (libraryName? line).map fun name => .library (String.ofList name)

end DefFragments.Marker
