import DefFragments.Announcement
import DefFragments.Text.Affix

/-!
# Object type markers

An object type marker fills its line: the keyword `DECLTYPE` and in parentheses the names of the
type object and of its object structure.
-/

namespace DefFragments.Marker

open Text

def takeIdentifier? (s : List Char) : Option (List Char × List Char) :=
  let name := s.takeWhile isNameChar
  if isIdentifier name then some (name, s.dropWhile isNameChar) else none

def objectType? (line : List Char) : Option Announcement := do
  let rest ← stripPrefix? "DECLTYPE".toList line
  let rest ← stripPrefix? ['('] (dropBlanks rest)
  let (typeName, rest) ← takeIdentifier? (dropBlanks rest)
  let rest ← stripPrefix? [','] (dropBlanks rest)
  let (objectName, rest) ← takeIdentifier? (dropBlanks rest)
  let rest ← stripPrefix? [')'] (dropBlanks rest)
  if dropBlanks rest = [] then
    some (.objectType (String.ofList typeName) (String.ofList objectName))
  else none

end DefFragments.Marker
