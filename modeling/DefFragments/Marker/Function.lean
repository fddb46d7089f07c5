import DefFragments.Announcement
import DefFragments.Marker.Error
import DefFragments.Text.Affix

/-!
# Function markers

The first line of a C function whose name begins with the module's function prefix and stands at the
start of the line. The rest of the name is the exported name, and the number of parameters selects
the calling convention.
-/

namespace DefFragments.Marker

open Text

/-- The exported name and the parameter text of a line that has the shape of a function marker. The
exported name may begin with a digit, since the prefix stands before it. -/
def functionShape? (functionPrefix line : List Char) : Option (List Char × List Char) := do
  let rest ← stripPrefix? functionPrefix line
  let name := rest.takeWhile isNameChar
  let rest ← stripPrefix? ['('] (dropBlanks (rest.dropWhile isNameChar))
  let arguments := rest.takeWhile (· != ')')
  let _ ← stripPrefix? [')'] (rest.dropWhile (· != ')'))
  if name ≠ [] then some (name, arguments) else none

/-- The number of parameters in a parameter text: one more than its commas, and none in a blank
text. -/
def arity (arguments : List Char) : Nat :=
  if trim arguments = [] then 0 else arguments.count ',' + 1

def functionOf (name arguments : List Char) : Except MarkerError Announcement :=
  match CallingConvention.ofArity? (arity arguments) with
  | none => .error (.unsupportedArity (String.ofList name) (arity arguments))
  | some convention => .ok (.function (String.ofList name) convention)

def function? (functionPrefix line : List Char) : Except MarkerError (Option Announcement) :=
  match functionShape? functionPrefix line with
  | none => .ok none
  | some (name, arguments) => (functionOf name arguments).map some

end DefFragments.Marker
