import DefFragments.Marker.Constant
import DefFragments.Marker.Function
import DefFragments.Marker.ObjectType
import DefFragments.Marker.Library

/-!
# The markers of a line

Each of the four grammars looks at the line on its own, and every hit counts: the announcements of a
line come in the order constant, function, object type, library.
-/

namespace DefFragments.Marker

/-- Every announcement that a line announces. A constant error hides a function error. -/
def announcements (markers : Markers) (line : List Char) : Except MarkerError (List Announcement) :=
  match constant? line with
  | .error e => .error e
  | .ok constant =>
    match function? markers.functionPrefix.toList line with
    | .error e => .error e
    | .ok function =>
      .ok (constant.toList ++ function.toList ++ (objectType? line).toList
        ++ (library? line).toList)

end DefFragments.Marker
