import DefFragments.Announcement

/-!
# Fragment entries

The text that an announcement becomes in its fragment. A constant that does not exist on every
system carries its own condition; around it stands the condition of the block that its marker stood
in.
-/

namespace DefFragments

/-- The five generated files, in the order of publication. -/
inductive FragmentKind
  | sources
  | constants
  | methods
  | types
  | libraries
  deriving DecidableEq, Inhabited

namespace FragmentKind

def all : List FragmentKind :=
  [.sources, .constants, .methods, .types, .libraries]

/-- The fragment begins with a comment that says when it was generated. The list of libraries is
read back word by word and has none. -/
def hasHeader : FragmentKind → Bool
  | .libraries => false
  | _ => true

def ofAnnouncement : Announcement → FragmentKind
  | .constant _ _ _ => .constants
  | .function _ _ => .methods
  | .objectType _ _ => .types
  | .library _ => .libraries

end FragmentKind

/-- An announcement under the combined guard of its line; the empty guard is no condition. -/
structure Entry where
  announcement : Announcement
  guard : String
  deriving DecidableEq, Inhabited

namespace Entry

def conditional (opening text : String) : String :=
  opening ++ "\n" ++ text ++ "#endif\n"

def store (type : ConstantType) (name : String) : String :=
  "SETDICT_" ++ type.category ++ "(d, \"" ++ name ++ "\", " ++ name ++ ");\n"

/-- The text of an announcement, without the guard of its line. -/
def bare (markers : Markers) : Announcement → String
  | .constant .always type name => store type name
  | .constant .ifDefined type name => conditional ("#ifdef " ++ name) (store type name)
  | .constant (.since release) type name =>
    conditional ("#if " ++ markers.versionSymbol ++ " >= " ++ toString release) (store type name)
  | .constant (.before release) type name =>
    conditional ("#if " ++ markers.versionSymbol ++ " < " ++ toString release) (store type name)
  | .function name convention =>
    "\x7b\"" ++ name ++ "\", (PyCFunction)" ++ markers.functionPrefix ++ name ++ ", "
      ++ convention.flags ++ ",\n " ++ markers.functionPrefix ++ name ++ "__doc__\x7d,\n"
  | .objectType typeName objectName => "INITTYPE(" ++ typeName ++ ", " ++ objectName ++ ")\n"
  | .library name => name ++ "\n"

def text (markers : Markers) (e : Entry) : String :=
  if e.guard = "" then bare markers e.announcement
  else conditional ("#if " ++ e.guard) (bare markers e.announcement)

def kind (e : Entry) : FragmentKind :=
  .ofAnnouncement e.announcement

end Entry

end DefFragments
