import DefFragments.Text.Blank

/-!
# Announcements

What a marker in a C source announces: a constant, a function, an object type or a library that the
extension module exports or needs. An announcement is what a marker means; how it was spelled on its
line is forgotten.
-/

namespace DefFragments

inductive ConstantType
  | int
  | unsignedInt
  | long
  | unsignedLong
  | double
  | char
  | string
  deriving DecidableEq, Inhabited

namespace ConstantType

def all : List ConstantType :=
  [.int, .unsignedInt, .long, .unsignedLong, .double, .char, .string]

theorem mem_all (t : ConstantType) : t ∈ all := by
  cases t <;> decide

/-- The words of a type's spelling; a star is a word of its own. -/
def spelling : ConstantType → List String
  | .int => ["int"]
  | .unsignedInt => ["unsigned", "int"]
  | .long => ["long"]
  | .unsignedLong => ["unsigned", "long"]
  | .double => ["double"]
  | .char => ["char"]
  | .string => ["char", "*"]

def spelledWords (s : List Char) : List String :=
  (Text.words (s.flatMap fun c => if c = '*' then [' ', '*', ' '] else [c])).map String.ofList

def ofSpelling? (s : List Char) : Option ConstantType :=
  all.find? fun t => t.spelling == spelledWords s

theorem spelling_injective {t u : ConstantType} (h : t.spelling = u.spelling) : t = u := by
  cases t <;> cases u <;> first | rfl | simp [spelling] at h

theorem ofSpelling?_eq_some_iff {s : List Char} {t : ConstantType} :
    ofSpelling? s = some t ↔ t.spelling = spelledWords s := by
  constructor
  · intro h
    have := List.find?_some h
    simpa using this
  · intro h
    cases hf : ofSpelling? s with
    | none =>
      have := List.find?_eq_none.1 hf t (mem_all t)
      simp [h] at this
    | some u =>
      have hu := List.find?_some hf
      rw [spelling_injective ((by simpa using hu : u.spelling = spelledWords s).trans h.symm)]

def text (t : ConstantType) : String :=
  " ".intercalate t.spelling

/-- The ending of the statement name that stores a value of this type. -/
def category : ConstantType → String
  | .int => "INT"
  | .unsignedInt => "UINT"
  | .long => "LONG"
  | .unsignedLong => "ULONG"
  | .double => "DOUBLE"
  | .char => "CHAR"
  | .string => "STR"

end ConstantType

inductive Availability
  | always
  /-- Where the C headers define it. -/
  | ifDefined
  /-- From a release of the operating system on. -/
  | since (release : Nat)
  /-- Up to a release of the operating system, that release excluded. -/
  | before (release : Nat)
  deriving DecidableEq, Inhabited

inductive CallingConvention
  | noArguments
  | positional
  | keywords
  deriving DecidableEq, Inhabited

namespace CallingConvention

/-- The convention of a C function with so many parameters; the first is the module object. -/
def ofArity? : Nat → Option CallingConvention
  | 1 => some .noArguments
  | 2 => some .positional
  | 3 => some .keywords
  | _ => none

def flags : CallingConvention → String
  | .noArguments => "METH_NOARGS"
  | .positional => "METH_VARARGS"
  | .keywords => "METH_VARARGS|METH_KEYWORDS"

end CallingConvention

inductive Announcement
  | constant (availability : Availability) (type : ConstantType) (name : String)
  | function (name : String) (convention : CallingConvention)
  | objectType (typeName objectName : String)
  | library (name : String)
  deriving DecidableEq, Inhabited

def Announcement.report : Announcement → String
  | .constant _ type name => "Constant: " ++ type.text ++ " " ++ name
  | .function name convention => "Function: " ++ name ++ " " ++ convention.flags
  | .objectType typeName objectName => "Type: " ++ typeName ++ " " ++ objectName
  | .library name => "Library: " ++ name

/-- The spellings that vary between extension modules. -/
structure Markers where
  /-- What the C name of every exported function begins with. -/
  functionPrefix : String := "PyFB_"
  /-- The macro that holds the release of the operating system. -/
  versionSymbol : String := "__FreeBSD_version"
  deriving DecidableEq, Inhabited

end DefFragments
