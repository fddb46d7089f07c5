import DefFragments.Announcement
import DefFragments.Marker.Error
import DefFragments.Text.Affix
import DefFragments.Text.Number

/-!
# Constant markers

A constant marker fills its line: the keyword `EXPCONST`, an optional ending that says when the
constant exists, and in parentheses a declaration such as `unsigned int NAME`, after a release
number and a comma where the ending asks for one.
-/

namespace DefFragments.Marker

open Text

def isFlagChar (c : Char) : Bool :=
  ('A' ≤ c && c ≤ 'Z') || c == '_'

def constantShape? (line : List Char) : Option (List Char × List Char) := do
  let rest ← stripPrefix? "EXPCONST".toList line
  let flag := rest.takeWhile isFlagChar
  let rest ← stripPrefix? ['('] (dropBlanks (rest.dropWhile isFlagChar))
  let body := rest.takeWhile (· != ')')
  let rest ← stripPrefix? [')'] (rest.dropWhile (· != ')'))
  if dropBlanks rest = [] then some (flag, body) else none

/-- The digits and the declaration of a body that begins with a release number and a comma. The
declaration stays on one line. -/
def releaseShape? (body : List Char) : Option (List Char × List Char) := do
  let rest := dropBlanks body
  let digits := rest.takeWhile isDigit
  let rest ← stripPrefix? [','] (dropBlanks (rest.dropWhile isDigit))
  if digits ≠ [] ∧ '\n' ∉ rest then some (digits, rest) else none

def releaseAndDeclaration? (body : List Char) : Option (Nat × List Char) := do
  let (digits, declaration) ← releaseShape? body
  let release ← (readUnsigned digits).toOption
  some (release, declaration)

def endsType (c : Char) : Bool :=
  isAsciiBlank c || c == '*'

/-- The type part and the name of a declaration: the name begins after the last star or ASCII blank.
-/
def splitDeclaration? (declaration : List Char) : Option (List Char × List Char) :=
  let reversed := (trim declaration).reverse
  let name := (reversed.takeWhile (!endsType ·)).reverse
  let type := trim (reversed.dropWhile (!endsType ·)).reverse
  if type ≠ [] ∧ isIdentifier name then some (type, name) else none

/-- The availability that an ending announces, with the declaration; `none` for an unknown ending,
and inside it `none` for a body without the release that is due. -/
def availability? (flag body : List Char) : Option (Option (Availability × List Char)) :=
  if flag = [] then some (some (.always, body))
  else if flag = "_IFAVAIL".toList then some (some (.ifDefined, body))
  else if flag = "_MIN_OSREL".toList then
    some ((releaseAndDeclaration? body).map fun r => (.since r.1, r.2))
  else if flag = "_MAX_OSREL".toList then
    some ((releaseAndDeclaration? body).map fun r => (.before r.1, r.2))
  else none

def reportedName (body : List Char) : List Char :=
  ((splitDeclaration? body).map Prod.snd).getD (trim body)

def declaredConstant (flag body : List Char) (availability : Availability)
    (declaration : List Char) : Except MarkerError Announcement :=
  match splitDeclaration? declaration with
  | none => .error (.malformedConstant (String.ofList flag) (String.ofList (trim body)))
  | some (type, name) =>
    match ConstantType.ofSpelling? type with
    | none => .error (.unsupportedType (String.ofList name) (String.ofList type))
    | some t => .ok (.constant availability t (String.ofList name))

def constantOf (flag body : List Char) : Except MarkerError Announcement :=
  match availability? flag body with
  | none => .error (.unsupportedFlag (String.ofList (reportedName body)) (String.ofList flag))
  | some none => .error (.malformedConstant (String.ofList flag) (String.ofList (trim body)))
  | some (some (availability, declaration)) =>
    declaredConstant flag body availability declaration

def constant? (line : List Char) : Except MarkerError (Option Announcement) :=
  match constantShape? line with
  | none => .ok none
  | some (flag, body) => (constantOf flag body).map some

end DefFragments.Marker
