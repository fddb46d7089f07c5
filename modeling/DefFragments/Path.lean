import DefFragments.Text.Blank

/-!
# Paths

A path is the text that names a file. Paths are joined and taken apart as texts: a slash separates
components, repeated slashes and single dots between slashes name nothing, and two dots are kept as
they are, since only a file tree can tell where they lead.
-/

namespace DefFragments

structure Path where
  text : String
  deriving DecidableEq, Inhabited

namespace Path

def segments (p : Path) : List String :=
  (Text.pieces (· == '/') p.text.toList).map String.ofList

def ofSegments (segments : List String) : Path :=
  ⟨"/".intercalate segments⟩

def isAbsolute (p : Path) : Bool :=
  p.text.toList.head? == some '/'

def join (dir p : Path) : Path :=
  if p.isAbsolute then p
  else if dir.text = "" ∨ dir.text.toList.getLast? = some '/' then ⟨dir.text ++ p.text⟩
  else ⟨dir.text ++ "/" ++ p.text⟩

/-- A segment that names nothing when it stands after a slash. -/
def isIdle (segment : String) : Bool :=
  segment == "" || segment == "."

/-- The first segment, and the others from the last to the first. -/
def firstAndReversed (p : Path) : String × List String :=
  match p.segments with
  | [] => ("", [])
  | first :: rest => (first, rest.reverse)

/-- The path of the directory around a path: what precedes the last component. It is empty for a
single component, and the root and the empty path have none. -/
def parent? (p : Path) : Option Path :=
  let (first, reversed) := p.firstAndReversed
  match reversed.dropWhile isIdle with
  | _ :: before =>
    match before.dropWhile isIdle with
    | [] => some ⟨if first = "" then "/" else first⟩
    | kept => some (ofSegments (first :: kept.reverse))
  | [] => if first = "" then none else some ⟨""⟩

/-- The last component of a path, unless it is a dot or two dots. -/
def fileName? (p : Path) : Option String :=
  let (first, reversed) := p.firstAndReversed
  let last := (reversed.dropWhile isIdle).head?.getD first
  if isIdle last ∨ last = ".." then none else some last

/-- A path and the directories around it, the path first; the empty path is not listed. The count
bounds the number of steps, and the length of the text suffices. -/
def ancestorsUpTo : Nat → Path → List Path
  | 0, _ => []
  | n + 1, p =>
    if p.text = "" then []
    else p :: match p.parent? with
      | none => []
      | some q => ancestorsUpTo n q

def ancestors (p : Path) : List Path :=
  ancestorsUpTo p.text.length p

/-- The extension of a file name: the text after its last dot. A name whose only dot is its first
character has none. -/
def extension? (name : String) : Option String :=
  let reversed := name.toList.reverse
  let extension := reversed.takeWhile (· != '.')
  match reversed.dropWhile (· != '.') with
  | [] => none
  | _ :: before =>
    if before = [] ∨ name = ".." then none else some (String.ofList extension.reverse)

end Path

end DefFragments
