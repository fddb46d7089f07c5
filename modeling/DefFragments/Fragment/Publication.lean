import DefFragments.Effect
import DefFragments.FileTree.Change
import DefFragments.Fragment.Fragments

/-!
# Publishing fragments

The fragments replace the files at their paths together. Every text is first staged as a new file
next to its target: the file is created, filled and flushed. Only when all are staged are they moved
into place, one after the other. When a step fails, the staged files are dropped, the half-written one
too, and the targets that were replaced already are removed, so that the set of outputs is seen to be
incomplete.
-/

namespace DefFragments

/-- A text that was written next to its target. -/
structure Staged where
  source : Location
  path : Path
  deriving DecidableEq, Inhabited

namespace Staged

def drop (t : FileTree) (staged : List Staged) : FileTree :=
  staged.foldl (fun t s => t.erase s.source) t

def dir (path : Path) : Path :=
  match path.parent? with
  | none => ⟨"."⟩
  | some p => if p.text = "" then ⟨"."⟩ else p

/-- The length of the longest of some paths. The names of staged files are longer, so no path leads to
a staged file. -/
def reserved (paths : List Path) : Nat :=
  paths.foldr (fun p n => max p.text.length n) 0

/-- Stage one text, in a directory that is created if need be. The name of the staged file is longer
than so many characters. -/
def write (t : FileTree) (now : Time) (reserved : Nat) (faults : Faults) (text : String)
    (path : Path) : Except Failure Staged × FileTree :=
  match t.createDirectories now (dir path) faults with
  | (.error e, t) => (.error (.during (.creatingDirectory (dir path)) (.file e)), t)
  | (.ok (), t) =>
    match t.createFile now reserved (dir path) faults with
    | .error e => (.error (.during (.staging (dir path)) (.file e)), t)
    | .ok (source, t) =>
      match t.fill now source text.toUTF8 path faults with
      | (.error e, t) => (.error (.during (.writingStaged path) (.file e)), t.erase source)
      | (.ok (), t) =>
        match faults.flush t path with
        | some e => (.error (.during (.flushingStaged path) (.file e)), t.erase source)
        | none => (.ok ⟨source, path⟩, t)

/-- Stage all texts; if one cannot be staged, none stays. -/
def writeAll (now : Time) (reserved : Nat) (faults : Faults) :
    List (String × Path) → FileTree → Except Failure (List Staged) × FileTree
  | [], t => (.ok [], t)
  | (text, path) :: rest, t =>
    match write t now reserved faults text path with
    | (.error f, t) => (.error f, t)
    | (.ok s, t) =>
      match writeAll now reserved faults rest t with
      | (.error f, t) => (.error f, t.erase s.source)
      | (.ok staged, t) => (.ok (s :: staged), t)

/-- Remove targets that were replaced. One that cannot be removed is reported. -/
def retract (faults : Faults) : List Path → FileTree → FileTree × List Log.Event
  | [], t => (t, [])
  | path :: rest, t =>
    match t.removeFile path faults with
    | .ok t => retract faults rest t
    | .error e =>
      let (t, events) := retract faults rest t
      (t, .leftBehind path e :: events)

/-- Move staged files into place, after the targets in `replaced`. -/
def replaceAll (faults : Faults) : List Staged → List Path → FileTree → Effect Unit
  | [], _, t => .done t ()
  | s :: rest, replaced, t =>
    match t.replaceWith s.source s.path faults with
    | .error e =>
      let (t, events) := retract faults replaced t
      ⟨drop t (s :: rest), events, .error (.during (.replacing s.path) (.file e))⟩
    | .ok (_, t) =>
      (replaceAll faults rest (replaced ++ [s.path]) t).report [.published s.path]

end Staged

namespace Fragments

def texts (f : Fragments) : List String :=
  FragmentKind.all.map f.text

def publish (f : Fragments) (now : Time) (paths : List Path) (t : FileTree)
    (faults : Faults := .none) : Effect Unit :=
  if paths.length ≠ FragmentKind.all.length then
    .failed t (.ofCause (.outputCount FragmentKind.all.length paths.length))
  else
    match Staged.writeAll now (Staged.reserved paths) faults (f.texts.zip paths) t with
    | (.error e, t) => .failed t e
    | (.ok staged, t) => Staged.replaceAll faults staged [] t

end Fragments

end DefFragments
