import DefFragments.FileTree.Faults
import DefFragments.FileTree.Walk

/-!
# Changing a file tree

Creating directories, creating a file under a name that is not in use and filling it, replacing what a
path names by such a file, and removing files. Any of these may be refused. A change that fails leaves
the tree as it was, with two exceptions: `createDirectories` may have created some of the directories,
and `fill` may have written some of the bytes.
-/

namespace DefFragments.FileTree

def createDirectory (t : FileTree) (now : Time) (p : Path) (faults : Faults := .none) :
    Except FileError FileTree := do
  unlessRefused (faults.createDirectory t p)
  match ← t.target p with
  | .fixed => .error .alreadyExists
  | .entry l _ =>
    if t.contains l then .error .alreadyExists else .ok (t.set l (.directory (.new now)))

/-- Create a directory unless it is there, after the directories around it where one is missing. The
paths are the directory and what is around it, innermost first. -/
def createInnermost (t : FileTree) (now : Time) (faults : Faults) :
    List Path → Except FileError Unit × FileTree
  | [] => (.ok (), t)
  | p :: around =>
    match t.createDirectory now p faults with
    | .ok created => (.ok (), created)
    | .error .notFound =>
      match t.createInnermost now faults around with
      | (.error e, grown) => (.error e, grown)
      | (.ok (), grown) =>
        match grown.createDirectory now p faults with
        | .ok created => (.ok (), created)
        | .error e => (if grown.namesDirectory p then .ok () else .error e, grown)
    | .error e => (if t.namesDirectory p then .ok () else .error e, t)

def createDirectories (t : FileTree) (now : Time) (p : Path) (faults : Faults := .none) :
    Except FileError Unit × FileTree :=
  t.createInnermost now faults p.ancestors

def longestUsed (t : FileTree) : Nat :=
  t.entries.foldr (fun e n => max ((e.1.head?.getD "").length) n) 0

/-- A name that no file of the tree has, longer than so many characters. -/
def freshName (t : FileTree) (reserved : Nat) : String :=
  String.ofList ('.' :: 't' :: 'm' :: 'p' :: List.replicate (max t.longestUsed reserved) 'x')

/-- Put a new, empty file into a directory, with a name that is not in use and longer than so many
characters; the answer is its location. -/
def createFile (t : FileTree) (now : Time) (reserved : Nat) (dir : Path) (faults : Faults := .none) :
    Except FileError (Location × FileTree) := do
  unlessRefused (faults.createFile t dir)
  let l ← t.locate dir
  if t.isDirectory l then
    let created := t.freshName reserved :: l
    .ok (created, t.set created (.file .empty (.new now)))
  else .error .notDirectory

/-- Write the contents of a new file, which is on its way to a path. -/
def fill (t : FileTree) (now : Time) (l : Location) (contents : ByteArray) (p : Path)
    (faults : Faults := .none) : Except FileError Unit × FileTree :=
  match faults.write t p with
  | some (count, e) => (.error e, t.set l (.file (contents.extract 0 count) (.new now)))
  | none => (.ok (), t.set l (.file contents (.new now)))

/-- Move the file at a location to a path and replace the file that is there. -/
def replaceWith (t : FileTree) (source : Location) (p : Path) (faults : Faults := .none) :
    Except FileError (Location × FileTree) := do
  if '\x00' ∈ p.text.toList then throw .invalidArgument
  unlessRefused (faults.rename t p)
  match ← t.target p with
  | .fixed => .error .busy
  | .entry l slash =>
    if slash then .error .notDirectory
    else if t.isDirectory l then .error .isDirectory
    else
      match t.get? source with
      | none => .error .notFound
      | some n => .ok (l, (t.erase source).set l n)

def removeFile (t : FileTree) (p : Path) (faults : Faults := .none) :
    Except FileError FileTree := do
  unlessRefused (faults.remove t p)
  match ← t.target p with
  | .fixed => .error .isDirectory
  | .entry l slash =>
    match t.get? l with
    | none => .error .notFound
    | some (.directory _) => .error .isDirectory
    | some (.file _ _) => if slash then .error .notDirectory else .ok (t.erase l)

def writeFile (t : FileTree) (now : Time) (p : Path) (contents : ByteArray) :
    Except FileError FileTree := do
  match ← t.target p with
  | .fixed => .error .isDirectory
  | .entry l slash =>
    if slash || t.isDirectory l then .error .isDirectory
    else .ok (t.set l (.file contents (.new now)))

def setModified (t : FileTree) (time : Time) (p : Path) : Except FileError FileTree := do
  let l ← t.locate p
  match t.get? l with
  | none => .error .notFound
  | some n =>
    .ok (if l = [] then { t with root := { t.root with modified := time } }
      else t.set l (n.touch time))

def removeAll (t : FileTree) (p : Path) : Except FileError FileTree := do
  match ← t.target p with
  | .fixed => .error .isDirectory
  | .entry l slash =>
    match t.get? l with
    | none => .error .notFound
    | some (.directory _) => .ok (t.eraseBelow l)
    | some (.file _ _) => if slash then .error .notDirectory else .ok (t.erase l)

theorem length_le_longestUsed {t : FileTree} {e : Location × Node} (h : e ∈ t.entries) :
    (e.1.head?.getD "").length ≤ t.longestUsed := by
  unfold longestUsed
  revert h
  induction t.entries with
  | nil => simp
  | cons a es ih =>
    intro h
    rcases List.mem_cons.1 h with rfl | h
    · exact Nat.le_max_left _ _
    · exact Nat.le_trans (ih h) (Nat.le_max_right _ _)

theorem length_freshName (t : FileTree) (reserved : Nat) :
    (t.freshName reserved).length = max t.longestUsed reserved + 4 := by
  rw [freshName, String.length_ofList]
  simp

theorem get?_freshName (t : FileTree) (reserved : Nat) (l : Location) :
    t.get? (t.freshName reserved :: l) = none := by
  simp only [get?, List.cons_ne_nil, if_false]
  rw [List.lookup_eq_none_iff]
  intro e he
  have hlen := length_le_longestUsed he
  simp only [ne_eq, bne_iff_ne]
  intro h
  rw [← h, List.head?_cons, Option.getD_some, length_freshName] at hlen
  omega

end DefFragments.FileTree
