import DefFragments.Config.Basic
import DefFragments.Failure
import DefFragments.FileTree.Walk

/-!
# Which files take part

The source directory is listed, and the files in it are selected by their names. The order in which a
directory lists its files is arbitrary, so every selection comes in ascending order of names.
-/

namespace DefFragments

/-! ### Ascending order -/

def insertOn {α : Type} (key : α → String) (a : α) : List α → List α
  | [] => [a]
  | b :: bs => if key b < key a then b :: insertOn key a bs else a :: b :: bs

/-- The elements in ascending order of their keys. Elements with the same key keep their order. -/
def sortOn {α : Type} (key : α → String) (l : List α) : List α :=
  l.foldr (insertOn key) []

/-- The elements without those that are equal to the one before them. -/
def dropRepeats {α : Type} [DecidableEq α] : List α → List α
  | [] => []
  | [a] => [a]
  | a :: b :: rest => if a = b then dropRepeats (b :: rest) else a :: dropRepeats (b :: rest)

namespace Config

/-! ### Selected files -/

def selects (c : Config) (extensions : List String) (name : String) : Bool :=
  !c.source.exclude.contains name &&
    match Path.extension? name with
    | none => false
    | some extension => extensions.contains extension

/-- Of the names in a directory, those that are text, that name files there and that these extensions
select, ascending. A name so long that its path cannot be followed names nothing. -/
def selectedNames (c : Config) (t : FileTree) (dir : Path) (extensions : List String)
    (names : List EntryName) : List String :=
  sortOn id ((names.filterMap EntryName.text?).filter fun name =>
    t.namesFile (dir.join ⟨name⟩) && c.selects extensions name)

/-- The files in the source directory that these extensions select. -/
def select (c : Config) (t : FileTree) (base : Path) (extensions : List String) :
    Except Failure (List Path) :=
  let dir := c.sourceDir base
  match t.list dir with
  | .error e => .error (.during (.readingDirectory dir) (.file e))
  | .ok names =>
    .ok ((c.selectedNames t dir extensions names).map fun name => dir.join ⟨name⟩)

def scanFiles (c : Config) (t : FileTree) (base : Path) : Except Failure (List Path) :=
  c.select t base c.source.scan

def dependFiles (c : Config) (t : FileTree) (base : Path) : Except Failure (List Path) :=
  c.select t base c.source.depends

def fileName (p : Path) : String :=
  p.fileName?.getD ""

/-- Every file that the fragments are made from or must be newer than. A file that is selected twice
is listed once: both occurrences have the same name, so they come to stand side by side. -/
def inputFiles (c : Config) (t : FileTree) (base : Path) : Except Failure (List Path) := do
  let depends ← c.dependFiles t base
  let scanned ← c.scanFiles t base
  return dropRepeats (sortOn fileName (depends ++ scanned))

end Config

end DefFragments
