import DefFragments.Time.Basic

/-!
# File trees

The files and directories below the root directory, as a finite map from locations to nodes. A
location is a name followed by the names of the directories around it, innermost first; the empty
location is the root itself, which always exists.

The root is also the working directory: relative and absolute paths start there, and two dots do not
lead out of it. A program that works further down is the case in which every relative path begins with
the way to its working directory.

There are no links in a tree. A link to a file stands in it as the file that it leads to, which is
what looking, reading and replacing see of it.
-/

namespace DefFragments

/-- Where a file or a directory is: its name, then the names of the directories around it, innermost
first. -/
abbrev Location := List String

/-- What a look at a file or a directory tells without opening it, and whether it can be opened. -/
structure Attributes where
  modified : Time
  readable : Bool
  deriving Inhabited, DecidableEq

/-- What this program creates it can also open. -/
def Attributes.new (now : Time) : Attributes := ⟨now, true⟩

inductive Node
  | file (contents : ByteArray) (attributes : Attributes)
  | directory (attributes : Attributes)
  deriving Inhabited

namespace Node

def attributes : Node → Attributes
  | .file _ a => a
  | .directory a => a

def modified (n : Node) : Time := n.attributes.modified

def isReadable (n : Node) : Bool := n.attributes.readable

def isFile : Node → Bool
  | .file _ _ => true
  | .directory _ => false

def isDirectory : Node → Bool
  | .file _ _ => false
  | .directory _ => true

def withAttributes (a : Attributes) : Node → Node
  | .file contents _ => .file contents a
  | .directory _ => .directory a

def touch (n : Node) (t : Time) : Node :=
  n.withAttributes { n.attributes with modified := t }

end Node

/-- A name that is no text: its bytes are not UTF-8. A directory lists it, but no path leads to it,
since every path is text. -/
structure ForeignName where
  bytes : ByteArray
  notText : String.fromUTF8? bytes = none

/-- A name as a directory lists it. -/
inductive EntryName
  | text (name : String)
  | foreign (name : ForeignName)

def EntryName.text? : EntryName → Option String
  | .text name => some name
  | .foreign _ => none

/-- The files and directories below the root. The entries come in the order in which a directory
lists them; every location has one node at most. -/
structure FileTree where
  entries : List (Location × Node)
  nodup : (entries.map Prod.fst).Nodup
  /-- The directories that have entries with foreign names, and these names. -/
  foreign : List (Location × ForeignName) := []
  root : Attributes := .new .epoch

namespace FileTree

def empty : FileTree where
  entries := []
  nodup := List.nodup_nil

instance : Inhabited FileTree := ⟨empty⟩

def get? (t : FileTree) (l : Location) : Option Node :=
  if l = [] then some (.directory t.root) else t.entries.lookup l

def contains (t : FileTree) (l : Location) : Bool :=
  (t.get? l).isSome

def isDirectory (t : FileTree) (l : Location) : Bool :=
  match t.get? l with
  | some n => n.isDirectory
  | none => false

def entriesWithout (t : FileTree) (l : Location) : List (Location × Node) :=
  t.entries.filter fun e => e.1 ≠ l

theorem nodup_entriesWithout (t : FileTree) (l : Location) :
    ((t.entriesWithout l).map Prod.fst).Nodup :=
  t.nodup.sublist (List.filter_sublist.map Prod.fst)

theorem not_mem_entriesWithout (t : FileTree) (l : Location) :
    l ∉ (t.entriesWithout l).map Prod.fst := by
  simp [entriesWithout]

def erase (t : FileTree) (l : Location) : FileTree :=
  { t with entries := t.entriesWithout l, nodup := t.nodup_entriesWithout l }

/-- The tree with a node at a location. The root itself stays. -/
def set (t : FileTree) (l : Location) (n : Node) : FileTree :=
  if l = [] then t
  else
    { t with
      entries := t.entriesWithout l ++ [(l, n)]
      nodup := by
        rw [List.map_append, List.nodup_append]
        refine ⟨t.nodup_entriesWithout l, by simp, ?_⟩
        intro a ha b hb
        simp only [List.map_cons, List.map_nil, List.mem_singleton] at hb
        subst hb
        intro hab
        exact t.not_mem_entriesWithout _ (hab ▸ ha) }

theorem lookup_filter_ne {l m : Location} (h : m ≠ l) (es : List (Location × Node)) :
    (es.filter fun e => e.1 ≠ l).lookup m = es.lookup m := by
  induction es with
  | nil => rfl
  | cons e es ih =>
    obtain ⟨k, n⟩ := e
    rw [List.filter_cons]
    by_cases hk : k = l
    · have hmk : (m == k) = false := by simpa [hk] using h
      rw [if_neg (by simpa using hk), ih, List.lookup_cons, hmk]
    · rw [if_pos (by simpa using hk), List.lookup_cons, List.lookup_cons, ih]

@[simp]
theorem get?_nil (t : FileTree) : t.get? [] = some (.directory t.root) := by
  simp [get?]

theorem get?_erase_self (t : FileTree) {l : Location} (h : l ≠ []) :
    (t.erase l).get? l = none := by
  simp only [get?, h, if_false, erase]
  rw [List.lookup_eq_none_iff]
  intro e he
  have : e.1 ≠ l := by simpa [entriesWithout] using (List.mem_filter.1 he).2
  simpa using fun hl => this hl.symm

theorem get?_erase_ne (t : FileTree) {l m : Location} (h : m ≠ l) :
    (t.erase l).get? m = t.get? m := by
  simp only [get?, erase, entriesWithout]
  rw [lookup_filter_ne h]

theorem get?_set_self (t : FileTree) {l : Location} (n : Node) (h : l ≠ []) :
    (t.set l n).get? l = some n := by
  have hnone : (t.entriesWithout l).lookup l = none := by
    rw [List.lookup_eq_none_iff]
    intro e he
    have : e.1 ≠ l := by simpa [entriesWithout] using (List.mem_filter.1 he).2
    simpa using fun hl => this hl.symm
  simp [get?, set, h, List.lookup_append, hnone]

theorem get?_set_ne (t : FileTree) {l m : Location} (n : Node) (h : m ≠ l) :
    (t.set l n).get? m = t.get? m := by
  by_cases hl : l = []
  · simp [set, hl]
  · have hml : (m == l) = false := by simpa using h
    have := lookup_filter_ne h t.entries
    simp only [get?, set, hl, if_false, entriesWithout, List.lookup_append, this]
    split
    · rfl
    · simp [List.lookup_cons, hml]

/-- The names in a directory that are text, in the order in which the directory lists them. -/
def children (t : FileTree) (dir : Location) : List String :=
  t.entries.filterMap fun e =>
    match e.1 with
    | [] => none
    | name :: around => if around = dir then some name else none

/-- The foreign names in a directory. -/
def foreignChildren (t : FileTree) (dir : Location) : List ForeignName :=
  t.foreign.filterMap fun e => if e.1 = dir then some e.2 else none

/-- The tree without what is at a location and below it. -/
def eraseBelow (t : FileTree) (l : Location) : FileTree :=
  { t with
    entries := t.entries.filter fun e => !l.isSuffixOf e.1
    nodup := t.nodup.sublist (List.filter_sublist.map Prod.fst)
    foreign := t.foreign.filter fun e => !l.isSuffixOf e.1 }

end FileTree

end DefFragments
