import DefFragments.Fragment.Entry

/-!
# The five fragments of a run

What a run has collected so far: the names of the sources and the entries, in the order in which
they were found. The text of a fragment is its header, if it has one, and the texts of what belongs
to it.
-/

namespace DefFragments

structure Fragments where
  markers : Markers
  stamp : String
  sources : List String
  entries : List Entry
  deriving DecidableEq, Inhabited

namespace Fragments

/-- A run that has collected nothing yet. -/
def start (markers : Markers) (stamp : String) : Fragments :=
  ⟨markers, stamp, [], []⟩

def sourceLine (name : String) : String :=
  "#include \"" ++ name ++ "\"\n"

def addSource (f : Fragments) (name : String) : Fragments :=
  { f with sources := f.sources ++ [name] }

def addEntries (f : Fragments) (entries : List Entry) : Fragments :=
  { f with entries := f.entries ++ entries }

def header (f : Fragments) (kind : FragmentKind) : String :=
  if kind.hasHeader then "/* Generated on " ++ f.stamp ++ " */\n" else ""

def body (f : Fragments) (kind : FragmentKind) : String :=
  match kind with
  | .sources => String.join (f.sources.map sourceLine)
  | _ => String.join ((f.entries.filter fun e => e.kind == kind).map (Entry.text f.markers))

def text (f : Fragments) (kind : FragmentKind) : String :=
  f.header kind ++ f.body kind

end Fragments

end DefFragments
