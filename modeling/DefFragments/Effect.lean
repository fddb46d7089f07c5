import DefFragments.Failure
import DefFragments.FileTree.Basic
import DefFragments.Log.Event

/-!
# Effects on a file tree

What an operation leaves behind: the file tree, the events it reported, and its result. A failed
operation leaves a tree and events, too.
-/

namespace DefFragments

structure Effect (α : Type) where
  tree : FileTree
  events : List Log.Event
  result : Except Failure α

namespace Effect

def done {α : Type} (t : FileTree) (a : α) : Effect α := ⟨t, [], .ok a⟩

def failed {α : Type} (t : FileTree) (f : Failure) : Effect α := ⟨t, [], .error f⟩

/-- An operation that reports events before the rest of it. -/
def report {α : Type} (events : List Log.Event) (e : Effect α) : Effect α :=
  { e with events := events ++ e.events }

/-- An operation that goes on with the tree and the result of another one. A failure ends both. -/
def andThen {α β : Type} (e : Effect α) (next : FileTree → α → Effect β) : Effect β :=
  match e.result with
  | .error f => ⟨e.tree, e.events, .error f⟩
  | .ok a => (next e.tree a).report e.events

end Effect

end DefFragments
