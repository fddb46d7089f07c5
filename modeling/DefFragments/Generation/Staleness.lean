import DefFragments.Failure
import DefFragments.FileTree.Walk
import DefFragments.Log.Event

/-!
# Staleness

Outputs are stale when one of them is missing or older than the newest input; then all of them are
generated again. An input whose age is unknown is a failure, an output whose age is unknown or that
cannot be opened is missing.
-/

namespace DefFragments

def modifiedTimes (t : FileTree) : List Path → Except Failure (List Time)
  | [] => .ok []
  | p :: ps =>
    match t.modified p with
    | .error e => .error (.during (.readingTime p) (.file e))
    | .ok m => (modifiedTimes t ps).map (m :: ·)

def newestTime (t : FileTree) (inputs : List Path) : Except Failure (Option Time) :=
  (modifiedTimes t inputs).map Time.latestOf?

def staleReason? (t : FileTree) (newest : Option Time) (output : Path) : Option Log.StaleReason :=
  match t.modified output with
  | .error _ => some .missing
  | .ok m =>
    match t.openForReading output with
    | .error _ => some .missing
    | .ok _ =>
      match newest with
      | none => none
      | some n => if m.isBefore n then some .outdated else none

inductive Staleness
  | fresh
  | stale (output : Path) (reason : Log.StaleReason)
  deriving DecidableEq

namespace Staleness

def against (t : FileTree) (newest : Option Time) : List Path → Staleness
  | [] => .fresh
  | p :: ps =>
    match staleReason? t newest p with
    | some reason => .stale p reason
    | none => against t newest ps

def check (t : FileTree) (inputs outputs : List Path) : Except Failure Staleness :=
  (newestTime t inputs).map fun newest => against t newest outputs

def events : Staleness → List Log.Event
  | .fresh => []
  | .stale output reason => [.stale output reason]

end Staleness

end DefFragments
