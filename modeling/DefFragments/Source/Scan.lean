import DefFragments.Failure
import DefFragments.Fragment.Entry
import DefFragments.Marker.Line
import DefFragments.Text.Lines

/-!
# Scanning a source

A source is scanned line by line. A line first changes the stack of conditional blocks, then its
markers are read and found under the combined guard. The first line that fails ends the scan; what
was found before it stays found.
-/

namespace DefFragments

structure Finding where
  line : Nat
  announcement : Announcement
  guard : String
  deriving DecidableEq, Inhabited

def Finding.entry (f : Finding) : Entry :=
  ⟨f.announcement, f.guard⟩

/-- What a scan has found, and why it ended early if it did. -/
structure Scan where
  findings : List Finding
  failure? : Option Failure
  deriving DecidableEq, Inhabited

namespace Scan

def prepend (findings : List Finding) (s : Scan) : Scan :=
  ⟨findings ++ s.findings, s.failure?⟩

def count (s : Scan) : Except Failure Nat :=
  match s.failure? with
  | none => .ok s.findings.length
  | some f => .error f

/-- Scan lines, the first of them with the given number, inside the given blocks. -/
def ofLines (markers : Markers) (file : String) :
    Nat → Conditional.Stack → List (List Char) → Scan
  | _, stack, [] =>
    match stack.finish with
    | .error e => ⟨[], some (.during (.endOfSource file) (.nesting e))⟩
    | .ok () => ⟨[], none⟩
  | n, stack, line :: rest =>
    match stack.update markers.versionSymbol.toList line with
    | (.error e, _) => ⟨[], some (.during (.sourceLine file n) (.nesting e))⟩
    | (.ok (), stack) =>
      match Marker.announcements markers line with
      | .error e => ⟨[], some (.during (.marker file n) (.marker e))⟩
      | .ok found =>
        prepend (found.map fun a => ⟨n, a, stack.combinedGuard⟩)
          (ofLines markers file (n + 1) stack rest)

def ofText (markers : Markers) (file text : String) : Scan :=
  ofLines markers file 1 .empty (Text.lines text.toList)

end Scan

end DefFragments
