import DefFragments.Failure
import DefFragments.NameSet
import DefFragments.Text.Lines

/-!
# Resolving a libraries fragment

A libraries fragment holds names between conditional lines. At a given release, the libraries to
link are the words of the text lines whose surrounding guards all hold, each once and in order.

Every guard is evaluated, also inside a block that does not hold.
-/

namespace DefFragments.Library

open Text

/-- What a line of a libraries fragment is, blanks around it removed. -/
inductive FragmentLine
  | opening (guard : List Char)
  | closing
  | otherDirective (line : List Char)
  | text (words : List (List Char))
  deriving DecidableEq

def FragmentLine.ofLine (line : List Char) : FragmentLine :=
  let line := trim line
  match stripPrefix? "#if ".toList line with
  | some guard => .opening (trim guard)
  | none =>
    if line = "#endif".toList then .closing
    else if startsWith ['#'] line then .otherDirective line
    else .text (words line)

/-- The words of the active text lines from line `n` on, inside blocks with the given values, the
innermost first. -/
def activeWords (symbol : List Char) (release : Nat) :
    Nat → List Bool → List (List Char) → Except Failure (List (List Char))
  | _, [], [] => .ok []
  | _, b :: active, [] =>
    .error (.during .fragment (.nesting (.unterminated (b :: active).length)))
  | n, active, line :: rest =>
    match FragmentLine.ofLine line with
    | .opening guard =>
      match evaluate symbol release guard with
      | .error e => .error (.during (.fragmentLine n) (.guard e))
      | .ok value => activeWords symbol release (n + 1) (value :: active) rest
    | .closing =>
      match active with
      | [] => .error (.during (.fragmentLine n) (.nesting .unbalanced))
      | _ :: around => activeWords symbol release (n + 1) around rest
    | .otherDirective line =>
      .error (.during (.fragmentLine n) (.guard (.invalid (String.ofList line))))
    | .text ws =>
      (activeWords symbol release (n + 1) active rest).map fun more =>
        if active.all id then ws ++ more else more

def resolve (fragment versionSymbol : String) (release : Nat) : Except Failure (List String) :=
  (activeWords versionSymbol.toList release 1 [] (lines fragment.toList)).map fun ws =>
    nameSet (ws.map String.ofList)

end DefFragments.Library
