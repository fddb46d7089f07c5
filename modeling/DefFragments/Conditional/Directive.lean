import DefFragments.Text.Blank
import DefFragments.Text.WordChar

/-!
# Conditional directives

The lines of a C source that open, divide and close conditional blocks, and the one kind of
condition that is followed: the version symbol compared with a number. Any other condition opens a
block whose condition is not tracked.
-/

namespace DefFragments.Conditional

open Text

/-- What a line does to the conditional blocks around it. -/
inductive Directive
  /-- Opens a block: `#if`, `#ifdef`, `#ifndef`. -/
  | opening
  /-- Turns to the alternative: `#else`. -/
  | alternative
  /-- Turns to an alternative with a condition of its own: `#elif`. -/
  | conditionalAlternative
  /-- Closes a block: `#endif`. -/
  | closing
  | none
  deriving DecidableEq, Inhabited

/-- What follows the number sign and its blanks on a line that begins with one. -/
def afterNumberSign? (line : List Char) : Option (List Char) :=
  (stripPrefix? ['#'] (dropBlanks line)).map dropBlanks

def startsWithWord (keyword s : List Char) : Bool :=
  match stripPrefix? keyword s with
  | none => false
  | some rest => atWordEnd rest

/-- The directive that a line begins with. What stands later on the line, in a comment for instance,
is ignored. -/
def classify (line : List Char) : Directive :=
  match afterNumberSign? line with
  | none => .none
  | some rest =>
    if startsWith "if".toList rest then .opening
    else if startsWith "endif".toList rest then .closing
    else if startsWithWord "elif".toList rest then .conditionalAlternative
    else if startsWithWord "else".toList rest then .alternative
    else .none

def isOperatorChar (c : Char) : Bool :=
  c == '<' || c == '>' || c == '='

/-- The comparison of the version symbol with a number at the front of a text, as it is spelled
there. -/
def comparison? (symbol s : List Char) : Option (List Char) := do
  let rest ← stripPrefix? symbol s
  let gap := rest.takeWhile isBlank
  let rest := rest.dropWhile isBlank
  let operator := rest.takeWhile isOperatorChar
  let rest := rest.dropWhile isOperatorChar
  let gap' := rest.takeWhile isBlank
  let digits := (rest.dropWhile isBlank).takeWhile isDigit
  if (operator.length = 1 ∨ operator.length = 2) ∧ digits ≠ [] then
    some (symbol ++ gap ++ operator ++ gap' ++ digits)
  else none

/-- The comparison after at least one blank. As many blanks as possible stand before it: this
decides where a version symbol that itself begins with blanks starts. -/
def comparisonAfterBlanks? (symbol : List Char) : List Char → Option (List Char)
  | [] => none
  | c :: s =>
    if isBlank c then (comparisonAfterBlanks? symbol s).or (comparison? symbol s) else none

def guard? (symbol line : List Char) : Option (List Char) := do
  let rest ← afterNumberSign? line
  let rest ← stripPrefix? "if".toList rest
  comparisonAfterBlanks? symbol rest

end DefFragments.Conditional
