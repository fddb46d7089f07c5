import DefFragments.Text.Blank
import DefFragments.Text.Number

/-!
# Library guards

The condition of a block in a libraries fragment: a conjunction of comparisons of the version symbol
with a number, each possibly negated. Terms are checked from left to right only as far as the answer
needs them: after a term that does not hold, the rest is not looked at.
-/

namespace DefFragments.Library

open Text

inductive GuardError
  /-- A term of the guard is no comparison, or its number is too large. -/
  | invalid (guard : String)
  | unknownSymbol (symbol : String)
  deriving DecidableEq

def GuardError.message : GuardError → String
  | .invalid guard => "cannot evaluate guard `" ++ guard ++ "`"
  | .unknownSymbol symbol => "guard refers to unknown symbol `" ++ symbol ++ "`"

inductive Relation
  | less
  | lessOrEqual
  | greater
  | greaterOrEqual
  | equal
  | notEqual
  deriving DecidableEq

namespace Relation

/-- The relation that an operator spells. Besides the operators of C, a single `=` and the two
operators with the signs exchanged are understood. -/
def ofOperator? (operator : List Char) : Option Relation :=
  if operator = ['<'] then some .less
  else if operator = ['<', '='] ∨ operator = ['=', '<'] then some .lessOrEqual
  else if operator = ['>'] then some .greater
  else if operator = ['>', '='] ∨ operator = ['=', '>'] then some .greaterOrEqual
  else if operator = ['=', '='] ∨ operator = ['='] then some .equal
  else if operator = ['!', '='] then some .notEqual
  else none

def holds (r : Relation) (release number : Nat) : Bool :=
  match r with
  | .less => release < number
  | .lessOrEqual => release ≤ number
  | .greater => number < release
  | .greaterOrEqual => number ≤ release
  | .equal => release == number
  | .notEqual => release != number

end Relation

def isRelationChar (c : Char) : Bool :=
  c == '<' || c == '>' || c == '=' || c == '!'

/-- The symbol, the operator and the digits of a term that has the shape of a comparison. -/
def comparisonShape? (term : List Char) : Option (List Char × List Char × List Char) :=
  let symbol := term.takeWhile isNameChar
  let rest := dropBlanks (term.dropWhile isNameChar)
  let operator := rest.takeWhile isRelationChar
  let digits := dropBlanks (rest.dropWhile isRelationChar)
  if isIdentifier symbol ∧ (operator.length = 1 ∨ operator.length = 2) ∧ digits ≠ []
      ∧ digits.all isDigit then
    some (symbol, operator, digits)
  else none

/-- The value of a comparison. A foreign symbol is reported before a number that is too large and an
unknown operator. -/
def evaluateComparison (symbol guard : List Char) (release : Nat) (term : List Char) :
    Except GuardError Bool :=
  match comparisonShape? term with
  | none => .error (.invalid (String.ofList guard))
  | some (name, operator, digits) =>
    if name ≠ symbol then .error (.unknownSymbol (String.ofList name))
    else
      match readUnsigned digits, Relation.ofOperator? operator with
      | .ok number, some relation => .ok (relation.holds release number)
      | _, _ => .error (.invalid (String.ofList guard))

def negated? (term : List Char) : Option (List Char) :=
  (stripPrefix? ['!', '('] term).bind (stripSuffix? [')'])

/-- How many negations surround a term, up to a bound, and what they surround. -/
def peelUpTo : Nat → List Char → Nat × List Char
  | 0, term => (0, term)
  | n + 1, term =>
    match negated? term with
    | none => (0, term)
    | some inner =>
      let (count, core) := peelUpTo n (trim inner)
      (count + 1, core)

def peel (term : List Char) : Nat × List Char :=
  peelUpTo term.length term

/-- The value of a term: an odd number of negations turns the value of its comparison around. -/
def evaluateTerm (symbol guard : List Char) (release : Nat) (term : List Char) :
    Except GuardError Bool :=
  let (count, core) := peel term
  (evaluateComparison symbol guard release core).map fun value => value != (count % 2 == 1)

def terms : List Char → List (List Char)
  | [] => [[]]
  | '&' :: '&' :: s => [] :: terms s
  | c :: s =>
    match terms s with
    | [] => [[c]]
    | t :: ts => (c :: t) :: ts

def evaluateTerms (symbol guard : List Char) (release : Nat) :
    List (List Char) → Except GuardError Bool
  | [] => .ok true
  | term :: rest =>
    match evaluateTerm symbol guard release (trim term) with
    | .error e => .error e
    | .ok false => .ok false
    | .ok true => evaluateTerms symbol guard release rest

def evaluate (symbol : List Char) (release : Nat) (guard : List Char) : Except GuardError Bool :=
  evaluateTerms symbol guard release (terms guard)

end DefFragments.Library
