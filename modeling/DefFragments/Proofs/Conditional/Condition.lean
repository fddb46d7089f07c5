import DefFragments.Text.Affix
import DefFragments.Text.Blank
import DefFragments.Text.Number

/-!
# Conditions as the C preprocessor reads them

The value of the condition of an `#if` line: its tokens, a parenthesis replaced by its value when it
closes, and what is left evaluated by operator precedence. Numbers, names, comparisons, negations
and the two logical operators are read; a guard that the fragments repeat needs nothing else.
-/

namespace DefFragments.Preprocessor
open Text

/-! ### Tokens -/

inductive Sign
  | not | less | lessOrEqual | greater | greaterOrEqual | equal | notEqual | and | or
  deriving DecidableEq

inductive Token
  | word (w : List Char)
  | sign (s : Sign)
  | left
  | right
  | other
  deriving DecidableEq

/-- The tokens that are spelled in one way, the longer ones first. -/
def punctuators : List (List Char × Token) :=
  [(['&', '&'], .sign .and), (['|', '|'], .sign .or), (['<', '='], .sign .lessOrEqual),
    (['>', '='], .sign .greaterOrEqual), (['=', '='], .sign .equal), (['!', '='], .sign .notEqual),
    (['<'], .sign .less), (['>'], .sign .greater), (['!'], .sign .not), (['('], .left),
    ([')'], .right)]

/-- The longest token at the front of a text, and its length. -/
def frontToken (s : List Char) : Token × Nat :=
  match punctuators.find? fun e => startsWith e.1 s with
  | some e => (e.2, e.1.length)
  | none =>
    let w := s.takeWhile isNameChar
    if w = [] then (.other, 1) else (.word w, w.length)

/-- The tokens of a text whose first `skipped` characters belong to a token already read. -/
def tokensFrom : (skipped : Nat) → List Char → List Token
  | _, [] => []
  | n + 1, _ :: s => tokensFrom n s
  | 0, c :: s =>
    if isBlank c then tokensFrom 0 s
    else (frontToken (c :: s)).1 :: tokensFrom ((frontToken (c :: s)).2 - 1) s

def tokens (s : List Char) : List Token :=
  tokensFrom 0 s

/-! ### Precedence -/

/-- A token of a condition without parentheses. -/
inductive Atom
  | number (n : Nat)
  | sign (s : Sign)
  deriving DecidableEq

def truth (b : Bool) : Nat :=
  if b then 1 else 0

def Sign.apply : Sign → Nat → Nat → Nat
  | .not, _, _ => 0
  | .less, a, b => truth (a < b)
  | .lessOrEqual, a, b => truth (a ≤ b)
  | .greater, a, b => truth (b < a)
  | .greaterOrEqual, a, b => truth (b ≤ a)
  | .equal, a, b => truth (a == b)
  | .notEqual, a, b => truth (a != b)
  | .and, a, b => truth (a != 0 && b != 0)
  | .or, a, b => truth (a != 0 || b != 0)

/-- The first operand of a chain of these operators, and the other operands, each with the operator
in front of it. -/
def operands (ops : List Sign) : List Atom → List Atom × List (Sign × List Atom)
  | [] => ([], [])
  | .number n :: as => (.number n :: (operands ops as).1, (operands ops as).2)
  | .sign s :: as =>
    if s ∈ ops then ([], (s, (operands ops as).1) :: (operands ops as).2)
    else (.sign s :: (operands ops as).1, (operands ops as).2)

/-- The value of the rest of a chain, from left to right. -/
def chain (operand? : List Atom → Option Nat) : Nat → List (Sign × List Atom) → Option Nat
  | n, [] => some n
  | n, (s, as) :: rest => (operand? as).bind fun m => chain operand? (s.apply n m) rest

/-- The value of a chain of operators of one precedence. -/
def level? (ops : List Sign) (operand? : List Atom → Option Nat) (as : List Atom) : Option Nat :=
  (operand? (operands ops as).1).bind fun n => chain operand? n (operands ops as).2

def unary? : List Atom → Option Nat
  | [.number n] => some n
  | .sign .not :: as => (unary? as).map fun n => truth (n == 0)
  | _ => none

def relation? : List Atom → Option Nat :=
  level? [.less, .lessOrEqual, .greater, .greaterOrEqual] unary?

def equality? : List Atom → Option Nat :=
  level? [.equal, .notEqual] relation?

def conjunction? : List Atom → Option Nat :=
  level? [.and] equality?

def value? : List Atom → Option Nat :=
  level? [.or] conjunction?

/-! ### Conditions -/

/-- What the preprocessor knows beyond the source: the release that the version symbol stands for,
what digits mean, and which names are defined. -/
structure Platform where
  release : Nat
  number : List Char → Nat
  number_toString : ∀ n : Nat, number (toString n).toList = n
  defined : List Char → Bool

def Platform.decimal (release : Nat) (defined : List Char → Bool) : Platform where
  release := release
  number := decimalValue
  number_toString := fun n => by
    have hvalue := Nat.ofDigitChars_toDigits (by decide : 1 < 10) (by decide : 10 ≤ 10) (n := n)
    rwa [← Nat.toList_repr] at hvalue
  defined := defined

/-- The value of a word. A name that is not known has the value zero. -/
def wordValue? (p : Platform) (symbol w : List Char) : Option Nat :=
  if w.all isDigit then some (p.number w)
  else if isIdentifier w then some (if w = symbol then p.release else 0)
  else none

/-- The value of tokens, behind what was read inside the open parentheses, the innermost first. -/
def evaluate? (p : Platform) (symbol : List Char) :
    List Token → (around : List (List Atom)) → (inside : List Atom) → Option Nat
  | [], [], as => value? as
  | [], _ :: _, _ => none
  | .left :: ts, around, as => evaluate? p symbol ts (as :: around) []
  | .right :: _, [], _ => none
  | .right :: ts, outer :: around, as =>
    (value? as).bind fun n => evaluate? p symbol ts around (outer ++ [.number n])
  | .word w :: ts, around, as =>
    (wordValue? p symbol w).bind fun n => evaluate? p symbol ts around (as ++ [.number n])
  | .sign s :: ts, around, as => evaluate? p symbol ts around (as ++ [.sign s])
  | .other :: _, _, _ => none

/-- The condition has a value other than zero. -/
def holds (p : Platform) (symbol condition : List Char) : Bool :=
  (evaluate? p symbol (tokens condition) [] []).any (· != 0)

end DefFragments.Preprocessor
