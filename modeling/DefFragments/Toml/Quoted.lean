import DefFragments.Text.Affix
import DefFragments.Toml.Scalar

/-!
# TOML strings

The four kinds of strings: in double quotes with escapes or in single quotes without, on one line
or, between three quotes each, on several. Every reader starts after the opening quotes and gives
the text and what follows the closing quotes.
-/

namespace DefFragments.Toml

open Text

/-- A character that may stand in a string or a comment: no control character but the tab. -/
def isPlain (c : Char) : Bool :=
  c == '\t' || (0x20 ≤ c.toNat && c.toNat != 0x7F)

def isGap (c : Char) : Bool :=
  c == ' ' || c == '\t'

def singleQuote : Char := Char.ofNat 0x27

def escaped? (c : Char) : Option Char :=
  if c = '"' then some '"'
  else if c = '\\' then some '\\'
  else if c = 'b' then some '\x08'
  else if c = 't' then some '\t'
  else if c = 'n' then some '\n'
  else if c = 'f' then some '\x0c'
  else if c = 'r' then some '\r'
  else if c = 'e' then some '\x1b'
  else none

def escapeLength? (c : Char) : Option Nat :=
  if c = 'x' then some 2
  else if c = 'u' then some 4
  else if c = 'U' then some 8
  else none

def scalar? (n : Nat) : Option Char :=
  if n < 0xD800 ∨ (0xDFFF < n ∧ n < 0x110000) then some (Char.ofNat n) else none

/-- Where a reader of a string with escapes stands. -/
inductive Mode
  | plain
  | escape
  /-- Inside an escape by number: so many digits are missing, and the value so far. -/
  | code (missing value : Nat)
  /-- In the blanks after a backslash at the end of a line: this character is skipped. -/
  | skip
  deriving DecidableEq

def isSkipped (c : Char) : Bool :=
  isGap c || c == '\n' || c == '\r'

def afterSkipped (s : List Char) : Mode :=
  match s with
  | c :: _ => if isSkipped c then .skip else .plain
  | [] => .plain

def atLineEnd (s : List Char) : Bool :=
  startsWith ['\n'] s || startsWith ['\r', '\n'] s

def putChar (c : Char) (r : Option (List Char × List Char)) : Option (List Char × List Char) :=
  r.map fun p => (c :: p.1, p.2)

/-- Read a string with escapes; `long` strings end at three quotes and may hold line ends, up to two
quotes directly before the closing ones, and backslashes at line ends. -/
def basic (long : Bool) : Mode → List Char → Option (List Char × List Char)
  | _, [] => none
  | .plain, c :: s =>
    if c = '"' then
      let quotes := 1 + (s.takeWhile (· == '"')).length
      if !long then some ([], s)
      else if 3 ≤ quotes then
        let kept := min quotes 5 - 3
        some (List.replicate kept '"', s.drop (kept + 2))
      else putChar c (basic long .plain s)
    else if c = '\\' then
      if long && atLineEnd (s.dropWhile isGap) then basic long .skip s
      else basic long .escape s
    else if isPlain c || (long && (c == '\n' || (c == '\r' && s.head? == some '\n'))) then
      putChar c (basic long .plain s)
    else none
  | .escape, c :: s =>
    match escaped? c with
    | some e => putChar e (basic long .plain s)
    | none =>
      match escapeLength? c with
      | some n => basic long (.code n 0) s
      | none => none
  | .code missing value, c :: s =>
    match hexValue? c with
    | none => none
    | some d =>
      let value := 16 * value + d
      if missing ≤ 1 then
        match scalar? value with
        | some e => putChar e (basic long .plain s)
        | none => none
      else basic long (.code (missing - 1) value) s
  | .skip, c :: s =>
    if c = '\r' ∧ s.head? ≠ some '\n' then none else basic long (afterSkipped s) s

def literal (long : Bool) : List Char → Option (List Char × List Char)
  | [] => none
  | c :: s =>
    if c = singleQuote then
      let quotes := 1 + (s.takeWhile (· == singleQuote)).length
      if !long then some ([], s)
      else if 3 ≤ quotes then
        let kept := min quotes 5 - 3
        some (List.replicate kept singleQuote, s.drop (kept + 2))
      else putChar c (literal long s)
    else if isPlain c || (long && (c == '\n' || (c == '\r' && s.head? == some '\n'))) then
      putChar c (literal long s)
    else none

/-- The text after a line end that directly follows the opening quotes of a long string. -/
def dropFirstLineEnd (s : List Char) : List Char :=
  ((stripPrefix? ['\n'] s).or (stripPrefix? ['\r', '\n'] s)).getD s

def quoted? (s : List Char) : Option (List Char × List Char) :=
  match stripPrefix? ['"', '"', '"'] s with
  | some s => basic true .plain (dropFirstLineEnd s)
  | none =>
    match stripPrefix? [singleQuote, singleQuote, singleQuote] s with
    | some s => literal true (dropFirstLineEnd s)
    | none =>
      match s with
      | '"' :: s => basic false .plain s
      | c :: s => if c = singleQuote then literal false s else none
      | [] => none

end DefFragments.Toml
