import DefFragments.Text.Alphanumeric
import DefFragments.Text.Blank
import DefFragments.Text.Number

/-!
# Patterns

A log filter may ask for a value that matches a pattern, and a text that is no pattern spoils the
filter. No event of this program is subject to such a condition, so nothing is ever matched;
`isPattern` tests whether a text is a pattern.

A pattern is a sequence of parts, and alternatives stand between bars. A part is a character, a
class of characters, a place in the text, or a group, and may be repeated. The pattern of a filter
holds no comma, no equals sign and no closing brace, so nothing is read here that needs one of them.
Borders of words are known for bytes only: patterns are matched byte by byte, which does not tell
where a word of other characters ends.
-/

namespace DefFragments.Log.Pattern

open Text

/-! ### Modes -/

structure Mode where
  /-- Blanks between the parts mean nothing, and a number sign begins a comment. -/
  spaced : Bool := false
  /-- The classes are those of Unicode. Otherwise they are classes of bytes, and none may hold a
  byte beyond ASCII. -/
  unicode : Bool := true

/-- What follows blanks and comments. The flag tells whether a comment is being skipped. -/
def skipSpace : Bool → List Char → List Char
  | _, [] => []
  | false, c :: s =>
    if isBlank c then skipSpace false s
    else if c = '#' then skipSpace true s
    else c :: s
  | true, c :: s => skipSpace (c != '\n') s

def Mode.skip (m : Mode) (s : List Char) : List Char :=
  if m.spaced then skipSpace false s else s

def flagNames : List Char := ['i', 'm', 's', 'U', 'u', 'R', 'x']

/-- A list of flags: none is named twice, and a minus stands before those that are unset. -/
def areFlags (flags : List Char) : Bool :=
  flags.all (fun c => flagNames.contains c || c == '-') && decide flags.Nodup
    && flags.getLast? != some '-'

def Mode.set (m : Mode) (flags : List Char) : Mode :=
  let on := flags.takeWhile (· != '-')
  let off := flags.dropWhile (· != '-')
  { spaced := (m.spaced || on.contains 'x') && !off.contains 'x'
    unicode := (m.unicode || on.contains 'u') && !off.contains 'u' }

/-! ### Characters and classes -/

/-- What is no group and no set. -/
inductive Atom
  /-- A character; the flag tells whether two digits give its number. -/
  | character (c : Char) (byByte : Bool)
  | charClass (negated : Bool)
  | category
  | wordBorder
  | textEnd

def Atom.fits (m : Mode) : Atom → Bool
  | .character c byByte => m.unicode || !byByte || c.toNat < 0x80
  | .charClass negated => m.unicode || !negated
  | .category => m.unicode
  | .wordBorder => !m.unicode
  | .textEnd => true

def Atom.fitsSet (m : Mode) : Atom → Bool
  | .character c _ => m.unicode || c.toNat < 0x80
  | .charClass negated => m.unicode || !negated
  | .category => m.unicode
  | .wordBorder => false
  | .textEnd => false

def hexRun (m : Mode) : Nat → Nat → List Char → Option (Nat × List Char)
  | 0, n, s => some (n, s)
  | _ + 1, _, [] => none
  | k + 1, n, c :: s => do
    let d ← hexValue? c
    hexRun m k (16 * n + d) (m.skip s)

def byNumber? (m : Mode) (digits : Nat) (s : List Char) : Option (Atom × List Char) := do
  let (n, s) ← hexRun m digits 0 (m.skip s)
  if n.isValidChar then some (.character (Char.ofNat n) (digits == 2), s) else none

def categoryLetters : List Char := ['c', 'l', 'm', 'n', 'p', 's', 'z']

def category? (m : Mode) (s : List Char) : Option (Atom × List Char) :=
  match m.skip s with
  | [] => none
  | c :: s => if categoryLetters.contains c.toLower then some (.category, m.skip s) else none

def escapeLetters : List (Char × Atom) :=
  [('d', .charClass false), ('s', .charClass false), ('w', .charClass false),
    ('D', .charClass true), ('S', .charClass true), ('W', .charClass true),
    ('a', .character '\x07' false), ('f', .character '\x0c' false), ('t', .character '\t' false),
    ('n', .character '\n' false), ('r', .character '\r' false), ('v', .character '\x0b' false),
    ('A', .textEnd), ('z', .textEnd),
    ('b', .wordBorder), ('B', .wordBorder), ('<', .wordBorder), ('>', .wordBorder)]

/-- Read what follows a backslash. An ASCII character that is no letter and no digit stands for
itself. -/
def escape? (m : Mode) : List Char → Option (Atom × List Char)
  | [] => none
  | c :: s =>
    if c = 'x' then byNumber? m 2 s
    else if c = 'u' then byNumber? m 4 s
    else if c = 'U' then byNumber? m 8 s
    else if c = 'p' ∨ c = 'P' then category? m s
    else match escapeLetters.lookup c with
      | some atom => some (atom, s)
      | none =>
        if c.toNat < 0x80 && !isLetter c && !isDigit c then some (.character c false, s) else none

/-! ### Depth -/

def maxDepth : Nat := 250

/-- The depth of what consists of parts that have these depths. A single part is no level of its
own. -/
def joinDepth : List Nat → Nat
  | [] => 0
  | [d] => d
  | ds => ds.foldl max 0 + 1

/-! ### Sets -/

def setAtom? (m : Mode) : List Char → Option (Atom × List Char)
  | [] => none
  | c :: s => if c = '\\' then escape? m s else some (.character c false, s)

def areEnds : Atom → Atom → Bool
  | .character c _, .character d _ => c ≤ d
  | _, _ => false

/-- The character that decides what a minus means. Of a comment before it only the sign is skipped,
with the blanks behind it. -/
def afterMinus (m : Mode) (s : List Char) : Option Char :=
  if m.spaced then
    match dropBlanks s with
    | '#' :: s => (dropBlanks s).head?
    | s => s.head?
  else s.head?

/-- Read an atom of a set or a range. A minus means a range unless the set ends behind it or another
minus follows. -/
def setRange? (m : Mode) (s : List Char) : Option (List Char) := do
  let (a, s) ← setAtom? m s
  if !a.fitsSet m then none
  else match m.skip s with
    | [] => none
    | c :: s =>
      if c ≠ '-' ∨ afterMinus m s = some ']' ∨ afterMinus m s = some '-' then some (c :: s)
      else
        let (b, s) ← setAtom? m (m.skip s)
        if b.fitsSet m && areEnds a b then some s else none

def asciiClasses : List String :=
  ["alnum", "alpha", "ascii", "blank", "cntrl", "digit", "graph", "lower", "print", "punct",
    "space", "upper", "word", "xdigit"]

/-- Read a named class after its opening bracket; the flag tells whether what is outside is
meant. -/
def asciiClass? (s : List Char) : Option (Bool × List Char) := do
  let s ← stripPrefix? [':'] s
  let negated := s.head? == some '^'
  let s := if negated then s.drop 1 else s
  let name := s.takeWhile (· != ':')
  let s ← stripPrefix? [':', ']'] (s.dropWhile (· != ':'))
  if asciiClasses.contains (String.ofList name) then some (negated, s) else none

/-- Count the minuses at the front of a set, and give what follows them. The flag tells whether a
comment is being skipped. -/
def leadingMinuses (m : Mode) : Bool → List Char → Nat × List Char
  | _, [] => (0, [])
  | false, c :: s =>
    if c = '-' then
      let (n, s) := leadingMinuses m false s
      (n + 1, s)
    else if m.spaced && isBlank c then leadingMinuses m false s
    else if m.spaced && c == '#' then leadingMinuses m true s
    else (0, c :: s)
  | true, c :: s => leadingMinuses m (c != '\n') s

/-- Read the front of a set after its opening bracket, and give the depths of its first items:
minuses, or a closing bracket, which stands for itself there. -/
def setFront? (m : Mode) (s : List Char) : Option (List Nat × List Char) :=
  let s := m.skip s
  let negated := s.head? == some '^'
  let (n, s) := leadingMinuses m false (if negated then s.drop 1 else s)
  if negated && !m.unicode then none
  else if n = 0 ∧ s.head? = some ']' then some ([0], s.drop 1)
  else some (List.replicate n 0, s)

def operandDepth (before? : Option Nat) (items : List Nat) : Nat :=
  match before? with
  | none => joinDepth items
  | some d => max d (joinDepth items) + 1

/-- A character that is a set operator when it stands twice. -/
def isOperator (c : Char) : Bool :=
  c == '&' || c == '-' || c == '~'

/-- Read a set to its closing bracket, after the items so far, and give its depth. -/
def set? (m : Mode) : Nat → Option Nat → List Nat → List Char → Option (Nat × List Char)
  | 0, _, _, _ => none
  | n + 1, before?, items, s =>
    let s := m.skip s
    match s with
    | [] => none
    | c :: rest =>
      if isOperator c ∧ rest.head? = some c then
        set? m n (some (operandDepth before? items)) [] (rest.drop 1)
      else if c = ']' then some (operandDepth before? items + 1, rest)
      else if c = '[' then
        match asciiClass? rest with
        | some (negated, rest) =>
          if negated && !m.unicode then none else set? m n before? (0 :: items) rest
        | none => do
          let (front, rest) ← setFront? m rest
          let (d, rest) ← set? m n none front rest
          set? m n before? (d :: items) rest
      else do
        let rest ← setRange? m s
        set? m n before? (0 :: items) rest

/-! ### Groups -/

inductive GroupFront
  /-- Nothing: flags are set for what follows. -/
  | flags (m : Mode)
  /-- A group with a mode of its own, perhaps with a name. -/
  | group (m : Mode) (name? : Option (List Char))

/-- The name of a group: a letter or a low line first, then also numerals, points and brackets. -/
def isGroupName : List Char → Bool
  | [] => false
  | c :: s =>
    (isAlphabetic c || c == '_')
      && s.all fun c => isAlphanumeric c || c == '_' || c == '.' || c == '[' || c == ']'

def groupName? (m : Mode) (s : List Char) : Option (GroupFront × List Char) := do
  let name := s.takeWhile (· != '>')
  let s ← stripPrefix? ['>'] (s.dropWhile (· != '>'))
  if isGroupName name then some (.group m (some name), s) else none

def endsFlags (c : Char) : Bool :=
  c == ':' || c == ')'

def groupFlags? (m : Mode) (s : List Char) : Option (GroupFront × List Char) :=
  let flags := s.takeWhile (!endsFlags ·)
  if !areFlags flags then none
  else match s.dropWhile (!endsFlags ·) with
    | [] => none
    | c :: s =>
      if c = ':' then some (.group (m.set flags) none, s)
      else if flags = [] then none
      else some (.flags (m.set flags), s)

def groupFront? (m : Mode) (s : List Char) : Option (GroupFront × List Char) :=
  let s := m.skip s
  match stripPrefix? ['?'] s with
  | none => some (.group m none, s)
  | some s =>
    match (stripPrefix? ['P', '<'] s).or (stripPrefix? ['<'] s) with
    | some s => groupName? m s
    | none => groupFlags? m s

/-! ### Alternatives -/

def single? (m : Mode) (c : Char) (s : List Char) : Option (List Char) :=
  if c = '\\' then
    match escape? m s with
    | some (atom, s) => if atom.fits m then some s else none
    | none => none
  else if c = '.' ∧ !m.unicode then none
  else if c = '\x7b' then none
  else some s

/-- Read alternatives to the end of the text or to a closing parenthesis that is not theirs, and
give their depth. Given are the names of the groups so far, the depths of the parts since the last
bar, where flags are no parts that could be repeated, and the depths of the alternatives before
it. -/
def alternatives? : Nat → Mode → List (List Char) → List (Option Nat) → List Nat → List Char →
    Option (Nat × List (List Char) × List Char)
  | 0, _, _, _, _, _ => none
  | n + 1, m, names, parts, before, s =>
    let depths := joinDepth (parts.map (·.getD 0)) :: before
    match m.skip s with
    | [] => some (joinDepth depths, names, [])
    | c :: s =>
      if c = ')' then some (joinDepth depths, names, c :: s)
      else if c = '|' then alternatives? n m names [] depths s
      else if c = '(' then do
        match ← groupFront? m s with
        | (.flags m, s) => alternatives? n m names (none :: parts) before s
        | (.group inner name?, s) =>
          if name?.any names.contains then none
          else
            let (d, names, s) ← alternatives? n inner (name?.toList ++ names) [] [] s
            let s ← stripPrefix? [')'] s
            alternatives? n m names (some (d + 1) :: parts) before s
      else if c = '[' then do
        let (front, s) ← setFront? m s
        let (d, s) ← set? m n none front s
        alternatives? n m names (some d :: parts) before s
      else if c = '?' ∨ c = '*' ∨ c = '+' then
        match parts with
        | some d :: parts =>
          alternatives? n m names (some (d + 1) :: parts) before ((stripPrefix? ['?'] s).getD s)
        | _ => none
      else do
        let s ← single? m c s
        alternatives? n m names (some 0 :: parts) before s

/-- A text is a pattern, if it holds no comma, equals sign or closing brace. -/
def isPattern (s : List Char) : Bool :=
  match alternatives? (s.length + 1) {} [] [] [] s with
  | some (d, _, []) => d ≤ maxDepth
  | _ => false

end DefFragments.Log.Pattern
