import DefFragments.Toml.Quoted

/-!
# TOML documents

A document is a sequence of statements, each on lines of its own: a header that selects a table, or
a key with a value for the selected table. Inside an array or an inline table line ends and comments
are as good as blanks, except within a key. The readers take text from the front and give what they
read and what follows; they fail where the text is no TOML.

Arrays and inline tables nest to a bounded depth, which also bounds the recursion. Loops over items
and statements are bounded by the length of the text, since each round takes a character at least.
-/

namespace DefFragments.Toml

open Text

def maxDepth : Nat := 80

def maxKeyParts : Nat := 80

def skipGaps (s : List Char) : Option (List Char) :=
  some (s.dropWhile isGap)

/-- Skip blanks, line ends and comments. The flag tells whether a comment is being skipped. -/
def skipLines : Bool → List Char → Option (List Char)
  | _, [] => some []
  | false, c :: s =>
    if isGap c || c == '\n' then skipLines false s
    else if c == '\r' && s.head? == some '\n' then skipLines false s
    else if c == '#' then skipLines true s
    else some (c :: s)
  | true, c :: s =>
    if c == '\n' then skipLines false s
    else if isPlain c || (c == '\r' && s.head? == some '\n') then skipLines true s
    else none

def endLine? (s : List Char) : Option (List Char) :=
  let s := s.dropWhile isGap
  let s := if startsWith ['#'] s then s.dropWhile isPlain else s
  if s = [] then some [] else (stripPrefix? ['\n'] s).or (stripPrefix? ['\r', '\n'] s)

/-! ### Keys -/

def isKeyChar (c : Char) : Bool :=
  isNameChar c || c == '-'

def keyPart? (s : List Char) : Option (String × List Char) :=
  match s with
  | '"' :: rest => (basic false .plain rest).map fun p => (String.ofList p.1, p.2)
  | _ =>
    if s.head? = some singleQuote then
      (literal false (s.drop 1)).map fun p => (String.ofList p.1, p.2)
    else
      let part := s.takeWhile isKeyChar
      if part = [] then none else some (String.ofList part, s.dropWhile isKeyChar)

def keyUpTo : Nat → List Char → Option (List String × List Char)
  | 0, _ => none
  | n + 1, s => do
    let (part, s) ← keyPart? (s.dropWhile isGap)
    match s.dropWhile isGap with
    | '.' :: s => (keyUpTo n s).map fun p => (part :: p.1, p.2)
    | s => some ([part], s)

/-- Read a key: the parts before the last, and the last. -/
def key? (s : List Char) : Option (List String × String × List Char) := do
  let (parts, s) ← keyUpTo maxKeyParts s
  let last ← parts.getLast?
  some (parts.dropLast, last, s)

/-! ### Values -/

def items (value : List Char → Option (Value × List Char)) :
    Nat → List Char → Option (List Value × List Char)
  | 0, _ => none
  | n + 1, s => do
    match ← skipLines false s with
    | ']' :: s => some ([], s)
    | s =>
      let (v, s) ← value s
      match ← skipLines false s with
      | ',' :: s => (items value n s).map fun p => (v :: p.1, p.2)
      | ']' :: s => some ([v], s)
      | _ => none

/-- Read a key, the equals sign and the value, with what `skip` skips before the sign and after. -/
def pair? (skip : List Char → Option (List Char))
    (value : List Char → Option (Value × List Char)) (s : List Char) :
    Option ((List String × String × Value) × List Char) := do
  let (path, key, s) ← key? s
  let s ← stripPrefix? ['='] (← skip s)
  let (v, s) ← value (← skip s)
  some ((path, key, v), s)

def pairs (value : List Char → Option (Value × List Char)) :
    Nat → Table → List Char → Option (Table × List Char)
  | 0, _, _ => none
  | n + 1, t, s => do
    match ← skipLines false s with
    | '\x7d' :: s => some (t, s)
    | s =>
      let ((path, key, v), s) ← pair? (skipLines false) value s
      let t ← Table.insertDotted key v path t
      match ← skipLines false s with
      | ',' :: s => pairs value n t s
      | '\x7d' :: s => some (t, s)
      | _ => none

/-- Read a value in which arrays and inline tables nest at most so deep. -/
def value : Nat → List Char → Option (Value × List Char)
  | depth, s =>
    match s with
    | [] => none
    | c :: rest =>
      if c = '"' ∨ c = singleQuote then
        (quoted? s).map fun p => (.string (String.ofList p.1), p.2)
      else if c = '[' then
        match depth with
        | 0 => none
        | depth + 1 =>
          (items (value depth) (rest.length + 1) rest).map fun p => (.array false p.1, p.2)
      else if c = '\x7b' then
        match depth with
        | 0 => none
        | depth + 1 =>
          (pairs (value depth) (rest.length + 1) [] rest).map fun p => (.table .inlined p.1, p.2)
      else
        let (text, s) := bareText s
        (ofBare? text).map fun v => (v, s)

/-! ### Statements -/

/-- Read the rest of a header after its opening brackets: the path to its table, and how the table
is entered there. -/
def header? (closing : List Char) (enter : String → Table → Option Table) (root : Table)
    (s : List Char) : Option ((Table × List String) × List Char) := do
  let (path, key, s) ← key? s
  let s ← stripPrefix? closing s
  let root ← Table.modifyAt (enter key) path root
  some ((root, path ++ [key]), s)

/-- Read one statement at its first character: the document so far and the selected table change. -/
def statement? (root : Table) (selected : List String) (s : List Char) :
    Option ((Table × List String) × List Char) :=
  match s with
  | '[' :: '[' :: s => header? [']', ']'] Table.append root s
  | '[' :: s => header? [']'] Table.define root s
  | s => do
    let ((path, key, v), s) ← pair? skipGaps (value maxDepth) s
    let root ← Table.modifyAt (Table.insertDotted key v path) selected root
    some ((root, selected), s)

def statements : Nat → Table → List String → List Char → Option Table
  | 0, _, _, _ => none
  | n + 1, root, selected, s => do
    match ← skipLines false s with
    | [] => some root
    | s =>
      let ((root, selected), s) ← statement? root selected s
      statements n root selected (← endLine? s)

/-- Read a document. A byte order mark before it is no part of it. -/
def ofText? (text : String) : Option Table :=
  let s := text.toList
  let s := (stripPrefix? ['\ufeff'] s).getD s
  statements (s.length + 1) [] [] s

end DefFragments.Toml
