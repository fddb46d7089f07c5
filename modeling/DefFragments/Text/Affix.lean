/-!
# Literal beginnings and endings

A line grammar is read from left to right. It takes a literal off the front of the text, or the
longest run of a class of characters, and goes on with what is left.
-/

namespace DefFragments.Text

/-- What follows the literal `p` at the front of a text, if the text begins with it. -/
def stripPrefix? : (p s : List Char) → Option (List Char)
  | [], s => some s
  | _ :: _, [] => none
  | a :: p, c :: s => if a = c then stripPrefix? p s else none

@[simp]
theorem stripPrefix?_eq_some_iff {p s r : List Char} :
    stripPrefix? p s = some r ↔ s = p ++ r := by
  induction p generalizing s with
  | nil => simp [stripPrefix?]
  | cons a p ih =>
    cases s with
    | nil => simp [stripPrefix?]
    | cons c s =>
      by_cases h : a = c
      · simp [stripPrefix?, h, ih]
      · have h' : ¬c = a := fun e => h e.symm
        simp [stripPrefix?, h, h']

/-- What precedes the literal `p` at the end of a text, if the text ends with it. -/
def stripSuffix? (p s : List Char) : Option (List Char) :=
  (stripPrefix? p.reverse s.reverse).map List.reverse

theorem stripSuffix?_eq_some_iff {p s r : List Char} :
    stripSuffix? p s = some r ↔ s = r ++ p := by
  simp only [stripSuffix?, Option.map_eq_some_iff, stripPrefix?_eq_some_iff]
  constructor
  · rintro ⟨a, h, rfl⟩
    simpa using congrArg List.reverse h
  · rintro rfl
    exact ⟨r.reverse, by simp, by simp⟩

def startsWith (p s : List Char) : Bool :=
  (stripPrefix? p s).isSome

theorem startsWith_iff {p s : List Char} : startsWith p s = true ↔ p <+: s := by
  unfold startsWith
  rw [Option.isSome_iff_exists]
  exact exists_congr fun r => stripPrefix?_eq_some_iff.trans eq_comm

/-! ### ASCII classes -/

def isDigit (c : Char) : Bool :=
  '0' ≤ c && c ≤ '9'

def isLetter (c : Char) : Bool :=
  ('A' ≤ c && c ≤ 'Z') || ('a' ≤ c && c ≤ 'z')

def isNameStart (c : Char) : Bool :=
  isLetter c || c == '_'

def isNameChar (c : Char) : Bool :=
  isNameStart c || isDigit c

def isIdentifier : List Char → Bool
  | [] => false
  | c :: s => isNameStart c && s.all isNameChar

end DefFragments.Text
