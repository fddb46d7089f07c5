/-!
# Blanks

The characters that separate words and may pad a line, and the operations that remove them.

A blank is a character with the Unicode property White_Space. The narrower class of ASCII blanks
ends a type spelling inside a declaration: there a vertical tab is no separator.
-/

namespace DefFragments.Text

/-- A character with the Unicode property White_Space. -/
def isBlank (c : Char) : Bool :=
  let n := c.toNat
  (0x9 ≤ n && n ≤ 0xD) || n == 0x20 || n == 0x85 || n == 0xA0 || n == 0x1680 ||
    (0x2000 ≤ n && n ≤ 0x200A) || n == 0x2028 || n == 0x2029 || n == 0x202F || n == 0x205F ||
    n == 0x3000

/-- A space, a tab, a line feed, a form feed or a carriage return. -/
def isAsciiBlank (c : Char) : Bool :=
  c == ' ' || c == '\t' || c == '\n' || c == '\x0c' || c == '\r'

theorem isBlank_of_isAsciiBlank {c : Char} (h : isAsciiBlank c = true) : isBlank c = true := by
  simp only [isAsciiBlank, Bool.or_eq_true, beq_iff_eq] at h
  rcases h with (((rfl | rfl) | rfl) | rfl) | rfl <;> decide

def dropBlanks (s : List Char) : List Char :=
  s.dropWhile isBlank

def dropTrailingBlanks (s : List Char) : List Char :=
  (dropBlanks s.reverse).reverse

def trim (s : List Char) : List Char :=
  dropTrailingBlanks (dropBlanks s)

def trimString (s : String) : String :=
  String.ofList (trim s.toList)

/-- The pieces of a text between the characters that satisfy `p`, empty ones included: there is
always one piece more than there are separators. -/
def pieces (p : Char → Bool) : List Char → List (List Char)
  | [] => [[]]
  | c :: s =>
    if p c then [] :: pieces p s
    else match pieces p s with
      | [] => [[c]]
      | w :: ws => (c :: w) :: ws

theorem pieces_ne_nil (p : Char → Bool) (s : List Char) : pieces p s ≠ [] := by
  cases s with
  | nil => simp [pieces]
  | cons c s =>
    rw [pieces]
    split
    · simp
    · split <;> simp

theorem pieces_eq_singleton {p : Char → Bool} {s : List Char} (h : ∀ c ∈ s, p c = false) :
    pieces p s = [s] := by
  induction s with
  | nil => rfl
  | cons c s ih =>
    have hc : p c = false := h c (List.mem_cons_self ..)
    rw [pieces, ih (fun x hx => h x (List.mem_cons_of_mem _ hx))]
    simp [hc]

theorem pieces_append_cons {p : Char → Bool} {c : Char} (hc : p c = true) (a b : List Char) :
    pieces p (a ++ c :: b) = pieces p a ++ pieces p b := by
  induction a with
  | nil => simp [pieces, hc]
  | cons x a ih =>
    rw [List.cons_append, pieces, pieces, ih]
    split
    · rfl
    · cases ha : pieces p a with
      | nil => exact absurd ha (pieces_ne_nil p a)
      | cons w ws => rfl

/-- The longest runs of characters that are no blanks, in order. -/
def words (s : List Char) : List (List Char) :=
  (pieces isBlank s).filter (· ≠ [])

end DefFragments.Text
