/-!
# Lines

A text is read line by line. A line ends at a line feed, and a carriage return directly before that
line feed belongs to the line end. The last line needs no line feed; a carriage return at the very
end of the text is part of that line.
-/

namespace DefFragments.Text

/-- The lines of a text, without their ends. -/
def lines : List Char → List (List Char)
  | [] => []
  | c :: s =>
    if c = '\n' then [] :: lines s
    else if c = '\r' ∧ s.head? = some '\n' then lines s
    else match lines s with
      | [] => [[c]]
      | line :: rest => (c :: line) :: rest

theorem lines_newline (s : List Char) : lines ('\n' :: s) = [] :: lines s := by
  simp [lines]

theorem lines_return_newline (s : List Char) : lines ('\r' :: '\n' :: s) = [] :: lines s := by
  simp [lines]

end DefFragments.Text
