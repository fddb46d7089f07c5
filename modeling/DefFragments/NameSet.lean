/-!
# Sets of names

A set of names is kept as the list of its members in strictly ascending order, by code points. The
libraries to link come out in this order.
-/

namespace DefFragments

/-- Put a name into its place among names that ascend strictly. -/
def insertName (name : String) : List String → List String
  | [] => [name]
  | m :: ms =>
    if name < m then name :: m :: ms
    else if name = m then m :: ms
    else m :: insertName name ms

def nameSet (names : List String) : List String :=
  names.foldr insertName []

theorem mem_insertName {name x : String} {names : List String} :
    x ∈ insertName name names ↔ x = name ∨ x ∈ names := by
  induction names with
  | nil => simp [insertName]
  | cons m ms ih =>
    rw [insertName]
    split
    · simp
    · split
      · next h => subst h; simp
      · simp only [List.mem_cons, ih]
        constructor
        · rintro (h | h | h) <;> simp [h]
        · rintro (h | h | h) <;> simp [h]

theorem mem_nameSet {x : String} {names : List String} : x ∈ nameSet names ↔ x ∈ names := by
  induction names with
  | nil => simp [nameSet]
  | cons m ms ih =>
    rw [nameSet, List.foldr_cons, ← nameSet, mem_insertName, ih, List.mem_cons]

end DefFragments
