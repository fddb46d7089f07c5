/-!
# Slices

Parts of a text between byte positions, where a character takes as many bytes as UTF-8 gives it. A
position inside a character cuts nothing.
-/

namespace DefFragments.Text

def byteCount : List Char → Nat
  | [] => 0
  | c :: s => c.utf8Size + byteCount s

theorem byteCount_append (s t : List Char) : byteCount (s ++ t) = byteCount s + byteCount t := by
  induction s with
  | nil => simp [byteCount]
  | cons c s ih => simp only [List.cons_append, byteCount, ih]; omega

def dropBytes? : Nat → List Char → Option (List Char)
  | 0, s => some s
  | _ + 1, [] => none
  | n + 1, c :: s => if c.utf8Size ≤ n + 1 then dropBytes? (n + 1 - c.utf8Size) s else none

def takeBytes? : Nat → List Char → Option (List Char)
  | 0, _ => some []
  | _ + 1, [] => none
  | n + 1, c :: s =>
    if c.utf8Size ≤ n + 1 then (takeBytes? (n + 1 - c.utf8Size) s).map (c :: ·) else none

def slice? (start stop : Nat) (s : List Char) : Option (List Char) := do
  takeBytes? (stop - start) (← dropBytes? start s)

theorem dropBytes?_byteCount_append (s t : List Char) :
    dropBytes? (byteCount s) (s ++ t) = some t := by
  induction s with
  | nil => cases t <;> simp [byteCount, dropBytes?]
  | cons c s ih =>
    have hc := c.utf8Size_pos
    obtain ⟨n, hn⟩ : ∃ n, c.utf8Size + byteCount s = n + 1 :=
      ⟨c.utf8Size + byteCount s - 1, by omega⟩
    have hle : c.utf8Size ≤ n + 1 := by omega
    have hsub : n + 1 - c.utf8Size = byteCount s := by omega
    simp only [byteCount, List.cons_append, hn, dropBytes?, if_pos hle, hsub, ih]

theorem takeBytes?_byteCount_append (s t : List Char) :
    takeBytes? (byteCount s) (s ++ t) = some s := by
  induction s with
  | nil => cases t <;> simp [byteCount, takeBytes?]
  | cons c s ih =>
    have hc := c.utf8Size_pos
    obtain ⟨n, hn⟩ : ∃ n, c.utf8Size + byteCount s = n + 1 :=
      ⟨c.utf8Size + byteCount s - 1, by omega⟩
    have hle : c.utf8Size ≤ n + 1 := by omega
    have hsub : n + 1 - c.utf8Size = byteCount s := by omega
    simp only [byteCount, List.cons_append, hn, takeBytes?, if_pos hle, hsub, ih, Option.map_some]

theorem slice?_byteCount (s t u : List Char) :
    slice? (byteCount s) (byteCount (s ++ t)) (s ++ (t ++ u)) = some t := by
  have h : byteCount (s ++ t) - byteCount s = byteCount t := by rw [byteCount_append]; omega
  simp only [slice?, dropBytes?_byteCount_append, Option.bind_eq_bind, Option.bind_some, h,
    takeBytes?_byteCount_append]

end DefFragments.Text
