import DefFragments.Proofs.Text.Lines
import DefFragments.Text.WordChar
import Mathlib.Data.List.Forall2

/-!
# Blanks at the end of a text

Two texts that differ only in blanks at the end are followed through the operations a line grammar
is made of. What is taken from the front is the same in both, or neither gives anything to take, and
what is left differs again only in blanks at the end.

A line end spelled with a carriage return is the case that matters: the same text with such line
ends has the same lines, up to carriage returns at the end of some of them.
-/

namespace DefFragments.Text

/-- The second text is the first with blanks, or nothing, at its end. -/
def Padded (s s' : List Char) : Prop :=
  ∃ w, (∀ c ∈ w, isBlank c = true) ∧ s' = s ++ w

namespace Padded

variable {s s' : List Char} {p : Char → Bool}

theorem append (s : List Char) {w : List Char} (hw : ∀ c ∈ w, isBlank c = true) :
    Padded s (s ++ w) :=
  ⟨w, hw, rfl⟩

theorem refl (s : List Char) : Padded s s :=
  ⟨[], List.forall_mem_nil _, (List.append_nil s).symm⟩

theorem nil_left : Padded [] s ↔ ∀ c ∈ s, isBlank c = true := by
  constructor
  · rintro ⟨w, hw, rfl⟩
    exact hw
  · exact append []

theorem prepend (a : List Char) (h : Padded s s') : Padded (a ++ s) (a ++ s') := by
  obtain ⟨w, hw, rfl⟩ := h
  exact ⟨w, hw, (List.append_assoc a s w).symm⟩

theorem cons (c : Char) (h : Padded s s') : Padded (c :: s) (c :: s') :=
  h.prepend [c]

theorem exists_of_cons {c : Char} (h : Padded (c :: s) s') : ∃ t, s' = c :: t ∧ Padded s t := by
  obtain ⟨w, hw, rfl⟩ := h
  exact ⟨s ++ w, rfl, append s hw⟩

theorem of_nil_cons {c : Char} (h : Padded [] (c :: s)) : isBlank c = true ∧ Padded [] s := by
  obtain ⟨hblank, hrest⟩ := List.forall_mem_cons.1 (nil_left.1 h)
  exact ⟨hblank, nil_left.2 hrest⟩

/-! ### Runs -/

/-- A run of a class without blanks. -/
theorem takeWhile_eq (hp : ∀ c, isBlank c = true → p c = false) (h : Padded s s') :
    s'.takeWhile p = s.takeWhile p ∧ Padded (s.dropWhile p) (s'.dropWhile p) := by
  obtain ⟨w, hw, rfl⟩ := h
  have hrun : ∀ c ∈ s.takeWhile p, p c = true := fun _ hc => List.mem_takeWhile_imp hc
  have hrest : StopsAt p (s.dropWhile p ++ w) := by
    cases hs : s.dropWhile p with
    | nil => simpa using StopsAt.append_of_stopsAt (fun c hc => hp c (hw c hc)) (stopsAt_nil p)
    | cons c rest => exact stopsAt_cons.2 (stopsAt_cons.1 (hs ▸ stopsAt_dropWhile p s))
  have hsplit : s ++ w = s.takeWhile p ++ (s.dropWhile p ++ w) := by
    rw [← List.append_assoc, List.takeWhile_append_dropWhile]
  rw [hsplit, takeWhile_run hrun hrest, dropWhile_run hrun hrest]
  exact ⟨rfl, append _ hw⟩

/-- A run of a class that holds all blanks: it is the same, or it takes both texts whole. -/
theorem takeWhile_eq_or (hp : ∀ c, isBlank c = true → p c = true) (h : Padded s s') :
    (s'.takeWhile p = s.takeWhile p ∧ Padded (s.dropWhile p) (s'.dropWhile p)) ∨
      (s.dropWhile p = [] ∧ s'.dropWhile p = []) := by
  obtain ⟨w, hw, rfl⟩ := h
  cases hs : s.dropWhile p with
  | nil =>
    refine Or.inr ⟨rfl, List.dropWhile_eq_nil_iff.2 fun c hc => ?_⟩
    rcases List.mem_append.1 hc with hc | hc
    · exact List.dropWhile_eq_nil_iff.1 hs c hc
    · exact hp c (hw c hc)
  | cons c rest =>
    have hrun : ∀ c ∈ s.takeWhile p, p c = true := fun _ hc => List.mem_takeWhile_imp hc
    have hrest : StopsAt p (c :: (rest ++ w)) :=
      stopsAt_cons.2 (stopsAt_cons.1 (hs ▸ stopsAt_dropWhile p s))
    have hsplit : s ++ w = s.takeWhile p ++ (c :: (rest ++ w)) := by
      rw [← List.cons_append, ← hs, ← List.append_assoc, List.takeWhile_append_dropWhile]
    rw [hsplit, takeWhile_run hrun hrest, dropWhile_run hrun hrest]
    exact Or.inl ⟨rfl, append (c :: rest) hw⟩

theorem dropBlanks (h : Padded s s') : Padded (dropBlanks s) (dropBlanks s') := by
  rcases h.takeWhile_eq_or (fun _ hc => hc) with ⟨-, hrest⟩ | ⟨hs, hs'⟩
  · exact hrest
  · rw [Text.dropBlanks, Text.dropBlanks, hs, hs']
    exact refl []

theorem dropBlanks_eq_nil_iff (h : Padded s s') :
    Text.dropBlanks s' = [] ↔ Text.dropBlanks s = [] := by
  obtain ⟨w, hw, rfl⟩ := h
  simp only [Text.dropBlanks, List.dropWhile_eq_nil_iff, List.mem_append]
  exact ⟨fun hall c hc => hall c (Or.inl hc),
    fun hall c hc => hc.elim (hall c) (hw c)⟩

/-! ### Literals -/

theorem rel_stripPrefix? (literal : List Char) (hliteral : literal.any isBlank = false)
    (h : Padded s s') : Option.Rel Padded (stripPrefix? literal s) (stripPrefix? literal s') := by
  induction literal generalizing s s' with
  | nil => exact .some h
  | cons a literal ih =>
    obtain ⟨ha, hrest⟩ : isBlank a = false ∧ literal.any isBlank = false := by
      simpa only [List.any_cons, Bool.or_eq_false_iff] using hliteral
    cases s with
    | nil =>
      cases s' with
      | nil => exact .none
      | cons c w =>
        have hne : a ≠ c := by
          rintro rfl
          simp [h.of_nil_cons.1] at ha
        simp [stripPrefix?, hne]
    | cons c s =>
      obtain ⟨t, rfl, ht⟩ := h.exists_of_cons
      by_cases hac : a = c
      · simpa only [stripPrefix?, if_pos hac] using ih hrest ht
      · simpa only [stripPrefix?, if_neg hac] using Option.Rel.none

variable {α : Type} {f g : List Char → Option α}

theorem bind_eq_of_rel {o o' : Option (List Char)} (h : Option.Rel Padded o o')
    (hrest : ∀ r r', Padded r r' → g r' = f r) : o'.bind g = o.bind f := by
  cases h with
  | some hr => exact hrest _ _ hr
  | none => rfl

theorem bind_literal {literal : List Char} (hliteral : literal.any isBlank = false)
    (hrest : ∀ r r', Padded r r' → g r' = f r) (h : Padded s s') :
    (stripPrefix? literal s').bind g = (stripPrefix? literal s).bind f :=
  bind_eq_of_rel (h.rel_stripPrefix? literal hliteral) hrest

/-- A literal that may end in blanks itself can end among the blanks of the longer text only. There
nothing is left but blanks, so it does not matter if these alone are refused. -/
theorem bind_stripPrefix? (literal : List Char) (hrest : ∀ r r', Padded r r' → g r' = f r)
    (hnil : f [] = none) (h : Padded s s') :
    (stripPrefix? literal s').bind g = (stripPrefix? literal s).bind f := by
  induction literal generalizing s s' with
  | nil => exact hrest s s' h
  | cons a literal ih =>
    cases s with
    | nil =>
      have hblank : ∀ r', stripPrefix? (a :: literal) s' = some r' → g r' = none := by
        intro r' hr'
        have hs' : s' = a :: literal ++ r' := stripPrefix?_eq_some_iff.1 hr'
        have hpad : Padded [] r' :=
          nil_left.2 fun c hc => nil_left.1 h c (hs' ▸ List.mem_append_right _ hc)
        rw [hrest [] r' hpad, hnil]
      cases hs' : stripPrefix? (a :: literal) s' with
      | none => rfl
      | some r' => exact hblank r' hs'
    | cons c s =>
      obtain ⟨t, rfl, ht⟩ := h.exists_of_cons
      by_cases hac : a = c
      · simpa only [stripPrefix?, if_pos hac] using ih ht
      · simp only [stripPrefix?, if_neg hac, Option.bind_none]

theorem startsWith_eq (literal : List Char) (hliteral : literal.any isBlank = false)
    (h : Padded s s') : startsWith literal s' = startsWith literal s := by
  have hrel := h.rel_stripPrefix? literal hliteral
  unfold startsWith
  revert hrel
  generalize stripPrefix? literal s = o, stripPrefix? literal s' = o'
  rintro (hrest | -)
  · rfl
  · rfl

end Padded

/-! ### Words -/

theorem not_isWordChar_of_isBlank {c : Char} (h : isBlank c = true) : isWordChar c = false := by
  have htable : ∀ n ∈ [0x85, 0xA0, 0x1680, 0x2000, 0x2001, 0x2002, 0x2003, 0x2004, 0x2005, 0x2006,
      0x2007, 0x2008, 0x2009, 0x200A, 0x2028, 0x2029, 0x202F, 0x205F, 0x3000],
      inRanges wordRanges n = false := by
    decide +kernel
  rw [isWordChar, not_isNameChar_of_isBlank h, Bool.false_or, Bool.and_eq_false_iff,
    decide_eq_false_iff_not]
  by_cases hascii : 0x80 ≤ c.toNat
  · refine Or.inr (htable _ ?_)
    simp only [isBlank, Bool.or_eq_true, Bool.and_eq_true, decide_eq_true_eq, beq_iff_eq] at h
    simp only [List.mem_cons, List.not_mem_nil, or_false]
    omega
  · exact Or.inl hascii

theorem Padded.atWordEnd_eq {s s' : List Char} (h : Padded s s') : atWordEnd s' = atWordEnd s := by
  cases s with
  | nil =>
    cases s' with
    | nil => rfl
    | cons c w => simp [atWordEnd, not_isWordChar_of_isBlank h.of_nil_cons.1]
  | cons c s =>
    obtain ⟨t, rfl, -⟩ := h.exists_of_cons
    rfl

/-! ### Line ends -/

/-- A text with a carriage return before every line feed. -/
def withReturns (s : List Char) : List Char :=
  s.flatMap fun c => if c = '\n' then ['\r', '\n'] else [c]

theorem withReturns_newline (s : List Char) :
    withReturns ('\n' :: s) = '\r' :: '\n' :: withReturns s :=
  rfl

theorem withReturns_cons {c : Char} (hc : c ≠ '\n') (s : List Char) :
    withReturns (c :: s) = c :: withReturns s := by
  simp [withReturns, hc]

theorem head?_withReturns_ne (s : List Char) : (withReturns s).head? ≠ some '\n' := by
  cases s with
  | nil => simp [withReturns]
  | cons c s =>
    by_cases hc : c = '\n'
    · subst hc
      simp [withReturns_newline]
    · simpa [withReturns_cons hc] using hc

/-- Carriage returns before the line feeds change a line by at most one of them at its end: where a
line end had one already, the first of the two belongs to the line. -/
theorem forall₂_padded_lines_withReturns (s : List Char) :
    List.Forall₂ Padded (lines s) (lines (withReturns s)) := by
  -- what stands before another character is never taken for a line end
  have hkeep : ∀ {c : Char} (t : List Char), ¬(c = '\r' ∧ (withReturns t).head? = some '\n') :=
    fun t h => head?_withReturns_ne t h.2
  fun_induction lines s with
  | case1 => exact .nil
  | case2 s ih =>
    rw [withReturns_newline, lines_return_newline]
    exact .cons (.refl []) ih
  | case3 c s hc hreturn ih =>
    obtain ⟨rfl, hhead⟩ := hreturn
    obtain ⟨t, rfl⟩ := List.head?_eq_some_iff.1 hhead
    rw [lines_newline] at ih ⊢
    rw [withReturns_cons hc, lines, if_neg hc, if_neg (hkeep _)]
    rw [withReturns_newline, lines_return_newline] at ih ⊢
    obtain ⟨-, hrest⟩ := List.forall₂_cons.1 ih
    exact .cons (.append [] (List.forall_mem_singleton.2 rfl)) hrest
  | case4 c s hc hreturn hnil ih =>
    rw [hnil, List.forall₂_nil_left_iff] at ih
    rw [withReturns_cons hc, lines, if_neg hc, if_neg (hkeep s), ih]
    exact .cons (.refl [c]) .nil
  | case5 c s hc hreturn line rest hlines ih =>
    rw [hlines, List.forall₂_cons_left_iff] at ih
    obtain ⟨line', rest', hline, hrest, hlines'⟩ := ih
    rw [withReturns_cons hc, lines, if_neg hc, if_neg (hkeep s), hlines']
    exact .cons (hline.cons c) hrest

example : lines (withReturns "a\r\nb".toList) = ["a\r".toList, "b".toList] := by decide

end DefFragments.Text
