import DefFragments.Proofs.Text.Runs
import DefFragments.Text.Lines

/-!
# The lines and words of a composed text

A line that holds no line feed and does not end in a carriage return, put in front of a text with a
line feed, is the first line of the whole. A name is one word.
-/

namespace DefFragments.Text

/-- A text that is read back as it is when a line feed ends it. -/
def IsLine (l : List Char) : Prop :=
  '\n' ∉ l ∧ l.getLast? ≠ some '\r'

theorem not_mem_of_mem_lines {s l : List Char} (h : l ∈ lines s) : '\n' ∉ l := by
  induction s generalizing l with
  | nil => simp [lines] at h
  | cons c s ih =>
    rw [lines] at h
    split at h
    · rcases List.mem_cons.1 h with rfl | h
      · simp
      · exact ih h
    · next hc =>
      split at h
      · exact ih h
      · cases hs : lines s with
        | nil =>
          simp only [hs, List.mem_singleton] at h
          subst h
          simpa using Ne.symm hc
        | cons first rest =>
          simp only [hs, List.mem_cons] at h ih
          rcases h with rfl | h
          · intro hm
            rcases List.mem_cons.1 hm with hm | hm
            · exact hc hm.symm
            · exact ih (Or.inl rfl) hm
          · exact ih (Or.inr h)

theorem IsLine.append {a b : List Char} (ha : '\n' ∉ a) (hb : IsLine b) (hne : b ≠ []) :
    IsLine (a ++ b) := by
  obtain ⟨hmem, hlast⟩ := hb
  refine ⟨by simp [ha, hmem], ?_⟩
  rw [List.getLast?_append, List.getLast?_eq_some_getLast hne, Option.some_or,
    ← List.getLast?_eq_some_getLast hne]
  exact hlast

theorem lines_append_newline {l : List Char} (hl : IsLine l) (s : List Char) :
    lines (l ++ '\n' :: s) = l :: lines s := by
  induction l with
  | nil => exact lines_newline s
  | cons c l ih =>
    obtain ⟨hmem, hlast⟩ := hl
    have hc : c ≠ '\n' := fun h => hmem (h ▸ List.mem_cons_self ..)
    have hrec : lines (l ++ '\n' :: s) = l :: lines s := by
      apply ih
      refine ⟨fun h => hmem (List.mem_cons_of_mem _ h), fun h => hlast ?_⟩
      rw [List.getLast?_cons, h]
      rfl
    -- a carriage return could only vanish in front of the line feed, where it would be the last
    have hcr : ¬(c = '\r' ∧ (l ++ '\n' :: s).head? = some '\n') := by
      rintro ⟨rfl, hhead⟩
      cases l with
      | nil => exact hlast rfl
      | cons d l =>
        have hd : d = '\n' := by simpa using hhead
        exact hmem (by simp [hd])
    rw [List.cons_append, lines, if_neg hc, if_neg hcr, hrec]

theorem lines_ne_nil {s : List Char} (h : s ≠ []) : lines s ≠ [] := by
  induction s with
  | nil => exact absurd rfl h
  | cons c s ih =>
    rw [lines]
    split
    · exact List.cons_ne_nil _ _
    · split
      · next hcr =>
        apply ih
        rintro rfl
        exact absurd hcr.2 (by decide)
      · split <;> exact List.cons_ne_nil _ _

/-- A text is empty or its last line is complete, so what follows it begins a line. -/
def EndsLine (s : List Char) : Prop :=
  s = [] ∨ s.getLast? = some '\n'

theorem lines_append {a : List Char} (ha : EndsLine a) (b : List Char) :
    lines (a ++ b) = lines a ++ lines b := by
  induction a with
  | nil => rfl
  | cons c a ih =>
    have hlast : (c :: a).getLast? = some '\n' := ha.resolve_left (List.cons_ne_nil c a)
    by_cases hne : a = []
    · subst hne
      obtain rfl : c = '\n' := Option.some.inj hlast
      exact lines_newline b
    · have htail : a.getLast? = some '\n' := by
        rw [← hlast, List.getLast?_cons, List.getLast?_eq_some_getLast hne, Option.getD_some]
      have hhead : (a ++ b).head? = a.head? := by
        rw [List.head?_append, List.head?_eq_some_head hne, Option.some_or]
      have hrest := ih (Or.inr htail)
      rw [List.cons_append, lines, lines, hhead, hrest]
      split
      · rfl
      · split
        · rfl
        · cases hlines : lines a with
          | nil => exact absurd hlines (lines_ne_nil hne)
          | cons first rest => rfl

/-! ### Lines and the lines before them -/

/-- What holds at every line, given the lines before it, is told line by line. -/
theorem forall_split_append_singleton {α : Type} {P : List α → α → Prop} {ls : List α} {x : α} :
    (∀ before y after, ls ++ [x] = before ++ y :: after → P before y) ↔
      (∀ before y after, ls = before ++ y :: after → P before y) ∧ P ls x := by
  constructor
  · intro h
    refine ⟨?_, h ls x [] rfl⟩
    rintro before y after rfl
    exact h before y (after ++ [x]) (by simp)
  · rintro ⟨hbefore, hlast⟩ before y after heq
    rcases List.eq_nil_or_concat after with rfl | ⟨after', z, rfl⟩
    · obtain ⟨rfl, hsame⟩ := List.append_inj' heq rfl
      obtain ⟨rfl, -⟩ := List.cons.inj hsame
      exact hlast
    · rw [List.concat_eq_append, ← List.cons_append, ← List.append_assoc] at heq
      exact hbefore before y after' (List.append_inj_left' heq rfl)

theorem exists_split_append_singleton {α : Type} {P : List α → α → Prop} {ls : List α} {x : α} :
    (∃ before y after, ls ++ [x] = before ++ y :: after ∧ P before y) ↔
      (∃ before y after, ls = before ++ y :: after ∧ P before y) ∨ P ls x := by
  have hnot := not_congr (@forall_split_append_singleton α (fun before y => ¬P before y) ls x)
  simpa only [not_and_or, not_forall, exists_prop, not_not] using hnot

theorem exists_split_at_cons {α : Type} {P : List α → Prop} {ls : List α} {x y : α} :
    (∃ before after, x :: ls = before ++ y :: after ∧ P before) ↔
      (x = y ∧ P []) ∨ ∃ before after, ls = before ++ y :: after ∧ P (x :: before) := by
  constructor
  · rintro ⟨before, after, hsplit, hP⟩
    rcases List.cons_eq_append_iff.1 hsplit with ⟨rfl, hcons⟩ | ⟨before, rfl, rfl⟩
    · exact Or.inl ⟨(List.cons.inj hcons).1.symm, hP⟩
    · exact Or.inr ⟨before, after, rfl, hP⟩
  · rintro (⟨rfl, hP⟩ | ⟨before, after, rfl, hP⟩)
    · exact ⟨[], ls, rfl, hP⟩
    · exact ⟨x :: before, after, rfl, hP⟩

theorem exists_split_cons {α : Type} {P : List α → α → Prop} {ls : List α} {x : α} :
    (∃ before y after, x :: ls = before ++ y :: after ∧ P before y) ↔
      P [] x ∨ ∃ before y after, ls = before ++ y :: after ∧ P (x :: before) y := by
  rw [exists_comm]
  simp only [exists_split_at_cons, exists_or, exists_eq_left']
  rw [exists_comm]

theorem forall_split_cons {α : Type} {P : List α → α → Prop} {ls : List α} {x : α} :
    (∀ before y after, x :: ls = before ++ y :: after → P before y) ↔
      P [] x ∧ ∀ before y after, ls = before ++ y :: after → P (x :: before) y := by
  have hnot := not_congr (@exists_split_cons α (fun before y => ¬P before y) ls x)
  simpa only [not_or, not_exists, not_and, not_not] using hnot

/-! ### Names -/

/-- What a library may be called. -/
def IsName (s : List Char) : Prop :=
  s ≠ [] ∧ ∀ c ∈ s, isNameChar c = true

theorem isName_of_isIdentifier {s : List Char} (h : isIdentifier s = true) : IsName s :=
  ⟨identifier_ne_nil h, isNameChar_of_mem_identifier h⟩

namespace IsName

variable {s : List Char}

theorem not_newline (h : IsName s) : '\n' ∉ s := by
  intro hmem
  exact absurd (h.2 _ hmem) (by decide)

theorem not_isBlank (h : IsName s) : ∀ c ∈ s, isBlank c = false :=
  fun c hc => not_isBlank_of_isNameChar (h.2 c hc)

theorem trimmed (h : IsName s) : Trimmed s := by
  have hback : ∀ c ∈ s.reverse, isBlank c = false :=
    fun c hc => h.not_isBlank c (List.mem_reverse.1 hc)
  have hne : s.reverse ≠ [] := by simpa using h.1
  constructor
  · simpa using StopsAt.append h.1 h.not_isBlank []
  · simpa using StopsAt.append hne hback []

theorem isLine (h : IsName s) : IsLine s := by
  refine ⟨h.not_newline, ?_⟩
  intro hlast
  exact absurd (h.2 _ (List.mem_of_getLast? hlast)) (by decide)

theorem words_eq (h : IsName s) : words s = [s] := by
  unfold words
  rw [pieces_eq_singleton h.not_isBlank]
  simp [h.1]

end IsName

theorem Trimmed.isLine {s : List Char} (h : Trimmed s) (hline : '\n' ∉ s) : IsLine s := by
  refine ⟨hline, ?_⟩
  intro hlast
  have hblank := h.2 '\r' (by rw [List.head?_reverse, hlast]; rfl)
  exact absurd hblank (by decide)

end DefFragments.Text
