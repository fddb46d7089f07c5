import DefFragments.Proofs.Conditional.Condition
import DefFragments.Proofs.Conditional.Nesting
import DefFragments.Proofs.Text.Lines
import Mathlib.Data.List.Forall2

/-!
# The lines that a C preprocessor keeps

A preprocessor remembers for every open block whether it keeps the current part, and whether it has
kept one already. Following it beside the stack of frames, a tracked frame tells which of the two
parts of its block is kept.
-/

namespace DefFragments.Preprocessor
open Text Conditional

/-- What the preprocessor remembers of an open block. -/
structure Section where
  /-- The current part is kept, as far as this block decides. -/
  keeps : Bool
  /-- This part or one before it was chosen. -/
  chosen : Bool
  deriving DecidableEq

/-- The open blocks after a directive, the innermost first; the truth is that of the condition on
the line of the directive. -/
def step (truth : Bool) : Directive → List Section → List Section
  | .opening, ss => ⟨truth, truth⟩ :: ss
  | .conditionalAlternative, s :: ss => ⟨!s.chosen && truth, s.chosen || truth⟩ :: ss
  | .alternative, s :: ss => ⟨!s.chosen, true⟩ :: ss
  | .closing, _ :: ss => ss
  | _, ss => ss

variable (truth : Nat → List Char → Bool)

/-- The open blocks after lines, the first of them with the given number. -/
def sections : Nat → List Section → List (List Char) → List Section
  | _, ss, [] => ss
  | n, ss, line :: rest => sections (n + 1) (step (truth n line) (classify line) ss) rest

/-- The lines that are kept, with their numbers: no directives, and no block decides against
them. -/
def keptLines : Nat → List Section → List (List Char) → List (Nat × List Char)
  | _, _, [] => []
  | n, ss, line :: rest =>
    let after := step (truth n line) (classify line) ss
    if classify line = .none ∧ after.all Section.keeps then
      (n, line) :: keptLines (n + 1) after rest
    else keptLines (n + 1) after rest

theorem mem_keptLines_cons {n m : Nat} {ss : List Section} {line l : List Char}
    {rest : List (List Char)} :
    (m, l) ∈ keptLines truth n ss (line :: rest) ↔
      (m = n ∧ l = line ∧ classify line = .none ∧
        (step (truth n line) (classify line) ss).all Section.keeps = true) ∨
      (m, l) ∈ keptLines truth (n + 1) (step (truth n line) (classify line) ss) rest := by
  rw [keptLines]
  split
  · next h =>
    rw [List.mem_cons, Prod.mk.injEq]
    constructor
    · rintro (⟨hm, hl⟩ | hmem)
      · exact Or.inl ⟨hm, hl, h⟩
      · exact Or.inr hmem
    · rintro (⟨hm, hl, -⟩ | hmem)
      · exact Or.inl ⟨hm, hl⟩
      · exact Or.inr hmem
  · next h =>
    constructor
    · exact Or.inr
    · rintro (⟨-, -, hnone, hkeeps⟩ | hmem)
      · exact absurd ⟨hnone, hkeeps⟩ h
      · exact hmem

/-- A line is kept where it stands outside the directives and every block before it keeps it. -/
theorem mem_keptLines_iff {n m : Nat} {ss : List Section} {ls : List (List Char)} {l : List Char} :
    (m, l) ∈ keptLines truth n ss ls ↔
      ∃ before after, ls = before ++ l :: after ∧ m = n + before.length ∧ classify l = .none ∧
        (sections truth n ss (before ++ [l])).all Section.keeps = true := by
  induction ls generalizing n ss with
  | nil => simp [keptLines]
  | cons line rest ih =>
    have hnumber : ∀ before : List (List Char),
        n + (line :: before).length = n + 1 + before.length := by
      intro before
      rw [List.length_cons]
      omega
    rw [mem_keptLines_cons, ih, exists_split_at_cons]
    simp only [hnumber, List.cons_append, sections]
    -- behind the first line both sides say the same of the rest
    apply or_congr_left
    constructor
    · rintro ⟨rfl, rfl, hkept⟩
      exact ⟨rfl, rfl, hkept⟩
    · rintro ⟨rfl, rfl, hkept⟩
      exact ⟨rfl, rfl, hkept⟩

/-! ### Conditions on lines -/

variable (p : Platform) (symbol : List Char)

def conditionText? (line : List Char) : Option (List Char) :=
  (afterNumberSign? line).bind (stripPrefix? "if".toList)

/-- The truth on a line of a source: a tracked condition is read, any other is as given for its
line. -/
def sourceTruth (other : Nat → Bool) (n : Nat) (line : List Char) : Bool :=
  match guard? symbol line with
  | none => other n
  | some _ => (conditionText? line).any (holds p symbol)

/-- The truth on a line of a fragment: every condition is read. -/
def fragmentTruth (line : List Char) : Bool :=
  match afterNumberSign? line with
  | none => false
  | some rest =>
    match stripPrefix? "ifdef".toList rest, stripPrefix? "ifndef".toList rest with
    | some name, _ => p.defined (trim name)
    | none, some name => !p.defined (trim name)
    | none, none => (stripPrefix? "if".toList rest).any (holds p symbol)

/-! ### Frames and sections -/

/-- What the preprocessor remembers of the block of a frame, where it is known: a tracked block
keeps the part that its condition chooses. -/
inductive Agrees (value : String → Bool) : Frame → Section → Prop
  | untracked {s} : Agrees value .untracked s
  | condition {c} : Agrees value (.tracked c 0) ⟨value c, value c⟩
  | alternative {c} : Agrees value (.tracked c 1) ⟨!value c, true⟩

section
variable {symbol} {value : String → Bool} {s t : Stack} {ss : List Section} {line : List Char}

theorem agrees_ofGuard {truth : Bool}
    (htruth : ∀ g, guard? symbol line = some g → truth = value (String.ofList g)) :
    Agrees value (Frame.ofGuard (String.ofList ((guard? symbol line).getD [])))
      ⟨truth, truth⟩ := by
  rw [ofGuard_guard?]
  unfold frameOf
  cases hg : guard? symbol line with
  | none => exact .untracked
  | some g =>
    rw [htruth g hg]
    exact .condition

/-- One line keeps frames and sections in agreement, if it is no second `#else`. -/
theorem agrees_step {truth : Bool} (h : List.Forall₂ (Agrees value) s.frames ss)
    (hu : s.update symbol line = (.ok (), t))
    (htruth : ∀ g, guard? symbol line = some g → truth = value (String.ofList g))
    (hfirst : ∀ c n, .tracked c (n + 2) ∉ t.frames) :
    List.Forall₂ (Agrees value) t.frames (step truth (classify line) ss) := by
  obtain ⟨frames⟩ := s
  unfold Stack.update at hu
  cases hc : classify line with
  | opening =>
    rw [hc] at hu
    obtain rfl := (Prod.mk.inj hu).2
    exact .cons (agrees_ofGuard htruth) h
  | none =>
    rw [hc] at hu
    obtain rfl := (Prod.mk.inj hu).2
    cases ss <;> exact h
  | closing =>
    rw [hc] at hu
    cases h with
    | nil => simp [Stack.pop, Except.map] at hu
    | cons _ hrest =>
      obtain rfl := (Prod.mk.inj hu).2
      exact hrest
  | alternative =>
    rw [hc] at hu
    cases h with
    | nil => simp [Stack.modifyTop] at hu
    | cons htop hrest =>
      obtain rfl := (Prod.mk.inj hu).2
      refine .cons ?_ hrest
      cases htop with
      | untracked => exact .untracked
      | condition => exact .alternative
      | alternative => exact absurd (List.mem_cons_self ..) (hfirst _ 0)
  | conditionalAlternative =>
    rw [hc] at hu
    cases h with
    | nil => simp [Stack.modifyTop] at hu
    | cons _ hrest =>
      obtain rfl := (Prod.mk.inj hu).2
      exact .cons .untracked hrest

/-- No block that is open after the lines has a second `#else`. -/
def SingleAlternatives (p : List (List Char)) : Prop :=
  ∀ before opening after, OpenBlock p before opening after →
    (alternativesIn after).count .alternative ≤ 1

theorem singleAlternatives_of_count_le {p rest : List (List Char)}
    (h : ((p ++ rest).map classify).count .alternative ≤ 1) : SingleAlternatives p := by
  rintro before opening after ⟨rfl, -, -⟩
  have hsub := (alternatives_sublist 0 (after.map classify)).count_le .alternative
  simp only [List.map_append, List.map_cons, List.count_append, List.count_cons] at h
  unfold alternativesIn
  omega

theorem SingleAlternatives.not_mem_frames {p : List (List Char)} (hp : SingleAlternatives p)
    {frames : List Frame} (h : Nested symbol p frames) (c : String) (n : Nat) :
    .tracked c (n + 2) ∉ frames := by
  intro hmem
  obtain ⟨before, opening, after, hopen, hframe⟩ := h.mem_frames_iff.1 hmem
  have hcount := hp before opening after hopen
  unfold frameOf at hframe
  cases hg : guard? symbol opening with
  | none => simp [hg] at hframe
  | some g =>
    simp only [hg] at hframe
    split at hframe
    · cases hframe
    · have hn := (Frame.tracked.inj hframe).2
      omega

theorem agrees_run {truth : Nat → List Char → Bool} {p q : List (List Char)} {n : Nat}
    (hnested : Nested symbol p s.frames) (h : List.Forall₂ (Agrees value) s.frames ss)
    (hrun : s.run symbol q = .ok t)
    (htruth : ∀ line ∈ q, ∀ g, guard? symbol line = some g →
      ∀ m, truth m line = value (String.ofList g))
    (hsingle : ∀ a b, q = a ++ b → SingleAlternatives (p ++ a)) :
    List.Forall₂ (Agrees value) t.frames (sections truth n ss q) := by
  induction q generalizing p s ss n with
  | nil =>
    obtain rfl := Except.ok.inj hrun
    exact h
  | cons line q ih =>
    rw [Stack.run] at hrun
    rcases hu : s.update symbol line with ⟨e | ok, u⟩
    · simp [hu] at hrun
    · simp only [hu] at hrun
      have hnext := hnested.step hu
      have hfirst := (hsingle [line] q rfl).not_mem_frames hnext
      have hline := agrees_step h hu
        (fun g hg => htruth line (List.mem_cons_self ..) g hg n) hfirst
      apply ih hnext hline hrun fun l hl => htruth l (List.mem_cons_of_mem _ hl)
      intro a b hab
      have hlong := hsingle (line :: a) b (by rw [hab, List.cons_append])
      rwa [List.append_assoc]

end

end DefFragments.Preprocessor
