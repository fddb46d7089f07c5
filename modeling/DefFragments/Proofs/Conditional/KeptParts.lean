import DefFragments.Proofs.Conditional.GuardCondition
import DefFragments.Proofs.Conditional.Preprocessor
import DefFragments.Proofs.Library.StackGuard

/-!
# Kept parts and the combined guard

Where every tracked condition is one that C reads in the same way, a part of the source that the
preprocessor keeps has a true combined guard. If every block is tracked, the converse holds as well.
-/

namespace DefFragments.Preprocessor
open Text Conditional

/-- The whole condition of a line is a comparison that C has too, up to blanks. -/
def SharedCondition (symbol line : List Char) (c : Comparison) : Prop :=
  ∃ (sign : Sign) (b : List Char), (c.operator, sign) ∈ sharedOperators ∧
    (∀ x ∈ b, isBlank x = true) ∧ HasCondition line (c.spelling symbol ++ b)

/-- Lines whose conditions can be followed: a tracked condition is nothing but a comparison that C
has too, and no block has a second `#else`. -/
structure Followable (symbol : List Char) (ls : List (List Char)) : Prop where
  shared_condition : ∀ line ∈ ls, ∀ g, guard? symbol line = some g →
    ∃ c, SharedCondition symbol line c
  single_alternatives : ∀ p rest, ls = p ++ rest → SingleAlternatives p

/-- No guard, or a condition that is true on the line of the guard. -/
def guardKeeps (p : Platform) (symbol : List Char) (guard : String) : Bool :=
  guard = "" || fragmentTruth p symbol ("#if ".toList ++ guard.toList)

theorem holds_blanks_append (p : Platform) (symbol : List Char) {b : List Char}
    (hb : ∀ c ∈ b, isBlank c = true) (s : List Char) :
    holds p symbol (b ++ s) = holds p symbol s := by
  unfold holds
  rw [tokens_blanks_append hb]

theorem fragmentTruth_if (p : Platform) (symbol condition : List Char) :
    fragmentTruth p symbol ("#if ".toList ++ condition) = holds p symbol condition :=
  holds_blanks_append p symbol isBlank_space condition

theorem exists_of_forall₂ {α β : Type} {R : α → β → Prop} {as : List α} {bs : List β}
    (h : List.Forall₂ R as bs) {a : α} (ha : a ∈ as) : ∃ b ∈ bs, R a b := by
  induction h with
  | nil => simp at ha
  | @cons x y as bs hxy _ ih =>
    rcases List.mem_cons.1 ha with rfl | ha
    · exact ⟨y, List.mem_cons_self .., hxy⟩
    · obtain ⟨b, hb, hab⟩ := ih ha
      exact ⟨b, List.mem_cons_of_mem _ hb, hab⟩

/-! ### Tracked lines -/

section
variable {symbol : List Char} (hsym : isIdentifier symbol = true) {line : List Char}
  {c : Comparison} (h : SharedCondition symbol line c)
include hsym h

theorem guard?_of_sharedCondition : guard? symbol line = some (c.spelling symbol) := by
  obtain ⟨sign, b, -, hb, hcond⟩ := h
  have hdigit : ∀ x ∈ b, isDigit x = false := by
    intro x hx
    by_contra hd
    have hno := not_isBlank_of_isDigit (by simpa using hd : isDigit x = true)
    simp [hb x hx] at hno
  have hstop : StopsAt isDigit b := by
    have hstop := StopsAt.append_of_stopsAt hdigit (stopsAt_nil _)
    rwa [List.append_nil] at hstop
  exact (guard?_eq_some_iff hsym).2 ⟨c, b, rfl, hcond, hstop⟩

theorem sourceTruth_of_sharedCondition (p : Platform) (other : Nat → Bool) (n : Nat) :
    sourceTruth p symbol other n line = holds p symbol (c.spelling symbol) := by
  have hguard := guard?_of_sharedCondition hsym h
  obtain ⟨sign, b, hsign, hb, b₀, b₁, b₂, h₀, h₁, h₂, -, -, rfl⟩ := h
  have hif : StopsAt isBlank ("if".toList ++ (b₂ ++ (c.spelling symbol ++ b))) :=
    stopsAt_cons.2 (by decide)
  have htext : conditionText? (b₀ ++ '#' :: (b₁ ++ ("if".toList ++
      (b₂ ++ (c.spelling symbol ++ b))))) = some (b₂ ++ (c.spelling symbol ++ b)) := by
    unfold conditionText?
    rw [afterNumberSign?_eq h₀ h₁ hif, Option.bind_some]
    exact stripPrefix?_eq_some_iff.2 rfl
  have halone := Term.holds_comparison p hsym hsign (b := []) (by simp)
  rw [List.append_nil] at halone
  unfold sourceTruth
  rw [hguard, htext, Option.any_some, holds_blanks_append p symbol h₂,
    Term.holds_comparison p hsym hsign hb, halone]

end

/-! ### Tracked frames -/

section
variable {symbol : List Char} (hsym : isIdentifier symbol = true) {q : List (List Char)}
  {s : Stack} (hnested : Nested symbol q s.frames)
  (hshared : ∀ line ∈ q, ∀ g, guard? symbol line = some g → ∃ c, SharedCondition symbol line c)
include hsym hnested hshared

theorem exists_term_of_mem_frames {text : String} {n : Nat} (h : .tracked text n ∈ s.frames) :
    ∃ t : Term, t.negations = n ∧ text.toList = t.comparison.spelling symbol := by
  obtain ⟨before, opening, after, hopen, hframe⟩ := hnested.mem_frames_iff.1 h
  have hline : opening ∈ q := by simp [hopen.lines_eq]
  unfold frameOf at hframe
  cases hg : guard? symbol opening with
  | none => simp [hg] at hframe
  | some g =>
    simp only [hg] at hframe
    split at hframe
    · cases hframe
    · obtain ⟨c, hc⟩ := hshared opening hline g hg
      obtain ⟨rfl, rfl⟩ := Frame.tracked.inj hframe
      have hguard := guard?_of_sharedCondition hsym hc
      obtain ⟨sign, -, hsign, -⟩ := hc
      refine ⟨⟨_, c, sign, hsign⟩, rfl, ?_⟩
      rw [String.toList_ofList, ← Option.some.inj (hg.symm.trans hguard)]

theorem exists_term_of_mem_guards {g : String} (h : g ∈ s.guards) :
    ∃ t : Term, t.text symbol = g.toList := by
  obtain ⟨f, hf, hg⟩ := mem_guards_iff.1 h
  cases f with
  | untracked => cases hg
  | tracked text n =>
    obtain ⟨t, rfl, htext⟩ := exists_term_of_mem_frames hsym hnested hshared hf
    refine ⟨t, ?_⟩
    rw [← Option.some.inj hg, Library.toList_negate, htext]
    rfl

theorem keeps_eq_holds (p : Platform) {f : Frame} {σ : Section} {g : String} (hf : f ∈ s.frames)
    (h : Agrees (fun text => holds p symbol text.toList) f σ) (hg : f.guard? = some g) :
    σ.keeps = holds p symbol g.toList := by
  cases h with
  | untracked => cases hg
  | condition => rw [← Option.some.inj hg]; rfl
  | @alternative text =>
    obtain ⟨t, hn, htext⟩ := exists_term_of_mem_frames hsym hnested hshared hf
    have hinside : ∀ n, holds p symbol (Library.enclosed n text.toList) =
        Term.value p { t with negations := n } := by
      intro n
      rw [htext]
      exact Term.holds_text p hsym { t with negations := n }
    rw [← Option.some.inj hg, Library.toList_negate, hinside 1, Term.value_succ, ← hinside 0]
    rfl

theorem exists_terms_of_guards :
    ∃ ts : List Term, ts.map (Term.text symbol) = s.guards.map String.toList := by
  have hterms := fun g => exists_term_of_mem_guards hsym hnested hshared (g := g)
  generalize s.guards = gs at hterms
  induction gs with
  | nil => exact ⟨[], rfl⟩
  | cons g gs ih =>
    obtain ⟨t, ht⟩ := hterms g (List.mem_cons_self ..)
    obtain ⟨ts, hts⟩ := ih fun x hx => hterms x (List.mem_cons_of_mem _ hx)
    exact ⟨t :: ts, by rw [List.map_cons, List.map_cons, ht, hts]⟩

theorem guardKeeps_combinedGuard_iff (p : Platform) :
    guardKeeps p symbol s.combinedGuard = true ↔
      ∀ g ∈ s.guards, holds p symbol g.toList = true := by
  obtain ⟨ts, hts⟩ := exists_terms_of_guards hsym hnested hshared
  have hempty := combinedGuard_eq_empty_iff hsym hnested
  unfold guardKeeps
  by_cases hguards : s.guards = []
  · simp [hempty.2 hguards, hguards]
  · have hne : ts ≠ [] := by
      rintro rfl
      exact hguards (by simpa using hts.symm)
    have hvalues : ts.map (Term.value p) = s.guards.map fun g => holds p symbol g.toList := by
      calc ts.map (Term.value p) = (ts.map (Term.text symbol)).map (holds p symbol) := by
            simp [Term.holds_text p hsym]
        _ = s.guards.map fun g => holds p symbol g.toList := by
            rw [hts, List.map_map]
            rfl
    have hall : ts.all (Term.value p) = s.guards.all fun g => holds p symbol g.toList := by
      have hid := congrArg (List.all · id) hvalues
      simpa [List.all_map] using hid
    rw [decide_eq_false (mt hempty.1 hguards), Bool.false_or, fragmentTruth_if,
      toList_combinedGuard, ← hts, Term.holds_joined p hsym hne, hall, List.all_eq_true]

variable {ss : List Section} {p : Platform}
  (hagree : List.Forall₂ (Agrees fun text => holds p symbol text.toList) s.frames ss)
include hagree

theorem guardKeeps_of_keeps (hkeeps : ss.all Section.keeps = true) :
    guardKeeps p symbol s.combinedGuard = true := by
  rw [guardKeeps_combinedGuard_iff hsym hnested hshared]
  intro g hg
  obtain ⟨f, hf, hfg⟩ := mem_guards_iff.1 hg
  obtain ⟨σ, hσ, hpair⟩ := exists_of_forall₂ hagree hf
  rw [← keeps_eq_holds hsym hnested hshared p hf hpair hfg]
  exact List.all_eq_true.1 hkeeps σ hσ

/-- Where every block is tracked, a true guard is kept. -/
theorem keeps_of_guardKeeps (htracked : .untracked ∉ s.frames)
    (hguard : guardKeeps p symbol s.combinedGuard = true) : ss.all Section.keeps = true := by
  rw [guardKeeps_combinedGuard_iff hsym hnested hshared] at hguard
  rw [List.all_eq_true]
  intro σ hσ
  obtain ⟨f, hf, hpair⟩ := exists_of_forall₂ hagree.flip hσ
  cases hfg : f.guard? with
  | none =>
    cases f with
    | untracked => exact absurd hf htracked
    | tracked text n => cases hfg
  | some g =>
    rw [keeps_eq_holds hsym hnested hshared p hf hpair hfg]
    exact hguard g (mem_guards_iff.2 ⟨f, hf, hfg⟩)

end

end DefFragments.Preprocessor
