import DefFragments.Proofs.Conditional.Nesting
import DefFragments.Proofs.Library.GuardValue
import Mathlib.Algebra.Ring.Parity

/-!
# The guard of the open blocks

The combined guard of a stack holds at a release exactly if every open block is satisfied there. It
has no value exactly if some open block has a comparison that cannot be read back and every block
around that one is satisfied: terms are read from the outermost on, as far as they hold.
-/

namespace DefFragments.Conditional
open Text

/-- At a release, the block behind an opening line keeps what stands behind these lines: it is not
tracked, or an `#elif` made it so, or its comparison holds, turned around by every `#else`. -/
def BlockSatisfied (symbol : List Char) (release : Nat) (opening : List Char)
    (after : List (List Char)) : Prop :=
  guard? symbol opening = none ∨ .conditionalAlternative ∈ alternativesIn after ∨
    ∃ c : Comparison, guard? symbol opening = some (c.spelling symbol) ∧
      Xor (c.holds release = true) (Odd ((alternativesIn after).count .alternative))

/-- The block is tracked by a comparison that cannot be read back. -/
def BlockUnreadable (symbol opening : List Char) (after : List (List Char)) : Prop :=
  .conditionalAlternative ∉ alternativesIn after ∧
    ∃ c : Comparison, guard? symbol opening = some (c.spelling symbol) ∧ ¬c.Readable

/-- Every block that is open after the lines `p` is satisfied. -/
def Satisfied (symbol : List Char) (release : Nat) (p : List (List Char)) : Prop :=
  ∀ before opening after, OpenBlock p before opening after →
    BlockSatisfied symbol release opening after

/-- Every block that is open after the lines `p` can be read back. -/
def Readable (symbol : List Char) (p : List (List Char)) : Prop :=
  ∀ before opening after, OpenBlock p before opening after → ¬BlockUnreadable symbol opening after

/-- The guard of a tracked block is its comparison inside a negation for every `#else`. -/
theorem exists_guard_of_frameOf {symbol opening : List Char} {ds : List Directive} {t : String}
    (h : (frameOf symbol opening ds).guard? = some t) :
    .conditionalAlternative ∉ ds ∧ ∃ c : Comparison,
      guard? symbol opening = some (c.spelling symbol) ∧
        t.toList = Library.enclosed (ds.count .alternative) (c.spelling symbol) := by
  unfold frameOf at h
  cases hg : guard? symbol opening with
  | none => simp [hg, Frame.guard?] at h
  | some g =>
    simp only [hg] at h
    split at h
    · simp [Frame.guard?] at h
    · next hnone =>
      obtain ⟨c, rfl⟩ := exists_comparison_of_guard? hg
      refine ⟨hnone, c, rfl, ?_⟩
      rw [← Option.some.inj h, Library.toList_negate, String.toList_ofList]

theorem guard?_frameOf_eq_none_iff {symbol opening : List Char} {ds : List Directive} :
    (frameOf symbol opening ds).guard? = none ↔
      guard? symbol opening = none ∨ .conditionalAlternative ∈ ds := by
  unfold frameOf
  cases guard? symbol opening with
  | none => simp [Frame.guard?]
  | some g => by_cases h : .conditionalAlternative ∈ ds <;> simp [h, Frame.guard?]

/-! ### One block -/

/-- The spelling of a comparison fixes all that its value depends on. -/
theorem same_of_spelling_eq {symbol : List Char} (hsym : isIdentifier symbol = true)
    {c d : Comparison} (h : c.spelling symbol = d.spelling symbol) :
    c.operator = d.operator ∧ c.digits = d.digits := by
  have hshape := Library.comparisonShape?_spelling hsym c
  rw [h, Library.comparisonShape?_spelling hsym d] at hshape
  simp only [Option.some.injEq, Prod.mk.injEq, true_and] at hshape
  exact ⟨hshape.1.symm, hshape.2.symm⟩

theorem blockSatisfied_iff {symbol : List Char} (hsym : isIdentifier symbol = true)
    {opening : List Char} {after : List (List Char)} {c : Comparison}
    (hg : guard? symbol opening = some (c.spelling symbol))
    (hnone : .conditionalAlternative ∉ alternativesIn after) (release : Nat) :
    BlockSatisfied symbol release opening after ↔
      Xor (c.holds release = true) (Odd ((alternativesIn after).count .alternative)) := by
  constructor
  · rintro (h | h | ⟨d, hd, hxor⟩)
    · simp [hg] at h
    · exact absurd h hnone
    · obtain ⟨hop, hdigits⟩ := same_of_spelling_eq hsym (Option.some.inj (hg.symm.trans hd))
      unfold Comparison.holds at *
      rwa [hop, hdigits]
  · intro hxor
    exact Or.inr (Or.inr ⟨c, hg, hxor⟩)

theorem blockUnreadable_iff {symbol : List Char} (hsym : isIdentifier symbol = true)
    {opening : List Char} {after : List (List Char)} {c : Comparison}
    (hg : guard? symbol opening = some (c.spelling symbol))
    (hnone : .conditionalAlternative ∉ alternativesIn after) :
    BlockUnreadable symbol opening after ↔ ¬c.Readable := by
  constructor
  · rintro ⟨-, d, hd, hbad⟩ hc
    obtain ⟨hop, hdigits⟩ := same_of_spelling_eq hsym (Option.some.inj (hg.symm.trans hd))
    exact hbad ⟨hop ▸ hc.operator_mem, hdigits ▸ hc.number_lt⟩
  · intro hc
    exact ⟨hnone, c, hg, hc⟩

theorem not_blockUnreadable {symbol : List Char} (hsym : isIdentifier symbol = true)
    {opening : List Char} {after : List (List Char)}
    (h : ∀ g, guard? symbol opening = some g →
      ∃ c : Comparison, g = c.spelling symbol ∧ c.Readable) :
    ¬BlockUnreadable symbol opening after := by
  intro hbad
  have ⟨hnone, d, hd, _⟩ := hbad
  obtain ⟨c, hc, hreadable⟩ := h _ hd
  rw [hc] at hd
  exact (blockUnreadable_iff hsym hd hnone).1 hbad hreadable

theorem exists_guard_of_blockUnreadable {symbol opening : List Char} {after : List (List Char)}
    (h : BlockUnreadable symbol opening after) :
    ∃ t, (frameOf symbol opening (alternativesIn after)).guard? = some t := by
  obtain ⟨hnone, c, hc, -⟩ := h
  rw [← Option.ne_none_iff_exists']
  intro hnot
  rcases guard?_frameOf_eq_none_iff.1 hnot with hguard | helif
  · simp [hc] at hguard
  · exact hnone helif

theorem xor_odd_iff (b : Bool) (n : Nat) : Xor (b = true) (Odd n) ↔ (b != (n % 2 == 1)) = true := by
  rw [Nat.odd_iff]
  cases b <;> simp [Xor]

/-- The term of a tracked block is true exactly if the block is satisfied and can be read back, and
it has no value exactly if the block cannot be read back. -/
theorem evaluateTerm_frameOf {symbol : List Char} (hsym : isIdentifier symbol = true)
    {opening : List Char} {after : List (List Char)} {t : String}
    (ht : (frameOf symbol opening (alternativesIn after)).guard? = some t) (guard : List Char)
    (release : Nat) :
    (Library.evaluateTerm symbol guard release t.toList = .ok true ↔
      BlockSatisfied symbol release opening after ∧ ¬BlockUnreadable symbol opening after) ∧
    ∀ e, Library.evaluateTerm symbol guard release t.toList = .error e ↔
      BlockUnreadable symbol opening after ∧ e = .invalid (String.ofList guard) := by
  obtain ⟨hnone, c, hg, htext⟩ := exists_guard_of_frameOf ht
  rw [htext, blockSatisfied_iff hsym hg hnone, blockUnreadable_iff hsym hg hnone, xor_odd_iff]
  by_cases hc : c.Readable
  · rw [Library.evaluateTerm_readable hsym hc]
    simp [hc]
  · rw [Library.evaluateTerm_unreadable hsym hc]
    refine ⟨by simp [hc], fun e => ?_⟩
    simp only [hc, not_false_eq_true, true_and, Except.error.injEq]
    exact eq_comm

/-! ### The guards of the open blocks -/

theorem mem_guards_iff {s : Stack} {t : String} :
    t ∈ s.guards ↔ ∃ f ∈ s.frames, f.guard? = some t := by
  unfold Stack.guards
  rw [List.mem_filterMap]
  simp only [List.mem_reverse]

/-- The guards in front of a guard are those of the blocks around its block. -/
theorem exists_openBlock_of_guards {symbol : List Char} {p : List (List Char)} {s : Stack}
    (h : Nested symbol p s.frames) {front back : List String} {t : String}
    (hsplit : s.guards = front ++ t :: back) :
    ∃ before opening after outer, OpenBlock p before opening after ∧
      (frameOf symbol opening (alternativesIn after)).guard? = some t ∧
        Nested symbol before outer ∧ front = (Stack.mk outer).guards := by
  obtain ⟨a, b, hframes, hfront, hb⟩ := List.filterMap_eq_append_iff.1 hsplit
  obtain ⟨skipped, f, c, rfl, hskipped, hf, -⟩ := List.filterMap_eq_cons_iff.1 hb
  have hreverse : s.frames = c.reverse ++ f :: (a ++ skipped).reverse := by
    have hback := congrArg List.reverse hframes
    simpa using hback
  obtain ⟨before, opening, after, hopen, rfl, hbefore⟩ := h.exists_openBlock hreverse
  refine ⟨before, opening, after, _, hopen, hf, hbefore, ?_⟩
  have hnone : skipped.filterMap Frame.guard? = [] := List.filterMap_eq_nil_iff.2 hskipped
  unfold Stack.guards
  rw [List.reverse_reverse, List.filterMap_append, hnone, List.append_nil, hfront]

theorem exists_guards_of_openBlock {symbol : List Char} {p : List (List Char)} {s : Stack}
    (h : Nested symbol p s.frames) {before after : List (List Char)} {opening : List Char}
    (hopen : OpenBlock p before opening after) {t : String}
    (ht : (frameOf symbol opening (alternativesIn after)).guard? = some t) :
    ∃ outer back, Nested symbol before outer ∧ s.guards = (Stack.mk outer).guards ++ t :: back := by
  obtain ⟨inner, outer, hframes, hbefore⟩ := h.exists_frame hopen
  refine ⟨outer, inner.reverse.filterMap Frame.guard?, hbefore, ?_⟩
  unfold Stack.guards
  rw [hframes]
  simp [List.filterMap_append, ht]

theorem evaluateTerm_guards_iff {symbol : List Char} (hsym : isIdentifier symbol = true)
    {p : List (List Char)} {s : Stack} (h : Nested symbol p s.frames) (guard : List Char)
    (release : Nat) :
    (∀ t ∈ s.guards, Library.evaluateTerm symbol guard release t.toList = .ok true) ↔
      Satisfied symbol release p ∧ Readable symbol p := by
  constructor
  · intro hguards
    have hblock : ∀ before opening after, OpenBlock p before opening after →
        BlockSatisfied symbol release opening after ∧ ¬BlockUnreadable symbol opening after := by
      intro before opening after hopen
      cases ht : (frameOf symbol opening (alternativesIn after)).guard? with
      | none =>
        rcases guard?_frameOf_eq_none_iff.1 ht with hg | helif
        · refine ⟨Or.inl hg, ?_⟩
          rintro ⟨-, c, hc, -⟩
          simp [hg] at hc
        · exact ⟨Or.inr (Or.inl helif), fun hbad => hbad.1 helif⟩
      | some t =>
        have hmem := h.mem_frames_iff.2 ⟨before, opening, after, hopen, rfl⟩
        have hvalue := hguards t (mem_guards_iff.2 ⟨_, hmem, ht⟩)
        exact (evaluateTerm_frameOf hsym ht guard release).1.1 hvalue
    exact ⟨fun b o a hopen => (hblock b o a hopen).1, fun b o a hopen => (hblock b o a hopen).2⟩
  · rintro ⟨hsat, hread⟩ t ht
    obtain ⟨f, hf, hft⟩ := mem_guards_iff.1 ht
    obtain ⟨before, opening, after, hopen, rfl⟩ := h.mem_frames_iff.1 hf
    exact (evaluateTerm_frameOf hsym hft guard release).1.2
      ⟨hsat _ _ _ hopen, hread _ _ _ hopen⟩

/-! ### The text of the combined guard -/

theorem toList_combinedGuard (s : Stack) :
    s.combinedGuard.toList = Library.joined (s.guards.map String.toList) := by
  unfold Stack.combinedGuard Library.joined
  rw [String.toList_intercalate]

theorem not_and_spelling {symbol : List Char} (hsym : isIdentifier symbol = true)
    (c : Comparison) : '&' ∉ c.spelling symbol := by
  intro h
  simp only [Comparison.spelling, List.mem_append] at h
  rcases h with h | h | h | h | h
  · exact absurd (isNameChar_of_mem_identifier hsym _ h) (by decide)
  · exact absurd (c.leftGap_blank _ h) (by decide)
  · exact absurd (c.operator_char _ h) (by decide)
  · exact absurd (c.rightGap_blank _ h) (by decide)
  · exact absurd (c.digits_digit _ h) (by decide)

section
variable {symbol : List Char} (hsym : isIdentifier symbol = true) {p : List (List Char)}
  {s : Stack} (h : Nested symbol p s.frames)
include hsym h

theorem guardText_of_mem_guards {t : String} (ht : t ∈ s.guards) :
    Library.GuardText t.toList := by
  obtain ⟨f, hf, hft⟩ := mem_guards_iff.1 ht
  obtain ⟨before, opening, after, -, rfl⟩ := h.mem_frames_iff.1 hf
  obtain ⟨-, c, -, htext⟩ := exists_guard_of_frameOf hft
  have htrimmed := Library.trimmed_enclosed (Library.trimmed_spelling hsym c)
    ((alternativesIn after).count .alternative)
  rw [htext]
  refine ⟨?_, htrimmed, ?_⟩
  · intro hnil
    cases hn : (alternativesIn after).count .alternative with
    | zero =>
      rw [hn] at hnil
      exact c.spelling_ne_nil symbol hnil
    | succ n =>
      rw [hn] at hnil
      cases hnil
  · exact Library.not_mem_enclosed (not_and_spelling hsym c) (by decide) _

theorem forall_guardText : ∀ t ∈ s.guards.map String.toList, Library.GuardText t := by
  intro t ht
  obtain ⟨u, hu, rfl⟩ := List.mem_map.1 ht
  exact guardText_of_mem_guards hsym h hu

theorem combinedGuard_eq_empty_iff : s.combinedGuard = "" ↔ s.guards = [] := by
  constructor
  · intro hempty
    by_contra hne
    have hnil : s.combinedGuard.toList = [] := by rw [hempty]; rfl
    rw [toList_combinedGuard] at hnil
    exact Library.joined_ne_nil (fun t ht => (forall_guardText hsym h t ht).ne_nil)
      (by simpa using hne) hnil
  · intro hguards
    unfold Stack.combinedGuard
    rw [hguards]
    rfl

end

theorem isLine_spelling {symbol : List Char} {c : Comparison} (h : '\n' ∉ c.spelling symbol) :
    IsLine (c.spelling symbol) := by
  have hlast : c.digits.getLast? ≠ some '\r' :=
    fun hr => absurd (c.digits_digit _ (List.mem_of_getLast? hr)) (by decide)
  simp only [Comparison.spelling, ← List.append_assoc, List.mem_append, not_or] at h ⊢
  exact IsLine.append (by simpa [and_assoc] using h.1) ⟨h.2, hlast⟩ c.digits_ne_nil

section
variable {symbol : List Char} {p : List (List Char)} {s : Stack} (h : Nested symbol p s.frames)
  (hp : ∀ line ∈ p, '\n' ∉ line)
include h hp

theorem isLine_of_mem_guards {t : String} (ht : t ∈ s.guards) :
    IsLine t.toList ∧ t.toList ≠ [] := by
  obtain ⟨f, hf, hft⟩ := mem_guards_iff.1 ht
  obtain ⟨before, opening, after, hopen, rfl⟩ := h.mem_frames_iff.1 hf
  obtain ⟨-, c, hg, htext⟩ := exists_guard_of_frameOf hft
  have hline : opening ∈ p := by simp [hopen.lines_eq]
  have hspelling : '\n' ∉ c.spelling symbol :=
    fun hmem => hp opening hline ((infix_of_guard? hg).subset hmem)
  rw [htext]
  exact ⟨Library.isLine_enclosed (isLine_spelling hspelling) _,
    Library.enclosed_ne_nil (c.spelling_ne_nil symbol) _⟩

theorem isLine_combinedGuard : IsLine s.combinedGuard.toList := by
  rw [toList_combinedGuard]
  apply Library.isLine_joined
  intro t ht
  obtain ⟨u, hu, rfl⟩ := List.mem_map.1 ht
  exact isLine_of_mem_guards h hp hu

end

/-! ### The value of the combined guard -/

/-- The value of the lines around an entry: no guard is no condition. -/
def guardValue (symbol : List Char) (release : Nat) (guard : String) :
    Except Library.GuardError Bool :=
  if guard = "" then .ok true else Library.evaluate symbol release guard.toList

section
variable {symbol : List Char} (hsym : isIdentifier symbol = true) {p : List (List Char)}
  {s : Stack} (h : Nested symbol p s.frames) (release : Nat)
include hsym h

theorem guardValue_eq_evaluateTerms :
    guardValue symbol release s.combinedGuard =
      Library.evaluateTerms symbol s.combinedGuard.toList release (s.guards.map String.toList) := by
  unfold guardValue
  by_cases hempty : s.combinedGuard = ""
  · rw [if_pos hempty, (combinedGuard_eq_empty_iff hsym h).1 hempty]
    rfl
  · have hne : s.guards.map String.toList ≠ [] := by
      intro hnil
      exact hempty ((combinedGuard_eq_empty_iff hsym h).2 (by simpa using hnil))
    rw [if_neg hempty, toList_combinedGuard,
      Library.evaluate_joined symbol release (forall_guardText hsym h) hne]

/-- The combined guard is true exactly if every open block is satisfied and can be read back. -/
theorem guardValue_eq_ok_true_iff :
    guardValue symbol release s.combinedGuard = .ok true ↔
      Satisfied symbol release p ∧ Readable symbol p := by
  rw [guardValue_eq_evaluateTerms hsym h,
    Library.evaluateTerms_guardTexts_eq_ok_true_iff (forall_guardText hsym h), List.forall_mem_map,
    evaluateTerm_guards_iff hsym h]

/-- The combined guard has no value exactly if a block that cannot be read back is open and every
block around it is satisfied and can be read back. -/
theorem guardValue_eq_error_iff {e : Library.GuardError} :
    guardValue symbol release s.combinedGuard = .error e ↔
      e = .invalid s.combinedGuard ∧
        ∃ before opening after, OpenBlock p before opening after ∧
          BlockUnreadable symbol opening after ∧ Satisfied symbol release before ∧
          Readable symbol before := by
  have hguard : String.ofList s.combinedGuard.toList = s.combinedGuard := String.ofList_toList
  rw [guardValue_eq_evaluateTerms hsym h,
    Library.evaluateTerms_guardTexts_eq_error_iff (forall_guardText hsym h)]
  constructor
  · rintro ⟨front, t, back, hsplit, hfront, ht⟩
    obtain ⟨gs, rest, hguards, rfl, hrest⟩ := List.map_eq_append_iff.1 hsplit
    obtain ⟨g, gs', rfl, rfl, -⟩ := List.map_eq_cons_iff.1 hrest
    obtain ⟨before, opening, after, outer, hopen, hg, hbefore, rfl⟩ :=
      exists_openBlock_of_guards h hguards
    obtain ⟨hbad, rfl⟩ := ((evaluateTerm_frameOf hsym hg _ release).2 _).1 ht
    have haround := (evaluateTerm_guards_iff hsym (s := ⟨outer⟩) hbefore _ release).1
      (List.forall_mem_map.1 hfront)
    exact ⟨congrArg _ hguard, before, opening, after, hopen, hbad, haround⟩
  · rintro ⟨rfl, before, opening, after, hopen, hbad, haround⟩
    obtain ⟨t, ht⟩ := exists_guard_of_blockUnreadable hbad
    obtain ⟨outer, back, hbefore, hguards⟩ := exists_guards_of_openBlock h hopen ht
    refine ⟨(Stack.mk outer).guards.map String.toList, t.toList, back.map String.toList, ?_, ?_, ?_⟩
    · rw [hguards, List.map_append, List.map_cons]
    · exact List.forall_mem_map.2
        ((evaluateTerm_guards_iff hsym (s := ⟨outer⟩) hbefore _ release).2 haround)
    · exact ((evaluateTerm_frameOf hsym ht _ release).2 _).2 ⟨hbad, congrArg _ hguard.symm⟩

end

end DefFragments.Conditional
