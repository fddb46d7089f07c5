import DefFragments.Conditional.Stack
import DefFragments.Proofs.Conditional.Comparison

/-!
# Lexical nesting

Which blocks are open after some lines is a matter of the lines alone: a block is closed by the
first `#endif` behind its opening line that no inner block takes. The stack of frames agrees with
this view: its frames are those of the open blocks, the innermost first, each with the `#else` and
`#elif` lines that stand directly in its block.
-/

namespace DefFragments.Conditional

/-- How many inner blocks are open behind the opening line of a block, counted from `depth`, after
these directives; nothing once the block itself is closed. -/
@[simp]
def innerDepth : (depth : Nat) → List Directive → Option Nat
  | depth, [] => some depth
  | depth, .opening :: ds => innerDepth (depth + 1) ds
  | 0, .closing :: _ => none
  | depth + 1, .closing :: ds => innerDepth depth ds
  | depth, _ :: ds => innerDepth depth ds

/-- The `#else` and `#elif` directives directly in a block, not in an inner one. -/
@[simp]
def alternatives : (depth : Nat) → List Directive → List Directive
  | _, [] => []
  | depth, .opening :: ds => alternatives (depth + 1) ds
  | 0, .closing :: _ => []
  | depth + 1, .closing :: ds => alternatives depth ds
  | depth, .none :: ds => alternatives depth ds
  | 0, d :: ds => d :: alternatives 0 ds
  | depth + 1, _ :: ds => alternatives (depth + 1) ds

/-- The directives directly in a block, read off the lines behind its opening line. -/
def alternativesIn (after : List (List Char)) : List Directive :=
  alternatives 0 (after.map classify)

/-- Every inner block is closed again, and the block itself is open. -/
def Level (after : List (List Char)) : Prop :=
  innerDepth 0 (after.map classify) = some 0

/-- After the lines `p`, the block that `opening` opened is open; the lines `after` follow it. -/
structure OpenBlock (p before : List (List Char)) (opening : List Char)
    (after : List (List Char)) : Prop where
  lines_eq : p = before ++ opening :: after
  opens : classify opening = .opening
  stays_open : (innerDepth 0 (after.map classify)).isSome

/-- The frame of a block with this opening line and these directives directly in it. -/
def frameOf (symbol opening : List Char) (ds : List Directive) : Frame :=
  match guard? symbol opening with
  | none => .untracked
  | some g =>
    if .conditionalAlternative ∈ ds then .untracked
    else .tracked (String.ofList g) (ds.count .alternative)

/-! ### Counting inner blocks -/

theorem innerDepth_append (n : Nat) (a b : List Directive) :
    innerDepth n (a ++ b) = (innerDepth n a).bind fun m => innerDepth m b := by
  induction a generalizing n with
  | nil => rfl
  | cons d a ih =>
    cases d <;> cases n <;> simp only [List.cons_append, innerDepth, ih, Option.bind_none]

theorem innerDepth_add {n m : Nat} {ds : List Directive} (k : Nat)
    (h : innerDepth n ds = some m) : innerDepth (n + k) ds = some (m + k) := by
  induction ds generalizing n with
  | nil =>
    have hn : n = m := by simpa using h
    subst hn
    rfl
  | cons d ds ih =>
    cases d with
    | opening =>
      have hstep := ih (n := n + 1) h
      rwa [Nat.add_right_comm] at hstep
    | closing =>
      cases n with
      | zero => simp at h
      | succ n =>
        have hstep := ih (n := n) h
        rw [Nat.add_right_comm]
        exact hstep
    | alternative => exact ih (n := n) h
    | conditionalAlternative => exact ih (n := n) h
    | none => exact ih (n := n) h

theorem alternatives_append {n m : Nat} {a : List Directive} (h : innerDepth n a = some m)
    (b : List Directive) : alternatives n (a ++ b) = alternatives n a ++ alternatives m b := by
  induction a generalizing n with
  | nil =>
    have hn : n = m := by simpa using h
    subst hn
    rfl
  | cons d a ih =>
    cases d <;> cases n <;> simp only [innerDepth, reduceCtorEq] at h <;>
      simp only [List.cons_append, alternatives, ih h]

theorem alternatives_succ {n m : Nat} {ds : List Directive} (h : innerDepth n ds = some m) :
    alternatives (n + 1) ds = [] := by
  induction ds generalizing n with
  | nil => rfl
  | cons d ds ih =>
    cases d <;> cases n <;> simp only [innerDepth, reduceCtorEq] at h <;>
      simp only [alternatives, ih h]

theorem alternatives_sublist (n : Nat) (ds : List Directive) :
    (alternatives n ds).Sublist ds := by
  induction ds generalizing n with
  | nil => exact .slnil
  | cons d ds ih =>
    cases d with
    | opening => exact (ih (n + 1)).cons _
    | none => cases n <;> exact (ih _).cons _
    | closing =>
      cases n with
      | zero => exact List.nil_sublist _
      | succ n => exact (ih n).cons _
    | alternative =>
      cases n with
      | zero => exact (ih 0).cons_cons _
      | succ n => exact (ih (n + 1)).cons _
    | conditionalAlternative =>
      cases n with
      | zero => exact (ih 0).cons_cons _
      | succ n => exact (ih (n + 1)).cons _

theorem Level.append {a b : List (List Char)} (ha : Level a) (hb : Level b) : Level (a ++ b) := by
  unfold Level at *
  rw [List.map_append, innerDepth_append, ha, Option.bind_some, hb]

/-- A whole block with what stands in it leaves the nesting around it as it is. -/
theorem level_block {opening closing : List Char} {after : List (List Char)}
    (ho : classify opening = .opening) (hc : classify closing = .closing) (ha : Level after) :
    Level (opening :: after ++ [closing]) ∧
      alternativesIn (opening :: after ++ [closing]) = [] := by
  have hdeep := innerDepth_add 1 ha
  constructor
  · unfold Level
    rw [List.map_append, List.map_cons, ho, List.cons_append, innerDepth, innerDepth_append, hdeep]
    simp [hc]
  · unfold alternativesIn
    rw [List.map_append, List.map_cons, ho, List.cons_append, alternatives,
      alternatives_append hdeep, alternatives_succ ha]
    simp [hc]

/-! ### Open blocks of composed lines -/

theorem Level.not_openBlock {p before after : List (List Char)} {opening : List Char}
    (hp : Level p) : ¬OpenBlock p before opening after := by
  rintro ⟨rfl, ho, hopen⟩
  obtain ⟨k, hk⟩ := Option.isSome_iff_exists.1 hopen
  unfold Level at hp
  rw [List.map_append, List.map_cons, ho, innerDepth_append] at hp
  obtain ⟨m, -, hm⟩ := Option.bind_eq_some_iff.1 hp
  have hdeep := innerDepth_add (m + 1) hk
  rw [Nat.zero_add] at hdeep
  rw [innerDepth, hdeep] at hm
  have hpos : k + (m + 1) = 0 := Option.some.inj hm
  omega

theorem isSome_innerDepth_append_block {a after : List (List Char)} {opening : List Char}
    (ho : classify opening = .opening) (hafter : Level after) :
    (innerDepth 0 ((a ++ opening :: after).map classify)).isSome ↔
      (innerDepth 0 (a.map classify)).isSome := by
  rw [List.map_append, List.map_cons, ho, innerDepth_append]
  cases hd : innerDepth 0 (a.map classify) with
  | none => simp
  | some m =>
    have hdeep := innerDepth_add (m + 1) hafter
    rw [Nat.zero_add] at hdeep
    simp [hdeep]

theorem alternativesIn_append_block {a after : List (List Char)} {opening : List Char}
    (ha : (innerDepth 0 (a.map classify)).isSome) (ho : classify opening = .opening)
    (hafter : Level after) : alternativesIn (a ++ opening :: after) = alternativesIn a := by
  obtain ⟨m, hm⟩ := Option.isSome_iff_exists.1 ha
  have hdeep := innerDepth_add m hafter
  rw [Nat.zero_add] at hdeep
  unfold alternativesIn
  rw [List.map_append, List.map_cons, ho, alternatives_append hm, alternatives,
    alternatives_succ hdeep, List.append_nil]

theorem openBlock_append_block_iff {before after b a : List (List Char)} {opening o : List Char}
    (ho : classify opening = .opening) (hafter : Level after) :
    OpenBlock (before ++ opening :: after) b o a ↔
      (b = before ∧ o = opening ∧ a = after) ∨
        ∃ a', OpenBlock before b o a' ∧ a = a' ++ opening :: after := by
  constructor
  · rintro ⟨heq, hopens, hopen⟩
    rcases List.append_eq_append_iff.1 heq with ⟨c, hb, hc⟩ | ⟨c, hb, hc⟩
    · cases c with
      | nil =>
        obtain ⟨rfl, rfl⟩ := List.cons.inj hc
        exact Or.inl ⟨by simpa using hb, rfl, rfl⟩
      | cons x c =>
        -- the block would lie inside the last one, where every block is closed
        have hin : after = c ++ o :: a := (List.cons.inj hc).2
        exact absurd ⟨hin, hopens, hopen⟩ hafter.not_openBlock
    · cases c with
      | nil =>
        obtain ⟨rfl, rfl⟩ := List.cons.inj hc
        exact Or.inl ⟨by simpa using hb.symm, rfl, rfl⟩
      | cons x c =>
        obtain ⟨rfl, rfl⟩ := List.cons.inj hc
        exact Or.inr ⟨c, ⟨hb, hopens, (isSome_innerDepth_append_block ho hafter).1 hopen⟩, rfl⟩
  · rintro (⟨rfl, rfl, rfl⟩ | ⟨a', ⟨rfl, hopens, hopen⟩, rfl⟩)
    · exact ⟨rfl, ho, by rw [show innerDepth 0 _ = some 0 from hafter]; rfl⟩
    · exact ⟨by simp, hopens, (isSome_innerDepth_append_block ho hafter).2 hopen⟩

/-! ### The frames of the open blocks -/

/-- The frames of the blocks that are open after some lines, the innermost first. -/
inductive Nested (symbol : List Char) : List (List Char) → List Frame → Prop
  | outside {p} : Level p → Nested symbol p []
  | inside {before opening after frames} : Nested symbol before frames →
      classify opening = .opening → Level after →
      Nested symbol (before ++ opening :: after)
        (frameOf symbol opening (alternativesIn after) :: frames)

namespace Nested

variable {symbol : List Char} {p : List (List Char)} {frames : List Frame}

theorem append_level (h : Nested symbol p frames) {q : List (List Char)} (hq : Level q)
    (hnone : alternativesIn q = []) : Nested symbol (p ++ q) frames := by
  cases h with
  | outside hp => exact .outside (hp.append hq)
  | @inside before opening after frames hbefore ho hafter =>
    have hsame : alternativesIn (after ++ q) = alternativesIn after := by
      unfold alternativesIn at *
      rw [List.map_append, alternatives_append hafter, hnone, List.append_nil]
    rw [List.append_assoc, List.cons_append, ← hsame]
    exact .inside hbefore ho (hafter.append hq)

/-- Every frame is that of an open block, and the frames behind it are those around that block. -/
theorem exists_openBlock (h : Nested symbol p frames) {inner outer : List Frame} {f : Frame}
    (hsplit : frames = inner ++ f :: outer) :
    ∃ before opening after, OpenBlock p before opening after ∧
      f = frameOf symbol opening (alternativesIn after) ∧ Nested symbol before outer := by
  induction h generalizing inner with
  | outside hp => simp at hsplit
  | @inside before opening after frames hbefore ho hafter ih =>
    cases inner with
    | nil =>
      obtain ⟨rfl, rfl⟩ := List.cons.inj hsplit
      exact ⟨before, opening, after, (openBlock_append_block_iff ho hafter).2
        (Or.inl ⟨rfl, rfl, rfl⟩), rfl, hbefore⟩
    | cons g inner =>
      obtain ⟨b, o, a, hblock, rfl, hb⟩ := ih (List.cons.inj hsplit).2
      refine ⟨b, o, a ++ opening :: after, (openBlock_append_block_iff ho hafter).2
        (Or.inr ⟨a, hblock, rfl⟩), ?_, hb⟩
      rw [alternativesIn_append_block hblock.stays_open ho hafter]

theorem exists_frame (h : Nested symbol p frames) {before after : List (List Char)}
    {opening : List Char} (hblock : OpenBlock p before opening after) :
    ∃ inner outer, frames = inner ++ frameOf symbol opening (alternativesIn after) :: outer ∧
      Nested symbol before outer := by
  induction h generalizing before opening after with
  | outside hp => exact absurd hblock hp.not_openBlock
  | @inside b o a frames hbefore ho hafter ih =>
    rcases (openBlock_append_block_iff ho hafter).1 hblock with
      ⟨rfl, rfl, rfl⟩ | ⟨a', hblock', rfl⟩
    · exact ⟨[], frames, rfl, hbefore⟩
    · obtain ⟨inner, outer, rfl, hb⟩ := ih hblock'
      refine ⟨frameOf symbol o (alternativesIn a) :: inner, outer, ?_, hb⟩
      rw [alternativesIn_append_block hblock'.stays_open ho hafter]
      rfl

theorem mem_frames_iff (h : Nested symbol p frames) {f : Frame} :
    f ∈ frames ↔ ∃ before opening after, OpenBlock p before opening after ∧
      f = frameOf symbol opening (alternativesIn after) := by
  constructor
  · intro hf
    obtain ⟨inner, outer, hsplit⟩ := List.append_of_mem hf
    obtain ⟨before, opening, after, hblock, hframe, -⟩ := h.exists_openBlock hsplit
    exact ⟨before, opening, after, hblock, hframe⟩
  · rintro ⟨before, opening, after, hblock, rfl⟩
    obtain ⟨inner, outer, rfl, -⟩ := h.exists_frame hblock
    simp

end Nested

/-! ### The stack follows the nesting -/

/-- The stack after lines, read one after the other. -/
def Stack.run (symbol : List Char) : Stack → List (List Char) → Except NestingError Stack
  | s, [] => .ok s
  | s, line :: rest =>
    match s.update symbol line with
    | (.error e, _) => .error e
    | (.ok (), s) => s.run symbol rest

theorem Stack.run_append {symbol : List Char} {p q : List (List Char)} {s s' : Stack}
    (h : s.run symbol p = .ok s') : s.run symbol (p ++ q) = s'.run symbol q := by
  induction p generalizing s with
  | nil =>
    obtain rfl := Except.ok.inj h
    rfl
  | cons line p ih =>
    rw [Stack.run] at h
    rw [List.cons_append, Stack.run]
    rcases hu : s.update symbol line with ⟨e | u, next⟩
    · simp [hu] at h
    · simp only [hu] at h
      exact ih h

theorem Stack.run_append_singleton {symbol line : List Char} {p : List (List Char)}
    {s s' next : Stack} (h : s.run symbol p = .ok s') (hline : s'.update symbol line = (.ok (), next)) :
    s.run symbol (p ++ [line]) = .ok next := by
  rw [Stack.run_append h, Stack.run, hline]
  rfl

theorem alternativesIn_append_singleton {after : List (List Char)} (h : Level after)
    (line : List Char) :
    alternativesIn (after ++ [line]) = alternativesIn after ++ alternatives 0 [classify line] := by
  unfold alternativesIn
  rw [List.map_append, alternatives_append h]
  rfl

theorem frameOf_append_alternative (symbol opening : List Char) (ds : List Directive) :
    frameOf symbol opening (ds ++ [.alternative]) = (frameOf symbol opening ds).flip := by
  unfold frameOf
  cases guard? symbol opening with
  | none => rfl
  | some g =>
    by_cases hmem : .conditionalAlternative ∈ ds
    · simp [hmem, Frame.flip]
    · simp [hmem, Frame.flip, List.count_append]

theorem frameOf_append_conditionalAlternative (symbol opening : List Char)
    (ds : List Directive) :
    frameOf symbol opening (ds ++ [.conditionalAlternative]) = .untracked := by
  unfold frameOf
  cases guard? symbol opening with
  | none => rfl
  | some g => simp

theorem ofGuard_guard? (symbol opening : List Char) :
    Frame.ofGuard (String.ofList ((guard? symbol opening).getD [])) =
      frameOf symbol opening [] := by
  unfold frameOf Frame.ofGuard
  cases hg : guard? symbol opening with
  | none => simp
  | some g =>
    have hne : String.ofList g ≠ "" := by
      intro h
      exact guard?_ne_nil hg (by simpa using congrArg String.toList h)
    simp [hne]

theorem Nested.modifyTop {symbol : List Char} {p : List (List Char)} {s t : Stack}
    {line : List Char} {f : Frame → Frame} (h : Nested symbol p s.frames)
    (hkeeps : ∀ n ds, innerDepth n (classify line :: ds) = innerDepth n ds)
    (hframe : ∀ opening ds, f (frameOf symbol opening ds) =
      frameOf symbol opening (ds ++ alternatives 0 [classify line]))
    (hu : s.modifyTop f = (.ok (), t)) : Nested symbol (p ++ [line]) t.frames := by
  obtain ⟨frames⟩ := s
  cases h with
  | outside hp => simp [Stack.modifyTop] at hu
  | @inside before opening after frames hbefore ho hafter =>
    obtain rfl := (Prod.mk.inj hu).2
    have hlevel : Level [line] := hkeeps 0 []
    rw [hframe, ← alternativesIn_append_singleton hafter, List.append_assoc, List.cons_append]
    exact .inside hbefore ho (hafter.append hlevel)

/-- One line keeps frames and nesting in agreement. -/
theorem Nested.step {symbol line : List Char} {p : List (List Char)} {s t : Stack}
    (h : Nested symbol p s.frames) (hu : s.update symbol line = (.ok (), t)) :
    Nested symbol (p ++ [line]) t.frames := by
  unfold Stack.update at hu
  cases hc : classify line with
  | opening =>
    rw [hc] at hu
    obtain rfl := (Prod.mk.inj hu).2
    have hlevel : Level [] := rfl
    have hin := Nested.inside h hc hlevel
    rwa [show alternativesIn [] = [] from rfl, ← ofGuard_guard?] at hin
  | none =>
    rw [hc] at hu
    obtain rfl := (Prod.mk.inj hu).2
    apply h.append_level
    · simp [Level, hc]
    · simp [alternativesIn, hc]
  | closing =>
    rw [hc] at hu
    obtain ⟨frames⟩ := s
    cases h with
    | outside hp => simp [Stack.pop, Except.map] at hu
    | @inside before opening after frames hbefore ho hafter =>
      obtain rfl := (Prod.mk.inj hu).2
      obtain ⟨hlevel, hnone⟩ := level_block ho hc hafter
      rw [List.append_assoc]
      exact hbefore.append_level hlevel hnone
  | alternative =>
    rw [hc] at hu
    apply h.modifyTop _ _ hu
    · intro n ds
      rw [hc]
      cases n <;> rfl
    · intro opening ds
      rw [hc]
      exact (frameOf_append_alternative symbol opening ds).symm
  | conditionalAlternative =>
    rw [hc] at hu
    apply h.modifyTop _ _ hu
    · intro n ds
      rw [hc]
      cases n <;> rfl
    · intro opening ds
      rw [hc]
      exact (frameOf_append_conditionalAlternative symbol opening ds).symm

theorem Nested.run {symbol : List Char} {p q : List (List Char)} {s t : Stack}
    (h : Nested symbol p s.frames) (hrun : s.run symbol q = .ok t) :
    Nested symbol (p ++ q) t.frames := by
  induction q generalizing p s with
  | nil =>
    obtain rfl := Except.ok.inj hrun
    rwa [List.append_nil]
  | cons line q ih =>
    rw [Stack.run] at hrun
    rcases hu : s.update symbol line with ⟨e | ok, u⟩
    · simp [hu] at hrun
    · simp only [hu] at hrun
      have hq := ih (h.step hu) hrun
      rwa [List.append_assoc] at hq

/-- After every run that does not fail, the frames are those of the open blocks. -/
theorem nested_run {symbol : List Char} {p : List (List Char)} {s : Stack}
    (hrun : Stack.empty.run symbol p = .ok s) : Nested symbol p s.frames := by
  have hempty : Nested symbol [] Stack.empty.frames := .outside rfl
  exact hempty.run hrun

end DefFragments.Conditional
