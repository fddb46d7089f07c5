import DefFragments.Proofs.Conditional.Nesting
import Mathlib.Data.List.Induction
import Mathlib.Logic.Function.Iterate

/-!
# The guards of the open blocks

Which blocks are open is read off the lines by pairing opening with closing lines, and so is the
guard of each: no stack is needed for it. The stack agrees with this after any lines, also when some
of them fail on the way: a line fails only outside of all blocks, and it closes none.
-/

namespace DefFragments.Conditional

/-! ### Pairs of opening and closing lines -/

/-- Directives in which the opening and the closing ones come in pairs. -/
inductive Balanced : List Directive → Prop
  | nil : Balanced []
  | other {d ds} : d ≠ .opening → d ≠ .closing → Balanced ds → Balanced (d :: ds)
  | block {inner ds} : Balanced inner → Balanced ds →
      Balanced (.opening :: (inner ++ .closing :: ds))

/-- One of these directives makes a pair with an opening one in front of them. -/
def Closed (ds : List Directive) : Prop :=
  ∃ inner rest, ds = inner ++ .closing :: rest ∧ Balanced inner

theorem innerDepth_cons_of_other {d : Directive} (ho : d ≠ .opening) (hc : d ≠ .closing) (n : Nat)
    (ds : List Directive) : innerDepth n (d :: ds) = innerDepth n ds := by
  cases d with
  | opening => exact absurd rfl ho
  | closing => exact absurd rfl hc
  | alternative => cases n <;> rfl
  | conditionalAlternative => cases n <;> rfl
  | none => cases n <;> rfl

theorem Balanced.innerDepth_append {a : List Directive} (h : Balanced a) (n : Nat)
    (b : List Directive) : innerDepth n (a ++ b) = innerDepth n b := by
  induction h generalizing n b with
  | nil => rfl
  | other ho hc _ ih => rw [List.cons_append, innerDepth_cons_of_other ho hc, ih]
  | block _ _ ihinner ih =>
    rw [List.cons_append, List.append_assoc, innerDepth, ihinner, List.cons_append, innerDepth, ih]

theorem Closed.other {d : Directive} {ds : List Directive} (h : Closed ds) (ho : d ≠ .opening)
    (hc : d ≠ .closing) : Closed (d :: ds) := by
  obtain ⟨inner, rest, rfl, hinner⟩ := h
  exact ⟨d :: inner, rest, rfl, .other ho hc hinner⟩

/-- The first directive that the count of inner blocks cannot take closes the block in front. -/
theorem closed_of_innerDepth_eq_none : ∀ {ds : List Directive}, innerDepth 0 ds = none → Closed ds
  | [], h => by cases h
  | .closing :: ds, _ => ⟨[], ds, rfl, .nil⟩
  | .opening :: ds, h => by
    cases hd : innerDepth 0 ds with
    | some k =>
      have hdeep : innerDepth 1 ds = some (k + 1) := innerDepth_add 1 hd
      rw [innerDepth, hdeep] at h
      cases h
    | none =>
      obtain ⟨inner, rest, rfl, hinner⟩ := closed_of_innerDepth_eq_none hd
      have hrest : innerDepth 0 rest = none := by
        rw [innerDepth, hinner.innerDepth_append] at h
        exact h
      obtain ⟨inner', rest', rfl, hinner'⟩ := closed_of_innerDepth_eq_none hrest
      exact ⟨.opening :: (inner ++ .closing :: inner'), rest', by simp, .block hinner hinner'⟩
  | .alternative :: ds, h =>
    have hclosed : Closed ds := closed_of_innerDepth_eq_none (h : innerDepth 0 ds = none)
    hclosed.other (by decide) (by decide)
  | .conditionalAlternative :: ds, h =>
    have hclosed : Closed ds := closed_of_innerDepth_eq_none (h : innerDepth 0 ds = none)
    hclosed.other (by decide) (by decide)
  | .none :: ds, h =>
    have hclosed : Closed ds := closed_of_innerDepth_eq_none (h : innerDepth 0 ds = none)
    hclosed.other (by decide) (by decide)
  termination_by ds => ds.length

theorem innerDepth_eq_none_iff {ds : List Directive} : innerDepth 0 ds = none ↔ Closed ds := by
  constructor
  · exact closed_of_innerDepth_eq_none
  · rintro ⟨inner, rest, rfl, hinner⟩
    rw [hinner.innerDepth_append]
    rfl

theorem innerDepth_eq_zero_iff {ds : List Directive} : innerDepth 0 ds = some 0 ↔ Balanced ds := by
  constructor
  · intro h
    have hnone : innerDepth 0 (ds ++ [.closing]) = none := by
      rw [innerDepth_append, h]
      rfl
    obtain ⟨inner, rest, heq, hinner⟩ := innerDepth_eq_none_iff.1 hnone
    rcases List.eq_nil_or_concat rest with rfl | ⟨rest', d, rfl⟩
    · rwa [(List.append_inj_left' heq rfl)]
    · have hclosed : Closed ds := by
        refine ⟨inner, rest', ?_, hinner⟩
        rw [List.concat_eq_append, ← List.cons_append, ← List.append_assoc] at heq
        exact List.append_inj_left' heq rfl
      rw [innerDepth_eq_none_iff.2 hclosed] at h
      cases h
  · intro h
    have hrun := h.innerDepth_append 0 []
    rwa [List.append_nil] at hrun

theorem Balanced.append {a b : List Directive} (ha : Balanced a) (hb : Balanced b) :
    Balanced (a ++ b) := by
  rw [← innerDepth_eq_zero_iff, ha.innerDepth_append]
  exact innerDepth_eq_zero_iff.2 hb

theorem Balanced.not_append_opening {after : List Directive} (h : Balanced after)
    (before : List Directive) : ¬Balanced (before ++ .opening :: after) := by
  rw [← innerDepth_eq_zero_iff, Conditional.innerDepth_append]
  cases innerDepth 0 before with
  | none => simp
  | some m =>
    have hdeep := innerDepth_add (m + 1) (innerDepth_eq_zero_iff.2 h)
    rw [Nat.zero_add] at hdeep
    rw [Option.bind_some, innerDepth, hdeep]
    simp

instance (ds : List Directive) : Decidable (Balanced ds) :=
  decidable_of_iff (innerDepth 0 ds = some 0) innerDepth_eq_zero_iff

instance (ds : List Directive) : Decidable (Closed ds) :=
  decidable_of_iff (innerDepth 0 ds = none) innerDepth_eq_none_iff

/-! ### What stands directly in a block -/

/-- How often a directive stands directly in the block in front of these directives: what is between
comes in pairs. -/
def countDirectly (d : Directive) (ds : List Directive) : Nat :=
  (List.range ds.length).countP fun i => ds[i]? = some d ∧ Balanced (ds.take i)

theorem countDirectly_append_singleton (d x : Directive) (ds : List Directive) :
    countDirectly d (ds ++ [x]) =
      countDirectly d ds + if x = d ∧ Balanced ds then 1 else 0 := by
  have hbefore : ∀ i ∈ List.range ds.length,
      (decide ((ds ++ [x])[i]? = some d ∧ Balanced ((ds ++ [x]).take i)) = true ↔
        decide (ds[i]? = some d ∧ Balanced (ds.take i)) = true) := by
    intro i hi
    have hlt : i < ds.length := List.mem_range.1 hi
    rw [List.getElem?_append_left hlt, List.take_append_of_le_length (Nat.le_of_lt hlt)]
  unfold countDirectly
  rw [List.length_append, List.length_singleton, List.range_succ, List.countP_append,
    List.countP_congr hbefore, List.countP_singleton]
  simp

theorem alternatives_append_of_none {n : Nat} {a : List Directive} (h : innerDepth n a = none)
    (b : List Directive) : alternatives n (a ++ b) = alternatives n a := by
  induction a generalizing n with
  | nil => simp at h
  | cons d a ih =>
    cases d <;> cases n
    case closing.zero => rfl
    all_goals
      simp only [innerDepth] at h
      simp only [List.cons_append, alternatives, ih h]

/-- The `#else` and `#elif` directives directly in a block are those that only pairs precede. -/
theorem count_alternatives {d : Directive} (hd : d = .alternative ∨ d = .conditionalAlternative)
    (ds : List Directive) : (alternatives 0 ds).count d = countDirectly d ds := by
  induction ds using List.reverseRecOn with
  | nil => rfl
  | append_singleton ds x ih =>
    simp only [countDirectly_append_singleton, ← ih, ← innerDepth_eq_zero_iff]
    cases hdepth : innerDepth 0 ds with
    | none => simp [alternatives_append_of_none hdepth]
    | some m =>
      rw [alternatives_append hdepth, List.count_append]
      congr 1
      rcases hd with rfl | rfl <;> cases x <;> cases m <;> simp

/-! ### The guards of the open blocks -/

/-- What an open block adds to the combined guard: the guard of its opening line, inside a negation
for every `#else` directly in the block, and nothing once an `#elif` stands there. -/
def blockGuard? (symbol opening : List Char) (ds : List Directive) : Option String :=
  if 0 < countDirectly .conditionalAlternative ds then none
  else (guard? symbol opening).map fun g =>
    (fun s => "!(" ++ s ++ ")")^[countDirectly .alternative ds] (String.ofList g)

/-- The guards of the blocks that these lines leave open, the outermost first. -/
def openGuards (symbol : List Char) : List (List Char) → List String
  | [] => []
  | line :: rest =>
    if classify line = .opening ∧ ¬Closed (rest.map classify) then
      (blockGuard? symbol line (rest.map classify)).toList ++ openGuards symbol rest
    else openGuards symbol rest

/-- The frames of the blocks that these lines leave open, the outermost first. -/
def openFrames (symbol : List Char) : List (List Char) → List Frame
  | [] => []
  | line :: rest =>
    if classify line = .opening ∧ ¬Closed (rest.map classify) then
      frameOf symbol line (alternativesIn rest) :: openFrames symbol rest
    else openFrames symbol rest

theorem negate_eq_iterate (condition : String) (n : Nat) :
    negate condition n = (fun s => "!(" ++ s ++ ")")^[n] condition := by
  induction n with
  | zero => rfl
  | succ n ih => rw [Function.iterate_succ_apply', negate, ih]

theorem guard?_frameOf (symbol opening : List Char) (rest : List (List Char)) :
    (frameOf symbol opening (alternativesIn rest)).guard? =
      blockGuard? symbol opening (rest.map classify) := by
  have helif := count_alternatives (Or.inr rfl) (rest.map classify)
  have helse := count_alternatives (Or.inl rfl) (rest.map classify)
  unfold blockGuard? frameOf alternativesIn
  simp only [← helif, ← helse, List.count_pos_iff]
  cases guard? symbol opening with
  | none => simp [Frame.guard?]
  | some g =>
    by_cases hmem : .conditionalAlternative ∈ alternatives 0 (rest.map classify)
    · simp [hmem, Frame.guard?]
    · simp [hmem, Frame.guard?, negate_eq_iterate]

theorem filterMap_openFrames (symbol : List Char) (p : List (List Char)) :
    (openFrames symbol p).filterMap Frame.guard? = openGuards symbol p := by
  induction p with
  | nil => rfl
  | cons line rest ih =>
    rw [openFrames, openGuards]
    split
    · rw [List.filterMap_cons, guard?_frameOf, ih]
      cases blockGuard? symbol line (rest.map classify) <;> rfl
    · exact ih

theorem not_closed_iff {ds : List Directive} : ¬Closed ds ↔ (innerDepth 0 ds).isSome := by
  rw [← innerDepth_eq_none_iff, Option.isSome_iff_ne_none]

theorem openFrames_eq_nil_iff {symbol : List Char} {p : List (List Char)} :
    openFrames symbol p = [] ↔ ∀ before opening after, ¬OpenBlock p before opening after := by
  induction p with
  | nil =>
    refine ⟨fun _ before opening after h => ?_, fun _ => rfl⟩
    have hlines := h.lines_eq
    simp at hlines
  | cons line rest ih =>
    rw [openFrames]
    split
    · next h =>
      refine ⟨fun hnil => absurd hnil (List.cons_ne_nil _ _), fun hnone => ?_⟩
      exact absurd ⟨rfl, h.1, not_closed_iff.1 h.2⟩ (hnone [] line rest)
    · next h =>
      rw [ih]
      constructor
      · rintro hnone before opening after ⟨heq, hopens, hstays⟩
        cases before with
        | nil =>
          obtain ⟨rfl, rfl⟩ := List.cons.inj heq
          exact h ⟨hopens, not_closed_iff.2 hstays⟩
        | cons l before =>
          obtain ⟨rfl, rfl⟩ := List.cons.inj heq
          exact hnone before opening after ⟨rfl, hopens, hstays⟩
      · rintro hnone before opening after ⟨rfl, hopens, hstays⟩
        exact hnone (line :: before) opening after ⟨rfl, hopens, hstays⟩

theorem openFrames_append_block {symbol opening : List Char} {before after : List (List Char)}
    (ho : classify opening = .opening) (hafter : Level after) :
    openFrames symbol (before ++ opening :: after) =
      openFrames symbol before ++ [frameOf symbol opening (alternativesIn after)] := by
  induction before with
  | nil =>
    have hnone : openFrames symbol after = [] :=
      openFrames_eq_nil_iff.2 fun _ _ _ => hafter.not_openBlock
    have hstays : ¬Closed (after.map classify) := by
      rw [not_closed_iff, show innerDepth 0 _ = some 0 from hafter]
      rfl
    show openFrames symbol (opening :: after) = [frameOf symbol opening (alternativesIn after)]
    rw [openFrames, if_pos ⟨ho, hstays⟩, hnone]
  | cons line rest ih =>
    have hstays : ¬Closed ((rest ++ opening :: after).map classify) ↔
        ¬Closed (rest.map classify) := by
      rw [not_closed_iff, not_closed_iff, isSome_innerDepth_append_block ho hafter]
    simp only [List.cons_append, openFrames, hstays, ih]
    split
    · next h => rw [alternativesIn_append_block (not_closed_iff.1 h.2) ho hafter, List.cons_append]
    · rfl

theorem openFrames_of_nested {symbol : List Char} {p : List (List Char)} {frames : List Frame}
    (h : Nested symbol p frames) : openFrames symbol p = frames.reverse := by
  induction h with
  | outside hp => exact openFrames_eq_nil_iff.2 fun _ _ _ => hp.not_openBlock
  | inside _ ho hafter ih => rw [openFrames_append_block ho hafter, ih, List.reverse_cons]

/-- A block that is closed stays closed, so lines that leave none open can be passed over. -/
theorem openFrames_append {symbol : List Char} {p : List (List Char)}
    (h : openFrames symbol p = []) (q : List (List Char)) :
    openFrames symbol (p ++ q) = openFrames symbol q := by
  induction p with
  | nil => rfl
  | cons line rest ih =>
    rw [openFrames] at h
    split at h
    · cases h
    · next hline =>
      have hclosed : ¬(classify line = .opening ∧ ¬Closed ((rest ++ q).map classify)) := by
        rintro ⟨ho, hopen⟩
        obtain ⟨inner, tail, heq, hinner⟩ := not_not.1 fun hc => hline ⟨ho, hc⟩
        refine hopen ⟨inner, tail ++ q.map classify, ?_, hinner⟩
        rw [List.map_append, heq, List.append_assoc]
        rfl
      rw [List.cons_append, openFrames, if_neg hclosed, ih h]

/-! ### The stack -/

/-- The stack after lines of which any may fail; reading goes on with what a failure leaves. -/
def Stack.follow (symbol : List Char) (s : Stack) (p : List (List Char)) : Stack :=
  p.foldl (fun s line => (s.update symbol line).2) s

def openings (p : List (List Char)) : Nat :=
  (p.map classify).count .opening

def closings (p : List (List Char)) : Nat :=
  (p.map classify).count .closing

/-- The directives that need an open block. -/
def Directive.needsBlock : Directive → Bool
  | .alternative => true
  | .conditionalAlternative => true
  | .closing => true
  | _ => false

section
variable {symbol : List Char} {s t : Stack} {p : List (List Char)} {line : List Char}

/-- A line fails exactly if it needs an open block where none is open, and then the stack stays as it
is. -/
theorem update_eq_error_iff {e : NestingError} :
    s.update symbol line = (.error e, t) ↔
      e = .unbalanced ∧ s.frames = [] ∧ (classify line).needsBlock = true ∧ t = s := by
  obtain ⟨frames⟩ := s
  unfold Stack.update
  cases classify line <;> cases frames <;>
    simp [Stack.pop, Stack.modifyTop, Directive.needsBlock, Except.map, eq_comm]

theorem update_fst_eq_error_iff {e : NestingError} :
    (s.update symbol line).1 = .error e ↔
      e = .unbalanced ∧ s.frames = [] ∧ (classify line).needsBlock = true := by
  constructor
  · intro h
    obtain ⟨he, hframes, hneeds, -⟩ := update_eq_error_iff.1 (Prod.ext h rfl)
    exact ⟨he, hframes, hneeds⟩
  · rintro ⟨rfl, hframes, hneeds⟩
    rw [update_eq_error_iff.2 ⟨rfl, hframes, hneeds, rfl⟩]

theorem depth_update (h : s.update symbol line = (.ok (), t)) :
    t.depth + closings [line] = s.depth + openings [line] := by
  obtain ⟨frames⟩ := s
  unfold closings openings
  rw [List.map_singleton]
  unfold Stack.update at h
  cases hc : classify line <;> rw [hc] at h <;> cases frames <;>
    simp only [Stack.pop, Stack.modifyTop, Except.map, reduceCtorEq, false_and, Prod.mk.injEq,
      true_and] at h <;>
    subst h <;> rfl

theorem depth_run (h : s.run symbol p = .ok t) :
    t.depth + closings p = s.depth + openings p := by
  induction p generalizing s with
  | nil =>
    obtain rfl := Except.ok.inj h
    rfl
  | cons line p ih =>
    rw [Stack.run] at h
    rcases hu : s.update symbol line with ⟨e | ok, next⟩
    · simp [hu] at h
    · simp only [hu] at h
      have hrest := ih h
      have hline := depth_update hu
      unfold openings closings at *
      rw [List.map_cons, List.count_cons, List.count_cons]
      simp only [List.map_singleton, List.count_singleton] at hline
      omega

theorem follow_append_singleton :
    s.follow symbol (p ++ [line]) = ((s.follow symbol p).update symbol line).2 := by
  simp [Stack.follow]

theorem follow_of_run (h : s.run symbol p = .ok t) : s.follow symbol p = t := by
  induction p generalizing s with
  | nil => exact Except.ok.inj h
  | cons line p ih =>
    rw [Stack.run] at h
    rcases hu : s.update symbol line with ⟨e | ok, next⟩
    · simp [hu] at h
    · simp only [hu] at h
      rw [← ih h, Stack.follow, List.foldl_cons, hu]
      rfl

/-- After any lines the stack is what the lines since the last failure make of an empty one, and no
block from before is open. -/
theorem exists_run_of_follow (symbol : List Char) (p : List (List Char)) :
    ∃ before since, p = before ++ since ∧ openFrames symbol before = [] ∧
      Stack.empty.run symbol since = .ok (Stack.empty.follow symbol p) := by
  induction p using List.reverseRecOn with
  | nil => exact ⟨[], [], rfl, rfl, rfl⟩
  | append_singleton p line ih =>
    obtain ⟨before, since, hp, hbefore, hrun⟩ := ih
    rw [follow_append_singleton]
    rcases hu : (Stack.empty.follow symbol p).update symbol line with ⟨e | ok, next⟩
    · obtain ⟨-, hframes, hneeds, rfl⟩ := update_eq_error_iff.1 hu
      have hnone : openFrames symbol p = [] := by
        rw [hp, openFrames_append hbefore, openFrames_of_nested (nested_run hrun), hframes]
        rfl
      have hline : ¬(classify line = .opening ∧ ¬Closed (([] : List (List Char)).map classify)) := by
        rintro ⟨ho, -⟩
        rw [ho] at hneeds
        cases hneeds
      refine ⟨p ++ [line], [], (List.append_nil _).symm, ?_, ?_⟩
      · rw [openFrames_append hnone, openFrames, if_neg hline]
        rfl
      · have hempty : Stack.empty.follow symbol p = .empty := congrArg Stack.mk hframes
        rw [hempty]
        rfl
    · exact ⟨before, since ++ [line], by rw [hp, List.append_assoc], hbefore,
        Stack.run_append_singleton hrun hu⟩

theorem frames_follow (symbol : List Char) (p : List (List Char)) :
    (Stack.empty.follow symbol p).frames.reverse = openFrames symbol p := by
  obtain ⟨before, since, hp, hbefore, hrun⟩ := exists_run_of_follow symbol p
  rw [hp, openFrames_append hbefore, ← hp, openFrames_of_nested (nested_run hrun)]

end

/-- After any lines the combined guard is that of the open blocks. As long as no line fails, the
depth counts the opening lines against the closing ones. A line fails exactly if it needs an open
block where none is open, and it leaves the stack as it is. -/
theorem follow_openGuards (symbol : List Char) (p : List (List Char)) :
    (Stack.empty.follow symbol p).combinedGuard = " && ".intercalate (openGuards symbol p) ∧
      (∀ s, Stack.empty.run symbol p = .ok s →
        Stack.empty.follow symbol p = s ∧ (s.depth : Int) = openings p - closings p) ∧
      ∀ line,
        ((∃ e, ((Stack.empty.follow symbol p).update symbol line).1 = .error e) ↔
          Stack.empty.follow symbol p = .empty ∧
            classify line ∈ [.alternative, .conditionalAlternative, .closing]) ∧
        ∀ e, ((Stack.empty.follow symbol p).update symbol line).1 = .error e →
          e = .unbalanced ∧
            ((Stack.empty.follow symbol p).update symbol line).2 = Stack.empty.follow symbol p := by
  refine ⟨?_, fun s hs => ⟨follow_of_run hs, ?_⟩, fun line => ⟨?_, fun e he => ?_⟩⟩
  · rw [Stack.combinedGuard, Stack.guards, frames_follow, filterMap_openFrames]
  · have hdepth := depth_run hs
    have hzero : Stack.empty.depth = 0 := rfl
    omega
  · have hneeds : (classify line).needsBlock = true ↔
        classify line ∈ [.alternative, .conditionalAlternative, .closing] := by
      cases classify line <;> decide
    have hempty : (Stack.empty.follow symbol p).frames = [] ↔
        Stack.empty.follow symbol p = .empty :=
      ⟨fun h => congrArg Stack.mk h, fun h => congrArg Stack.frames h⟩
    simp only [update_fst_eq_error_iff, hneeds, hempty, exists_eq_left]
  · obtain ⟨hunbalanced, -, -, hsame⟩ := update_eq_error_iff.1 (Prod.ext he rfl)
    exact ⟨hunbalanced, hsame⟩

theorem follow_openGuards_of_alternative :
    let p := ["#if V > 1".toList, "#ifdef X".toList, "#else".toList, "#endif".toList,
      "#else".toList, "#if V < 9".toList]
    (Stack.empty.follow "V".toList ("#endif".toList :: p)).combinedGuard = "!(V > 1) && V < 9" ∧
      ∃ s, Stack.empty.run "V".toList p = .ok s ∧ s.depth = 2 := by
  intro p
  refine ⟨?_, ?_⟩
  · rw [(follow_openGuards "V".toList ("#endif".toList :: p)).1]
    decide
  · have hrun : ∃ s, Stack.empty.run "V".toList p = .ok s := ⟨⟨[_, _]⟩, rfl⟩
    obtain ⟨s, hs⟩ := hrun
    have hdepth := ((follow_openGuards "V".toList p).2.1 s hs).2
    have hopen : openings p = 3 := by decide
    have hclose : closings p = 1 := by decide
    exact ⟨s, hs, by omega⟩

end DefFragments.Conditional
