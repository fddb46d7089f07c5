import DefFragments.Library.Resolution
import DefFragments.Proofs.Conditional.OpenBlocks
import DefFragments.Proofs.Library.GuardTerms
import DefFragments.Proofs.Text.ByteOrder
import DefFragments.Proofs.Text.Lines
import Mathlib.Data.List.Forall2

/-!
# The blocks of a libraries fragment

Each line of a fragment is read by itself, and opening and closing lines come in pairs. The names of
a fragment are the words of its text lines that stand only inside blocks whose guards hold. If a
line offends, the first one that does is reported, also inside a block that does not hold; if none
does, the blocks that stay open are.
-/

namespace DefFragments.Library
open Text Conditional

/-! ### Lines -/

/-- What a line is, read without the blanks around it. -/
inductive Reads (line : List Char) : FragmentLine → Prop
  | opening {guard} : trim line = "#if ".toList ++ guard → Reads line (.opening (trim guard))
  | closing : trim line = "#endif".toList → Reads line .closing
  | otherDirective : (∃ rest, trim line = '#' :: rest) →
      (∀ guard, trim line ≠ "#if ".toList ++ guard) → trim line ≠ "#endif".toList →
      Reads line (.otherDirective (trim line))
  | text : (∀ rest, trim line ≠ '#' :: rest) → Reads line (.text (words (trim line)))

theorem reads_iff {line : List Char} {l : FragmentLine} :
    Reads line l ↔ FragmentLine.ofLine line = l := by
  have hhash : startsWith ['#'] (trim line) = true ↔ ∃ rest, trim line = '#' :: rest := by
    unfold startsWith
    simp only [Option.isSome_iff_exists, stripPrefix?_eq_some_iff, List.singleton_append]
  have hif : ∀ guard, trim line = "#if ".toList ++ guard ↔
      stripPrefix? "#if ".toList (trim line) = some guard :=
    fun _ => stripPrefix?_eq_some_iff.symm
  unfold FragmentLine.ofLine
  constructor
  · rintro (h | h | ⟨h, hopening, hclosing⟩ | h)
    · rw [hif] at h
      simp only [h]
    · rw [h]
      rfl
    · have hnone : stripPrefix? "#if ".toList (trim line) = none :=
        Option.eq_none_iff_forall_ne_some.2 fun guard => mt (hif guard).2 (hopening guard)
      simp only [hnone, hclosing, if_false, hhash.2 h, if_true]
    · have hnone : stripPrefix? "#if ".toList (trim line) = none :=
        Option.eq_none_iff_forall_ne_some.2 fun guard => mt (hif guard).2 (h _)
      have hclosing : trim line ≠ "#endif".toList := h _
      have htext : ¬startsWith ['#'] (trim line) = true := by
        rw [hhash]
        exact not_exists.2 h
      simp only [hnone, hclosing, if_false, htext]
      rfl
  · intro h
    cases hopening : stripPrefix? "#if ".toList (trim line) with
    | some guard =>
      simp only [hopening] at h
      rw [← h]
      exact .opening ((hif guard).2 hopening)
    | none =>
      simp only [hopening] at h
      split_ifs at h with hclosing hdirective
      · rw [← h]
        exact .closing hclosing
      · rw [← h]
        refine .otherDirective (hhash.1 hdirective) (fun guard hguard => ?_) hclosing
        rw [hif, hopening] at hguard
        cases hguard
      · rw [← h]
        exact .text (not_exists.1 (mt hhash.2 hdirective))

theorem forall₂_reads_iff {raw : List (List Char)} {ls : List FragmentLine} :
    List.Forall₂ Reads raw ls ↔ raw.map FragmentLine.ofLine = ls := by
  have hreads : Reads = fun line l => FragmentLine.ofLine line = l :=
    funext fun _ => funext fun _ => propext reads_iff
  rw [hreads, ← List.forall₂_eq_eq_eq, List.forall₂_map_left_iff]

def FragmentLine.directive : FragmentLine → Directive
  | .opening _ => .opening
  | .closing => .closing
  | .otherDirective _ => .none
  | .text _ => .none

/-! ### Open blocks -/

/-- The lines leave blocks with these guards open, the innermost first. -/
inductive LeavesOpen : List FragmentLine → List (List Char) → Prop
  | outside {ls} : Balanced (ls.map FragmentLine.directive) → LeavesOpen ls []
  | inside {before guard after guards} : LeavesOpen before guards →
      Balanced (after.map FragmentLine.directive) →
      LeavesOpen (before ++ .opening guard :: after) (guard :: guards)

namespace LeavesOpen

variable {ls : List FragmentLine} {guard : List Char} {guards guards' : List (List Char)}

theorem append (h : LeavesOpen ls guards) {after : List FragmentLine}
    (hafter : Balanced (after.map FragmentLine.directive)) : LeavesOpen (ls ++ after) guards := by
  cases h with
  | outside hls =>
    refine .outside ?_
    rw [List.map_append]
    exact hls.append hafter
  | inside hbefore hls =>
    rw [List.append_assoc, List.cons_append]
    refine .inside hbefore ?_
    rw [List.map_append]
    exact hls.append hafter

theorem closing (h : LeavesOpen ls (guard :: guards)) :
    LeavesOpen (ls ++ [.closing]) guards := by
  cases h with
  | inside hbefore hafter =>
    rw [List.append_assoc]
    refine hbefore.append ?_
    rw [List.cons_append, List.map_cons, List.map_append]
    exact .block hafter .nil

theorem other (h : LeavesOpen ls guards) {line : FragmentLine}
    (hline : line.directive = .none) : LeavesOpen (ls ++ [line]) guards := by
  refine h.append ?_
  rw [List.map_singleton, hline]
  exact .other (by decide) (by decide) .nil

theorem not_balanced_append_opening {after : List FragmentLine}
    (hafter : Balanced (after.map FragmentLine.directive)) (before : List FragmentLine) :
    ¬Balanced ((before ++ .opening guard :: after).map FragmentLine.directive) := by
  rw [List.map_append, List.map_cons]
  exact hafter.not_append_opening _

/-- The opening line of the innermost block is the last one that no pair takes. -/
theorem eq_nil_of_opening_eq {between after after' : List FragmentLine} {guard' : List Char}
    (hafter : Balanced (after.map FragmentLine.directive))
    (hafter' : Balanced (after'.map FragmentLine.directive))
    (h : .opening guard :: after = between ++ .opening guard' :: after') : between = [] := by
  cases between with
  | nil => rfl
  | cons line between =>
    obtain ⟨-, rfl⟩ := List.cons.inj h
    exact absurd hafter (not_balanced_append_opening hafter' between)

theorem unique (h : LeavesOpen ls guards) (h' : LeavesOpen ls guards') : guards = guards' := by
  induction h generalizing guards' with
  | outside hls =>
    cases h' with
    | outside => rfl
    | inside _ hafter => exact absurd hls (not_balanced_append_opening hafter _)
  | @inside before guard after guards hbefore hafter ih =>
    generalize hsame : before ++ .opening guard :: after = whole at h'
    cases h' with
    | outside hls => exact absurd (hsame ▸ hls) (not_balanced_append_opening hafter _)
    | @inside before' guard' after' guards' hbefore' hafter' =>
      have heq : before = before' := by
        rcases List.append_eq_append_iff.1 hsame with ⟨c, hb, hc⟩ | ⟨c, hb, hc⟩
        · rw [hb, eq_nil_of_opening_eq hafter hafter' hc, List.append_nil]
        · rw [hb, eq_nil_of_opening_eq hafter' hafter hc, List.append_nil]
      subst heq
      obtain ⟨hline, -⟩ := List.cons.inj (List.append_cancel_left hsame)
      obtain rfl := FragmentLine.opening.inj hline
      rw [ih hbefore']

end LeavesOpen

/-! ### What a line does -/

/-- What a line that does not offend does to the values of the open blocks, and which words it
adds. -/
inductive Step (symbol : List Char) (release : Nat) :
    FragmentLine → List Bool → List Bool → List (List Char) → Prop
  | opening {guard value active} : evaluate symbol release guard = .ok value →
      Step symbol release (.opening guard) active (value :: active) []
  | closing {value active} : Step symbol release .closing (value :: active) active []
  | text {ws active} :
      Step symbol release (.text ws) active active (if active.all id then ws else [])

/-- Why a line stops the reading. -/
inductive Stops (symbol : List Char) (release : Nat) : FragmentLine → List Bool → Cause → Prop
  | opening {guard active e} : evaluate symbol release guard = .error e →
      Stops symbol release (.opening guard) active (.guard e)
  | closing : Stops symbol release .closing [] (.nesting .unbalanced)
  | otherDirective {directive active} :
      Stops symbol release (.otherDirective directive) active
        (.guard (.invalid (String.ofList directive)))

section
variable {symbol line : List Char} {release n : Nat} {l : FragmentLine} {active : List Bool}
  {rest : List (List Char)}

theorem step_or_stops (symbol : List Char) (release : Nat) (l : FragmentLine) (active : List Bool) :
    (∃ next front, Step symbol release l active next front) ∨
      ∃ cause, Stops symbol release l active cause := by
  cases l with
  | opening guard =>
    cases hvalue : evaluate symbol release guard with
    | error e => exact Or.inr ⟨_, .opening hvalue⟩
    | ok value => exact Or.inl ⟨_, _, .opening hvalue⟩
  | closing =>
    cases active with
    | nil => exact Or.inr ⟨_, .closing⟩
    | cons value active => exact Or.inl ⟨_, _, .closing⟩
  | otherDirective directive => exact Or.inr ⟨_, .otherDirective⟩
  | text ws => exact Or.inl ⟨_, _, .text⟩

theorem activeWords_of_step (hline : Reads line l) {next : List Bool} {front : List (List Char)}
    (hstep : Step symbol release l active next front) :
    activeWords symbol release n active (line :: rest) =
      (activeWords symbol release (n + 1) next rest).map (front ++ ·) := by
  have hof := reads_iff.1 hline
  have hnothing : ∀ more : Except Failure (List (List Char)), more = more.map ([] ++ ·) := by
    rintro (f | ws) <;> rfl
  cases hstep with
  | opening hvalue =>
    rw [← hnothing]
    cases active <;> simp only [activeWords, hof, hvalue]
  | closing =>
    rw [← hnothing]
    simp only [activeWords, hof]
  | @text ws =>
    have hsame : (fun more => if active.all id then ws ++ more else more) =
        ((if active.all id then ws else []) ++ ·) := by
      funext more
      split <;> rfl
    rw [← hsame]
    cases active <;> simp only [activeWords, hof]

theorem activeWords_of_stops (hline : Reads line l) {cause : Cause}
    (hstop : Stops symbol release l active cause) :
    activeWords symbol release n active (line :: rest) =
      .error (.during (.fragmentLine n) cause) := by
  have hof := reads_iff.1 hline
  cases hstop with
  | opening hvalue => cases active <;> simp only [activeWords, hof, hvalue]
  | closing => simp only [activeWords, hof]
  | otherDirective => cases active <;> simp only [activeWords, hof]

theorem activeWords_cons_eq_ok_iff {ws : List (List Char)} :
    activeWords symbol release n active (line :: rest) = .ok ws ↔
      ∃ l next front more, Reads line l ∧ Step symbol release l active next front ∧
        activeWords symbol release (n + 1) next rest = .ok more ∧ ws = front ++ more := by
  constructor
  · intro h
    obtain ⟨l, hline⟩ : ∃ l, Reads line l := ⟨_, reads_iff.2 rfl⟩
    rcases step_or_stops symbol release l active with ⟨next, front, hstep⟩ | ⟨cause, hstop⟩
    · rw [activeWords_of_step hline hstep] at h
      cases hmore : activeWords symbol release (n + 1) next rest with
      | error f => simp [hmore, Except.map] at h
      | ok more =>
        rw [hmore] at h
        exact ⟨l, next, front, more, hline, hstep, hmore, (Except.ok.inj h).symm⟩
    · rw [activeWords_of_stops hline hstop] at h
      cases h
  · rintro ⟨l, next, front, more, hline, hstep, hmore, rfl⟩
    rw [activeWords_of_step hline hstep, hmore]
    rfl

/-- Lines that resolve leave no block open for the lines behind them. -/
theorem activeWords_append {a b : List (List Char)} {ws more : List (List Char)}
    (ha : activeWords symbol release n active a = .ok ws)
    (hb : ∀ m, activeWords symbol release m [] b = .ok more) (m : Nat) :
    activeWords symbol release m active (a ++ b) = .ok (ws ++ more) := by
  induction a generalizing n m active ws with
  | nil =>
    cases active with
    | nil =>
      obtain rfl := Except.ok.inj ha
      exact hb m
    | cons value active => cases ha
  | cons line a ih =>
    obtain ⟨l, next, front, rest, hline, hstep, hrest, rfl⟩ := activeWords_cons_eq_ok_iff.1 ha
    rw [List.cons_append, activeWords_cons_eq_ok_iff, List.append_assoc]
    exact ⟨l, next, front, rest ++ more, hline, hstep, ih hrest (m + 1), rfl⟩

theorem activeWords_renumber {ls ws : List (List Char)}
    (h : activeWords symbol release n active ls = .ok ws) (m : Nat) :
    activeWords symbol release m active ls = .ok ws := by
  have happend := activeWords_append h (b := []) (fun _ => rfl) m
  rwa [List.append_nil, List.append_nil] at happend

end

/-! ### Verdicts -/

/-- What is reported about a line with these lines before it. Whether the blocks around it hold does
not matter. -/
inductive Offence (symbol : List Char) (release : Nat) (before : List FragmentLine) :
    FragmentLine → Cause → Prop
  | guard {guard e} : IsRefused symbol release guard e →
      Offence symbol release before (.opening guard) (.guard e)
  | closing : LeavesOpen before [] → Offence symbol release before .closing (.nesting .unbalanced)
  | otherDirective {line} :
      Offence symbol release before (.otherDirective line)
        (.guard (.invalid (String.ofList line)))

/-- Nothing is reported about any of these lines. -/
def Faultless (symbol : List Char) (release : Nat) (ls : List FragmentLine) : Prop :=
  ∀ before line after, ls = before ++ line :: after →
    ∀ cause, ¬Offence symbol release before line cause

/-- The line is a text line with this word, inside blocks that all hold. -/
def KeptOn (symbol : List Char) (release : Nat) (before : List FragmentLine) (line : FragmentLine)
    (w : List Char) : Prop :=
  ∃ ws guards, line = .text ws ∧ w ∈ ws ∧ LeavesOpen before guards ∧
    ∀ guard ∈ guards, Holds symbol release guard

def Kept (symbol : List Char) (release : Nat) (ls : List FragmentLine) (w : List Char) : Prop :=
  ∃ before line after, ls = before ++ line :: after ∧ KeptOn symbol release before line w

/-- What the lines of a fragment resolve to. -/
inductive Verdict (symbol : List Char) (release : Nat) (ls : List FragmentLine) :
    Except Failure (List String) → Prop
  | names {names} : Faultless symbol release ls → LeavesOpen ls [] → names.Pairwise (· < ·) →
      (∀ name, name ∈ names ↔ Kept symbol release ls name.toList) →
      Verdict symbol release ls (.ok names)
  | offence {before line after cause} : ls = before ++ line :: after →
      Faultless symbol release before → Offence symbol release before line cause →
      Verdict symbol release ls (.error (.during (.fragmentLine (before.length + 1)) cause))
  | unterminated {guard guards} : Faultless symbol release ls → LeavesOpen ls (guard :: guards) →
      Verdict symbol release ls
        (.error (.during .fragment (.nesting (.unterminated (guard :: guards).length))))

section
variable {symbol : List Char} {release : Nat} {before ls : List FragmentLine} {line : FragmentLine}
  {guards : List (List Char)} {active : List Bool}

theorem Faultless.append_singleton (h : Faultless symbol release before)
    (hline : ∀ cause, ¬Offence symbol release before line cause) :
    Faultless symbol release (before ++ [line]) :=
  forall_split_append_singleton.2 ⟨h, hline⟩

theorem kept_append_singleton {w : List Char} :
    Kept symbol release (before ++ [line]) w ↔
      Kept symbol release before w ∨ KeptOn symbol release before line w :=
  exists_split_append_singleton

theorem kept_append_singleton_of_not_text {w : List Char} (hline : ∀ ws, line ≠ .text ws) :
    Kept symbol release (before ++ [line]) w ↔ Kept symbol release before w := by
  rw [kept_append_singleton, or_iff_left]
  rintro ⟨ws, guards, rfl, -⟩
  exact hline ws rfl

theorem keptOn_text_iff (hopen : LeavesOpen before guards) {ws : List (List Char)}
    {w : List Char} :
    KeptOn symbol release before (.text ws) w ↔
      w ∈ ws ∧ ∀ guard ∈ guards, Holds symbol release guard := by
  constructor
  · rintro ⟨ws', guards', hline, hw, hopen', hholds⟩
    obtain rfl := FragmentLine.text.inj hline
    obtain rfl := hopen.unique hopen'
    exact ⟨hw, hholds⟩
  · rintro ⟨hw, hholds⟩
    exact ⟨ws, guards, rfl, hw, hopen, hholds⟩

theorem all_active_iff
    (h : List.Forall₂ (fun guard value => evaluate symbol release guard = .ok value) guards active) :
    active.all id = true ↔ ∀ guard ∈ guards, Holds symbol release guard := by
  induction h with
  | nil => simp
  | cons hvalue _ ih =>
    rw [List.all_cons, Bool.and_eq_true, ih, List.forall_mem_cons, ← evaluate_eq_ok_true_iff,
      hvalue, Except.ok.injEq, id_eq]

/-! ### Along the lines -/

/-- What is known in front of a line that the reading has come to: the values are those of the
guards of the open blocks, nothing was reported, and the words are those that were kept. -/
structure Reached (symbol : List Char) (release : Nat) (before : List FragmentLine)
    (guards : List (List Char)) (active : List Bool) (kept : List (List Char)) : Prop where
  opens : LeavesOpen before guards
  values : List.Forall₂ (fun guard value => evaluate symbol release guard = .ok value) guards active
  clean : Faultless symbol release before
  kept_iff : ∀ w, w ∈ kept ↔ Kept symbol release before w

variable {kept : List (List Char)}

theorem Reached.start : Reached symbol release [] [] [] [] where
  opens := .outside .nil
  values := .nil
  clean := by
    intro before line after h
    simp at h
  kept_iff := by simp [Kept]

theorem Reached.step (h : Reached symbol release before guards active kept) {next : List Bool}
    {front : List (List Char)} (hstep : Step symbol release line active next front) :
    ∃ guards', Reached symbol release (before ++ [line]) guards' next (kept ++ front) := by
  cases hstep with
  | @opening guard value _ hvalue =>
    refine ⟨guard :: guards, .inside h.opens .nil, .cons hvalue h.values, ?_, fun w => ?_⟩
    · refine h.clean.append_singleton ?_
      rintro cause ⟨hrefused⟩
      rw [← evaluate_eq_error_iff, hvalue] at hrefused
      cases hrefused
    · rw [List.append_nil, kept_append_singleton_of_not_text (by simp), h.kept_iff]
  | closing =>
    obtain ⟨hopen, hvalues, hclean, hkept⟩ := h
    cases hvalues with
    | @cons guard _ guards _ _ hvalues =>
      refine ⟨guards, hopen.closing, hvalues, ?_, fun w => ?_⟩
      · refine hclean.append_singleton ?_
        rintro cause (_ | hnone)
        cases hopen.unique hnone
      · rw [List.append_nil, kept_append_singleton_of_not_text (by simp), hkept]
  | @text ws =>
    refine ⟨guards, h.opens.other rfl, h.values, ?_, fun w => ?_⟩
    · exact h.clean.append_singleton (by rintro cause ⟨⟩)
    · rw [List.mem_append, h.kept_iff, kept_append_singleton, keptOn_text_iff h.opens,
        ← all_active_iff h.values]
      split <;> simp [*]

theorem Reached.offence (h : Reached symbol release before guards active kept) {cause : Cause}
    (hstop : Stops symbol release line active cause) :
    Offence symbol release before line cause := by
  cases hstop with
  | opening hvalue => exact .guard (evaluate_eq_error_iff.1 hvalue)
  | closing =>
    obtain ⟨hopen, hvalues, -, -⟩ := h
    cases hvalues
    exact .closing hopen
  | otherDirective => exact .otherDirective

theorem Reached.finish (h : Reached symbol release before guards active kept) (n : Nat) :
    Verdict symbol release before
      ((activeWords symbol release n active []).map fun more =>
        nameSet ((kept ++ more).map String.ofList)) := by
  obtain ⟨hopen, hvalues, hclean, hkept⟩ := h
  cases hvalues with
  | nil =>
    refine .names hclean hopen (pairwise_nameSet _) fun name => ?_
    rw [mem_nameSet, List.append_nil, ← hkept]
    constructor
    · intro hname
      obtain ⟨w, hw, rfl⟩ := List.mem_map.1 hname
      rwa [String.toList_ofList]
    · intro hname
      exact List.mem_map.2 ⟨_, hname, String.ofList_toList⟩
  | cons hvalue hvalues =>
    have hlength := hvalues.length_eq
    rw [activeWords, List.length_cons, ← hlength]
    exact .unterminated hclean hopen

theorem verdict_activeWords {rest : List (List Char)} (hreads : List.Forall₂ Reads rest ls)
    (h : Reached symbol release before guards active kept) :
    Verdict symbol release (before ++ ls)
      ((activeWords symbol release (before.length + 1) active rest).map fun more =>
        nameSet ((kept ++ more).map String.ofList)) := by
  -- on the lines that are left: each of them either ends the run or joins those before it
  induction hreads generalizing before guards active kept with
  | nil =>
    rw [List.append_nil]
    exact h.finish _
  | @cons line l rest ls hline _ ih =>
    rcases step_or_stops symbol release l active with ⟨next, front, hstep⟩ | ⟨cause, hstop⟩
    · obtain ⟨guards', hnext⟩ := h.step hstep
      have hrest := ih hnext
      rw [List.append_assoc, List.singleton_append, List.length_append, List.length_singleton]
        at hrest
      rw [activeWords_of_step hline hstep]
      cases hmore : activeWords symbol release (before.length + 1 + 1) next rest with
      | error f => rwa [hmore] at hrest
      | ok more =>
        rw [hmore] at hrest
        simpa only [Except.map, List.append_assoc] using hrest
    · rw [activeWords_of_stops hline hstop]
      exact .offence rfl h.clean (h.offence hstop)

theorem verdict_resolve {fragment versionSymbol : String}
    (hreads : List.Forall₂ Reads (lines fragment.toList) ls) :
    Verdict versionSymbol.toList release ls (resolve fragment versionSymbol release) :=
  verdict_activeWords hreads .start

end

theorem resolve_eq_ok_iff {fragment versionSymbol : String} {release : Nat}
    {names : List String} :
    resolve fragment versionSymbol release = .ok names ↔
      ∃ ws, activeWords versionSymbol.toList release 1 [] (lines fragment.toList) = .ok ws ∧
        names = nameSet (ws.map String.ofList) := by
  unfold resolve
  cases activeWords versionSymbol.toList release 1 [] (lines fragment.toList) with
  | error f => simp [Except.map]
  | ok ws => simp [Except.map, eq_comm]

theorem resolve_append {first second versionSymbol : String} {release : Nat}
    {names more : List String} (hends : EndsLine first.toList)
    (hfirst : resolve first versionSymbol release = .ok names)
    (hsecond : resolve second versionSymbol release = .ok more) :
    ∃ all, resolve (first ++ second) versionSymbol release = .ok all ∧
      ∀ name, name ∈ all ↔ name ∈ names ∨ name ∈ more := by
  obtain ⟨ws, hws, rfl⟩ := resolve_eq_ok_iff.1 hfirst
  obtain ⟨ws', hws', rfl⟩ := resolve_eq_ok_iff.1 hsecond
  have hboth := activeWords_append hws (activeWords_renumber hws') 1
  rw [← lines_append hends, ← String.toList_append] at hboth
  refine ⟨_, resolve_eq_ok_iff.2 ⟨_, hboth, rfl⟩, fun name => ?_⟩
  simp only [mem_nameSet, List.map_append, List.mem_append]

/-- Every fragment resolves to what its lines and blocks say, and fragments that resolve can be put
one behind the other. -/
theorem resolve_blocks (fragment versionSymbol : String) (release : Nat) :
    (∃ ls, List.Forall₂ Reads (lines fragment.toList) ls ∧
      Verdict versionSymbol.toList release ls (resolve fragment versionSymbol release)) ∧
    ∀ second names more, EndsLine fragment.toList →
      resolve fragment versionSymbol release = .ok names →
      resolve second versionSymbol release = .ok more →
        ∃ all, resolve (fragment ++ second) versionSymbol release = .ok all ∧
          ∀ name, name ∈ all ↔ name ∈ names ∨ name ∈ more := by
  have hreads := forall₂_reads_iff.2 (Eq.refl ((lines fragment.toList).map FragmentLine.ofLine))
  exact ⟨⟨_, hreads, verdict_resolve hreads⟩, fun _ _ _ => resolve_append⟩

theorem resolve_blocks_of_two_fragments :
    let first := "kvm\n#if V > 5\nutil\n  #if !( V>6 ) && V != 0\nkse util\n#endif\n#endif\n"
    let second := "#if V == 7\nm kvm\n#endif"
    EndsLine first.toList ∧ resolve first "V" 7 = .ok ["kvm", "util"] ∧
      resolve second "V" 7 = .ok ["kvm", "m"] ∧
      ∃ all, resolve (first ++ second) "V" 7 = .ok all ∧
        ∀ name, name ∈ all ↔ name ∈ ["kvm", "util"] ∨ name ∈ ["kvm", "m"] := by
  intro first second
  have hends : EndsLine first.toList := Or.inr (by decide +kernel)
  have hfirst : resolve first "V" 7 = .ok ["kvm", "util"] := by decide +kernel
  have hsecond : resolve second "V" 7 = .ok ["kvm", "m"] := by decide +kernel
  exact ⟨hends, hfirst, hsecond,
    (resolve_blocks first "V" 7).2 second _ _ hends hfirst hsecond⟩

end DefFragments.Library
