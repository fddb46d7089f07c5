import DefFragments.Proofs.Conditional.KeptParts
import DefFragments.Proofs.Fragment.EntryLines

/-!
# Live entries

A C preprocessor that reads the text of an entry keeps the line that puts the announcement into
effect exactly if the guard of the entry is true and the constant, if it is one, is available.
-/

namespace DefFragments.Preprocessor
open Text Conditional

/-- A constant has its own condition; everything else is always available. -/
def available (p : Platform) : Announcement → Bool
  | .constant .ifDefined _ name => p.defined name.toList
  | .constant (.since release) _ _ => release ≤ p.release
  | .constant (.before release) _ _ => p.release < release
  | _ => true

/-- Of the lines of a fragment, the first of them with the given number and inside these blocks,
the preprocessor keeps one with this text. -/
def KeepsLine (p : Platform) (symbol : List Char) (m : Nat) (ss : List Section)
    (ls : List (List Char)) (l : List Char) : Prop :=
  ∃ n, (n, l) ∈ keptLines (fun _ => fragmentTruth p symbol) m ss ls

/-- Reading the text of an entry, the preprocessor keeps the line that puts it into effect. -/
def Live (p : Platform) (markers : Markers) (e : Entry) : Prop :=
  KeepsLine p markers.versionSymbol.toList 1 [] (lines (e.text markers).toList)
    (Entry.effectLine markers e.announcement).toList

section
variable {p : Platform} {symbol : List Char} {m : Nat} {ss : List Section} {l : List Char}
  {rest : List (List Char)}

theorem keepsLine_cons_of_opening {o : List Char} (ho : classify o = .opening) :
    KeepsLine p symbol m ss (o :: rest) l ↔
      KeepsLine p symbol (m + 1) (⟨fragmentTruth p symbol o, fragmentTruth p symbol o⟩ :: ss)
        rest l := by
  unfold KeepsLine
  rw [keptLines, ho]
  simp [step]

theorem keepsLine_cons_self (hl : classify l = .none) (hrest : l ∉ rest) :
    KeepsLine p symbol m ss (l :: rest) l ↔ ss.all Section.keeps = true := by
  have hstep : step (fragmentTruth p symbol l) .none ss = ss := by cases ss <;> rfl
  have hno : ∀ n, (n, l) ∉ keptLines (fun _ => fragmentTruth p symbol) (m + 1) ss rest := by
    intro n hmem
    obtain ⟨before, after, rfl, -⟩ := (mem_keptLines_iff _).1 hmem
    simp at hrest
  unfold KeepsLine
  rw [keptLines, hl, hstep]
  by_cases hkeeps : ss.all Section.keeps = true
  · simp [hkeeps]
  · simp [hkeeps, hno]

theorem keepsLine_block {o : List Char} (ho : classify o = .opening) (hl : classify l = .none)
    (hrest : l ∉ rest) :
    KeepsLine p symbol m ss (o :: l :: "#endif".toList :: rest) l ↔
      ss.all Section.keeps = true ∧ fragmentTruth p symbol o = true := by
  have hendif : l ≠ "#endif".toList := by
    rintro rfl
    exact absurd hl (by decide)
  have hmem : l ∉ "#endif".toList :: rest := List.not_mem_cons_of_ne_of_not_mem hendif hrest
  rw [keepsLine_cons_of_opening ho, keepsLine_cons_self hl hmem, List.all_cons, Bool.and_eq_true,
    and_comm]

end

/-! ### The lines of an entry -/

theorem classify_eq_none {c : Char} {s : List Char} (hb : isBlank c = false) (hc : c ≠ '#') :
    classify (c :: s) = .none := by
  have hstop : StopsAt isBlank (c :: s) := stopsAt_cons.2 hb
  have hafter : afterNumberSign? (c :: s) = none := by
    unfold afterNumberSign?
    rw [dropBlanks_of_stopsAt hstop]
    simp [stripPrefix?, Ne.symm hc]
  unfold classify
  rw [hafter]

theorem classify_effectLine {markers : Markers} {a : Announcement} (h : a.WellNamed markers) :
    classify (Entry.effectLine markers a).toList = .none := by
  cases a with
  | constant availability type name =>
    show classify
      ("SETDICT_" ++ type.category ++ "(d, \"" ++ name ++ "\", " ++ name ++ ");").toList = .none
    simp only [String.toList_append]
    exact classify_eq_none (c := 'S') (by decide) (by decide)
  | function name convention =>
    show classify ("\x7b\"" ++ name ++ "\", (PyCFunction)" ++ markers.functionPrefix ++ name ++
      ", " ++ convention.flags ++ ",").toList = .none
    simp only [String.toList_append]
    exact classify_eq_none (c := '\x7b') (by decide) (by decide)
  | objectType typeName objectName =>
    show classify ("INITTYPE(" ++ typeName ++ ", " ++ objectName ++ ")").toList = .none
    simp only [String.toList_append]
    exact classify_eq_none (c := 'I') (by decide) (by decide)
  | library name =>
    have hname : IsName name.toList := h
    obtain ⟨c, s, hs⟩ := List.exists_cons_of_ne_nil hname.1
    have hc : isNameChar c = true := hname.2 c (by simp [hs])
    have hhash : c ≠ '#' := by
      rintro rfl
      exact absurd hc (by decide)
    rw [show (Entry.effectLine markers (.library name)).toList = c :: s from hs]
    exact classify_eq_none (not_isBlank_of_isNameChar hc) hhash

theorem classify_if (s : List Char) : classify ('#' :: 'i' :: 'f' :: s) = .opening := rfl

theorem fragmentTruth_ifdef (p : Platform) (symbol : List Char) {name : String}
    (h : IsName name.toList) :
    fragmentTruth p symbol ("#ifdef " ++ name).toList = p.defined name.toList := by
  have htrim : trim ([' '] ++ (name.toList ++ [])) = name.toList :=
    trim_padded isBlank_space (by simp) h.trimmed h.1
  rw [List.append_nil] at htrim
  rw [String.toList_append]
  exact congrArg p.defined htrim

theorem fragmentTruth_release (p : Platform) {symbol : String}
    (hsym : isIdentifier symbol.toList = true) {operator : List Char} {sign : Sign}
    (h : (operator, sign) ∈ sharedOperators) {between : String}
    (hbetween : between.toList = [' '] ++ (operator ++ [' '])) (release : Nat) :
    fragmentTruth p symbol.toList ("#if " ++ symbol ++ between ++ toString release).toList =
      compares operator p.release release := by
  have hshape : ∀ e ∈ sharedOperators, e.1.all isOperatorChar = true ∧
      (e.1.length = 1 ∨ e.1.length = 2) := by
    decide
  have hoperator := hshape _ h
  let c := Comparison.spaced operator (toString release).toList hoperator.1 hoperator.2
    (List.all_eq_true.2 isDigit_of_mem_toString) (by simp)
  have hline : ("#if " ++ symbol ++ between ++ toString release).toList =
      "#if ".toList ++ c.spelling symbol.toList := by
    simp [c, Comparison.spaced, Comparison.spelling, hbetween]
  have hholds := Term.holds_comparison p hsym (c := c) h (b := []) (by simp)
  rw [List.append_nil] at hholds
  rw [hline, fragmentTruth_if, hholds]
  exact congrArg _ (p.number_toString release)

section
variable {p : Platform} {markers : Markers}
  (hsym : isIdentifier markers.versionSymbol.toList = true)
include hsym

theorem fragmentTruth_since (release : Nat) :
    fragmentTruth p markers.versionSymbol.toList
        ("#if " ++ markers.versionSymbol ++ " >= " ++ toString release).toList =
      decide (release ≤ p.release) := by
  have hgreater : (['>', '='], Sign.greaterOrEqual) ∈ sharedOperators := by decide
  exact fragmentTruth_release p hsym hgreater (by decide : " >= ".toList = _) release

theorem fragmentTruth_before (release : Nat) :
    fragmentTruth p markers.versionSymbol.toList
        ("#if " ++ markers.versionSymbol ++ " < " ++ toString release).toList =
      decide (p.release < release) := by
  have hless : (['<'], Sign.less) ∈ sharedOperators := by decide
  exact fragmentTruth_release p hsym hless (by decide : " < ".toList = _) release

variable {a : Announcement} (h : a.WellNamed markers) {m : Nat} {ss : List Section}
  {tail : List (List Char)}
include h

theorem keepsLine_bareLines_append
    (htail : (Entry.effectLine markers a).toList ∉ tail) :
    KeepsLine p markers.versionSymbol.toList m ss
        ((Entry.bareLines markers a).map String.toList ++ tail)
        (Entry.effectLine markers a).toList ↔
      ss.all Section.keeps = true ∧ available p a = true := by
  have heffect := classify_effectLine h
  have hsingle : KeepsLine p markers.versionSymbol.toList m ss
      ((Entry.effectLine markers a).toList :: tail) (Entry.effectLine markers a).toList ↔
        ss.all Section.keeps = true :=
    keepsLine_cons_self heffect htail
  -- a condition of the announcement itself is one more block around its line
  have hblock : ∀ o : String, classify o.toList = .opening →
      (KeepsLine p markers.versionSymbol.toList m ss
          ([o, Entry.effectLine markers a, "#endif"].map String.toList ++ tail)
          (Entry.effectLine markers a).toList ↔
        ss.all Section.keeps = true ∧
          fragmentTruth p markers.versionSymbol.toList o.toList = true) :=
    fun o ho => keepsLine_block ho heffect htail
  cases a with
  | constant availability type name =>
    cases availability with
    | always => simpa [Entry.bareLines, available] using hsingle
    | ifDefined =>
      rw [Entry.bareLines, hblock _ (by rw [String.toList_append]; exact classify_if _),
        fragmentTruth_ifdef p _ h, available]
    | since release =>
      rw [Entry.bareLines, hblock _ (by simp only [String.toList_append]; exact classify_if _),
        fragmentTruth_since hsym, available]
    | before release =>
      rw [Entry.bareLines, hblock _ (by simp only [String.toList_append]; exact classify_if _),
        fragmentTruth_before hsym, available]
  | function name convention =>
    -- the second line begins with a blank, so it is another line
    have hother : (Entry.effectLine markers (.function name convention)).toList ∉
        (" " ++ markers.functionPrefix ++ name ++ "__doc__\x7d,").toList :: tail := by
      refine List.not_mem_cons_of_ne_of_not_mem ?_ htail
      simp [Entry.effectLine]
    have hpair : KeepsLine p markers.versionSymbol.toList m ss
        ((Entry.bareLines markers (.function name convention)).map String.toList ++ tail)
        (Entry.effectLine markers (.function name convention)).toList ↔
          ss.all Section.keeps = true :=
      keepsLine_cons_self heffect hother
    simpa [available] using hpair
  | objectType typeName objectName => simpa [Entry.bareLines, available] using hsingle
  | library name => simpa [Entry.bareLines, available] using hsingle

end

/-- An entry is live exactly if its guard is true and it is available. -/
theorem live_iff {p : Platform} {markers : Markers}
    (hsym : isIdentifier markers.versionSymbol.toList = true) {e : Entry}
    (h : Entry.Writable markers e) :
    Live p markers e ↔ guardKeeps p markers.versionSymbol.toList e.guard = true ∧
      available p e.announcement = true := by
  have hnamed := h.announcement_wellNamed
  unfold Live guardKeeps
  rw [Entry.lines_text h.fits]
  unfold Entry.textLines
  by_cases hguard : e.guard = ""
  · have hbare : KeepsLine p markers.versionSymbol.toList 1 []
        ((Entry.bareLines markers e.announcement).map String.toList ++ [])
        (Entry.effectLine markers e.announcement).toList ↔ _ :=
      keepsLine_bareLines_append hsym hnamed List.not_mem_nil
    rw [List.append_nil] at hbare
    rw [if_pos hguard, hbare]
    simp [hguard]
  · have hendif : (Entry.effectLine markers e.announcement).toList ∉ ["#endif".toList] := by
      intro hmem
      have heffect := classify_effectLine hnamed
      rw [List.mem_singleton.1 hmem] at heffect
      exact absurd heffect (by decide)
    have hopening : classify ("#if " ++ e.guard).toList = .opening := by
      rw [String.toList_append]
      exact classify_if _
    rw [if_neg hguard, List.cons_append, List.map_cons, List.map_append,
      keepsLine_cons_of_opening hopening, String.toList_append]
    refine (keepsLine_bareLines_append hsym hnamed hendif).trans ?_
    simp [hguard]

end DefFragments.Preprocessor
