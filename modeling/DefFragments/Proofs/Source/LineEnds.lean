import DefFragments.Generation.Run
import DefFragments.Proofs.Conditional.Comparison
import DefFragments.Proofs.Marker.Announcements
import DefFragments.Proofs.Text.TrailingBlanks

/-!
# Line ends and trailing blanks of a source

Every grammar that looks at a line gives the same answer when blanks are added at the end of the
line, errors with what they quote included. So a source with a carriage return before each line feed
is read like the source without.
-/

namespace DefFragments

open Text

variable {line line' : List Char}

/-! ### The markers of a line -/

namespace Marker

theorem not_closes_of_isBlank (c : Char) (h : isBlank c = true) : (c != ')') = true := by
  rw [bne_iff_ne]
  rintro rfl
  exact absurd h (by decide)

theorem constantShape?_eq (h : Padded line line') : constantShape? line' = constantShape? line := by
  simp only [constantShape?, Option.bind_eq_bind]
  refine h.bind_literal (by decide) fun rest rest' hrest => ?_
  obtain ⟨hflag, hafter⟩ := hrest.takeWhile_eq fun _ => not_isFlagChar_of_isBlank
  rw [hflag]
  refine hafter.dropBlanks.bind_literal (by decide) fun body body' hbody => ?_
  rcases hbody.takeWhile_eq_or not_closes_of_isBlank with ⟨hsame, hclose⟩ | ⟨hnone, hnone'⟩
  · rw [hsame]
    refine hclose.bind_literal (by decide) fun back back' hback => ?_
    simp only [hback.dropBlanks_eq_nil_iff]
  · rw [hnone, hnone']
    rfl

theorem functionShape?_eq (functionPrefix : List Char) (h : Padded line line') :
    functionShape? functionPrefix line' = functionShape? functionPrefix line := by
  simp only [functionShape?, Option.bind_eq_bind]
  refine h.bind_stripPrefix? functionPrefix (fun rest rest' hrest => ?_) rfl
  obtain ⟨hname, hafter⟩ := hrest.takeWhile_eq fun _ => not_isNameChar_of_isBlank
  rw [hname]
  refine hafter.dropBlanks.bind_literal (by decide) fun arguments arguments' harguments => ?_
  rcases harguments.takeWhile_eq_or not_closes_of_isBlank with ⟨hsame, hclose⟩ | ⟨hnone, hnone'⟩
  · rw [hsame]
    exact hclose.bind_literal (by decide) fun _ _ _ => rfl
  · rw [hnone, hnone']
    rfl

theorem bind_takeIdentifier? {α : Type} {f g : List Char × List Char → Option α}
    (hrest : ∀ name r r', Padded r r' → g (name, r') = f (name, r)) (h : Padded line line') :
    (takeIdentifier? line').bind g = (takeIdentifier? line).bind f := by
  obtain ⟨hname, hafter⟩ := h.takeWhile_eq fun _ => not_isNameChar_of_isBlank
  simp only [takeIdentifier?, hname]
  split
  · exact hrest _ _ _ hafter
  · rfl

theorem objectType?_eq (h : Padded line line') : objectType? line' = objectType? line := by
  simp only [objectType?, Option.bind_eq_bind]
  refine h.bind_literal (by decide) fun _ _ h => ?_
  refine h.dropBlanks.bind_literal (by decide) fun _ _ h => ?_
  refine bind_takeIdentifier? (fun typeName _ _ h => ?_) h.dropBlanks
  refine h.dropBlanks.bind_literal (by decide) fun _ _ h => ?_
  refine bind_takeIdentifier? (fun objectName _ _ h => ?_) h.dropBlanks
  refine h.dropBlanks.bind_literal (by decide) fun _ _ h => ?_
  simp only [h.dropBlanks_eq_nil_iff]

theorem libraryHere?_eq (h : Padded line line') : libraryHere? line' = libraryHere? line := by
  simp only [libraryHere?, Option.bind_eq_bind]
  refine h.bind_literal (by decide) fun _ _ h => ?_
  refine h.dropBlanks.bind_literal (by decide) fun _ _ h => ?_
  obtain ⟨hname, hafter⟩ := h.dropBlanks.takeWhile_eq fun _ => not_isNameChar_of_isBlank
  rw [hname]
  exact hafter.dropBlanks.bind_literal (by decide) fun _ _ _ => rfl

/-- A library marker may begin anywhere on the line, but not among blanks at its end. -/
theorem libraryName?_eq (h : Padded line line') : libraryName? line' = libraryName? line := by
  induction line generalizing line' with
  | nil =>
    induction line' with
    | nil => rfl
    | cons c w ih =>
      change (libraryHere? (c :: w)).or (libraryName? w) = none
      rw [libraryHere?_eq h, ih h.of_nil_cons.2]
      rfl
  | cons c line ih =>
    obtain ⟨t, rfl, ht⟩ := h.exists_of_cons
    rw [libraryName?, libraryName?, libraryHere?_eq h, ih ht]

theorem announcements_eq (markers : Markers) (h : Padded line line') :
    announcements markers line' = announcements markers line := by
  unfold announcements constant? function? library?
  rw [constantShape?_eq h, functionShape?_eq _ h, objectType?_eq h, libraryName?_eq h]

end Marker

/-! ### The directive of a line -/

namespace Conditional

theorem rel_afterNumberSign? (h : Padded line line') :
    Option.Rel Padded (afterNumberSign? line) (afterNumberSign? line') := by
  have hrel := h.dropBlanks.rel_stripPrefix? ['#'] (by decide)
  unfold afterNumberSign?
  revert hrel
  generalize stripPrefix? ['#'] (dropBlanks line) = o, stripPrefix? ['#'] (dropBlanks line') = o'
  rintro (hrest | -)
  · exact .some hrest.dropBlanks
  · exact .none

theorem startsWithWord_eq (keyword : List Char) (hkeyword : keyword.any isBlank = false)
    (h : Padded line line') : startsWithWord keyword line' = startsWithWord keyword line := by
  have hrel := h.rel_stripPrefix? keyword hkeyword
  unfold startsWithWord
  revert hrel
  generalize stripPrefix? keyword line = o, stripPrefix? keyword line' = o'
  rintro (hrest | -)
  · exact hrest.atWordEnd_eq
  · rfl

theorem classify_eq (h : Padded line line') : classify line' = classify line := by
  have hrel := rel_afterNumberSign? h
  unfold classify
  revert hrel
  generalize afterNumberSign? line = o, afterNumberSign? line' = o'
  rintro (hrest | -)
  · simp only [hrest.startsWith_eq "if".toList (by decide),
      hrest.startsWith_eq "endif".toList (by decide),
      startsWithWord_eq "elif".toList (by decide) hrest,
      startsWithWord_eq "else".toList (by decide) hrest]
  · rfl

theorem comparison?_eq (symbol : List Char) (h : Padded line line') :
    comparison? symbol line' = comparison? symbol line := by
  simp only [comparison?, Option.bind_eq_bind]
  refine h.bind_stripPrefix? symbol (fun rest rest' hrest => ?_) rfl
  rcases hrest.takeWhile_eq_or (fun _ hc => hc) with ⟨hgap, hafter⟩ | ⟨hnone, hnone'⟩
  · obtain ⟨hoperator, hbehind⟩ := hafter.takeWhile_eq fun _ => not_isOperatorChar_of_isBlank
    rw [hgap, hoperator]
    rcases hbehind.takeWhile_eq_or (fun _ hc => hc) with ⟨hgap', hback⟩ | ⟨hnone, hnone'⟩
    · rw [hgap', (hback.takeWhile_eq fun _ => not_isDigit_of_isBlank).1]
    · simp [hnone, hnone']
  · simp [hnone, hnone']

theorem comparisonAfterBlanks?_eq (symbol : List Char) (h : Padded line line') :
    comparisonAfterBlanks? symbol line' = comparisonAfterBlanks? symbol line := by
  induction line generalizing line' with
  | nil =>
    induction line' with
    | nil => rfl
    | cons c w ih =>
      have hnone : comparison? symbol [] = none := by
        cases symbol <;> rfl
      have hw := h.of_nil_cons.2
      simp [comparisonAfterBlanks?, ih hw, comparison?_eq symbol hw, hnone]
  | cons c line ih =>
    obtain ⟨t, rfl, ht⟩ := h.exists_of_cons
    rw [comparisonAfterBlanks?, comparisonAfterBlanks?, ih ht, comparison?_eq symbol ht]

theorem guard?_eq (symbol : List Char) (h : Padded line line') :
    guard? symbol line' = guard? symbol line := by
  simp only [guard?, Option.bind_eq_bind]
  refine Padded.bind_eq_of_rel (rel_afterNumberSign? h) fun _ _ hrest => ?_
  exact hrest.bind_literal (by decide) fun _ _ => comparisonAfterBlanks?_eq symbol

theorem Stack.update_eq (symbol : List Char) (h : Padded line line') (s : Stack) :
    s.update symbol line' = s.update symbol line := by
  unfold Stack.update
  rw [classify_eq h, guard?_eq symbol h]

end Conditional

/-! ### The scan of a text -/

theorem Scan.ofLines_eq {ls ls' : List (List Char)} (h : List.Forall₂ Padded ls ls')
    (markers : Markers) (file : String) (n : Nat) (stack : Conditional.Stack) :
    ofLines markers file n stack ls' = ofLines markers file n stack ls := by
  induction h generalizing n stack with
  | nil => rfl
  | cons hline hrest ih =>
    simp only [ofLines, Conditional.Stack.update_eq _ hline, Marker.announcements_eq _ hline, ih]

/-- Blanks at the end of a line are never read: neither the markers of the line, nor its directive,
nor the condition that it opens a block with depend on them. A text in which every line feed has
been given a carriage return is therefore read to the same fragments, reports and result. -/
theorem trailing_blanks_unread :
    (∀ (markers : Markers) (symbol line w : List Char), (∀ c ∈ w, isBlank c = true) →
      Marker.announcements markers (line ++ w) = Marker.announcements markers line ∧
      Conditional.classify (line ++ w) = Conditional.classify line ∧
      Conditional.guard? symbol (line ++ w) = Conditional.guard? symbol line) ∧
    ∀ (f : Fragments) (verbose : Bool) (file text : String),
      f.readText verbose file (String.ofList (withReturns text.toList)) =
        f.readText verbose file text := by
  constructor
  · intro markers symbol line w hw
    have hpad : Padded line (line ++ w) := Padded.append line hw
    exact ⟨Marker.announcements_eq markers hpad, Conditional.classify_eq hpad,
      Conditional.guard?_eq symbol hpad⟩
  · intro f verbose file text
    have hscan : Scan.ofText f.markers file (String.ofList (withReturns text.toList)) =
        Scan.ofText f.markers file text := by
      unfold Scan.ofText
      rw [String.toList_ofList]
      exact Scan.ofLines_eq (forall₂_padded_lines_withReturns text.toList) f.markers file 1 .empty
    unfold Fragments.readText
    rw [hscan]

/-- The blanks may be of any script, and both configured spellings may end in blanks themselves. -/
theorem blanks_of_other_scripts_unread :
    (∀ c ∈ ['\u3000', '\u2003', '\u00a0', '\r'], isBlank c = true) ∧
      Marker.announcements { functionPrefix := "static F_ ", versionSymbol := "V " }
          ("static F_ open(self, args)".toList ++ ['\u3000', '\u2003', '\u00a0', '\r']) =
        .ok [.function "open" .positional] ∧
      Conditional.classify ("# else".toList ++ ['\u3000', '\u2003', '\u00a0', '\r']) =
        .alternative ∧
      Conditional.guard? "V ".toList
          ("#if V  < 5".toList ++ ['\u3000', '\u2003', '\u00a0', '\r']) =
        some "V  < 5".toList := by
  have hblanks : ∀ c ∈ ['\u3000', '\u2003', '\u00a0', '\r'], isBlank c = true :=
    List.all_eq_true.1 rfl
  have hline := fun line => trailing_blanks_unread.1
    { functionPrefix := "static F_ ", versionSymbol := "V " } "V ".toList line _ hblanks
  exact ⟨hblanks, (hline _).1.trans rfl, (hline _).2.1.trans rfl, (hline _).2.2.trans (by decide)⟩

end DefFragments
