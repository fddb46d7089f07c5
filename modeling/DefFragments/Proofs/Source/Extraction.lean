import DefFragments.Proofs.Fragment.LiveEntry
import DefFragments.Proofs.Source.Findings

/-!
# Extraction and preprocessing

Preprocessing a source and collecting its markers, or collecting all markers and preprocessing the
fragments: nothing that the first way keeps is lost on the second, and where every block is tracked
both give the same.
-/

namespace DefFragments.Preprocessor
open Text Conditional

/-- The line with this number is kept when the source is preprocessed. -/
def KeptAt (p : Platform) (symbol : List Char) (other : Nat → Bool) (text : String) (n : Nat) :
    Prop :=
  ∃ l, (n, l) ∈ keptLines (sourceTruth p symbol other) 1 [] (lines text.toList)

/-- Every block opens with a tracked condition and has no `#elif`. -/
def AllTracked (symbol : List Char) (ls : List (List Char)) : Prop :=
  ∀ line ∈ ls, (classify line = .opening → guard? symbol line ≠ none) ∧
    classify line ≠ .conditionalAlternative

theorem AllTracked.not_mem_frames {symbol : List Char} {q rest : List (List Char)}
    (h : AllTracked symbol (q ++ rest)) {frames : List Frame} (hnested : Nested symbol q frames) :
    .untracked ∉ frames := by
  intro hmem
  obtain ⟨before, opening, after, hopen, hframe⟩ := hnested.mem_frames_iff.1 hmem
  have hline : ∀ l ∈ opening :: after, l ∈ q ++ rest := by
    intro l hl
    rw [hopen.lines_eq]
    exact List.mem_append_left _ (List.mem_append_right _ hl)
  have hnone : (frameOf symbol opening (alternativesIn after)).guard? = none := by
    rw [← hframe]
    rfl
  rcases guard?_frameOf_eq_none_iff.1 hnone with hguard | helif
  · exact (h opening (hline _ (List.mem_cons_self ..))).1 hopen.opens hguard
  · obtain ⟨l, hl, hclass⟩ := List.mem_map.1 ((alternatives_sublist 0 _).subset helif)
    exact (h l (hline _ (List.mem_cons_of_mem _ hl))).2 hclass

section
variable {symbol : List Char} (hsym : isIdentifier symbol = true) {q rest : List (List Char)}
  (hfollow : Followable symbol (q ++ rest))
include hsym hfollow

theorem agrees_sections (p : Platform) (other : Nat → Bool) {s : Stack}
    (hrun : Stack.empty.run symbol q = .ok s) :
    List.Forall₂ (Agrees fun text => holds p symbol text.toList) s.frames
      (sections (sourceTruth p symbol other) 1 [] q) := by
  have hempty : Nested symbol [] Stack.empty.frames := .outside rfl
  apply agrees_run hempty .nil hrun
  · intro line hline g hg m
    obtain ⟨c, hc⟩ := hfollow.shared_condition line (List.mem_append_left _ hline) g hg
    have hguard := guard?_of_sharedCondition hsym hc
    rw [sourceTruth_of_sharedCondition hsym hc, String.toList_ofList,
      Option.some.inj (hg.symm.trans hguard)]
  · intro a b hab
    apply hfollow.single_alternatives a (b ++ rest)
    rw [hab, List.append_assoc]

end

theorem keptAt_iff {p : Platform} {symbol : List Char} {other : Nat → Bool} {text : String}
    {before after : List (List Char)} {line : List Char}
    (hlines : lines text.toList = before ++ line :: after) (hline : classify line = .none) :
    KeptAt p symbol other text (1 + before.length) ↔
      (sections (sourceTruth p symbol other) 1 [] (before ++ [line])).all Section.keeps = true := by
  unfold KeptAt
  constructor
  · rintro ⟨l, hl⟩
    obtain ⟨before', after', hsplit, hnumber, -, hkeeps⟩ := (mem_keptLines_iff _).1 hl
    have hlength : before.length = before'.length := by omega
    obtain ⟨rfl, hrest⟩ := List.append_inj (hlines.symm.trans hsplit) hlength
    obtain ⟨rfl, -⟩ := List.cons.inj hrest
    exact hkeeps
  · intro hkeeps
    exact ⟨line, (mem_keptLines_iff _).2 ⟨before, after, hlines, rfl, hline, hkeeps⟩⟩

/-! ### The guard of a line -/

section
variable {p : Platform} {symbol : List Char} {other : Nat → Bool} {text : String}
  {before after : List (List Char)} {line : List Char} {s : Stack}
  (hsym : isIdentifier symbol = true) (hlines : lines text.toList = before ++ line :: after)
  (hline : classify line = .none) (hrun : Stack.empty.run symbol (before ++ [line]) = .ok s)
  (hfollow : Followable symbol (lines text.toList))
include hsym hlines hline hrun hfollow

theorem guardKeeps_of_keptAt (h : KeptAt p symbol other text (1 + before.length)) :
    guardKeeps p symbol s.combinedGuard = true := by
  rw [keptAt_iff hlines hline] at h
  rw [hlines, List.append_cons] at hfollow
  exact guardKeeps_of_keeps hsym (nested_run hrun)
    (fun l hl => hfollow.shared_condition l (List.mem_append_left _ hl))
    (agrees_sections hsym hfollow p other hrun) h

theorem keptAt_of_guardKeeps (htracked : AllTracked symbol (lines text.toList))
    (h : guardKeeps p symbol s.combinedGuard = true) :
    KeptAt p symbol other text (1 + before.length) := by
  rw [keptAt_iff hlines hline]
  rw [hlines, List.append_cons] at hfollow htracked
  exact keeps_of_guardKeeps hsym (nested_run hrun)
    (fun l hl => hfollow.shared_condition l (List.mem_append_left _ hl))
    (agrees_sections hsym hfollow p other hrun) (htracked.not_mem_frames (nested_run hrun)) h

end

/-- The scan finds what its lines announce, no more and no less. What a line announces that the
preprocessor keeps is under a true guard, and its entry is live exactly if the guard is true and the
constant is available. Where every block is tracked, the true guards are those of the kept lines. -/
theorem extraction_commutes {markers : Markers}
    (hsym : isIdentifier markers.versionSymbol.toList = true) {file text : String}
    (haccepted : (Scan.ofText markers file text).failure? = none)
    (hapart : ∀ line ∈ lines text.toList, classify line ≠ .none →
      Marker.announcements markers line = .ok [])
    (hfollow : Followable markers.versionSymbol.toList (lines text.toList))
    (p : Platform) (other : Nat → Bool) :
    (∀ f ∈ (Scan.ofText markers file text).findings, ∃ before line after,
      lines text.toList = before ++ line :: after ∧ f.line = 1 + before.length) ∧
    ∀ before line after, lines text.toList = before ++ line :: after →
      ∃ found guard, Marker.announcements markers line = .ok found ∧
        ((Scan.ofText markers file text).findings.filter fun f => f.line = 1 + before.length) =
          found.map (fun a => ⟨1 + before.length, a, guard⟩) ∧
        ∀ a ∈ found,
          (KeptAt p markers.versionSymbol.toList other text (1 + before.length) →
            guardKeeps p markers.versionSymbol.toList guard = true) ∧
          (Live p markers ⟨a, guard⟩ ↔
            guardKeeps p markers.versionSymbol.toList guard = true ∧ available p a = true) ∧
          (AllTracked markers.versionSymbol.toList (lines text.toList) →
            (guardKeeps p markers.versionSymbol.toList guard = true ↔
              KeptAt p markers.versionSymbol.toList other text (1 + before.length)) ∧
            (Live p markers ⟨a, guard⟩ ↔
              KeptAt p markers.versionSymbol.toList other text (1 + before.length) ∧
                available p a = true)) := by
  refine ⟨fun f hf => ?_, fun before line after hlines => ?_⟩
  · obtain ⟨before, line, after, -, -, hlines, -, -, -, hnumber, -⟩ :=
      (Scan.mem_ofLines_iff haccepted).1 hf
    exact ⟨before, line, after, hlines, hnumber⟩
  · have hscan := haccepted
    rw [Scan.ofText, hlines] at hscan
    obtain ⟨s, found, hrun, hfound, hfilter⟩ := Scan.findings_of_line hscan
    rw [← hlines] at hfilter
    refine ⟨found, s.combinedGuard, hfound, hfilter, fun a ha => ?_⟩
    have hf : ⟨1 + before.length, a, s.combinedGuard⟩ ∈ (Scan.ofText markers file text).findings :=
      (List.mem_filter.1 (hfilter ▸ List.mem_map_of_mem ha)).1
    have hlive := live_iff (p := p) hsym (Scan.writable_of_mem_findings hsym haccepted hf)
    have hnone : classify line = .none := by
      by_contra hdirective
      have hempty := hapart line (by simp [hlines]) hdirective
      obtain rfl := Except.ok.inj (hfound.symm.trans hempty)
      cases ha
    have hforth : KeptAt p markers.versionSymbol.toList other text (1 + before.length) →
        guardKeeps p markers.versionSymbol.toList s.combinedGuard = true :=
      guardKeeps_of_keptAt hsym hlines hnone hrun hfollow
    refine ⟨hforth, hlive, fun htracked => ?_⟩
    have hboth := Iff.intro (keptAt_of_guardKeeps hsym hlines hnone hrun hfollow htracked) hforth
    exact ⟨hboth, hlive.trans (and_congr_left' hboth)⟩

def alternativeText : String :=
  "#if __FreeBSD_version >= 500000\nEXPCONST_IFAVAIL(int FOO)\n#else\nLIB_DEPENDS(kvm)\n#endif\n"

theorem lines_alternativeText : lines alternativeText.toList =
    ["#if __FreeBSD_version >= 500000".toList, "EXPCONST_IFAVAIL(int FOO)".toList, "#else".toList,
      "LIB_DEPENDS(kvm)".toList, "#endif".toList] := by
  decide +kernel

theorem followable_alternativeText :
    Followable "__FreeBSD_version".toList (lines alternativeText.toList) := by
  have hguards : ∀ line ∈ ["EXPCONST_IFAVAIL(int FOO)".toList, "#else".toList,
      "LIB_DEPENDS(kvm)".toList, "#endif".toList],
      guard? "__FreeBSD_version".toList line = none := by
    decide +kernel
  let c := Comparison.spaced ['>', '='] "500000".toList (by decide) (by decide) (by decide)
    (by decide)
  have hshared : SharedCondition "__FreeBSD_version".toList
      "#if __FreeBSD_version >= 500000".toList c :=
    ⟨.greaterOrEqual, [], by decide, List.forall_mem_nil _, [], [], [' '], List.forall_mem_nil _,
      List.forall_mem_nil _, isBlank_space, by decide, stopsAt_cons.2 (by decide), rfl⟩
  rw [lines_alternativeText]
  constructor
  · intro line hline g hg
    rcases List.mem_cons.1 hline with rfl | hline
    · exact ⟨c, hshared⟩
    · rw [hguards line hline] at hg
      cases hg
  · intro p rest hsplit
    have hcount : ((p ++ rest).map classify).count .alternative ≤ 1 := by
      rw [← hsplit]
      decide +kernel
    exact singleAlternatives_of_count_le hcount

/-- Of the two parts of a block, a later release keeps the first one, and so does its preprocessor when
it reads the entries. -/
theorem extraction_commutes_of_alternative :
    let p : Platform := .decimal 600000 fun _ => true
    let constant : Entry := ⟨.constant .ifDefined .int "FOO", "__FreeBSD_version >= 500000"⟩
    let library : Entry := ⟨.library "kvm", "!(__FreeBSD_version >= 500000)"⟩
    (Scan.ofText {} "a.c" alternativeText).findings =
        [⟨2, constant.announcement, constant.guard⟩, ⟨4, library.announcement, library.guard⟩] ∧
      KeptAt p "__FreeBSD_version".toList (fun _ => true) alternativeText 2 ∧
      ¬KeptAt p "__FreeBSD_version".toList (fun _ => true) alternativeText 4 ∧
      Live p {} constant ∧ ¬Live p {} library := by
  intro p constant library
  have hfindings : (Scan.ofText {} "a.c" alternativeText).findings =
      [⟨2, constant.announcement, constant.guard⟩, ⟨4, library.announcement, library.guard⟩] := by
    decide +kernel
  have hkept : keptLines (sourceTruth p "__FreeBSD_version".toList fun _ => true) 1 []
      (lines alternativeText.toList) = [(2, "EXPCONST_IFAVAIL(int FOO)".toList)] := by
    decide +kernel
  have hfirst : KeptAt p "__FreeBSD_version".toList (fun _ => true) alternativeText 2 :=
    ⟨_, hkept ▸ List.mem_singleton_self _⟩
  have hsecond : ¬KeptAt p "__FreeBSD_version".toList (fun _ => true) alternativeText 4 := by
    rintro ⟨l, hl⟩
    rw [hkept] at hl
    simp at hl
  have htracked : AllTracked "__FreeBSD_version".toList (lines alternativeText.toList) := by
    unfold AllTracked
    decide +kernel
  have haccepted : (Scan.ofText {} "a.c" alternativeText).failure? = none := by decide +kernel
  obtain ⟨-, hall⟩ := extraction_commutes (by decide) haccepted (by decide +kernel)
    followable_alternativeText p fun _ => true
  have hconstant := hall ["#if __FreeBSD_version >= 500000".toList] _ _ lines_alternativeText
  have hlibrary := hall ["#if __FreeBSD_version >= 500000".toList,
    "EXPCONST_IFAVAIL(int FOO)".toList, "#else".toList] _ _ lines_alternativeText
  rw [hfindings] at hconstant hlibrary
  refine ⟨hfindings, hfirst, hsecond, ?_, ?_⟩
  · obtain ⟨found, guard, -, hfilter, hlive⟩ := hconstant
    obtain ⟨a, rfl, hfinding⟩ := List.map_eq_singleton_iff.1 hfilter.symm
    obtain ⟨-, rfl, rfl⟩ := Finding.mk.inj hfinding
    exact ((hlive _ (List.mem_singleton_self _)).2.2 htracked).2.2 ⟨hfirst, rfl⟩
  · obtain ⟨found, guard, -, hfilter, hlive⟩ := hlibrary
    obtain ⟨a, rfl, hfinding⟩ := List.map_eq_singleton_iff.1 hfilter.symm
    obtain ⟨-, rfl, rfl⟩ := Finding.mk.inj hfinding
    exact fun h => hsecond (((hlive _ (List.mem_singleton_self _)).2.2 htracked).2.1 h).1

end DefFragments.Preprocessor
