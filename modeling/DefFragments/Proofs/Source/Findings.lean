import DefFragments.Proofs.Fragment.EntryLines
import DefFragments.Proofs.Library.StackGuard
import DefFragments.Source.Scan

/-!
# What a scan finds

A scan that does not fail has found exactly the announcements of its lines, each under the combined
guard of the stack after its line.
-/

namespace DefFragments.Scan
open Text Conditional

@[simp]
theorem prepend_failure? (findings : List Finding) (s : Scan) :
    (prepend findings s).failure? = s.failure? := rfl

theorem ofLines_cons_of_failure?_eq_none {markers : Markers} {file : String} {n : Nat}
    {stack : Stack} {line : List Char} {rest : List (List Char)}
    (h : (ofLines markers file n stack (line :: rest)).failure? = none) :
    ∃ next found, stack.update markers.versionSymbol.toList line = (.ok (), next) ∧
      Marker.announcements markers line = .ok found ∧
      (ofLines markers file (n + 1) next rest).failure? = none ∧
      (ofLines markers file n stack (line :: rest)).findings =
        (found.map fun a => ⟨n, a, next.combinedGuard⟩) ++
          (ofLines markers file (n + 1) next rest).findings := by
  rw [ofLines] at h ⊢
  rcases hu : stack.update markers.versionSymbol.toList line with ⟨e | ok, next⟩
  · simp [hu] at h
  · cases hf : Marker.announcements markers line with
    | error e => simp [hu, hf] at h
    | ok found =>
      simp only [hu, hf, prepend_failure?] at h
      exact ⟨next, found, rfl, rfl, h, rfl⟩

/-- The findings of lines that are scanned from line `n` on, inside given blocks. -/
theorem mem_ofLines_iff {markers : Markers} {file : String} {n : Nat} {stack : Stack}
    {ls : List (List Char)} (h : (ofLines markers file n stack ls).failure? = none) {f : Finding} :
    f ∈ (ofLines markers file n stack ls).findings ↔
      ∃ before line after s found, ls = before ++ line :: after ∧
        stack.run markers.versionSymbol.toList (before ++ [line]) = .ok s ∧
        Marker.announcements markers line = .ok found ∧ f.announcement ∈ found ∧
        f.line = n + before.length ∧ f.guard = s.combinedGuard := by
  induction ls generalizing n stack with
  | nil =>
    constructor
    · intro hf
      rw [ofLines] at hf
      cases hfin : stack.finish <;> simp [hfin] at hf
    · rintro ⟨before, line, after, s, found, hls, -⟩
      simp at hls
  | cons line rest ih =>
    obtain ⟨next, found, hu, hfound, hrest, hfindings⟩ := ofLines_cons_of_failure?_eq_none h
    have hnumber : ∀ before : List (List Char),
        n + (line :: before).length = n + 1 + before.length := by
      intro before
      rw [List.length_cons]
      omega
    rw [hfindings, List.mem_append, ih hrest, List.mem_map]
    simp only [exists_and_left]
    rw [exists_split_cons]
    simp only [List.cons_append, List.nil_append, Stack.run, hu, hnumber]
    -- the later lines are those of the rest, so only the first line is left
    apply or_congr_left
    constructor
    · rintro ⟨a, ha, rfl⟩
      exact ⟨next, rfl, found, hfound, ha, rfl, rfl⟩
    · rintro ⟨s, hs, fs, hfs, hmem, hline, hguard⟩
      obtain rfl := Except.ok.inj hs
      obtain rfl := Except.ok.inj (hfound.symm.trans hfs)
      refine ⟨f.announcement, hmem, ?_⟩
      rw [← hguard, show n = f.line from hline.symm]

theorem le_line_of_mem_ofLines {markers : Markers} {file : String} {n : Nat} {stack : Stack}
    {ls : List (List Char)} (h : (ofLines markers file n stack ls).failure? = none) {f : Finding}
    (hf : f ∈ (ofLines markers file n stack ls).findings) : n ≤ f.line := by
  obtain ⟨before, -, -, -, -, -, -, -, -, hline, -⟩ := (mem_ofLines_iff h).1 hf
  omega

/-- What is found on one line is what it announces, no more and no less. -/
theorem findings_of_line {markers : Markers} {file : String} {n : Nat} {stack : Stack}
    {before after : List (List Char)} {line : List Char}
    (h : (ofLines markers file n stack (before ++ line :: after)).failure? = none) :
    ∃ s found, stack.run markers.versionSymbol.toList (before ++ [line]) = .ok s ∧
      Marker.announcements markers line = .ok found ∧
      ((ofLines markers file n stack (before ++ line :: after)).findings.filter fun f =>
        f.line = n + before.length) =
          found.map fun a => ⟨n + before.length, a, s.combinedGuard⟩ := by
  -- the findings of a line stand before those of all later lines, which have greater numbers
  induction before generalizing n stack with
  | nil =>
    obtain ⟨next, found, hu, hfound, hrest, hfindings⟩ := ofLines_cons_of_failure?_eq_none h
    refine ⟨next, found, by rw [List.nil_append, Stack.run, hu]; rfl, hfound, ?_⟩
    have hlater : ∀ f ∈ (ofLines markers file (n + 1) next after).findings, f.line ≠ n := by
      intro f hf
      have hle := le_line_of_mem_ofLines hrest hf
      omega
    simp only [List.nil_append, hfindings, List.filter_append, List.length_nil, Nat.add_zero]
    rw [List.filter_eq_self.2 (by simp), List.filter_eq_nil_iff.2 (by simpa using hlater),
      List.append_nil]
  | cons first before ih =>
    simp only [List.cons_append] at h ⊢
    obtain ⟨next, found, hu, -, hrest, hfindings⟩ := ofLines_cons_of_failure?_eq_none h
    obtain ⟨s, there, hrun, hthere, hfilter⟩ := ih hrest
    refine ⟨s, there, ?_, hthere, ?_⟩
    · rw [Stack.run, hu]
      exact hrun
    · have hnumber : n + (first :: before).length = n + 1 + before.length := by
        rw [List.length_cons]
        omega
      rw [hnumber, ← hfilter, hfindings, List.filter_append, List.filter_eq_nil_iff.2,
        List.nil_append]
      intro f hf
      obtain ⟨a, -, rfl⟩ := List.mem_map.1 hf
      simp only [decide_eq_true_eq]
      omega

/-- A scan that does not fail follows the blocks to the end of every line. -/
theorem exists_run {markers : Markers} {file : String} {n : Nat} {stack : Stack}
    {before after : List (List Char)}
    (h : (ofLines markers file n stack (before ++ after)).failure? = none) :
    ∃ s, stack.run markers.versionSymbol.toList before = .ok s := by
  induction before generalizing n stack with
  | nil => exact ⟨stack, rfl⟩
  | cons line before ih =>
    obtain ⟨next, found, hu, -, hrest, -⟩ := ofLines_cons_of_failure?_eq_none h
    obtain ⟨s, hs⟩ := ih hrest
    refine ⟨s, ?_⟩
    rw [Stack.run, hu]
    exact hs

theorem writable_of_mem_findings {markers : Markers} {file text : String}
    (hsym : isIdentifier markers.versionSymbol.toList = true)
    (h : (ofText markers file text).failure? = none) {f : Finding}
    (hf : f ∈ (ofText markers file text).findings) : Entry.Writable markers f.entry := by
  obtain ⟨before, line, after, s, found, hlines, hrun, hfound, hmem, -, hguard⟩ :=
    (mem_ofLines_iff h).1 hf
  have hnested := nested_run hrun
  have hline : ∀ l ∈ before ++ [line], '\n' ∉ l := by
    intro l hl
    apply not_mem_of_mem_lines (s := text.toList)
    rw [hlines, List.append_cons]
    exact List.mem_append_left _ hl
  refine ⟨isName_of_isIdentifier hsym,
    Marker.wellNamed_of_mem_announcements (hline line (by simp)) hfound _ hmem, ?_, ?_⟩
  · show Trimmed f.guard.toList
    rw [hguard, toList_combinedGuard]
    by_cases hguards : s.guards = []
    · rw [hguards]
      exact ⟨stopsAt_nil _, stopsAt_nil _⟩
    · exact Library.trimmed_joined (forall_guardText hsym hnested) (by simpa using hguards)
  · show '\n' ∉ f.guard.toList
    rw [hguard]
    exact (isLine_combinedGuard hnested hline).1

end DefFragments.Scan
