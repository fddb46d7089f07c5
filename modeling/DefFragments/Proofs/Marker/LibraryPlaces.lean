import DefFragments.Proofs.Marker.Announcements

/-!
# Where library markers stand

A library marker may stand at any place of a line, and at more than one. The leftmost is announced,
and no other: the markers of a line are all announced only if they name the same library.
-/

namespace DefFragments.Marker
open Text

/-- A library marker with this name stands in the line behind the text `before`. -/
def LibraryAt (line before name : List Char) : Prop :=
  ∃ gap gap' gap'' after,
    line = before ++ ("LIB_DEPENDS".toList ++ (gap ++ '(' :: (gap' ++ (name ++ (gap'' ++
      ')' :: after))))) ∧
    (∀ c ∈ gap, isBlank c = true) ∧ (∀ c ∈ gap', isBlank c = true) ∧
    (∀ c ∈ gap'', isBlank c = true) ∧ IsName name

/-- The marker behind `before` is the leftmost one of the line. -/
structure LeftmostLibrary (line before name : List Char) : Prop where
  stands : LibraryAt line before name
  leftmost : ∀ before' name', LibraryAt line before' name' → before.length ≤ before'.length

variable {line before name : List Char}

theorem libraryHere?_eq_some_iff {s : List Char} :
    libraryHere? s = some name ↔ LibraryAt s [] name := by
  constructor
  · intro h
    have hname := isName_of_libraryHere? h
    simp only [libraryHere?, Option.bind_eq_bind, Option.bind_eq_some_iff,
      stripPrefix?_eq_some_iff] at h
    obtain ⟨rest, hs, inside, hopen, after, hclose, h⟩ := h
    split at h
    · obtain ⟨gap, hgap, hrest, -⟩ := exists_blanks rest
      obtain ⟨gap', hgap', hinside, -⟩ := exists_blanks inside
      obtain ⟨gap'', hgap'', hbehind, -⟩ :=
        exists_blanks ((dropBlanks inside).dropWhile isNameChar)
      have hsplit := List.takeWhile_append_dropWhile (p := isNameChar) (l := dropBlanks inside)
      rw [Option.some.inj h, hbehind, hclose] at hsplit
      rw [← hsplit] at hinside
      rw [hopen, hinside] at hrest
      exact ⟨gap, gap', gap'', after, hs.trans (by rw [hrest]; rfl), hgap, hgap', hgap'', hname⟩
    · cases h
  · rintro ⟨gap, gap', gap'', after, rfl, hgap, hgap', hgap'', hname⟩
    have hopen : ∀ s, dropBlanks (gap ++ '(' :: s) = ['('] ++ s :=
      fun s => dropBlanks_append hgap (stopsAt_cons.2 (by decide))
    have hclose : dropBlanks (gap'' ++ ')' :: after) = [')'] ++ after :=
      dropBlanks_append hgap'' (stopsAt_cons.2 (by decide))
    have hinside : dropBlanks (gap' ++ (name ++ (gap'' ++ ')' :: after))) =
        name ++ (gap'' ++ ')' :: after) :=
      dropBlanks_append hgap' (StopsAt.append hname.1 hname.not_isBlank _)
    have hend : StopsAt isNameChar (gap'' ++ ')' :: after) :=
      StopsAt.append_of_stopsAt (fun c hc => not_isNameChar_of_isBlank (hgap'' c hc))
        (stopsAt_cons.2 (by decide))
    simp only [libraryHere?, Option.bind_eq_bind, Option.bind_eq_some_iff,
      stripPrefix?_eq_some_iff]
    refine ⟨_, rfl, _, hopen _, after, ?_, ?_⟩
    · rw [hinside, dropWhile_run hname.2 hend, hclose]
    · rw [hinside, takeWhile_run hname.2 hend, if_pos hname.1]

theorem libraryAt_cons_iff {c : Char} {s : List Char} :
    LibraryAt (c :: s) before name ↔
      (before = [] ∧ libraryHere? (c :: s) = some name) ∨
        ∃ before', before = c :: before' ∧ LibraryAt s before' name := by
  cases before with
  | nil => simp [libraryHere?_eq_some_iff]
  | cons x before =>
    unfold LibraryAt
    simp only [List.cons_append, List.cons.injEq]
    constructor
    · rintro ⟨gap, gap', gap'', after, ⟨rfl, hs⟩, hmarker⟩
      exact Or.inr ⟨before, ⟨rfl, rfl⟩, gap, gap', gap'', after, hs, hmarker⟩
    · rintro (⟨hnil, -⟩ | ⟨before', ⟨rfl, rfl⟩, gap, gap', gap'', after, hs, hmarker⟩)
      · cases hnil
      · exact ⟨gap, gap', gap'', after, ⟨rfl, hs⟩, hmarker⟩

theorem leftmostLibrary_cons_iff {c : Char} {s : List Char} (hhere : libraryHere? (c :: s) = none) :
    LeftmostLibrary (c :: s) before name ↔
      ∃ before', before = c :: before' ∧ LeftmostLibrary s before' name := by
  have hbehind : ∀ {before' name'}, LibraryAt (c :: s) before' name' ↔
      ∃ before, before' = c :: before ∧ LibraryAt s before name' := by
    intro before' name'
    rw [libraryAt_cons_iff, hhere]
    simp
  constructor
  · rintro ⟨hstands, hleft⟩
    obtain ⟨before', rfl, hinner⟩ := hbehind.1 hstands
    refine ⟨before', rfl, hinner, fun front name' hfront => ?_⟩
    exact Nat.le_of_succ_le_succ (hleft (c :: front) name' (hbehind.2 ⟨front, rfl, hfront⟩))
  · rintro ⟨before', rfl, hstands, hleft⟩
    refine ⟨hbehind.2 ⟨before', rfl, hstands⟩, fun front name' hfront => ?_⟩
    obtain ⟨front', rfl, hinner⟩ := hbehind.1 hfront
    exact Nat.succ_le_succ (hleft front' name' hinner)

theorem libraryName?_eq_some_iff :
    libraryName? line = some name ↔ ∃ before, LeftmostLibrary line before name := by
  induction line with
  | nil =>
    constructor
    · intro h
      cases h
    · rintro ⟨before, ⟨gap, gap', gap'', after, hline, -⟩, -⟩
      simp at hline
  | cons c s ih =>
    rw [libraryName?]
    cases hhere : libraryHere? (c :: s) with
    | some here =>
      have hfront := libraryHere?_eq_some_iff.1 hhere
      rw [Option.some_or]
      constructor
      · intro h
        obtain rfl := Option.some.inj h
        exact ⟨[], hfront, fun _ _ _ => Nat.zero_le _⟩
      · rintro ⟨before, hstands, hleft⟩
        obtain rfl := List.eq_nil_of_length_eq_zero (Nat.le_zero.1 (hleft [] here hfront))
        rw [← hhere, libraryHere?_eq_some_iff]
        exact hstands
    | none =>
      rw [Option.none_or, ih]
      simp only [leftmostLibrary_cons_iff hhere]
      constructor
      · rintro ⟨before, hleftmost⟩
        exact ⟨c :: before, before, rfl, hleftmost⟩
      · rintro ⟨-, before, rfl, hleftmost⟩
        exact ⟨before, hleftmost⟩

theorem exists_libraryName? (h : LibraryAt line before name) : ∃ n, libraryName? line = some n := by
  induction line generalizing before with
  | nil =>
    obtain ⟨gap, gap', gap'', after, hline, -⟩ := h
    simp at hline
  | cons c s ih =>
    rw [libraryName?]
    rcases libraryAt_cons_iff.1 h with ⟨-, hhere⟩ | ⟨before', -, hbehind⟩
    · exact ⟨name, by rw [hhere, Option.some_or]⟩
    · obtain ⟨n, hn⟩ := ih hbehind
      cases hhere : libraryHere? (c :: s) with
      | some here => exact ⟨here, rfl⟩
      | none => exact ⟨n, by rw [Option.none_or, hn]⟩

theorem library_mem_announcements_iff {markers : Markers} {found : List Announcement}
    (h : announcements markers line = .ok found) {n : String} :
    .library n ∈ found ↔ libraryName? line = some n.toList := by
  obtain ⟨constant, function, hc, hf, rfl⟩ := announcements_eq_ok h
  simp only [List.mem_append, Option.mem_toList]
  constructor
  · rintro (((hmem | hmem) | hmem) | hmem)
    · obtain ⟨_, _, _, heq, -⟩ := exists_of_constant? (hc.trans (congrArg _ hmem))
      cases heq
    · obtain ⟨_, _, _, heq, -⟩ := exists_of_function? (hf.trans (congrArg _ hmem))
      cases heq
    · obtain ⟨_, _, heq, -⟩ := exists_of_objectType? hmem
      cases heq
    · obtain ⟨name, hname, heq⟩ := Option.map_eq_some_iff.1 hmem
      obtain rfl := Announcement.library.inj heq
      rw [String.toList_ofList]
      exact hname
  · intro hname
    refine Or.inr (Option.map_eq_some_iff.2 ⟨_, hname, ?_⟩)
    rw [String.ofList_toList]

/-- Of the library markers of a line, the leftmost is announced. All of them are only if they name
the same library. -/
theorem announcements_leftmost_library {markers : Markers} {found : List Announcement}
    (h : announcements markers line = .ok found) :
    (∀ n : String, .library n ∈ found ↔ ∃ before, LeftmostLibrary line before n.toList) ∧
      ((∀ before name, LibraryAt line before name → .library (String.ofList name) ∈ found) ↔
        ∀ before name before' name',
          LibraryAt line before name → LibraryAt line before' name' → name = name') := by
  refine ⟨fun n => by rw [library_mem_announcements_iff h, libraryName?_eq_some_iff], ?_⟩
  simp only [library_mem_announcements_iff h, String.toList_ofList]
  constructor
  · intro hall before name before' name' hat hat'
    exact Option.some.inj ((hall _ _ hat).symm.trans (hall _ _ hat'))
  · intro hsame before name hat
    obtain ⟨n, hn⟩ := exists_libraryName? hat
    obtain ⟨first, hfirst, -⟩ := libraryName?_eq_some_iff.1 hn
    rw [hn, hsame _ _ _ _ hfirst hat]

theorem announcements_leftmost_library_of_two :
    let line := "/* LIB_DEPENDS ( kvm ) LIB_DEPENDS(util) */".toList
    announcements {} line = .ok [.library "kvm"] ∧
      ∃ before, LeftmostLibrary line before "kvm".toList := by
  intro line
  have hfound : announcements {} line = .ok [.library "kvm"] := by decide +kernel
  have hmem : .library "kvm" ∈ [Announcement.library "kvm"] := List.mem_singleton.2 rfl
  exact ⟨hfound, ((announcements_leftmost_library hfound).1 "kvm").1 hmem⟩

/-- A second marker on a line is lost. -/
theorem not_forall_libraryAt_announced :
    ¬∀ (markers : Markers) (line : List Char) (found : List Announcement), '\n' ∉ line →
      announcements markers line = .ok found →
        ∀ before name, LibraryAt line before name → .library (String.ofList name) ∈ found := by
  intro h
  have hfound : announcements {} "LIB_DEPENDS(a) LIB_DEPENDS(b)".toList = .ok [.library "a"] := by
    decide +kernel
  have hsecond : LibraryAt "LIB_DEPENDS(a) LIB_DEPENDS(b)".toList "LIB_DEPENDS(a) ".toList ['b'] :=
    ⟨[], [], [], [], by decide, List.forall_mem_nil _, List.forall_mem_nil _,
      List.forall_mem_nil _, by decide, List.all_eq_true.1 rfl⟩
  have hmem := h {} _ _ (by decide) hfound _ _ hsecond
  revert hmem
  decide +kernel

end DefFragments.Marker
