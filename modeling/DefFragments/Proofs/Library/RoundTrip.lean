import DefFragments.Generation.Run
import DefFragments.Proofs.Library.FragmentLines
import DefFragments.Proofs.Marker.Announcements
import DefFragments.Proofs.Source.Findings

/-!
# From sources to linked libraries

Scanning texts, writing the libraries fragment and resolving it gives the libraries that are
announced where every open block is satisfied. It fails only for a comparison that cannot be read
back, behind blocks that are all satisfied.
-/

namespace DefFragments.Fragments
open Text Conditional

/-- Scan texts, each with its file name, one after the other, and collect what they hold; the first
failure ends it. -/
def readTexts (verbose : Bool) : Fragments → List (String × String) → Except Failure Fragments
  | f, [] => .ok f
  | f, (file, text) :: rest =>
    let reading := f.readText verbose file text
    match reading.result with
    | .error e => .error e
    | .ok _ => reading.fragments.readTexts verbose rest

theorem readTexts_eq_ok {verbose : Bool} {texts : List (String × String)} {f g : Fragments}
    (h : f.readTexts verbose texts = .ok g) :
    (∀ t ∈ texts, (Scan.ofText f.markers t.1 t.2).failure? = none) ∧
      g = f.addEntries (texts.flatMap fun t => (Scan.ofText f.markers t.1 t.2).entries) := by
  induction texts generalizing f with
  | nil =>
    obtain rfl := Except.ok.inj h
    exact ⟨by simp, by simp [addEntries]⟩
  | cons t texts ih =>
    obtain ⟨file, text⟩ := t
    rw [readTexts] at h
    cases hfail : (Scan.ofText f.markers file text).failure? with
    | some e => simp [readText, Scan.count, hfail] at h
    | none =>
      simp only [readText, Scan.count, hfail] at h
      obtain ⟨hrest, hg⟩ := ih h
      refine ⟨List.forall_mem_cons.2 ⟨hfail, hrest⟩, ?_⟩
      rw [hg, List.flatMap_cons]
      simp [addEntries]

/-! ### The libraries of the entries -/

def guardedLibrary? (e : Entry) : Option (String × String) :=
  match e.announcement with
  | .library name => some (e.guard, name)
  | _ => none

theorem guardedLibrary?_eq_some_iff {e : Entry} {guard name : String} :
    guardedLibrary? e = some (guard, name) ↔ e = ⟨.library name, guard⟩ := by
  obtain ⟨announcement, g⟩ := e
  cases announcement <;> simp [guardedLibrary?, and_comm]

theorem lines_text_libraries {f : Fragments} (h : ∀ e ∈ f.entries, Entry.Writable f.markers e) :
    lines (f.text .libraries).toList =
      (f.entries.filterMap guardedLibrary?).flatMap fun e => Library.entryLines e.1 e.2 := by
  have htext : f.text .libraries =
      String.join
        ((f.entries.filter fun e => e.kind == .libraries).map (Entry.text f.markers)) := by
    simp [text, header, body, FragmentKind.hasHeader]
  rw [htext, Entry.lines_join_text fun e he => (h e (List.mem_filter.1 he).1).fits]
  clear h htext
  induction f.entries with
  | nil => rfl
  | cons e es ih =>
    obtain ⟨announcement, guard⟩ := e
    cases announcement with
    | library name =>
      rw [List.filter_cons_of_pos rfl, List.flatMap_cons, ih,
        Library.textLines_library]
      rfl
    | constant _ _ _ =>
      rw [List.filter_cons_of_neg Bool.false_ne_true, ih]
      rfl
    | function _ _ =>
      rw [List.filter_cons_of_neg Bool.false_ne_true, ih]
      rfl
    | objectType _ _ =>
      rw [List.filter_cons_of_neg Bool.false_ne_true, ih]
      rfl

end DefFragments.Fragments

namespace DefFragments.Library
open Text Conditional

/-- The lines `p` at the beginning of a text end with a line that announces the library. -/
def AnnouncedAt (markers : Markers) (text : String) (p : List (List Char)) (name : String) : Prop :=
  ∃ before line after found, lines text.toList = before ++ line :: after ∧ p = before ++ [line] ∧
    Marker.announcements markers line = .ok found ∧ .library name ∈ found

theorem AnnouncedAt.lines_eq {markers : Markers} {text name : String} {p : List (List Char)}
    (h : AnnouncedAt markers text p name) : ∃ after, lines text.toList = p ++ after := by
  obtain ⟨before, line, after, found, hlines, rfl, -⟩ := h
  exact ⟨after, by simpa using hlines⟩

section
variable {markers : Markers} (hsym : isIdentifier markers.versionSymbol.toList = true)
  {stamp : String} {verbose : Bool} {texts : List (String × String)} {f : Fragments}
  (hread : (Fragments.start markers stamp).readTexts verbose texts = .ok f)
include hread

theorem exists_run_of_announcedAt {t : String × String} (ht : t ∈ texts) {p : List (List Char)}
    {name : String} (h : AnnouncedAt markers t.2 p name) :
    ∃ s, Stack.empty.run markers.versionSymbol.toList p = .ok s := by
  obtain ⟨after, hlines⟩ := h.lines_eq
  have hscan : (Scan.ofText markers t.1 t.2).failure? = none :=
    (Fragments.readTexts_eq_ok hread).1 t ht
  unfold Scan.ofText at hscan
  rw [hlines] at hscan
  exact Scan.exists_run hscan

/-- The guarded libraries are the announced ones, each under the guard of the stack there. -/
theorem mem_guardedLibraries_iff {guard name : String} :
    (guard, name) ∈ f.entries.filterMap Fragments.guardedLibrary? ↔
      ∃ t ∈ texts, ∃ p s, AnnouncedAt markers t.2 p name ∧
        Stack.empty.run markers.versionSymbol.toList p = .ok s ∧ guard = s.combinedGuard := by
  obtain ⟨hscan, rfl⟩ := Fragments.readTexts_eq_ok hread
  rw [Fragments.start, Fragments.addEntries, List.nil_append, List.mem_filterMap]
  simp only [Fragments.guardedLibrary?_eq_some_iff, exists_eq_right, List.mem_flatMap]
  have hentry : ∀ t ∈ texts,
      (⟨.library name, guard⟩ ∈ (Scan.ofText markers t.1 t.2).entries ↔
        ∃ p s, AnnouncedAt markers t.2 p name ∧
          Stack.empty.run markers.versionSymbol.toList p = .ok s ∧ guard = s.combinedGuard) := by
    intro t ht
    have hfound := fun g => Scan.mem_ofLines_iff (f := g) (hscan t ht)
    constructor
    · intro hmem
      obtain ⟨finding, hfinding, hsame⟩ := List.mem_map.1 hmem
      obtain ⟨hannouncement, hguard⟩ := Entry.mk.inj hsame
      obtain ⟨before, line, after, s, found, hlines, hrun, hok, hin, -, hg⟩ :=
        (hfound finding).1 hfinding
      refine ⟨before ++ [line], s, ⟨before, line, after, found, hlines, rfl, hok, ?_⟩, hrun, ?_⟩
      · rwa [← hannouncement]
      · rw [← hguard, hg]
    · rintro ⟨p, s, ⟨before, line, after, found, hlines, rfl, hok, hin⟩, hrun, rfl⟩
      refine List.mem_map.2 ⟨⟨1 + before.length, .library name, s.combinedGuard⟩, ?_, rfl⟩
      exact (hfound _).2 ⟨before, line, after, s, found, hlines, hrun, hok, hin, rfl, rfl⟩
  constructor
  · rintro ⟨t, ht, hin⟩
    exact ⟨t, ht, (hentry t ht).1 hin⟩
  · rintro ⟨t, ht, hin⟩
    exact ⟨t, ht, (hentry t ht).2 hin⟩

include hsym

theorem writable_of_mem_entries {e : Entry} (he : e ∈ f.entries) : Entry.Writable markers e := by
  obtain ⟨hscan, rfl⟩ := Fragments.readTexts_eq_ok hread
  rw [Fragments.start, Fragments.addEntries, List.nil_append] at he
  obtain ⟨t, ht, hin⟩ := List.mem_flatMap.1 he
  obtain ⟨finding, hfinding, rfl⟩ := List.mem_map.1 hin
  exact Scan.writable_of_mem_findings hsym (hscan t ht) hfinding

theorem writable_of_mem_guardedLibraries {e : String × String}
    (he : e ∈ f.entries.filterMap Fragments.guardedLibrary?) :
    Entry.Writable markers ⟨.library e.2, e.1⟩ := by
  obtain ⟨entry, hentry, hlibrary⟩ := List.mem_filterMap.1 he
  have hsame := Fragments.guardedLibrary?_eq_some_iff.1 hlibrary
  exact hsame ▸ writable_of_mem_entries hsym hread hentry

theorem resolve_eq (release : Nat) :
    resolve (f.text .libraries) markers.versionSymbol release =
      (activeWords markers.versionSymbol.toList release 1 []
        ((f.entries.filterMap Fragments.guardedLibrary?).flatMap fun e =>
          entryLines e.1 e.2)).map fun ws => nameSet (ws.map String.ofList) := by
  unfold resolve
  have hmarkers : f.markers = markers := by rw [(Fragments.readTexts_eq_ok hread).2]; rfl
  rw [Fragments.lines_text_libraries fun e he => hmarkers ▸ writable_of_mem_entries hsym hread he]

theorem exists_resolve_iff (release : Nat) :
    (∃ names, resolve (f.text .libraries) markers.versionSymbol release = .ok names) ↔
      ∀ e ∈ f.entries.filterMap Fragments.guardedLibrary?,
        ∃ b, guardValue markers.versionSymbol.toList release e.1 = .ok b := by
  have hwritable := fun e he => writable_of_mem_guardedLibraries hsym hread (e := e) he
  rw [resolve_eq hsym hread]
  constructor
  · rintro ⟨names, hnames⟩
    cases hwords : activeWords markers.versionSymbol.toList release 1 []
        ((f.entries.filterMap Fragments.guardedLibrary?).flatMap fun e => entryLines e.1 e.2) with
    | error e => simp [hwords, Except.map] at hnames
    | ok ws => exact exists_guardValue_of_activeWords_eq_ok hwritable hwords
  · intro hvalue
    obtain ⟨ws, hws, -⟩ := exists_activeWords hwritable hvalue 1
    exact ⟨nameSet (ws.map String.ofList), by rw [hws]; rfl⟩

theorem mem_resolve_iff {release : Nat} {names : List String}
    (h : resolve (f.text .libraries) markers.versionSymbol release = .ok names) {name : String} :
    name ∈ names ↔ ∃ guard, (guard, name) ∈ f.entries.filterMap Fragments.guardedLibrary? ∧
      guardValue markers.versionSymbol.toList release guard = .ok true := by
  have hwritable := fun e he => writable_of_mem_guardedLibraries hsym hread (e := e) he
  have hvalue := (exists_resolve_iff hsym hread release).1 ⟨names, h⟩
  obtain ⟨ws, hws, hmem⟩ := exists_activeWords hwritable hvalue 1
  rw [resolve_eq hsym hread, hws] at h
  obtain rfl := Except.ok.inj h
  rw [mem_nameSet, List.mem_map]
  constructor
  · rintro ⟨w, hw, rfl⟩
    obtain ⟨⟨guard, entryName⟩, he, htrue, rfl⟩ := (hmem w).1 hw
    exact ⟨guard, by rwa [String.ofList_toList], htrue⟩
  · rintro ⟨guard, he, htrue⟩
    exact ⟨name.toList, (hmem _).2 ⟨_, he, htrue, rfl⟩, String.ofList_toList⟩

theorem exists_of_resolve_eq_error {release : Nat} {failure : Failure}
    (h : resolve (f.text .libraries) markers.versionSymbol release = .error failure) :
    ∃ e ∈ f.entries.filterMap Fragments.guardedLibrary?, ∃ n err,
      guardValue markers.versionSymbol.toList release e.1 = .error err ∧
        failure = .during (.fragmentLine n) (.guard err) := by
  rw [resolve_eq hsym hread] at h
  cases hwords : activeWords markers.versionSymbol.toList release 1 []
      ((f.entries.filterMap Fragments.guardedLibrary?).flatMap fun e => entryLines e.1 e.2) with
  | ok ws => simp [hwords, Except.map] at h
  | error e =>
    simp only [hwords, Except.map, Except.error.injEq] at h
    subst h
    exact exists_guardValue_of_activeWords_eq_error
      (fun e he => writable_of_mem_guardedLibraries hsym hread he) hwords

end

/-! ### The libraries to link -/

/-- The libraries to link are those that are announced where every open block is satisfied. -/
theorem mem_resolve_iff_satisfied {markers : Markers}
    (hsym : isIdentifier markers.versionSymbol.toList = true) {stamp : String} {verbose : Bool}
    {texts : List (String × String)} {f : Fragments}
    (hread : (Fragments.start markers stamp).readTexts verbose texts = .ok f)
    (hguards : ∀ t ∈ texts, ∀ line ∈ lines t.2.toList, ∀ g,
      guard? markers.versionSymbol.toList line = some g →
        ∃ c : Comparison, g = c.spelling markers.versionSymbol.toList ∧ c.Readable)
    (release : Nat) :
    ∃ names, resolve (f.text .libraries) markers.versionSymbol release = .ok names ∧
      ∀ name, name ∈ names ↔ ∃ t ∈ texts, ∃ p, AnnouncedAt markers t.2 p name ∧
        Satisfied markers.versionSymbol.toList release p := by
  have hreadable : ∀ t ∈ texts, ∀ p name, AnnouncedAt markers t.2 p name →
      Readable markers.versionSymbol.toList p := by
    rintro t ht p name hann before opening after hopen
    obtain ⟨rest, hlines⟩ := hann.lines_eq
    have hmem : opening ∈ lines t.2.toList := by simp [hlines, hopen.lines_eq]
    exact not_blockUnreadable hsym (hguards t ht opening hmem)
  have hvalue : ∀ e ∈ f.entries.filterMap Fragments.guardedLibrary?,
      ∃ b, guardValue markers.versionSymbol.toList release e.1 = .ok b := by
    rintro ⟨guard, name⟩ he
    obtain ⟨t, ht, p, s, hann, hrun, rfl⟩ := (mem_guardedLibraries_iff hread).1 he
    cases hb : guardValue markers.versionSymbol.toList release s.combinedGuard with
    | ok b => exact ⟨b, rfl⟩
    | error e =>
      obtain ⟨-, before, opening, after, hopen, hbad, -⟩ :=
        (guardValue_eq_error_iff hsym (nested_run hrun) release).1 hb
      exact absurd hbad (hreadable t ht p name hann _ _ _ hopen)
  obtain ⟨names, hnames⟩ := (exists_resolve_iff hsym hread release).2 hvalue
  refine ⟨names, hnames, fun name => ?_⟩
  rw [mem_resolve_iff hsym hread hnames]
  constructor
  · rintro ⟨guard, he, htrue⟩
    obtain ⟨t, ht, p, s, hann, hrun, rfl⟩ := (mem_guardedLibraries_iff hread).1 he
    exact ⟨t, ht, p, hann, ((guardValue_eq_ok_true_iff hsym (nested_run hrun) release).1 htrue).1⟩
  · rintro ⟨t, ht, p, hann, hsat⟩
    obtain ⟨s, hrun⟩ := exists_run_of_announcedAt hread ht hann
    refine ⟨s.combinedGuard, (mem_guardedLibraries_iff hread).2 ⟨t, ht, p, s, hann, hrun, rfl⟩, ?_⟩
    exact (guardValue_eq_ok_true_iff hsym (nested_run hrun) release).2
      ⟨hsat, hreadable t ht p name hann⟩

theorem mem_resolve_iff_satisfied_of_alternative :
    ∃ f, (Fragments.start {} "now").readTexts false
        [("a.c", "#if __FreeBSD_version >= 500000\nLIB_DEPENDS(kvm)\n#else\n" ++
          "LIB_DEPENDS(util)\n#endif\n")] = .ok f ∧
      ∃ names, resolve (f.text .libraries) "__FreeBSD_version" 600000 = .ok names ∧
        ∀ name, name ∈ names ↔
          ∃ t ∈ [("a.c", "#if __FreeBSD_version >= 500000\nLIB_DEPENDS(kvm)\n#else\n" ++
            "LIB_DEPENDS(util)\n#endif\n")], ∃ p, AnnouncedAt {} t.2 p name ∧
              Satisfied "__FreeBSD_version".toList 600000 p := by
  have hread : (Fragments.start {} "now").readTexts false
      [("a.c", "#if __FreeBSD_version >= 500000\nLIB_DEPENDS(kvm)\n#else\n" ++
        "LIB_DEPENDS(util)\n#endif\n")] =
      .ok ⟨{}, "now", [], [⟨.library "kvm", "__FreeBSD_version >= 500000"⟩,
        ⟨.library "util", "!(__FreeBSD_version >= 500000)"⟩]⟩ := by
    decide +kernel
  let c := Comparison.spaced ['>', '='] "500000".toList (by decide) (by decide) (by decide)
    (by decide)
  have hguards : ∀ t ∈ [("a.c", "#if __FreeBSD_version >= 500000\nLIB_DEPENDS(kvm)\n#else\n" ++
      "LIB_DEPENDS(util)\n#endif\n")], ∀ line ∈ lines t.2.toList,
      ∀ g ∈ guard? "__FreeBSD_version".toList line, g = c.spelling "__FreeBSD_version".toList := by
    decide +kernel
  refine ⟨_, hread, mem_resolve_iff_satisfied (by decide) hread ?_ 600000⟩
  intro t ht line hline g hg
  exact ⟨c, hguards t ht line hline g hg, by decide, by decide⟩

/-- Resolving fails only for a comparison that cannot be read back around an announced library,
with every block around it satisfied. The failure then names the guard, and it is never another
symbol or a block that is not closed. -/
theorem resolve_fails_iff_unreadable {markers : Markers}
    (hsym : isIdentifier markers.versionSymbol.toList = true) {stamp : String} {verbose : Bool}
    {texts : List (String × String)} {f : Fragments}
    (hread : (Fragments.start markers stamp).readTexts verbose texts = .ok f)
    (release : Nat) :
    ((∃ names, resolve (f.text .libraries) markers.versionSymbol release = .ok names) ↔
      ∀ t ∈ texts, ∀ p name, AnnouncedAt markers t.2 p name →
        ∀ before opening after, OpenBlock p before opening after →
          BlockUnreadable markers.versionSymbol.toList opening after →
          ¬(Satisfied markers.versionSymbol.toList release before ∧
            Readable markers.versionSymbol.toList before)) ∧
    ∀ failure, resolve (f.text .libraries) markers.versionSymbol release = .error failure →
      ∃ n guard, failure = .during (.fragmentLine n) (.guard (.invalid guard)) := by
  constructor
  · rw [exists_resolve_iff hsym hread]
    constructor
    · rintro hvalue t ht p name hann before opening after hopen hbad ⟨hsat, hreadable⟩
      obtain ⟨s, hrun⟩ := exists_run_of_announcedAt hread ht hann
      obtain ⟨b, hb⟩ := hvalue (s.combinedGuard, name)
        ((mem_guardedLibraries_iff hread).2 ⟨t, ht, p, s, hann, hrun, rfl⟩)
      have herror := (guardValue_eq_error_iff hsym (nested_run hrun) release).2
        ⟨rfl, before, opening, after, hopen, hbad, hsat, hreadable⟩
      rw [herror] at hb
      cases hb
    · rintro hnone ⟨guard, name⟩ he
      obtain ⟨t, ht, p, s, hann, hrun, rfl⟩ := (mem_guardedLibraries_iff hread).1 he
      cases hb : guardValue markers.versionSymbol.toList release s.combinedGuard with
      | ok b => exact ⟨b, rfl⟩
      | error e =>
        obtain ⟨-, before, opening, after, hopen, hbad, hsat, hreadable⟩ :=
          (guardValue_eq_error_iff hsym (nested_run hrun) release).1 hb
        exact absurd ⟨hsat, hreadable⟩ (hnone t ht p name hann _ _ _ hopen hbad)
  · intro failure hfailure
    obtain ⟨⟨guard, name⟩, he, n, err, herr, rfl⟩ := exists_of_resolve_eq_error hsym hread hfailure
    obtain ⟨t, ht, p, s, hann, hrun, rfl⟩ := (mem_guardedLibraries_iff hread).1 he
    obtain ⟨rfl, -⟩ := (guardValue_eq_error_iff hsym (nested_run hrun) release).1 herr
    exact ⟨n, s.combinedGuard, rfl⟩

theorem resolve_fails_iff_unreadable_of_wide_number :
    ∃ f, (Fragments.start {} "now").readTexts false
        [("a.c", "#if __FreeBSD_version < 18446744073709551616\nLIB_DEPENDS(kvm)\n#endif\n")] =
          .ok f ∧
      ((∃ names, resolve (f.text .libraries) "__FreeBSD_version" 5 = .ok names) ↔
        ∀ t ∈ [("a.c", "#if __FreeBSD_version < 18446744073709551616\nLIB_DEPENDS(kvm)\n" ++
          "#endif\n")], ∀ p name, AnnouncedAt {} t.2 p name →
            ∀ before opening after, OpenBlock p before opening after →
              BlockUnreadable "__FreeBSD_version".toList opening after →
              ¬(Satisfied "__FreeBSD_version".toList 5 before ∧
                Readable "__FreeBSD_version".toList before)) ∧
      ∀ failure, resolve (f.text .libraries) "__FreeBSD_version" 5 = .error failure →
        ∃ n guard, failure = .during (.fragmentLine n) (.guard (.invalid guard)) := by
  have hread : (Fragments.start {} "now").readTexts false
      [("a.c", "#if __FreeBSD_version < 18446744073709551616\nLIB_DEPENDS(kvm)\n#endif\n")] =
      .ok ⟨{}, "now", [], [⟨.library "kvm", "__FreeBSD_version < 18446744073709551616"⟩]⟩ := by
    decide +kernel
  exact ⟨_, hread, resolve_fails_iff_unreadable (by decide) hread 5⟩

/-- A fragment that the scan writes need not resolve: here the number of the comparison has more
than 64 bits. -/
theorem not_forall_exists_resolve :
    ¬∀ (markers : Markers) (stamp : String) (verbose : Bool) (texts : List (String × String))
      (f : Fragments), isIdentifier markers.versionSymbol.toList = true →
      (Fragments.start markers stamp).readTexts verbose texts = .ok f →
      ∀ release < unsignedBound, ∃ names,
        resolve (f.text .libraries) markers.versionSymbol release = .ok names := by
  intro h
  obtain ⟨names, hnames⟩ := h {} "now" false
    [("a.c", "#if __FreeBSD_version < 18446744073709551616\nLIB_DEPENDS(kvm)\n#endif\n")]
    ⟨{}, "now", [], [⟨.library "kvm", "__FreeBSD_version < 18446744073709551616"⟩]⟩
    (by decide) (by decide +kernel) 5 (by decide)
  have herror : resolve
      (Fragments.text ⟨{}, "now", [], [⟨.library "kvm",
        "__FreeBSD_version < 18446744073709551616"⟩]⟩ .libraries) "__FreeBSD_version" 5 =
      .error (.during (.fragmentLine 1)
        (.guard (.invalid "__FreeBSD_version < 18446744073709551616"))) := by
    decide +kernel
  rw [herror] at hnames
  cases hnames

end DefFragments.Library
