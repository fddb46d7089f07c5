import DefFragments.Generation.Run
import DefFragments.Proofs.Conditional.OpenBlocks
import DefFragments.Proofs.Text.Lines

/-!
# Which sources are accepted

The entries of a source are told line by line: a line adds what it announces, under the guard of the
blocks that are open after it. A source is accepted exactly if its conditional lines come in pairs,
with every `#else` and `#elif` inside a block, and all its markers can be read. Otherwise the first
line that offends is reported, and the entries of the lines before it are all that the scan has
added.
-/

namespace DefFragments
open Text Conditional

/-- Lines of a source, from its beginning, and the entries of what they announce. -/
inductive Announces (markers : Markers) : List (List Char) → List Entry → Prop
  | start : Announces markers [] []
  | line {before line entries found s} : Announces markers before entries →
      Stack.empty.run markers.versionSymbol.toList (before ++ [line]) = .ok s →
      Marker.announcements markers line = .ok found →
      Announces markers (before ++ [line]) (entries ++ found.map fun a => ⟨a, s.combinedGuard⟩)

namespace Scan

/-- The line needs an open block, and the lines before it leave none open. -/
def Orphan (before : List (List Char)) (line : List Char) : Prop :=
  (classify line).needsBlock = true ∧ ∀ b o a, ¬OpenBlock before b o a

/-- What is reported about a line with these lines before it. A directive without a block hides a
marker that cannot be read. -/
inductive Offence (markers : Markers) (file : String) (before : List (List Char))
    (line : List Char) : Failure → Prop
  | directive : Orphan before line →
      Offence markers file before line
        (.during (.sourceLine file (before.length + 1)) (.nesting .unbalanced))
  | marker {e} : ¬Orphan before line → Marker.announcements markers line = .error e →
      Offence markers file before line
        (.during (.marker file (before.length + 1)) (.marker e))

/-- Nothing is reported about any of these lines. -/
def Faultless (markers : Markers) (file : String) (ls : List (List Char)) : Prop :=
  ∀ before line after, ls = before ++ line :: after →
    ∀ failure, ¬Offence markers file before line failure

/-- How a scan of lines ends: what is reported, and the entries that were found. -/
inductive Verdict (markers : Markers) (file : String) (ls : List (List Char)) :
    Option Failure → List Entry → Prop
  | accepted {entries} : Faultless markers file ls → closings ls = openings ls →
      Announces markers ls entries → Verdict markers file ls none entries
  | offence {before line after failure entries} : ls = before ++ line :: after →
      Faultless markers file before → Offence markers file before line failure →
      Announces markers before entries → Verdict markers file ls (some failure) entries
  | unterminated {entries} : Faultless markers file ls → closings ls < openings ls →
      Announces markers ls entries →
      Verdict markers file ls
        (some (.during (.endOfSource file) (.nesting (.unterminated (openings ls - closings ls)))))
        entries

/-! ### Offending lines -/

variable {markers : Markers} {file : String} {before : List (List Char)} {line : List Char}
  {s : Stack}

theorem frames_eq_nil_iff {symbol : List Char} (hrun : Stack.empty.run symbol before = .ok s) :
    s.frames = [] ↔ ∀ b o a, ¬OpenBlock before b o a := by
  rw [← @openFrames_eq_nil_iff symbol before, openFrames_of_nested (nested_run hrun),
    List.reverse_eq_nil_iff]

theorem orphan_iff {symbol : List Char} (hrun : Stack.empty.run symbol before = .ok s) :
    Orphan before line ↔ (s.update symbol line).1 = .error .unbalanced := by
  rw [Orphan, ← frames_eq_nil_iff hrun, update_fst_eq_error_iff]
  simp [and_comm]

theorem faultless_nil : Faultless markers file [] := by
  intro before line after h
  simp at h

theorem Faultless.append_singleton (h : Faultless markers file before)
    (hline : ∀ failure, ¬Offence markers file before line failure) :
    Faultless markers file (before ++ [line]) :=
  forall_split_append_singleton.2 ⟨h, hline⟩

theorem Faultless.of_append {after : List (List Char)}
    (h : Faultless markers file (before ++ after)) : Faultless markers file before := by
  rintro b l a rfl
  exact h b l (a ++ after) (by simp)

/-- The report names the file and the number of the line. -/
theorem Offence.messages {failure : Failure} (h : Offence markers file before line failure) :
    ∃ wording rest,
      failure.messages = (file ++ ":" ++ toString (before.length + 1) ++ wording) :: rest := by
  cases h with
  | directive _ =>
    refine ⟨"", [NestingError.message .unbalanced], ?_⟩
    rw [String.append_empty]
    rfl
  | @marker e _ _ => exact ⟨": unsupported marker", [e.message], rfl⟩

theorem not_orphan_of_update {symbol : List Char} (hrun : Stack.empty.run symbol before = .ok s)
    {next : Stack} (hu : s.update symbol line = (.ok (), next)) : ¬Orphan before line := by
  rw [orphan_iff hrun, hu]
  simp

theorem not_offence_of_update (hrun : Stack.empty.run markers.versionSymbol.toList before = .ok s)
    {next : Stack} (hu : s.update markers.versionSymbol.toList line = (.ok (), next))
    {found : List Announcement} (hfound : Marker.announcements markers line = .ok found)
    (failure : Failure) : ¬Offence markers file before line failure := by
  rintro (horphan | ⟨-, herror⟩)
  · exact not_orphan_of_update hrun hu horphan
  · rw [hfound] at herror
    cases herror

/-! ### How a scan ends -/

theorem entries_prepend (n : Nat) (found : List Announcement) (guard : String) (scan : Scan) :
    (prepend (found.map fun a => ⟨n, a, guard⟩) scan).entries =
      (found.map fun a => ⟨a, guard⟩) ++ scan.entries := by
  simp [Scan.entries, prepend, Finding.entry]

theorem verdict_of_end {entries : List Entry} (hbefore : Announces markers before entries)
    (hrun : Stack.empty.run markers.versionSymbol.toList before = .ok s)
    (hclean : Faultless markers file before) (n : Nat) :
    let scan := ofLines markers file n s []
    Verdict markers file before scan.failure? (entries ++ scan.entries) := by
  have hdepth := depth_run hrun
  have hzero : Stack.empty.depth = 0 := rfl
  rw [ofLines, Stack.finish]
  by_cases hframes : s.frames = []
  · have hs : s.depth = 0 := by rw [Stack.depth, hframes]; rfl
    simp only [if_pos hframes]
    exact .accepted hclean (by omega) (by simpa [Scan.entries] using hbefore)
  · have hs : 0 < s.depth := List.length_pos_iff.2 hframes
    have hopen : s.depth = openings before - closings before := by omega
    simp only [if_neg hframes, hopen]
    exact .unterminated hclean (by omega) (by simpa [Scan.entries] using hbefore)

/-- A scan that has come through some lines without a report goes on to the verdict on all lines. -/
theorem verdict_ofLines {rest : List (List Char)} {entries : List Entry}
    (hbefore : Announces markers before entries)
    (hrun : Stack.empty.run markers.versionSymbol.toList before = .ok s)
    (hclean : Faultless markers file before) :
    let scan := ofLines markers file (before.length + 1) s rest
    Verdict markers file (before ++ rest) scan.failure? (entries ++ scan.entries) := by
  -- on the lines that are left: each of them either ends the scan or joins those before it
  induction rest generalizing before s entries with
  | nil =>
    rw [List.append_nil]
    exact verdict_of_end hbefore hrun hclean _
  | cons line rest ih =>
    rw [ofLines]
    rcases hu : s.update markers.versionSymbol.toList line with ⟨e | ok, next⟩
    · obtain ⟨rfl, -⟩ := update_eq_error_iff.1 hu
      exact .offence rfl hclean (.directive ((orphan_iff hrun).2 (congrArg Prod.fst hu)))
        (by simpa [Scan.entries] using hbefore)
    · cases hfound : Marker.announcements markers line with
      | error e =>
        exact .offence rfl hclean (.marker (not_orphan_of_update hrun hu) hfound)
          (by simpa [Scan.entries] using hbefore)
      | ok found =>
        have hnext := Stack.run_append_singleton hrun hu
        have hrest := ih (hbefore.line hnext hfound) hnext
          (hclean.append_singleton (not_offence_of_update hrun hu hfound))
        simp only [List.length_append, List.length_singleton, List.append_assoc,
          List.singleton_append] at hrest
        show Verdict _ _ _ _ (entries ++ (prepend _ _).entries)
        rw [entries_prepend]
        exact hrest

theorem verdict_ofText (markers : Markers) (file text : String) :
    Verdict markers file (lines text.toList) (ofText markers file text).failure?
      (ofText markers file text).entries :=
  verdict_ofLines .start rfl faultless_nil

theorem exists_run_of_announces {ls : List (List Char)} {entries : List Entry}
    (h : Announces markers ls entries) :
    ∃ s, Stack.empty.run markers.versionSymbol.toList ls = .ok s := by
  cases h with
  | start => exact ⟨.empty, rfl⟩
  | line _ hrun _ => exact ⟨_, hrun⟩

/-! ### Acceptance -/

/-- The conditional lines come in pairs, alternatives stand inside blocks, and every marker can be
read. -/
structure Accepted (markers : Markers) (ls : List (List Char)) : Prop where
  closings_le : ∀ before after, ls = before ++ after → closings before ≤ openings before
  alternative_inside : ∀ before line after, ls = before ++ line :: after →
    classify line = .alternative ∨ classify line = .conditionalAlternative →
      ∃ b o a, OpenBlock before b o a
  closings_eq : closings ls = openings ls
  readable : ∀ line ∈ ls, ∃ found, Marker.announcements markers line = .ok found

theorem closings_append_singleton (before : List (List Char)) (hline : classify line = .closing) :
    closings (before ++ [line]) = closings before + 1 ∧
      openings (before ++ [line]) = openings before := by
  unfold closings openings
  rw [List.map_append, List.count_append, List.count_append, List.map_singleton, hline]
  exact ⟨rfl, rfl⟩

/-- Lines about which nothing is reported can be read from the first to the last. -/
theorem Faultless.exists_announces {ls : List (List Char)} (h : Faultless markers file ls) :
    ∃ entries, Announces markers ls entries := by
  induction ls using List.reverseRecOn with
  | nil => exact ⟨[], .start⟩
  | append_singleton before line ih =>
    obtain ⟨entries, hentries⟩ := ih h.of_append
    obtain ⟨s, hrun⟩ := exists_run_of_announces hentries
    have hline := h before line [] rfl
    rcases hu : s.update markers.versionSymbol.toList line with ⟨e | ok, next⟩
    · obtain ⟨rfl, -⟩ := update_eq_error_iff.1 hu
      exact absurd (.directive ((orphan_iff hrun).2 (congrArg Prod.fst hu))) (hline _)
    · cases hfound : Marker.announcements markers line with
      | error e =>
        exact absurd (.marker (not_orphan_of_update hrun hu) hfound) (hline _)
      | ok found => exact ⟨_, hentries.line (Stack.run_append_singleton hrun hu) hfound⟩

theorem Faultless.exists_run {ls after : List (List Char)}
    (h : Faultless markers file (ls ++ after)) :
    ∃ s, Stack.empty.run markers.versionSymbol.toList ls = .ok s := by
  obtain ⟨entries, hentries⟩ := h.of_append.exists_announces
  exact exists_run_of_announces hentries

theorem Accepted.not_orphan {ls after : List (List Char)} (h : Accepted markers ls)
    (hsplit : ls = before ++ line :: after) {symbol : List Char}
    (hrun : Stack.empty.run symbol before = .ok s) : ¬Orphan before line := by
  rintro ⟨hneeds, hnone⟩
  cases hc : classify line with
  | opening => simp [hc, Directive.needsBlock] at hneeds
  | none => simp [hc, Directive.needsBlock] at hneeds
  | alternative =>
    obtain ⟨b, o, a, hopen⟩ := h.alternative_inside before line after hsplit (Or.inl hc)
    exact hnone b o a hopen
  | conditionalAlternative =>
    obtain ⟨b, o, a, hopen⟩ := h.alternative_inside before line after hsplit (Or.inr hc)
    exact hnone b o a hopen
  | closing =>
    have hdepth := depth_run hrun
    have hframes : s.depth = 0 := by
      rw [Stack.depth, (frames_eq_nil_iff hrun).2 hnone]
      rfl
    have hzero : Stack.empty.depth = 0 := rfl
    have hle := h.closings_le (before ++ [line]) after (by simp [hsplit])
    obtain ⟨hclosings, hopenings⟩ := closings_append_singleton before hc
    omega

theorem Accepted.faultless {ls : List (List Char)} (h : Accepted markers ls) :
    Faultless markers file ls := by
  -- along the beginnings of the lines: each of them leaves a stack that the next line fits
  have hall : ∀ before after, ls = before ++ after → Faultless markers file before := by
    intro before
    induction before using List.reverseRecOn with
    | nil => exact fun _ _ => faultless_nil
    | append_singleton before line ih =>
      intro after heq
      have hsplit : ls = before ++ line :: after := by rw [heq, List.append_assoc]; rfl
      have hclean := ih (line :: after) hsplit
      obtain ⟨entries, hentries⟩ := hclean.exists_announces
      obtain ⟨s, hrun⟩ := exists_run_of_announces hentries
      apply hclean.append_singleton
      rintro failure (horphan | ⟨-, herror⟩)
      · exact h.not_orphan hsplit hrun horphan
      · obtain ⟨found, hfound⟩ := h.readable line (by simp [hsplit])
        rw [hfound] at herror
        cases herror
  exact hall ls [] (List.append_nil ls).symm

theorem accepted_iff {ls : List (List Char)} :
    Accepted markers ls ↔ Faultless markers file ls ∧ closings ls = openings ls := by
  constructor
  · intro h
    exact ⟨h.faultless, h.closings_eq⟩
  · rintro ⟨hclean, heq⟩
    refine ⟨?_, ?_, heq, ?_⟩
    · rintro before after rfl
      obtain ⟨s, hrun⟩ := hclean.exists_run
      have hdepth := depth_run hrun
      have hzero : Stack.empty.depth = 0 := rfl
      omega
    · rintro before line after rfl hc
      obtain ⟨s, hrun⟩ := hclean.exists_run
      by_contra hnone
      have hneeds : (classify line).needsBlock = true := by
        rcases hc with hc | hc <;> rw [hc] <;> rfl
      exact hclean before line after rfl _
        (.directive ⟨hneeds, fun b o a hopen => hnone ⟨b, o, a, hopen⟩⟩)
    · intro line hline
      obtain ⟨before, after, rfl⟩ := List.append_of_mem hline
      obtain ⟨s, hrun⟩ := hclean.exists_run
      cases hfound : Marker.announcements markers line with
      | ok found => exact ⟨found, rfl⟩
      | error e =>
        by_cases horphan : Orphan before line
        · exact absurd (.directive horphan) (hclean before line after rfl _)
        · exact absurd (.marker horphan hfound) (hclean before line after rfl _)

end Scan

/-! ### What a scan adds -/

/-- What a line announces, nothing if its marker cannot be read. -/
def announcedOn (markers : Markers) (line : List Char) : List Announcement :=
  match Marker.announcements markers line with
  | .ok found => found
  | .error _ => []

theorem Announces.length_eq {markers : Markers} {ls : List (List Char)} {entries : List Entry}
    (h : Announces markers ls entries) :
    entries.length = (ls.flatMap (announcedOn markers)).length := by
  induction h with
  | start => rfl
  | @line before line entries found s _ _ hfound ih =>
    have hline : announcedOn markers line = found := by rw [announcedOn, hfound]
    rw [List.length_append, List.length_map, ih, List.flatMap_append, List.flatMap_singleton, hline,
      List.length_append]

namespace Fragments

theorem body_of_ne_sources (f : Fragments) {kind : FragmentKind} (h : kind ≠ .sources) :
    f.body kind =
      String.join ((f.entries.filter fun e => e.kind == kind).map (Entry.text f.markers)) := by
  cases kind with
  | sources => exact absurd rfl h
  | constants => rfl
  | methods => rfl
  | types => rfl
  | libraries => rfl

theorem kind_ne_sources (e : Entry) : e.kind ≠ .sources := by
  obtain ⟨announcement, guard⟩ := e
  cases announcement <;> simp [Entry.kind, FragmentKind.ofAnnouncement]

theorem text_addEntries (f : Fragments) (entries : List Entry) (kind : FragmentKind) :
    (f.addEntries entries).text kind =
      f.text kind ++
        String.join ((entries.filter fun e => e.kind == kind).map (Entry.text f.markers)) := by
  by_cases hkind : kind = .sources
  · have hnone : (entries.filter fun e => e.kind == kind) = [] := by
      simp [List.filter_eq_nil_iff, hkind, kind_ne_sources]
    rw [hnone, hkind]
    exact String.append_empty.symm
  · rw [text, text, body_of_ne_sources _ hkind, body_of_ne_sources _ hkind, addEntries,
      List.filter_append, List.map_append, String.join_append, ← String.append_assoc]
    rfl

/-- Every buffer of the later fragments is that of the earlier ones and behind it the entries of
these lines that belong there. -/
def AddsLines (f g : Fragments) (ls : List (List Char)) : Prop :=
  ∃ entries, Announces f.markers ls entries ∧ ∀ kind, g.text kind = f.text kind ++
    String.join ((entries.filter fun e => e.kind == kind).map (Entry.text f.markers))

/-- A source is accepted exactly if its conditional lines come in pairs and its markers can be read;
the count is that of all announcements. Otherwise the first line that offends is reported, or that
blocks are still open at the end; the buffers have the entries of the lines before. -/
theorem readText_verdict (f : Fragments) (verbose : Bool) (file text : String) :
    let reading := f.readText verbose file text
    let ls := lines text.toList
    ((∃ n, reading.result = .ok n) ↔ Scan.Accepted f.markers ls) ∧
      (∀ n, reading.result = .ok n →
        n = (ls.flatMap (announcedOn f.markers)).length ∧ f.AddsLines reading.fragments ls) ∧
      ∀ failure, reading.result = .error failure →
        (∃ before line after, ls = before ++ line :: after ∧
          Scan.Faultless f.markers file before ∧
          Scan.Offence f.markers file before line failure ∧
          (∃ wording rest, failure.messages =
            (file ++ ":" ++ toString (before.length + 1) ++ wording) :: rest) ∧
          f.AddsLines reading.fragments before) ∨
        (Scan.Faultless f.markers file ls ∧ closings ls < openings ls ∧
          failure = .during (.endOfSource file)
            (.nesting (.unterminated (openings ls - closings ls))) ∧
          f.AddsLines reading.fragments ls) := by
  intro reading ls
  have hadds : ∀ {p entries}, Announces f.markers p entries →
      entries = (Scan.ofText f.markers file text).entries → f.AddsLines reading.fragments p := by
    rintro p entries hentries rfl
    exact ⟨_, hentries, f.text_addEntries _⟩
  have hresult : reading.result = (Scan.ofText f.markers file text).count := rfl
  have hfailed : ∀ failure, (Scan.ofText f.markers file text).failure? = some failure →
      reading.result = .error failure ∧ ∀ n, reading.result ≠ .ok n := by
    intro failure hfailure
    have herror : reading.result = .error failure := by rw [hresult, Scan.count, hfailure]
    refine ⟨herror, fun n hn => ?_⟩
    rw [herror] at hn
    cases hn
  generalize hscan : (Scan.ofText f.markers file text).entries = found at hadds
  have hverdict := Scan.verdict_ofText f.markers file text
  rw [hscan] at hverdict
  rw [@Scan.accepted_iff f.markers file]
  generalize hfail : (Scan.ofText f.markers file text).failure? = failure? at hverdict
  cases hverdict with
  | accepted hclean heq hentries =>
    have hok : reading.result = .ok found.length := by
      rw [hresult, Scan.count, hfail, ← hscan, Scan.entries, List.length_map]
    refine ⟨⟨fun _ => ⟨hclean, heq⟩, fun _ => ⟨_, hok⟩⟩, fun n hn => ?_, fun failure hf => ?_⟩
    · obtain rfl := Except.ok.inj (hok.symm.trans hn)
      exact ⟨hentries.length_eq, hadds hentries rfl⟩
    · rw [hok] at hf
      cases hf
  | @offence before line after failure _ hls hclean hoffence hentries =>
    obtain ⟨herror, hnot⟩ := hfailed failure hfail
    refine ⟨⟨fun hn => absurd hn.choose_spec (hnot _), fun h => ?_⟩,
      fun n hn => absurd hn (hnot n), fun failure' hf => ?_⟩
    · exact absurd hoffence (h.1 before line after hls failure)
    · obtain rfl := Except.error.inj (herror.symm.trans hf)
      exact Or.inl ⟨before, line, after, hls, hclean, hoffence, hoffence.messages,
        hadds hentries rfl⟩
  | unterminated hclean hlt hentries =>
    obtain ⟨herror, hnot⟩ := hfailed _ hfail
    refine ⟨⟨fun hn => absurd hn.choose_spec (hnot _), fun h => ?_⟩,
      fun n hn => absurd hn (hnot n), fun failure' hf => ?_⟩
    · exact absurd h.2 (Nat.ne_of_lt hlt)
    · obtain rfl := Except.error.inj (herror.symm.trans hf)
      exact Or.inr ⟨hclean, hlt, rfl, hadds hentries rfl⟩

/-- A library is announced on the line of a constant that cannot be read. -/
theorem readText_verdict_of_hidden_library :
    let text := "LIB_DEPENDS(util)\nEXPCONST(LIB_DEPENDS(kvm)\n"
    let reading := (start {} "now").readText false "a.c" text
    ¬Scan.Accepted {} (lines text.toList) ∧
      (∃ failure, reading.result = .error failure ∧
        failure.messages.head? = some "a.c:2: unsupported marker") ∧
      reading.fragments.text .libraries = "util\n" := by
  intro text reading
  have hfailed : reading.result =
      .error (.during (.marker "a.c" 2) (.marker (.malformedConstant "" "LIB_DEPENDS(kvm"))) := by
    decide +kernel
  have hlibraries : reading.fragments.text .libraries = "util\n" := by decide +kernel
  refine ⟨fun haccepted => ?_, ⟨_, hfailed, by decide +kernel⟩, hlibraries⟩
  obtain ⟨n, hn⟩ := (readText_verdict (start {} "now") false "a.c" text).1.2 haccepted
  rw [hfailed] at hn
  cases hn

end Fragments

end DefFragments
