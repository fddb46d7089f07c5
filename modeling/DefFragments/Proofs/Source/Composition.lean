import DefFragments.Proofs.Source.Verdict

/-!
# Sources in two parts

A scan only appends to the buffers, and what it appends does not depend on them. A source that is
accepted leaves no block open, so a text behind it is scanned as if it stood alone; only the line
numbers in its failures count on from the first text.
-/

namespace DefFragments
open Text Conditional

/-- The circumstance with so many lines in front of the source. -/
def Circumstance.shift (k : Nat) : Circumstance → Circumstance
  | .sourceLine file n => .sourceLine file (n + k)
  | .marker file n => .marker file (n + k)
  | c => c

def Failure.shift (k : Nat) (f : Failure) : Failure :=
  ⟨f.circumstances.map (Circumstance.shift k), f.cause⟩

namespace Scan

def shift (k : Nat) (s : Scan) : Scan :=
  ⟨s.findings.map fun f => { f with line := f.line + k }, s.failure?.map (Failure.shift k)⟩

variable {markers : Markers} {file : String} {n : Nat} {stack : Stack}

theorem entries_shift (k : Nat) (s : Scan) : (s.shift k).entries = s.entries := by
  unfold shift entries
  rw [List.map_map]
  rfl

theorem shift_prepend (k : Nat) (findings : List Finding) (s : Scan) :
    (prepend findings s).shift k =
      prepend (findings.map fun f => { f with line := f.line + k }) (s.shift k) := by
  unfold shift prepend
  rw [List.map_append]

/-- The number of the first line only shows in the numbers that are reported. -/
theorem ofLines_add (k : Nat) (ls : List (List Char)) :
    ofLines markers file (n + k) stack ls = (ofLines markers file n stack ls).shift k := by
  induction ls generalizing n stack with
  | nil =>
    rw [ofLines, ofLines]
    cases stack.finish <;> rfl
  | cons line rest ih =>
    rw [ofLines, ofLines]
    rcases stack.update markers.versionSymbol.toList line with ⟨e | ok, next⟩
    · rfl
    · cases Marker.announcements markers line with
      | error e => rfl
      | ok found =>
        have hrest := @ih (n + 1) next
        rw [Nat.add_right_comm] at hrest
        simp only [hrest, shift_prepend, List.map_map]
        rfl

theorem eq_empty_of_finish (h : stack.finish = .ok ()) : stack = .empty := by
  unfold Stack.finish at h
  split at h
  · next hframes => exact congrArg Stack.mk hframes
  · cases h

/-- Behind lines that are scanned without a failure the scan begins anew. -/
theorem ofLines_append {a : List (List Char)}
    (h : (ofLines markers file n stack a).failure? = none) (b : List (List Char)) :
    ofLines markers file n stack (a ++ b) =
      prepend (ofLines markers file n stack a).findings
        (ofLines markers file (n + a.length) .empty b) := by
  induction a generalizing n stack with
  | nil =>
    rw [ofLines] at h ⊢
    cases hfinish : stack.finish with
    | error e => simp [hfinish] at h
    | ok _ =>
      rw [eq_empty_of_finish hfinish]
      rfl
  | cons line rest ih =>
    rw [ofLines] at h
    rw [List.cons_append, ofLines, ofLines]
    rcases hu : stack.update markers.versionSymbol.toList line with ⟨e | ok, next⟩
    · simp [hu] at h
    · cases hfound : Marker.announcements markers line with
      | error e => simp [hu, hfound] at h
      | ok found =>
        simp only [hu, hfound] at h
        have hlength : n + (line :: rest).length = n + 1 + rest.length := by
          rw [List.length_cons]
          omega
        have hrest := @ih (n + 1) next h
        simp only [hrest, hlength]
        unfold prepend
        rw [List.append_assoc]

theorem ofText_append {first : String} (hends : EndsLine first.toList)
    (h : (ofText markers file first).failure? = none) (second : String) :
    ofText markers file (first ++ second) =
      prepend (ofText markers file first).findings
        ((ofText markers file second).shift (lines first.toList).length) := by
  unfold ofText at h ⊢
  rw [String.toList_append, lines_append hends, ofLines_append h, ofLines_add]

theorem count_prepend_shift (findings : List Finding) (k : Nat) (s : Scan) :
    (prepend findings (s.shift k)).count =
      match s.count with
      | .ok m => .ok (findings.length + m)
      | .error f => .error (f.shift k) := by
  unfold count prepend shift
  cases s.failure? with
  | none => simp
  | some f => rfl

theorem count_eq_ok {s : Scan} {m : Nat} (h : s.count = .ok m) :
    s.failure? = none ∧ s.findings.length = m := by
  unfold count at h
  cases hfail : s.failure? with
  | some f => simp [hfail] at h
  | none =>
    simp only [hfail, Except.ok.injEq] at h
    exact ⟨rfl, h⟩

end Scan

namespace Fragments

theorem addEntries_append (f : Fragments) (a b : List Entry) :
    f.addEntries (a ++ b) = (f.addEntries a).addEntries b := by
  simp [addEntries]

/-- What a scan appends to each buffer depends on the text and the markers only, and nothing goes to
the sources. Behind an accepted text that ends its last line, a second text adds to the fragments
what it adds when it is scanned on its own, and fails for the same cause, its line counted from the
first text on. -/
theorem readText_append :
    (∀ (markers : Markers) (file text : String),
      ∃ (added : FragmentKind → String) (result : Except Failure Nat), added .sources = "" ∧
        ∀ (f : Fragments) (verbose : Bool), f.markers = markers →
          (f.readText verbose file text).result = result ∧
            ∀ kind, (f.readText verbose file text).fragments.text kind = f.text kind ++ added kind) ∧
    ∀ (f : Fragments) (verbose : Bool) (file first second : String) (n : Nat),
      EndsLine first.toList → (f.readText verbose file first).result = .ok n →
      let late := (f.readText verbose file first).fragments.readText verbose file second
      let whole := f.readText verbose file (first ++ second)
      whole.fragments = late.fragments ∧
        (∀ m, late.result = .ok m → whole.result = .ok (n + m)) ∧
        ∀ failure, late.result = .error failure →
          whole.result = .error (failure.shift (lines first.toList).length) := by
  constructor
  · intro markers file text
    let entries := (Scan.ofText markers file text).entries
    refine ⟨fun kind =>
      String.join ((entries.filter fun e => e.kind == kind).map (Entry.text markers)),
      (Scan.ofText markers file text).count, ?_, ?_⟩
    · have hnone : (entries.filter fun e => e.kind == .sources) = [] := by
        simp [List.filter_eq_nil_iff, kind_ne_sources]
      show String.join ((entries.filter fun e => e.kind == .sources).map (Entry.text markers)) = ""
      rw [hnone]
      rfl
    · rintro f verbose rfl
      exact ⟨rfl, f.text_addEntries entries⟩
  · intro f verbose file first second n hends hfirst late whole
    obtain ⟨hclean, hn⟩ := Scan.count_eq_ok hfirst
    have hscan := Scan.ofText_append hends hclean second
    have hlate : late.result = (Scan.ofText f.markers file second).count := rfl
    have hwhole : whole.result = (Scan.ofText f.markers file (first ++ second)).count := rfl
    have hfragments : whole.fragments =
        f.addEntries (Scan.ofText f.markers file (first ++ second)).entries := rfl
    rw [hscan, Scan.count_prepend_shift, ← hlate, hn] at hwhole
    refine ⟨?_, fun m hm => ?_, fun failure hf => ?_⟩
    · have hentries : (Scan.ofText f.markers file (first ++ second)).entries =
          (Scan.ofText f.markers file first).entries ++
            (Scan.ofText f.markers file second).entries := by
        rw [hscan, ← Scan.entries_shift (lines first.toList).length
          (Scan.ofText f.markers file second)]
        exact List.map_append
      rw [hfragments, hentries, addEntries_append]
      rfl
    · rw [hwhole, hm]
    · rw [hwhole, hf]

/-- The second text closes a block that only the first one has opened. -/
theorem readText_append_of_closed_block :
    let first := "#if __FreeBSD_version > 1\nLIB_DEPENDS(kvm)\n#endif\n"
    let second := "LIB_DEPENDS(util)\n#endif\n"
    let whole := (start {} "now").readText false "a.c" (first ++ second)
    whole.result = .error (.during (.sourceLine "a.c" 5) (.nesting .unbalanced)) ∧
      whole.fragments.text .libraries = "#if __FreeBSD_version > 1\nkvm\n#endif\nutil\n" := by
  intro first second whole
  have hfirst : ((start {} "now").readText false "a.c" first).result = .ok 1 := by decide +kernel
  have hlate : (((start {} "now").readText false "a.c" first).fragments.readText false "a.c"
      second).result = .error (.during (.sourceLine "a.c" 2) (.nesting .unbalanced)) := by
    decide +kernel
  obtain ⟨hfragments, -, hfailure⟩ := readText_append.2 (start {} "now") false "a.c" first second 1
    (Or.inr (by decide)) hfirst
  have hlines : (lines first.toList).length = 3 := by decide
  refine ⟨?_, ?_⟩
  · have hwhole := hfailure _ hlate
    rwa [hlines] at hwhole
  · have hlibraries : ((start {} "now").readText false "a.c" (first ++ second)).fragments.text
        .libraries = "#if __FreeBSD_version > 1\nkvm\n#endif\nutil\n" := by
      rw [hfragments]
      decide +kernel
    exact hlibraries

end Fragments

end DefFragments
