import DefFragments.Proofs.Source.Verdict

/-!
# The entries of sources

A source that is read adds its name and the entries of its lines to what was collected before, and
each source begins outside of all blocks.
-/

namespace DefFragments
open Text Conditional

theorem Scan.announces_ofText {markers : Markers} {file text : String}
    (h : (ofText markers file text).failure? = none) :
    Announces markers (lines text.toList) (ofText markers file text).entries := by
  have hverdict := verdict_ofText markers file text
  rw [h] at hverdict
  cases hverdict with
  | accepted _ _ hentries => exact hentries

/-- The name of a source and the entries of its lines. -/
structure ScannedSource where
  name : String
  entries : List Entry
  deriving DecidableEq

/-- The source is a file in a directory, and its entries are what its lines announce. -/
def ScannedSource.IsIn (s : ScannedSource) (t : FileTree) (dir : Path) (markers : Markers) : Prop :=
  ∃ bytes, t.read (dir.join ⟨s.name⟩) = .ok bytes ∧
    Announces markers (lines (decodeLossy bytes).toList) s.entries

namespace Fragments

variable {f : Fragments} {t : FileTree} {verbose : Bool} {n : Nat} {dir : Path}

/-- What was collected, and then the names and the entries of some sources. -/
def addSources (f : Fragments) (sources : List ScannedSource) : Fragments :=
  { f with
    sources := f.sources ++ sources.map ScannedSource.name
    entries := f.entries ++ sources.flatMap ScannedSource.entries }

theorem addSources_cons (f : Fragments) (s : ScannedSource) (sources : List ScannedSource) :
    f.addSources (s :: sources) = (f.addSources [s]).addSources sources := by
  simp [addSources]

theorem readSource_eq_ok {name : String} (hname : (dir.join ⟨name⟩).fileName? = some name)
    (h : (f.readSource t verbose (dir.join ⟨name⟩)).result = .ok n) :
    ∃ s : ScannedSource, s.name = name ∧ s.IsIn t dir f.markers ∧ n = s.entries.length ∧
      (f.readSource t verbose (dir.join ⟨name⟩)).fragments = f.addSources [s] := by
  unfold readSource at h ⊢
  cases hread : t.read (dir.join ⟨name⟩) with
  | error e => simp [hread] at h
  | ok bytes =>
    simp only [hread, hname, readText, Scan.count] at h ⊢
    have hmarkers : (f.addSource name).markers = f.markers := rfl
    rw [hmarkers] at h ⊢
    cases hfail : (Scan.ofText f.markers name (decodeLossy bytes)).failure? with
    | some e => simp [hfail] at h
    | none =>
      simp only [hfail, Except.ok.injEq] at h
      refine ⟨⟨name, (Scan.ofText f.markers name (decodeLossy bytes)).entries⟩, rfl,
        ⟨bytes, hread, Scan.announces_ofText hfail⟩, ?_, ?_⟩
      · rw [← h, Scan.entries, List.length_map]
      · simp [addSources, addEntries, addSource]

theorem readSources_eq_ok {names : List String}
    (hnames : ∀ name ∈ names, (dir.join ⟨name⟩).fileName? = some name)
    (h : (f.readSources t verbose (names.map fun name => dir.join ⟨name⟩)).result = .ok n) :
    ∃ sources : List ScannedSource, sources.map ScannedSource.name = names ∧
      (∀ s ∈ sources, s.IsIn t dir f.markers) ∧
      n = (sources.flatMap ScannedSource.entries).length ∧
      (f.readSources t verbose (names.map fun name => dir.join ⟨name⟩)).fragments =
        f.addSources sources := by
  induction names generalizing f n with
  | nil =>
    have hn : 0 = n := Except.ok.inj h
    exact ⟨[], rfl, by simp, hn.symm, by simp [readSources, addSources]⟩
  | cons name names ih =>
    obtain ⟨hname, hrest⟩ := List.forall_mem_cons.1 hnames
    rw [List.map_cons, readSources] at h ⊢
    cases hfirst : (f.readSource t verbose (dir.join ⟨name⟩)).result with
    | error e => simp [hfirst] at h
    | ok k =>
      obtain ⟨s, hs, hin, hk, hfragments⟩ := readSource_eq_ok hname hfirst
      simp only [hfirst, hfragments] at h ⊢
      cases hsecond : ((f.addSources [s]).readSources t verbose
          (names.map fun name => dir.join ⟨name⟩)).result with
      | error e => simp [hsecond, Except.map] at h
      | ok m =>
        obtain ⟨sources, hsources, hall, hm, hfragments'⟩ := ih hrest hsecond
        refine ⟨s :: sources, by rw [List.map_cons, hs, hsources],
          List.forall_mem_cons.2 ⟨hin, hall⟩, ?_, ?_⟩
        · have hn : k + m = n := by simpa [hsecond, Except.map] using h
          rw [← hn, hk, hm, List.flatMap_cons, List.length_append]
        · rw [hfragments', ← addSources_cons]

end Fragments

end DefFragments
