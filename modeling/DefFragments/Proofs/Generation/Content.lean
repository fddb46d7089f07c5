import DefFragments.Proofs.Generation.Draft
import DefFragments.Proofs.Source.Entries
import DefFragments.Proofs.Text.ByteOrder

/-!
# What a generation writes

The fragments of a run, told without the loops that collect them: the scanned files in the order of
their bytes, the entries of each in the order of its lines, and in each fragment those of its kind.
-/

namespace DefFragments
open FileTree Staged Text

/-- The text of an entry, inside the condition of its guard unless that is empty. -/
def wrapped (markers : Markers) (e : Entry) : String :=
  if e.guard = "" then Entry.bare markers e.announcement
  else "#if " ++ e.guard ++ "\n" ++ Entry.bare markers e.announcement ++ "#endif\n"

def heading (stamp : String) : String :=
  "/* Generated on " ++ stamp ++ " */\n"

def entriesOf (sources : List ScannedSource) (kind : FragmentKind) : List Entry :=
  (sources.flatMap ScannedSource.entries).filter fun e => e.kind == kind

/-- What a fragment says about sources. -/
def content (markers : Markers) (stamp : String) (sources : List ScannedSource) :
    FragmentKind → String
  | .sources =>
    heading stamp ++ String.join (sources.map fun s => "#include \"" ++ s.name ++ "\"\n")
  | .constants => heading stamp ++ String.join ((entriesOf sources .constants).map (wrapped markers))
  | .methods => heading stamp ++ String.join ((entriesOf sources .methods).map (wrapped markers))
  | .types => heading stamp ++ String.join ((entriesOf sources .types).map (wrapped markers))
  | .libraries => String.join ((entriesOf sources .libraries).map (wrapped markers))

theorem wrapped_eq_text (markers : Markers) : wrapped markers = Entry.text markers := by
  funext e
  simp only [wrapped, Entry.text, Entry.conditional, String.append_assoc]

theorem text_addSources (markers : Markers) (stamp : String) (sources : List ScannedSource)
    (kind : FragmentKind) :
    ((Fragments.start markers stamp).addSources sources).text kind =
      content markers stamp sources kind := by
  cases kind with
  | sources =>
    have hlines : (sources.map ScannedSource.name).map Fragments.sourceLine =
        sources.map fun s => "#include \"" ++ s.name ++ "\"\n" := by
      rw [List.map_map]
      rfl
    exact congrArg (fun ls => heading stamp ++ String.join ls) hlines
  | constants => rw [content, wrapped_eq_text]; rfl
  | methods => rw [content, wrapped_eq_text]; rfl
  | types => rw [content, wrapped_eq_text]; rfl
  | libraries =>
    rw [content, wrapped_eq_text]
    exact String.empty_append

/-- Every entry belongs to one fragment, and none belongs to that of the sources. -/
theorem length_entriesOf (sources : List ScannedSource) :
    (sources.flatMap ScannedSource.entries).length =
      (entriesOf sources .constants).length + (entriesOf sources .methods).length +
        (entriesOf sources .types).length + (entriesOf sources .libraries).length := by
  unfold entriesOf
  induction sources.flatMap ScannedSource.entries with
  | nil => rfl
  | cons e es ih =>
    obtain ⟨announcement, guard⟩ := e
    cases announcement <;>
      simp [Entry.kind, FragmentKind.ofAnnouncement, ih] <;> omega

/-- These are the files that a run scans, in the order of their names, with their entries, and this
is the time that it shows. -/
structure Scanned (c : Config) (base : Path) (o : Options) (t : FileTree) (stamp : String)
    (sources : List ScannedSource) : Prop where
  stamped : ∃ inputs, c.inputFiles t base = .ok inputs ∧ headerStamp t o.second? inputs = .ok stamp
  listed : c.scanFiles t base = .ok (sources.map fun s => (c.sourceDir base).join ⟨s.name⟩)
  ascending : (sources.map ScannedSource.name).Pairwise BytesLess
  announced : ∀ s ∈ sources, s.IsIn t (c.sourceDir base) c.markers

section
variable {c : Config} {base : Path} {o : Options} {t : FileTree} {now : Time} {faults : Faults}

theorem exists_names_of_scanFiles (ht : t.WellFormed) {files : List Path}
    (h : c.scanFiles t base = .ok files) :
    ∃ names : List String, files = names.map (fun name => (c.sourceDir base).join ⟨name⟩) ∧
      names.Pairwise BytesLess ∧
      ∀ name ∈ names, ((c.sourceDir base).join ⟨name⟩).fileName? = some name := by
  obtain ⟨-, rfl⟩ := Config.select_eq_ok_iff.1 h
  refine ⟨_, rfl, (Config.pairwise_selectedNames ..).imp bytesLess_of_lt, fun name hname => ?_⟩
  obtain ⟨hcontains, -, -⟩ := Config.mem_selectedNames_iff.1 hname
  exact Path.fileName?_join (ht.named hcontains) _

theorem exists_scanned_of_draft (ht : t.WellFormed) {d : Draft} (hd : draft c base o t = .ok d) :
    ∃ stamp sources, Scanned c base o t stamp sources ∧
      d.fragments = (Fragments.start c.markers stamp).addSources sources ∧
      d.counts = (sources.length, (sources.flatMap ScannedSource.entries).length) := by
  obtain ⟨inputs, files, stamp, markers, hinputs, hfiles, hstamp, hresult, hfragments, hcounts⟩ :=
    draft_eq_ok hd
  obtain ⟨names, rfl, hascending, hnames⟩ := exists_names_of_scanFiles ht hfiles
  obtain ⟨sources, rfl, hin, hcount, hread⟩ := Fragments.readSources_eq_ok hnames hresult
  refine ⟨stamp, sources, ⟨⟨inputs, hinputs, hstamp⟩, ?_, hascending, hin⟩,
    hfragments.trans hread, ?_⟩
  · rw [hfiles, List.map_map]
    rfl
  · rw [hcounts, hcount, List.length_map, List.length_map]

theorem texts_zip_outputPaths (f : Fragments) (o : Options) :
    f.texts.zip (c.outputPaths base o.outputDir?) =
      FragmentKind.all.map fun kind => (f.text kind, c.outputPath base o.outputDir? kind) :=
  rfl

/-- A successful generation writes what is said about the sources of its tree. Each fragment is in
its file unless a later one went to the same place. The summary counts the sources and the entries,
and every entry is in the fragment of its kind. -/
theorem generate_content (ht : t.WellFormed) {summary : Summary}
    (h : (generate c base o now t faults).result = .ok summary) :
    ∃ stamp sources, Scanned c base o t stamp sources ∧
      (∃ d, draft c base o t = .ok d ∧
        ∀ kind, d.fragments.text kind = content c.markers stamp sources kind) ∧
      (∀ before kind after, FragmentKind.all = before ++ kind :: after →
        (∀ k ∈ after, (c.outputPath base o.outputDir? k).location ≠
          (c.outputPath base o.outputDir? kind).location) →
        (generate c base o now t faults).tree.read (c.outputPath base o.outputDir? kind) =
          .ok (content c.markers stamp sources kind).toUTF8) ∧
      summary.sources = sources.length ∧
      summary.markers = (sources.flatMap ScannedSource.entries).length ∧
      summary.markers =
        (entriesOf sources .constants).length + (entriesOf sources .methods).length +
          (entriesOf sources .types).length + (entriesOf sources .libraries).length := by
  obtain ⟨d, hd, -⟩ := generate_eq_ok h
  obtain ⟨stamp, sources, hscanned, hfragments, hcounts⟩ := exists_scanned_of_draft ht hd
  obtain ⟨hsummary, hnodes⟩ := generate_of_draft_eq_ok hd h
  have htext : ∀ kind, d.fragments.text kind = content c.markers stamp sources kind := by
    intro kind
    rw [hfragments, text_addSources]
  have hmarkers : summary.markers = (sources.flatMap ScannedSource.entries).length := by
    rw [hsummary, hcounts]
  refine ⟨stamp, sources, hscanned, ⟨d, hd, htext⟩, fun before kind after hall hlast => ?_, ?_,
    hmarkers, hmarkers.trans (length_entriesOf sources)⟩
  · obtain ⟨text, hwritten, hnode⟩ := hnodes _ (c.mem_outputPaths base o.outputDir? kind)
    have hafter : ∀ e ∈ after.map fun k => (d.fragments.text k, c.outputPath base o.outputDir? k),
        e.2.location ≠ (c.outputPath base o.outputDir? kind).location := by
      intro e he
      obtain ⟨k, hk, rfl⟩ := List.mem_map.1 he
      exact hlast k hk
    rw [texts_zip_outputPaths, hall, List.map_append, List.map_cons,
      lastText_append_cons hafter] at hwritten
    obtain rfl := Option.some.inj hwritten
    rw [← htext]
    exact read_eq_ok_iff.2 ⟨_, hnode, rfl⟩
  · rw [hsummary, hcounts]

end

/-- Two sources, one of them with a block that has two parts. -/
def guardedTree : FileTree :=
  ((FileTree.empty.set ["src"] (.directory (.new .epoch))).set ["b.c", "src"]
    (.file "LIB_DEPENDS(util)\n".toUTF8 (.new (.ofSeconds 4 0)))).set ["a.c", "src"]
    (.file ("#if __FreeBSD_version >= 500000\nEXPCONST(int FOO)\n#else\nLIB_DEPENDS(kvm)\n" ++
      "#endif\n").toUTF8 (.new (.ofSeconds 5 0)))

theorem generate_content_of_blocks :
    guardedTree.WellFormed ∧
      (generate sampleConfig ⟨"."⟩ {} (.ofSeconds 9 0) guardedTree).result =
        .ok ⟨2, 3, sampleConfig.outputPaths ⟨"."⟩ none⟩ ∧
      ∃ stamp sources, Scanned sampleConfig ⟨"."⟩ {} guardedTree stamp sources ∧
        content {} stamp sources .libraries =
          "#if !(__FreeBSD_version >= 500000)\nkvm\n#endif\nutil\n" ∧
        (generate sampleConfig ⟨"."⟩ {} (.ofSeconds 9 0) guardedTree).tree.read
          ⟨"./src/.libraries.def"⟩ = .ok (content {} stamp sources .libraries).toUTF8 ∧
        sources.length = 2 ∧ (sources.flatMap ScannedSource.entries).length = 3 := by
  have ht : guardedTree.WellFormed := by decide +kernel
  have hok : (generate sampleConfig ⟨"."⟩ {} (.ofSeconds 9 0) guardedTree).result =
      .ok ⟨2, 3, sampleConfig.outputPaths ⟨"."⟩ none⟩ := by
    decide +kernel
  have hbytes : (generate sampleConfig ⟨"."⟩ {} (.ofSeconds 9 0) guardedTree).tree.read
      ⟨"./src/.libraries.def"⟩ =
        .ok "#if !(__FreeBSD_version >= 500000)\nkvm\n#endif\nutil\n".toUTF8 := by
    decide +kernel
  obtain ⟨stamp, sources, hscanned, -, hread, hsources, hmarkers, -⟩ := generate_content ht hok
  have hlibraries := hread [.sources, .constants, .methods, .types] .libraries [] rfl (by simp)
  have hcontent := Except.ok.inj (hlibraries.symm.trans hbytes)
  exact ⟨ht, hok, stamp, sources, hscanned, String.toByteArray_inj.1 hcontent, hlibraries,
    hsources.symm, hmarkers.symm⟩

end DefFragments
