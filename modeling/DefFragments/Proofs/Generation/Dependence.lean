import DefFragments.Proofs.Generation.Draft

/-!
# What the fragments depend on

Two trees that list the same sources with the same bytes, and whose newest inputs were modified in
the same second if headers show it, have the same fragments: either no draft of them succeeds, for
the same reason, or both do and the drafts hold the same. Nothing else in a tree has a part in this,
and neither has the report of a run.
-/

namespace DefFragments
open FileTree Staged

/-- The second in which the newest input was modified, if there are inputs. -/
def newestSecond (c : Config) (base : Path) (t : FileTree) : Except Failure (Option Int) :=
  (c.inputFiles t base).bind fun inputs => (newestTime t inputs).map (Option.map Time.seconds)

/-- The same names are scanned in two trees, and with the same bytes. When no second is given for
the headers, the newest inputs were modified at the same time; the second is all that matters. -/
structure SameSources (c : Config) (base : Path) (second? : Option Int) (t t' : FileTree) :
    Prop where
  listed : ∃ files, c.scanFiles t base = .ok files
  listed' : ∃ files, c.scanFiles t' base = .ok files
  names : ∀ name, c.Selected t (c.sourceDir base) c.source.scan name ↔
    c.Selected t' (c.sourceDir base) c.source.scan name
  bytes : ∀ name, c.Selected t (c.sourceDir base) c.source.scan name →
    t'.read ((c.sourceDir base).join ⟨name⟩) = t.read ((c.sourceDir base).join ⟨name⟩)
  newest : second? = none → newestSecond c base t' = newestSecond c base t

section
variable {c : Config} {base : Path} {second? : Option Int} {t t' : FileTree}

theorem SameSources.scanFiles_eq (h : SameSources c base second? t t') :
    ∃ files, c.scanFiles t base = .ok files ∧ c.scanFiles t' base = .ok files ∧
      ∀ p ∈ files, t'.read p = t.read p := by
  obtain ⟨files, hfiles⟩ := h.listed
  obtain ⟨files', hfiles'⟩ := h.listed'
  obtain rfl := Config.select_congr hfiles hfiles' h.names
  refine ⟨files, hfiles, hfiles', fun p hp => ?_⟩
  obtain ⟨name, hname, rfl⟩ := (Config.mem_select_iff hfiles).1 hp
  exact h.bytes name hname

/-- Both trees have inputs, since these are listed in the same directory as the sources. -/
theorem SameSources.exists_inputFiles (h : SameSources c base second? t t') :
    ∃ inputs inputs', c.inputFiles t base = .ok inputs ∧ c.inputFiles t' base = .ok inputs' := by
  obtain ⟨files, hfiles⟩ := h.listed
  obtain ⟨files', hfiles'⟩ := h.listed'
  obtain ⟨inputs, hinputs⟩ := Config.exists_inputFiles hfiles
  obtain ⟨inputs', hinputs'⟩ := Config.exists_inputFiles hfiles'
  exact ⟨inputs, inputs', hinputs, hinputs'⟩

theorem headerStamp_eq_newestSecond {inputs : List Path} (h : c.inputFiles t base = .ok inputs) :
    headerStamp t none inputs =
      (newestSecond c base t).map fun second => Calendar.text (second.getD Time.epoch.seconds) := by
  rw [headerStamp, newestSecond, h, Except.bind]
  cases newestTime t inputs with
  | error f => rfl
  | ok newest => cases newest <;> rfl

theorem SameSources.headerStamp_eq (h : SameSources c base second? t t')
    {inputs inputs' : List Path} (hinputs : c.inputFiles t base = .ok inputs)
    (hinputs' : c.inputFiles t' base = .ok inputs') :
    headerStamp t' second? inputs' = headerStamp t second? inputs := by
  cases second? with
  | some second => rfl
  | none =>
    rw [headerStamp_eq_newestSecond hinputs, headerStamp_eq_newestSecond hinputs', h.newest rfl]

end

/-! ### Readings -/

/-- What a reading yields, without what it reports. -/
def Reading.outcome (r : Reading) : Fragments × Except Failure Nat :=
  (r.fragments, r.result)

namespace Fragments

variable (f : Fragments) (t : FileTree) (verbose verbose' : Bool)

theorem outcome_readSource (p : Path) :
    (f.readSource t verbose' p).outcome = (f.readSource t verbose p).outcome := by
  rw [readSource, readSource]
  cases t.read p with
  | error e => rfl
  | ok bytes => cases p.fileName? <;> rfl

theorem outcome_readSources (sources : List Path) :
    (f.readSources t verbose' sources).outcome = (f.readSources t verbose sources).outcome := by
  induction sources generalizing f with
  | nil => rfl
  | cons p sources ih =>
    obtain ⟨hfragments, hresult⟩ := Prod.mk.inj (f.outcome_readSource t verbose verbose' p)
    rw [readSources, readSources, hresult]
    cases hfirst : (f.readSource t verbose p).result with
    | error e => exact Prod.ext hfragments (hresult.trans rfl)
    | ok n =>
      obtain ⟨hfragments', hresult'⟩ := Prod.mk.inj (ih (f.readSource t verbose p).fragments)
      simp only [Reading.outcome, hfragments, hfragments', hresult']

end Fragments

/-! ### Drafts -/

/-- What a draft yields, without what it reports. -/
def Draft.outcome : Except (Failure × List Log.Event) Draft → Except Failure (Fragments × Nat × Nat)
  | .error e => .error e.1
  | .ok d => .ok (d.fragments, d.counts)

section
variable {c : Config} {base : Path} {o : Options} {t t' : FileTree}

theorem outcome_draft (o : Options) {inputs sources : List Path}
    (hinputs : c.inputFiles t base = .ok inputs) (hsources : c.scanFiles t base = .ok sources) :
    Draft.outcome (draft c base o t) = (headerStamp t o.second? inputs).bind fun stamp =>
      let reading := ((Fragments.start c.markers stamp).readSources t o.verbose sources).outcome
      reading.2.map fun markers => (reading.1, sources.length, markers) := by
  unfold draft
  simp only [hinputs, hsources]
  cases headerStamp t o.second? inputs with
  | error f => rfl
  | ok stamp =>
    dsimp only [Reading.outcome, Except.bind]
    cases ((Fragments.start c.markers stamp).readSources t o.verbose sources).result <;> rfl

theorem SameSources.outcome_draft_eq (h : SameSources c base o.second? t t') (verbose : Bool) :
    Draft.outcome (draft c base { o with verbose := verbose } t') =
      Draft.outcome (draft c base o t) := by
  obtain ⟨inputs, inputs', hinputs, hinputs'⟩ := h.exists_inputFiles
  obtain ⟨sources, hsources, hsources', hread⟩ := h.scanFiles_eq
  have hreading := fun stamp => Fragments.readSources_congr hread (.start c.markers stamp) verbose
  have hverbose := fun stamp =>
    (Fragments.start c.markers stamp).outcome_readSources t o.verbose verbose sources
  rw [outcome_draft _ hinputs hsources, outcome_draft _ hinputs' hsources']
  simp only [h.headerStamp_eq hinputs hinputs', hreading, hverbose]

theorem SameSources.exists_draft (h : SameSources c base o.second? t t') (verbose : Bool) {d : Draft}
    (hd : draft c base o t = .ok d) :
    ∃ d', draft c base { o with verbose := verbose } t' = .ok d' ∧ d'.fragments = d.fragments ∧
      d'.counts = d.counts := by
  have houtcome := h.outcome_draft_eq verbose
  rw [hd] at houtcome
  cases hd' : draft c base { o with verbose := verbose } t' with
  | error e => simp [hd', Draft.outcome] at houtcome
  | ok d' => exact ⟨d', rfl, by simpa [hd', Draft.outcome] using houtcome⟩

theorem SameSources.draft_error (h : SameSources c base o.second? t t') (verbose : Bool)
    {f : Failure} {events : List Log.Event} (hd : draft c base o t = .error (f, events)) :
    ∃ events', draft c base { o with verbose := verbose } t' = .error (f, events') := by
  have houtcome := h.outcome_draft_eq verbose
  rw [hd] at houtcome
  cases hd' : draft c base { o with verbose := verbose } t' with
  | ok d' => simp [hd', Draft.outcome] at houtcome
  | error e =>
    have hf : e.1 = f := by simpa [hd', Draft.outcome] using houtcome
    exact ⟨e.2, by rw [← hf]⟩

theorem SameSources.published_eq (h : SameSources c base o.second? t t') (verbose : Bool)
    {now now' : Time} {faults faults' : Faults} {summary summary' : Summary}
    (hok : (generate c base o now t faults).result = .ok summary)
    (hok' : (generate c base { o with verbose := verbose } now' t' faults').result = .ok summary') :
    summary' = summary ∧ ∀ p ∈ c.outputPaths base o.outputDir?, ∃ bytes,
      (generate c base o now t faults).tree.read p = .ok bytes ∧
        (generate c base { o with verbose := verbose } now' t' faults').tree.read p = .ok bytes := by
  obtain ⟨d, hd, -⟩ := generate_eq_ok hok
  obtain ⟨d', hd', hfragments, hcounts⟩ := h.exists_draft verbose hd
  obtain ⟨hsummary, hnodes⟩ := generate_of_draft_eq_ok hd hok
  obtain ⟨hsummary', hnodes'⟩ := generate_of_draft_eq_ok hd' hok'
  refine ⟨by rw [hsummary, hsummary', hcounts], fun p hp => ?_⟩
  -- both texts for the place come from the same fragments
  obtain ⟨text, hlast, hnode⟩ := hnodes p hp
  obtain ⟨text', hlast', hnode'⟩ := hnodes' p hp
  rw [hfragments] at hlast'
  obtain rfl := Option.some.inj (hlast.symm.trans hlast')
  exact ⟨text.toUTF8, read_eq_ok_iff.2 ⟨_, hnode, rfl⟩, read_eq_ok_iff.2 ⟨_, hnode', rfl⟩⟩

/-- Fragments depend on what is scanned and on how old the newest input is. In two trees where these
are the same, the scan fails alike, or it succeeds and whatever is published is the same, no matter
what is refused. -/
theorem generate_congr (h : SameSources c base o.second? t t') (verbose : Bool) (now now' : Time)
    (faults faults' : Faults) :
    (∃ f events events', draft c base o t = .error (f, events) ∧
        draft c base { o with verbose := verbose } t' = .error (f, events') ∧
        (generate c base o now t faults).result = .error f ∧
        (generate c base { o with verbose := verbose } now' t' faults').result = .error f) ∨
      ∃ d d', draft c base o t = .ok d ∧ draft c base { o with verbose := verbose } t' = .ok d' ∧
        d'.fragments = d.fragments ∧
        ∀ summary summary', (generate c base o now t faults).result = .ok summary →
          (generate c base { o with verbose := verbose } now' t' faults').result = .ok summary' →
          summary' = summary ∧ ∀ p ∈ c.outputPaths base o.outputDir?, ∃ bytes,
            (generate c base o now t faults).tree.read p = .ok bytes ∧
              (generate c base { o with verbose := verbose } now' t' faults').tree.read p = .ok bytes := by
  cases hd : draft c base o t with
  | error e =>
    obtain ⟨events', hd'⟩ := h.draft_error verbose hd
    left
    refine ⟨e.1, e.2, events', rfl, hd', ?_, ?_⟩
    · rw [generate_of_draft_error hd]
    · rw [generate_of_draft_error hd']
  | ok d =>
    obtain ⟨d', hd', hfragments, -⟩ := h.exists_draft verbose hd
    right
    exact ⟨d, d', rfl, hd', hfragments, fun summary summary' hok hok' =>
      h.published_eq verbose hok hok'⟩

end

def orderedTree : FileTree :=
  ((FileTree.empty.set ["src"] (.directory (.new .epoch))).set ["a.c", "src"]
    (.file "LIB_DEPENDS(kvm)\n".toUTF8 (.new (.ofSeconds 5 0)))).set ["b.c", "src"]
    (.file "EXPCONST(int FOO)\n".toUTF8 (.new (.ofSeconds 4 0)))

/-- The same sources, listed the other way round, with other ages and beside an old header. -/
def reorderedTree : FileTree :=
  (((FileTree.empty.set ["src"] (.directory (.new .epoch))).set ["b.c", "src"]
    (.file "EXPCONST(int FOO)\n".toUTF8 (.new (.ofSeconds 5 0)))).set ["a.c", "src"]
    (.file "LIB_DEPENDS(kvm)\n".toUTF8 (.new (.ofSeconds 3 0)))).set ["c.h", "src"]
    (.file "int c;".toUTF8 (.new (.ofSeconds 2 0)))

theorem generate_congr_of_order :
    SameSources sampleConfig ⟨"."⟩ none orderedTree reorderedTree ∧
      (generate sampleConfig ⟨"."⟩ {} (.ofSeconds 9 0) orderedTree).result =
        .ok ⟨2, 2, sampleConfig.outputPaths ⟨"."⟩ none⟩ ∧
      (generate sampleConfig ⟨"."⟩ { verbose := true } (.ofSeconds 8 0) reorderedTree).result =
        .ok ⟨2, 2, sampleConfig.outputPaths ⟨"."⟩ none⟩ ∧
      ∀ p ∈ sampleConfig.outputPaths ⟨"."⟩ none, ∃ bytes,
        (generate sampleConfig ⟨"."⟩ {} (.ofSeconds 9 0) orderedTree).tree.read p = .ok bytes ∧
          (generate sampleConfig ⟨"."⟩ { verbose := true } (.ofSeconds 8 0)
            reorderedTree).tree.read p = .ok bytes := by
  have hnames : ∀ t ∈ [orderedTree, reorderedTree],
      sampleConfig.selectedNames t (sampleConfig.sourceDir ⟨"."⟩) sampleConfig.source.scan
        (t.listing (sampleConfig.sourceDir ⟨"."⟩).location) = ["a.c", "b.c"] := by
    decide +kernel
  obtain ⟨hordered, hreordered, -⟩ := List.forall_mem_cons.1 hnames |>.imp_right List.forall_mem_cons.1
  have hbytes : ∀ name ∈ ["a.c", "b.c"],
      reorderedTree.read ((sampleConfig.sourceDir ⟨"."⟩).join ⟨name⟩) =
        orderedTree.read ((sampleConfig.sourceDir ⟨"."⟩).join ⟨name⟩) := by
    decide +kernel
  have hsame : SameSources sampleConfig ⟨"."⟩ none orderedTree reorderedTree := by
    refine ⟨⟨[⟨"./src/a.c"⟩, ⟨"./src/b.c"⟩], by decide +kernel⟩,
      ⟨[⟨"./src/a.c"⟩, ⟨"./src/b.c"⟩], by decide +kernel⟩, fun name => ?_, fun name hname => ?_,
      fun _ => by decide +kernel⟩
    · rw [← Config.mem_selectedNames_iff, ← Config.mem_selectedNames_iff, hordered, hreordered]
    · rw [← Config.mem_selectedNames_iff, hordered] at hname
      exact hbytes name hname
  have hok : (generate sampleConfig ⟨"."⟩ {} (.ofSeconds 9 0) orderedTree).result =
      .ok ⟨2, 2, sampleConfig.outputPaths ⟨"."⟩ none⟩ := by
    decide +kernel
  have hok' : (generate sampleConfig ⟨"."⟩ { verbose := true } (.ofSeconds 8 0)
      reorderedTree).result = .ok ⟨2, 2, sampleConfig.outputPaths ⟨"."⟩ none⟩ := by
    decide +kernel
  refine ⟨hsame, hok, hok', ?_⟩
  rcases generate_congr (o := {}) hsame true (.ofSeconds 9 0) (.ofSeconds 8 0) .none .none with
    ⟨f, -, -, -, -, hfail, -⟩ | ⟨d, d', -, -, -, hall⟩
  · rw [hok] at hfail
    cases hfail
  · exact (hall _ _ hok hok').2

end DefFragments
