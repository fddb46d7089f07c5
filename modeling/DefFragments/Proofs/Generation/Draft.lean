import DefFragments.Proofs.Fragment.Publication
import DefFragments.Proofs.Generation.Freshness

/-!
# Drafts and their publication

A draft depends on which files are inputs and on what they are, on nothing else. A generation
publishes its draft: it succeeds exactly if the publication does, and it leaves the tree that the
publication leaves.
-/

namespace DefFragments
open FileTree Staged

/-! ### What a draft depends on -/

section
variable {t t' : FileTree}

theorem modifiedTimes_congr {files : List Path} (h : ∀ q ∈ files, t'.node q = t.node q) :
    modifiedTimes t' files = modifiedTimes t files := by
  induction files with
  | nil => rfl
  | cons q files ih =>
    obtain ⟨hq, hrest⟩ := List.forall_mem_cons.1 h
    rw [modifiedTimes, modifiedTimes, modified, hq, ih hrest]
    rfl

theorem headerStamp_congr {inputs : List Path} (h : ∀ q ∈ inputs, t'.node q = t.node q)
    (second? : Option Int) : headerStamp t' second? inputs = headerStamp t second? inputs := by
  cases second? with
  | some second => rfl
  | none => simp only [headerStamp, newestTime, modifiedTimes_congr h]

theorem Fragments.readSources_congr {sources : List Path}
    (h : ∀ q ∈ sources, t'.read q = t.read q) (f : Fragments) (verbose : Bool) :
    f.readSources t' verbose sources = f.readSources t verbose sources := by
  induction sources generalizing f with
  | nil => rfl
  | cons q sources ih =>
    obtain ⟨hq, hrest⟩ := List.forall_mem_cons.1 h
    have hread : f.readSource t' verbose q = f.readSource t verbose q := by
      rw [readSource, readSource, hq]
    rw [readSources, readSources, hread]
    simp only [ih hrest]

theorem draft_congr {c : Config} {base : Path} {inputs : List Path} (o : Options)
    (hinputs : c.inputFiles t base = .ok inputs) (hinputs' : c.inputFiles t' base = .ok inputs)
    (hscan : c.scanFiles t' base = c.scanFiles t base)
    (hnodes : ∀ q ∈ inputs, t'.node q = t.node q) : draft c base o t' = draft c base o t := by
  obtain ⟨depends, sources, -, hsources, hmem⟩ := Config.inputFiles_eq_ok hinputs
  have hread : ∀ q ∈ sources, t'.read q = t.read q := fun q hq =>
    read_congr (hnodes q ((hmem q).2 (Or.inr hq)))
  unfold draft
  rw [hinputs, hinputs', hscan, hsources]
  simp only [headerStamp_congr hnodes, Fragments.readSources_congr hread]

end

/-! ### Publishing a draft -/

section
variable {c : Config} {base : Path} {o : Options} {now : Time} {t : FileTree} {faults : Faults}

theorem exists_inputs_of_draft {d : Draft} (h : draft c base o t = .ok d) :
    ∃ inputs, c.inputFiles t base = .ok inputs := by
  cases hinputs : c.inputFiles t base with
  | error f =>
    unfold draft at h
    rw [hinputs] at h
    cases h
  | ok inputs => exact ⟨inputs, rfl⟩

theorem draft_eq_ok {d : Draft} (h : draft c base o t = .ok d) :
    ∃ inputs sources stamp markers, c.inputFiles t base = .ok inputs ∧
      c.scanFiles t base = .ok sources ∧ headerStamp t o.second? inputs = .ok stamp ∧
      ((Fragments.start c.markers stamp).readSources t o.verbose sources).result = .ok markers ∧
      d.fragments = ((Fragments.start c.markers stamp).readSources t o.verbose sources).fragments ∧
      d.counts = (sources.length, markers) := by
  obtain ⟨inputs, hinputs⟩ := exists_inputs_of_draft h
  obtain ⟨-, sources, -, hsources, -⟩ := Config.inputFiles_eq_ok hinputs
  unfold draft at h
  simp only [hinputs, hsources] at h
  cases hstamp : headerStamp t o.second? inputs with
  | error f => simp [hstamp] at h
  | ok stamp =>
    simp only [hstamp] at h
    cases hresult : ((Fragments.start c.markers stamp).readSources t o.verbose sources).result with
    | error f => simp [hresult] at h
    | ok markers =>
      simp only [hresult, Except.ok.injEq] at h
      subst h
      exact ⟨inputs, sources, stamp, markers, hinputs, hsources, hstamp, hresult, rfl, rfl⟩

theorem map_snd_texts_zip_outputPaths (d : Draft) :
    (d.fragments.texts.zip (c.outputPaths base o.outputDir?)).map Prod.snd =
      c.outputPaths base o.outputDir? :=
  d.fragments.map_snd_zip_texts rfl

theorem generate_of_draft {d : Draft} (hd : draft c base o t = .ok d) :
    let published := d.fragments.publish now (c.outputPaths base o.outputDir?) t faults
    (generate c base o now t faults).tree = published.tree ∧
      (∀ e ∈ published.events, e ∈ (generate c base o now t faults).events) ∧
      (∀ f, (generate c base o now t faults).result = .error f ↔ published.result = .error f) := by
  unfold generate
  rw [hd]
  dsimp only
  generalize d.fragments.publish now (c.outputPaths base o.outputDir?) t faults = published
  obtain ⟨tree, events, result⟩ := published
  unfold Effect.andThen Effect.report
  cases result with
  | error f => exact ⟨rfl, fun e he => List.mem_append_right _ he, fun f' => by simp⟩
  | ok u =>
    exact ⟨rfl, fun e he => List.mem_append_right _ (List.mem_append_left _ he), fun f' => by simp⟩

theorem generate_of_draft_error {e : Failure × List Log.Event} (hd : draft c base o t = .error e) :
    generate c base o now t faults = ⟨t, e.2, .error e.1⟩ := by
  unfold generate
  rw [hd]

theorem generate_eq_ok {summary : Summary} (h : (generate c base o now t faults).result = .ok summary) :
    ∃ d, draft c base o t = .ok d ∧
      Published now (d.fragments.texts.zip (c.outputPaths base o.outputDir?)) t
        (generate c base o now t faults).tree := by
  cases hd : draft c base o t with
  | error e =>
    rw [generate_of_draft_error hd] at h
    cases h
  | ok d =>
    obtain ⟨htree, -, hresult⟩ := generate_of_draft hd
    cases hpublish : (d.fragments.publish now (c.outputPaths base o.outputDir?) t faults).result with
    | error f =>
      rw [(hresult f).2 hpublish] at h
      cases h
    | ok u =>
      refine ⟨d, rfl, ?_⟩
      rw [htree]
      exact (Fragments.publish_eq_ok hpublish).2

/-- Each output holds the last text for its place, and the summary counts what the draft counted. -/
theorem generate_of_draft_eq_ok {d : Draft} (hd : draft c base o t = .ok d) {summary : Summary}
    (h : (generate c base o now t faults).result = .ok summary) :
    summary = ⟨d.counts.1, d.counts.2, c.outputPaths base o.outputDir?⟩ ∧
      ∀ p ∈ c.outputPaths base o.outputDir?, ∃ text,
        lastText (d.fragments.texts.zip (c.outputPaths base o.outputDir?)) p.location = some text ∧
          (generate c base o now t faults).tree.node p = .ok (.file text.toUTF8 (.new now)) := by
  constructor
  · unfold generate at h
    rw [hd] at h
    dsimp only [Effect.andThen, Effect.report] at h
    cases hpublish : (d.fragments.publish now (c.outputPaths base o.outputDir?) t faults).result with
    | error f => simp [hpublish] at h
    | ok u =>
      simp only [hpublish, Except.ok.injEq] at h
      exact h.symm
  · obtain ⟨d', hd', hpublished⟩ := generate_eq_ok h
    obtain rfl := Except.ok.inj (hd.symm.trans hd')
    intro p hp
    rw [← map_snd_texts_zip_outputPaths d] at hp
    obtain ⟨e, he, rfl⟩ := List.mem_map.1 hp
    exact hpublished.node_eq_ok he

end

end DefFragments
