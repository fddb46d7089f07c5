import DefFragments.Proofs.Generation.Rollback

/-!
# Histories of edits and runs

After a successful generation, files are edited and runs ensure freshness, in any order. As long as
every input that is edited becomes newer than the last publication, an input that is no newer than the
publication is what it was then. The last output is put into place last, so it holds the published text
or is missing. When a run finds it fresh, no input is newer, so nothing that the fragments depend on has
changed, and what failed runs put at the other outputs is what was published.
-/

namespace DefFragments
open FileTree Staged

def Unselected (c : Config) (base : Path) (extensions : List String) (p : Path) : Prop :=
  ∀ name, p.location = name :: (c.sourceDir base).location → c.selects extensions name = false

theorem unselected_iff (c : Config) (base : Path) (extensions : List String) (p : Path) :
    Unselected c base extensions p ↔ ∀ name ∈ p.location.head?,
      p.location.tail = (c.sourceDir base).location → c.selects extensions name = false := by
  unfold Unselected
  cases p.location with
  | nil => simp
  | cons name l => simp

instance (c : Config) (base : Path) (extensions : List String) (p : Path) :
    Decidable (Unselected c base extensions p) :=
  decidable_of_iff _ (unselected_iff c base extensions p).symm

/-- No file that could be an input is where the path leads. -/
def Unlisted (c : Config) (base p : Path) : Prop :=
  Unselected c base (c.source.depends ++ c.source.scan) p

instance (c : Config) (base p : Path) : Decidable (Unlisted c base p) :=
  inferInstanceAs (Decidable (Unselected ..))

/-- Files are written, and not where outputs are. No input is lost, and one that is written becomes
newer than the last publication. -/
structure Edit (c : Config) (base : Path) (o : Options) (published : Time) (t t' : FileTree) :
    Prop where
  wellFormed : t'.WellFormed
  outputs : ∀ p ∈ c.outputPaths base o.outputDir?, t'.get? p.location = t.get? p.location
  inputs : ∀ before, c.inputFiles t base = .ok before → ∃ after, c.inputFiles t' base = .ok after ∧
    (∀ q ∈ before, q ∈ after) ∧
    ∀ q ∈ after, (q ∈ before ∧ t'.node q = t.node q) ∨
      ∃ m, t'.modified q = .ok m ∧ published.isBefore m = true

def lastPublication (published now : Time) : Except Failure Outcome → Time
  | .ok (.generated _) => now
  | .ok .upToDate => published
  | .error _ => published

/-- A run may be refused every step, except that when two outputs share a place it is refused no removal
of a fragment that it has just put there. -/
def Tolerates (c : Config) (base : Path) (o : Options) (faults : Faults) : Prop :=
  faults.AllowsRemovals ∨ ((c.outputPaths base o.outputDir?).map Path.location).Nodup

/-- A tree and the time of the last publication, after a generation and any number of edits and runs
that ensure freshness. -/
inductive History (c : Config) (base : Path) (o : Options) : FileTree → Time → Prop
  | generated {t : FileTree} {now : Time} {faults : Faults} {summary : Summary} : t.WellFormed →
      (generate c base o now t faults).result = .ok summary →
      History c base o (generate c base o now t faults).tree now
  | edited {t t' : FileTree} {published : Time} : History c base o t published →
      Edit c base o published t t' → History c base o t' published
  | ensured {t : FileTree} {published : Time} (now : Time) (faults : Faults) :
      Tolerates c base o faults → History c base o t published →
      History c base o (ensureFresh c base o now t faults).tree
        (lastPublication published now (ensureFresh c base o now t faults).result)

section
variable {c : Config} {base : Path} {o : Options} {t t' : FileTree} {published now : Time}
  {faults : Faults}

/-! ### What a publication leaves alone -/

theorem Unlisted.unselected_scan {p : Path} (h : Unlisted c base p) :
    Unselected c base c.source.scan p := by
  intro name hlocation
  have hnone := h name hlocation
  rw [Config.selects_append, Bool.or_eq_false_iff] at hnone
  exact hnone.2

theorem location_ne_of_unselected (ht : t.WellFormed) {extensions : List String}
    {files : List Path} (hfiles : c.select t base extensions = .ok files) {q : Path}
    (hq : q ∈ files) {p : Path} (hp : Unselected c base extensions p) :
    p.location ≠ q.location := by
  obtain ⟨name, hselects, hlocation⟩ := Config.location_of_mem_select ht hfiles hq
  intro heq
  rw [hp name (heq.trans hlocation)] at hselects
  cases hselects

/-- A selection is as it was when only places were touched where none of its files can be. -/
theorem select_of_keepsOthers {paths : List Path} (h : KeepsOthers paths t t') (ht : t.WellFormed)
    {extensions : List String} (hlist : ∀ p ∈ paths, Unselected c base extensions p)
    {files : List Path} (hfiles : c.select t base extensions = .ok files) :
    c.select t' base extensions = .ok files ∧ ∀ q ∈ files, t'.node q = t.node q := by
  have ht' := h.wellFormed ht
  obtain ⟨files', hfiles'⟩ := Config.exists_select_of_keepsDirectories h.directories hfiles
  -- a file of one selection is where none of the paths leads, so the other selection has it, too
  have hforth : ∀ q ∈ files, q ∈ files' ∧ t'.node q = t.node q := by
    intro q hq
    obtain ⟨contents, a, hfile⟩ := Config.exists_file_of_mem_select hfiles hq
    have hget := (node_eq_ok_iff.1 hfile).2
    refine Config.mem_select_of_kept ht hfiles hfiles' hq ?_
    rw [hget]
    exact (h.files _ (fun p hp => location_ne_of_unselected ht hfiles hq (hlist p hp)) _ _).2 hget
  have hback : ∀ q ∈ files', q ∈ files := by
    intro q hq
    obtain ⟨contents, a, hfile⟩ := Config.exists_file_of_mem_select hfiles' hq
    have hget := (node_eq_ok_iff.1 hfile).2
    refine (Config.mem_select_of_kept ht' hfiles' hfiles hq ?_).1
    rw [hget]
    exact (h.files _ (fun p hp => location_ne_of_unselected ht' hfiles' hq (hlist p hp)) _ _).1 hget
  have hsame := Config.selected_congr ht ht' hfiles hfiles' fun q =>
    ⟨fun hq => (hforth q hq).1, hback q⟩
  obtain rfl := Config.select_congr hfiles hfiles' hsame
  exact ⟨hfiles', fun q hq => (hforth q hq).2⟩

theorem inputs_of_keepsOthers {paths : List Path} (h : KeepsOthers paths t t') (ht : t.WellFormed)
    (hlist : ∀ p ∈ paths, Unlisted c base p) {inputs : List Path}
    (hinputs : c.inputFiles t base = .ok inputs) :
    c.inputFiles t' base = .ok inputs ∧ c.scanFiles t' base = c.scanFiles t base ∧
      ∀ q ∈ inputs, t'.node q = t.node q := by
  obtain ⟨-, sources, -, hsources, -⟩ := Config.inputFiles_eq_ok hinputs
  obtain ⟨hsources', -⟩ :=
    select_of_keepsOthers h ht (fun p hp => (hlist p hp).unselected_scan) hsources
  rw [Config.inputFiles_eq_select ht] at hinputs
  obtain ⟨hinputs', hnodes⟩ := select_of_keepsOthers h ht hlist hinputs
  exact ⟨(Config.inputFiles_eq_select (h.wellFormed ht)).trans hinputs',
    hsources'.trans hsources.symm, hnodes⟩

/-! ### Edits -/

def NoneNewer (c : Config) (base : Path) (published : Time) (t : FileTree) : Prop :=
  ∃ inputs, c.inputFiles t base = .ok inputs ∧
    ∀ q ∈ inputs, ∃ n, t.modified q = .ok n ∧ published.isBefore n = false

/-- An output holds what publishing a draft puts there, or it is missing. -/
def Draft.RemainsAt (d : Draft) (c : Config) (base : Path) (o : Options) (now : Time) (t : FileTree)
    (p : Path) : Prop :=
  t.get? p.location = none ∨ t.get? p.location =
    written (d.fragments.texts.zip (c.outputPaths base o.outputDir?)) now p.location

theorem Draft.RemainsAt.of_get? {d : Draft} {p : Path} (h : d.RemainsAt c base o now t p)
    (hsame : t'.get? p.location = t.get? p.location) : d.RemainsAt c base o now t' p := by
  rw [RemainsAt, hsame]
  exact h

/-- Since a draft was published that had been made from a tree: the last output holds its text or is
missing, so do the other outputs when no input is newer, and the inputs are those of that tree, but for
newer ones. -/
structure Since (c : Config) (base : Path) (o : Options) (published : Time) (origin : FileTree)
    (d : Draft) (t : FileTree) : Prop where
  drafted : draft c base o origin = .ok d
  origin_wellFormed : origin.WellFormed
  wellFormed : t.WellFormed
  apart : ∀ p ∈ c.outputPaths base o.outputDir?,
    ¬Around (c.outputPaths base o.outputDir?) p.location
  last : d.RemainsAt c base o published t (c.outputPath base o.outputDir? .libraries)
  outputs : NoneNewer c base published t →
    ∀ p ∈ c.outputPaths base o.outputDir?, ∃ now, d.RemainsAt c base o now t p
  inputs : ∃ before after, c.inputFiles origin base = .ok before ∧ c.inputFiles t base = .ok after ∧
    (∀ q ∈ before, q ∈ after) ∧
    ∀ q ∈ after, (q ∈ before ∧ t.node q = origin.node q) ∨
      ∃ m, t.modified q = .ok m ∧ published.isBefore m = true

theorem Since.of_generate (hlist : ∀ p ∈ c.outputPaths base o.outputDir?, Unlisted c base p)
    (ht : t.WellFormed) {summary : Summary}
    (h : (generate c base o now t faults).result = .ok summary) :
    ∃ d, Since c base o now t d (generate c base o now t faults).tree := by
  obtain ⟨d, hd, hpublished⟩ := generate_eq_ok h
  obtain ⟨before, hbefore⟩ := exists_inputs_of_draft hd
  have hkeeps := hpublished.keepsOthers
  rw [map_snd_texts_zip_outputPaths] at hkeeps
  obtain ⟨hafter, -, hnodes⟩ := inputs_of_keepsOthers hkeeps ht hlist hbefore
  have hremains : ∀ p ∈ c.outputPaths base o.outputDir?,
      d.RemainsAt c base o now (generate c base o now t faults).tree p := by
    intro p hp
    obtain ⟨-, hnodes⟩ := generate_of_draft_eq_ok hd h
    obtain ⟨text, hlast, hnode⟩ := hnodes p hp
    right
    rw [(node_eq_ok_iff.1 hnode).2, written, hlast]
    rfl
  refine ⟨d, hd, ht, hkeeps.wellFormed ht, fun p hp haround => ?_,
    hremains _ (c.mem_outputPaths base o.outputDir? .libraries), fun _ p hp => ⟨now, hremains p hp⟩,
    before, before, hbefore, hafter, fun q hq => hq,
    fun q hq => Or.inl ⟨hq, hnodes q hq⟩⟩
  -- the directories around the outputs are there by now, and no output is a directory
  obtain ⟨grown, -, hplaces, -⟩ := hpublished
  have hall : ∀ p ∈ c.outputPaths base o.outputDir?, grown.HasPlace p := by
    intro p hp
    rw [← map_snd_texts_zip_outputPaths d] at hp
    obtain ⟨e, he, rfl⟩ := List.mem_map.1 hp
    exact hplaces e he
  have hdir := isDirectory_of_around hall haround
  rw [(hall p hp).2] at hdir
  cases hdir

theorem Edit.noneNewer (he : Edit c base o published t t') {inputs : List Path}
    (hinputs : c.inputFiles t base = .ok inputs) (h : NoneNewer c base published t') :
    NoneNewer c base published t := by
  obtain ⟨after, hafter, hnone⟩ := h
  obtain ⟨after', hafter', hsub, hnew⟩ := he.inputs inputs hinputs
  obtain rfl := Except.ok.inj (hafter'.symm.trans hafter)
  refine ⟨inputs, hinputs, fun q hq => ?_⟩
  obtain ⟨n, hn, hnot⟩ := hnone q (hsub q hq)
  rcases hnew q (hsub q hq) with ⟨-, hsame⟩ | ⟨m, hm, hlater⟩
  · exact ⟨n, by rwa [modified, ← hsame], hnot⟩
  · obtain rfl := Except.ok.inj (hn.symm.trans hm)
    rw [hnot] at hlater
    cases hlater

theorem Since.edit {origin : FileTree} {d : Draft} (h : Since c base o published origin d t)
    (he : Edit c base o published t t') : Since c base o published origin d t' := by
  obtain ⟨before, middle, hbefore, hmiddle, hsub, hold⟩ := h.inputs
  obtain ⟨after, hafter, hsub', hnew⟩ := he.inputs middle hmiddle
  refine ⟨h.drafted, h.origin_wellFormed, he.wellFormed, h.apart,
    h.last.of_get? (he.outputs _ (c.mem_outputPaths base o.outputDir? .libraries)),
    fun hnone p hp => ?_, before, after, hbefore, hafter, fun q hq => hsub' q (hsub q hq),
    fun q hq => ?_⟩
  · obtain ⟨now, hremains⟩ := h.outputs (he.noneNewer hmiddle hnone) p hp
    exact ⟨now, hremains.of_get? (he.outputs p hp)⟩
  · rcases hnew q hq with ⟨hmem, hsame⟩ | hlater
    · rcases hold q hmem with ⟨horigin, hnode⟩ | hlater
      · exact Or.inl ⟨horigin, hsame.trans hnode⟩
      · right
        rwa [modified, hsame]
    · exact Or.inr hlater

/-- When no input is newer than the publication, the draft of the tree is the one that was
published. -/
theorem Since.draft_eq {origin : FileTree} {d : Draft} (h : Since c base o published origin d t)
    (hnone : NoneNewer c base published t) : draft c base o t = .ok d := by
  obtain ⟨inputs, hinputs, hcurrent⟩ := hnone
  obtain ⟨before, after, hbefore, hafter, hsub, hold⟩ := h.inputs
  obtain rfl := Except.ok.inj (hinputs.symm.trans hafter)
  have hsame : ∀ q ∈ inputs, q ∈ before ∧ t.node q = origin.node q := by
    intro q hq
    rcases hold q hq with hsame | ⟨m, hm, hlater⟩
    · exact hsame
    · obtain ⟨n, hn, hnot⟩ := hcurrent q hq
      obtain rfl := Except.ok.inj (hm.symm.trans hn)
      rw [hnot] at hlater
      cases hlater
  obtain ⟨rfl, hscan⟩ := Config.scanFiles_congr h.origin_wellFormed h.wellFormed hbefore hinputs
    fun q => ⟨hsub q, fun hq => (hsame q hq).1⟩
  rw [draft_congr o hbefore hinputs hscan.symm fun q hq => (hsame q hq).2]
  exact h.drafted

/-- After a publication that failed, an output is as it was, or it holds what the publication would have
put there or is missing, and it is not the last one unless it is missing. -/
theorem get?_of_interrupted (hfaults : Tolerates c base o faults) {d : Draft}
    {done : List (String × Path)}
    (h : Interrupted now faults (d.fragments.texts.zip (c.outputPaths base o.outputDir?)) done t t')
    {p : Path} (hapart : ¬Around (c.outputPaths base o.outputDir?) p.location) :
    t'.get? p.location = t.get? p.location ∨ d.RemainsAt c base o now t' p ∧
      (t'.get? p.location = none ∨
        p.location ≠ (c.outputPath base o.outputDir? .libraries).location) := by
  rw [← map_snd_texts_zip_outputPaths d] at hapart
  rcases h.get?_cases hapart with hsame | hgone | ⟨hrefused, hwritten, e, he, hlocation⟩
  · exact Or.inl hsame
  · exact Or.inr ⟨Or.inl hgone, Or.inl hgone⟩
  · have hnodup := hfaults.resolve_left hrefused
    rw [← map_snd_texts_zip_outputPaths d, List.map_map] at hnodup
    have hlast : (d.fragments.texts.zip (c.outputPaths base o.outputDir?)).getLast? =
        some (d.fragments.text .libraries, c.outputPath base o.outputDir? .libraries) := by
      rfl
    obtain ⟨hsame, hother⟩ := h.written_eq hnodup hlast he
    rw [hlocation] at hsame hother
    exact Or.inr ⟨Or.inr (hwritten.trans hsame), Or.inr hother⟩

theorem Since.of_interrupted (hlist : ∀ p ∈ c.outputPaths base o.outputDir?, Unlisted c base p)
    (hfaults : Tolerates c base o faults) {origin : FileTree} {d d' : Draft}
    (h : Since c base o published origin d t) (hd' : draft c base o t = .ok d')
    {done : List (String × Path)}
    (hfailed :
      Interrupted now faults (d'.fragments.texts.zip (c.outputPaths base o.outputDir?)) done t t') :
    Since c base o published origin d t' := by
  have hkeeps := hfailed.keepsOthers
  rw [map_snd_texts_zip_outputPaths] at hkeeps
  obtain ⟨before, after, hbefore, hafter, hsub, hold⟩ := h.inputs
  obtain ⟨hafter', -, hnodes⟩ := inputs_of_keepsOthers hkeeps h.wellFormed hlist hafter
  have hcases := fun p hp => get?_of_interrupted hfaults hfailed (h.apart p hp)
  refine ⟨h.drafted, h.origin_wellFormed, hkeeps.wellFormed h.wellFormed, h.apart, ?_,
    fun hnone p hp => ?_, before, after, hbefore, hafter', hsub, fun q hq => ?_⟩
  · rcases hcases _ (c.mem_outputPaths base o.outputDir? .libraries) with
      hsame | ⟨-, hgone | hother⟩
    · exact h.last.of_get? hsame
    · exact Or.inl hgone
    · exact absurd rfl hother
  · -- no input was newer when the run failed, so it was about to publish the same draft again
    have hbefore : NoneNewer c base published t := by
      obtain ⟨inputs, hinputs, hcurrent⟩ := hnone
      obtain rfl := Except.ok.inj (hinputs.symm.trans hafter')
      refine ⟨inputs, hafter, fun q hq => ?_⟩
      obtain ⟨n, hn, hnot⟩ := hcurrent q hq
      rw [modified, hnodes q hq] at hn
      exact ⟨n, hn, hnot⟩
    obtain rfl := Except.ok.inj ((h.draft_eq hbefore).symm.trans hd')
    rcases hcases p hp with hsame | ⟨hremains, -⟩
    · obtain ⟨now, hremains⟩ := h.outputs hbefore p hp
      exact ⟨now, hremains.of_get? hsame⟩
    · exact ⟨now, hremains⟩
  · rw [modified, hnodes q hq]
    exact hold q hq

/-- A run leaves the tree as it is, it is interrupted, or it starts over. -/
theorem Since.run (hlist : ∀ p ∈ c.outputPaths base o.outputDir?, Unlisted c base p)
    {origin : FileTree} {d : Draft} (h : Since c base o published origin d t) (now : Time)
    (hfaults : Tolerates c base o faults) :
    ∃ origin' d', Since c base o
      (lastPublication published now (ensureFresh c base o now t faults).result) origin' d'
      (ensureFresh c base o now t faults).tree := by
  obtain ⟨-, inputs, -, hinputs, -⟩ := h.inputs
  rcases ensureFresh_cases hinputs o now faults with ⟨-, -, htree, hresult⟩ | ⟨-, htree, hresult⟩
  · rw [htree, hresult]
    exact ⟨origin, d, h⟩
  · rw [htree, hresult]
    cases hgenerate : (generate c base o now t faults).result with
    | error f =>
      rcases generate_eq_error hgenerate with hsame | ⟨d', done, hd', hfailed, -⟩
      · rw [hsame]
        exact ⟨origin, d, h⟩
      · exact ⟨origin, d, h.of_interrupted hlist hfaults hd' hfailed⟩
    | ok summary =>
      obtain ⟨d', hd'⟩ := Since.of_generate hlist h.wellFormed hgenerate
      exact ⟨t, d', hd'⟩

theorem History.since (hlist : ∀ p ∈ c.outputPaths base o.outputDir?, Unlisted c base p)
    (h : History c base o t published) : ∃ origin d, Since c base o published origin d t := by
  induction h with
  | @generated t now faults summary ht hresult => exact ⟨t, Since.of_generate hlist ht hresult⟩
  | edited _ he ih =>
    obtain ⟨origin, d, hd⟩ := ih
    exact ⟨origin, d, hd.edit he⟩
  | ensured now faults hfaults _ ih =>
    obtain ⟨origin, d, hd⟩ := ih
    exact hd.run hlist now hfaults

/-! ### Fresh outputs -/

end

def generatedTree : FileTree :=
  (generate sampleConfig ⟨"."⟩ {} (.ofSeconds 9 0) sampleTree).tree

end DefFragments
