import DefFragments.Proofs.Generation.Dependence
import DefFragments.Proofs.Generation.History

/-!
# Two runs in a row

A run that generates gives every output the time of the run, and the next run finds them fresh
unless some input is newer than that; the outputs themselves may be among the inputs. A second
generation repeats the first one when the first one has left alone what the fragments depend on. It
need not do so otherwise: an output that is listed as an input can change the time in the headers,
and one that is scanned can change everything.
-/

namespace DefFragments
open FileTree Staged

section
variable {c : Config} {base : Path} {o : Options} {t : FileTree} {now : Time} {faults : Faults}

/-! ### A second check -/

theorem generate_of_generated {summary : Summary}
    (h : (ensureFresh c base o now t faults).result = .ok (.generated summary)) :
    (ensureFresh c base o now t faults).tree = (generate c base o now t faults).tree ∧
      (generate c base o now t faults).result = .ok summary := by
  cases hinputs : c.inputFiles t base with
  | error f =>
    rw [ensureFresh_of_error hinputs] at h
    cases h
  | ok inputs =>
    rcases ensureFresh_cases hinputs o now faults with ⟨-, -, -, hup⟩ | ⟨-, htree, hresult⟩
    · rw [hup] at h
      cases h
    · refine ⟨htree, ?_⟩
      rw [hresult] at h
      cases hg : (generate c base o now t faults).result with
      | error f =>
        rw [hg] at h
        cases h
      | ok summary' =>
        rw [hg] at h
        cases h
        rfl

theorem opensWith_of_generate {summary : Summary}
    (h : (generate c base o now t faults).result = .ok summary) {p : Path}
    (hp : p ∈ c.outputPaths base o.outputDir?) :
    OpensWith (generate c base o now t faults).tree p now := by
  obtain ⟨d, hd, -⟩ := generate_eq_ok h
  obtain ⟨-, hnodes⟩ := generate_of_draft_eq_ok hd h
  obtain ⟨text, -, hnode⟩ := hnodes p hp
  exact ⟨_, hnode, rfl, rfl⟩

theorem select_of_generate {summary : Summary}
    (h : (generate c base o now t faults).result = .ok summary) (extensions : List String) :
    ∃ files, c.select (generate c base o now t faults).tree base extensions = .ok files := by
  obtain ⟨d, hd, hpublished⟩ := generate_eq_ok h
  obtain ⟨inputs, hinputs⟩ := exists_inputs_of_draft hd
  obtain ⟨-, sources, -, hsources, -⟩ := Config.inputFiles_eq_ok hinputs
  obtain ⟨files, hfiles⟩ := Config.exists_select hsources extensions
  exact Config.exists_select_of_keepsDirectories hpublished.keepsOthers.directories hfiles

theorem tree_of_upToDate (h : (ensureFresh c base o now t faults).result = .ok .upToDate) :
    (ensureFresh c base o now t faults).tree = t := by
  obtain ⟨inputs, hinputs⟩ := exists_inputs_of_upToDate h
  rcases ensureFresh_cases hinputs o now faults with ⟨-, -, htree, -⟩ | ⟨-, -, hresult⟩
  · exact htree
  · rw [hresult] at h
    exact absurd h (map_generated_ne_upToDate _)

/-- After a run that generated, every output has the time of that run. The next run changes nothing
exactly if no input, as they are listed by then, is newer. -/
theorem ensureFresh_again_iff (hforce : o.force = false) {summary : Summary}
    (h : (ensureFresh c base o now t faults).result = .ok (.generated summary)) (now' : Time)
    (faults' : Faults) :
    let after := (ensureFresh c base o now t faults).tree
    (∀ p ∈ c.outputPaths base o.outputDir?, after.modified p = .ok now) ∧
      ∃ inputs, c.inputFiles after base = .ok inputs ∧
        ((ensureFresh c base o now' after faults').result = .ok .upToDate ∧
            (ensureFresh c base o now' after faults').tree = after ↔
          ¬∃ q ∈ inputs, ∃ m, after.modified q = .ok m ∧ now.isBefore m = true) := by
  intro after
  obtain ⟨htree, hok⟩ := generate_of_generated h
  have hopens : ∀ p ∈ c.outputPaths base o.outputDir?, OpensWith after p now := by
    intro p hp
    show OpensWith (ensureFresh c base o now t faults).tree p now
    rw [htree]
    exact opensWith_of_generate hok hp
  obtain ⟨inputs, hinputs⟩ : ∃ inputs, c.inputFiles after base = .ok inputs := by
    show ∃ inputs, c.inputFiles (ensureFresh c base o now t faults).tree base = .ok inputs
    rw [htree]
    obtain ⟨files, hfiles⟩ := select_of_generate hok c.source.scan
    exact Config.exists_inputFiles hfiles
  have hcurrent := fun p hp => isCurrent_iff_of_opensWith (exists_modified hinputs) (hopens p hp)
  refine ⟨fun p hp => (hopens p hp).modified, inputs, hinputs, ?_⟩
  constructor
  · intro hagain
    -- any of the outputs tells, and there is at least one
    have hall := ((upToDate_iff hinputs o now' faults').1 hagain.1).2
    have hmem := c.mem_outputPaths base o.outputDir? .sources
    exact (hcurrent _ hmem).1 (hall _ hmem)
  · intro hnone
    have hup : (ensureFresh c base o now' after faults').result = .ok .upToDate :=
      (upToDate_iff hinputs o now' faults').2 ⟨hforce, fun p hp => (hcurrent p hp).2 hnone⟩
    exact ⟨hup, tree_of_upToDate hup⟩

end

/-- Two outputs are one header, and it is among the inputs. -/
def headerConfig : Config :=
  { sampleConfig with output := { constants := ⟨"const.h"⟩, types := ⟨"const.h"⟩ } }

theorem ensureFresh_again_iff_of_header :
    let after := (ensureFresh headerConfig ⟨"."⟩ {} (.ofSeconds 9 0) sampleTree).tree
    (ensureFresh headerConfig ⟨"."⟩ {} (.ofSeconds 9 0) sampleTree).result =
        .ok (.generated ⟨1, 0, headerConfig.outputPaths ⟨"."⟩ none⟩) ∧
      headerConfig.inputFiles after ⟨"."⟩ = .ok [⟨"./src/a.c"⟩, ⟨"./src/const.h"⟩] ∧
      (ensureFresh headerConfig ⟨"."⟩ {} (.ofSeconds 10 0) after).result = .ok .upToDate ∧
      (ensureFresh headerConfig ⟨"."⟩ {} (.ofSeconds 10 0) after).tree = after := by
  intro after
  -- one evaluation of the first run serves all three facts
  obtain ⟨hgenerated, hlisted, htimes⟩ :
      (ensureFresh headerConfig ⟨"."⟩ {} (.ofSeconds 9 0) sampleTree).result =
          .ok (.generated ⟨1, 0, headerConfig.outputPaths ⟨"."⟩ none⟩) ∧
        headerConfig.inputFiles after ⟨"."⟩ = .ok [⟨"./src/a.c"⟩, ⟨"./src/const.h"⟩] ∧
        ∀ q ∈ [Path.mk "./src/a.c", ⟨"./src/const.h"⟩],
          after.modified q = .ok (.ofSeconds 5 0) ∨ after.modified q = .ok (.ofSeconds 9 0) := by
    decide +kernel
  obtain ⟨-, inputs, hinputs, hiff⟩ :=
    ensureFresh_again_iff (o := {}) rfl hgenerated (.ofSeconds 10 0) .none
  obtain rfl := Except.ok.inj (hlisted.symm.trans hinputs)
  refine ⟨hgenerated, hlisted, hiff.2 ?_⟩
  intro ⟨q, hq, m, hm, hlater⟩
  rcases htimes q hq with htime | htime
  · obtain rfl := Except.ok.inj (htime.symm.trans hm)
    exact absurd hlater (by decide)
  · obtain rfl := Except.ok.inj (htime.symm.trans hm)
    exact absurd hlater (by decide)

section
variable {c : Config} {base : Path} {o : Options} {t : FileTree} {now : Time}

/-! ### A second generation -/

/-- When two generations in a row succeed, the second one leaves each output as the first one wrote
it. -/
def Repeats (c : Config) (base : Path) (o : Options) (now now' : Time) (t : FileTree) : Prop :=
  ∀ summary summary', (generate c base o now t).result = .ok summary →
    (generate c base o now' (generate c base o now t).tree).result = .ok summary' →
    ∀ p ∈ c.outputPaths base o.outputDir?,
      (generate c base o now' (generate c base o now t).tree).tree.read p =
        (generate c base o now t).tree.read p

/-- What the fragments depend on is left alone when no output is where a source can be and, if
headers show the time of the newest input, none is where an input can be. -/
theorem sameSources_of_generate (ht : t.WellFormed) {faults : Faults} {summary : Summary}
    (h : (generate c base o now t faults).result = .ok summary)
    (hscan : ∀ p ∈ c.outputPaths base o.outputDir?, Unselected c base c.source.scan p)
    (hlist : o.second? = none → ∀ p ∈ c.outputPaths base o.outputDir?, Unlisted c base p) :
    SameSources c base o.second? t (generate c base o now t faults).tree := by
  obtain ⟨d, hd, hpublished⟩ := generate_eq_ok h
  obtain ⟨inputs, hinputs⟩ := exists_inputs_of_draft hd
  obtain ⟨-, sources, -, hsources, -⟩ := Config.inputFiles_eq_ok hinputs
  have hkeeps := hpublished.keepsOthers
  rw [map_snd_texts_zip_outputPaths] at hkeeps
  obtain ⟨hsources', hnodes⟩ := select_of_keepsOthers hkeeps ht hscan hsources
  refine ⟨⟨sources, hsources⟩, ⟨sources, hsources'⟩, ?_, fun name hname => ?_, fun hsecond => ?_⟩
  · exact Config.selected_congr ht (hkeeps.wellFormed ht) hsources hsources' fun p => Iff.rfl
  · exact read_congr (hnodes _ ((Config.mem_select_iff hsources).2 ⟨name, hname, rfl⟩))
  · obtain ⟨hinputs', -, hsame⟩ := inputs_of_keepsOthers hkeeps ht (hlist hsecond) hinputs
    rw [newestSecond, newestSecond, hinputs, hinputs', Except.bind, Except.bind, newestTime,
      newestTime, modifiedTimes_congr hsame]

/-- When two generations in a row succeed and the first one left alone what the fragments depend on, the
second one repeats it, summary and bytes. What the fragments depend on is left alone at least if no
output is where a source can be and, when headers show the time of the newest input, none is where an
input can be. -/
theorem generate_again (ht : t.WellFormed) {now' : Time} {faults faults' : Faults}
    {summary summary' : Summary} (h : (generate c base o now t faults).result = .ok summary)
    (h' : (generate c base o now' (generate c base o now t faults).tree faults').result =
      .ok summary') :
    let after := (generate c base o now t faults).tree
    (SameSources c base o.second? t after → summary' = summary ∧
        ∀ p ∈ c.outputPaths base o.outputDir?, ∃ bytes, after.read p = .ok bytes ∧
          (generate c base o now' after faults').tree.read p = .ok bytes) ∧
      ((∀ p ∈ c.outputPaths base o.outputDir?, Unselected c base c.source.scan p) →
        (o.second? = none → ∀ p ∈ c.outputPaths base o.outputDir?, Unlisted c base p) →
        SameSources c base o.second? t after) :=
  ⟨fun hsame => hsame.published_eq o.verbose h h', sameSources_of_generate ht h⟩

end

theorem generate_again_of_apart :
    let second := generate sampleConfig ⟨"."⟩ {} (.ofSeconds 10 0) generatedTree
    sampleTree.WellFormed ∧
      (generate sampleConfig ⟨"."⟩ {} (.ofSeconds 9 0) sampleTree).result =
        .ok ⟨1, 0, sampleConfig.outputPaths ⟨"."⟩ none⟩ ∧
      second.result = .ok ⟨1, 0, sampleConfig.outputPaths ⟨"."⟩ none⟩ ∧
      SameSources sampleConfig ⟨"."⟩ none sampleTree generatedTree ∧
      ∀ p ∈ sampleConfig.outputPaths ⟨"."⟩ none, ∃ bytes, generatedTree.read p = .ok bytes ∧
        second.tree.read p = .ok bytes := by
  intro second
  have ht : sampleTree.WellFormed := by decide +kernel
  obtain ⟨hok, hok'⟩ :
      (generate sampleConfig ⟨"."⟩ {} (.ofSeconds 9 0) sampleTree).result =
          .ok ⟨1, 0, sampleConfig.outputPaths ⟨"."⟩ none⟩ ∧
        second.result = .ok ⟨1, 0, sampleConfig.outputPaths ⟨"."⟩ none⟩ := by
    decide +kernel
  have hlist : ∀ p ∈ sampleConfig.outputPaths ⟨"."⟩ none, Unlisted sampleConfig ⟨"."⟩ p := by
    decide +kernel
  obtain ⟨hagain, hapart⟩ := generate_again (o := {}) ht hok hok'
  have hsame := hapart (fun p hp => (hlist p hp).unselected_scan) fun _ => hlist
  exact ⟨ht, hok, hok', hsame, (hagain hsame).2⟩

/-- Libraries go where a source can be. -/
def scannedConfig : Config :=
  { sampleConfig with output := { libraries := ⟨"libs.c"⟩ } }

/-- Generations do not always repeat. An output among the inputs makes the headers show another
time, even if no source changes, and an output among the sources changes the list of sources, even
if the headers show a given second. -/
theorem not_forall_repeats :
    (¬∀ (c : Config) (base : Path) (o : Options) (now now' : Time) (t : FileTree), t.WellFormed →
        (∀ p ∈ c.outputPaths base o.outputDir?, Unselected c base c.source.scan p) →
        Repeats c base o now now' t) ∧
      ¬∀ (c : Config) (base : Path) (o : Options) (now now' : Time) (t : FileTree), t.WellFormed →
        o.second? ≠ none → Repeats c base o now now' t := by
  have ht : sampleTree.WellFormed := by decide +kernel
  constructor
  · intro hrepeats
    let first := generate headerConfig ⟨"."⟩ {} (.ofSeconds 9 0) sampleTree
    let second := generate headerConfig ⟨"."⟩ {} (.ofSeconds 10 0) first.tree
    obtain ⟨hok, hok', hbytes⟩ :
        first.result = .ok ⟨1, 0, headerConfig.outputPaths ⟨"."⟩ none⟩ ∧
          second.result = .ok ⟨1, 0, headerConfig.outputPaths ⟨"."⟩ none⟩ ∧
          second.tree.read ⟨"./src/.sources.def"⟩ ≠ first.tree.read ⟨"./src/.sources.def"⟩ := by
      decide +kernel
    have hscan : ∀ p ∈ headerConfig.outputPaths ⟨"."⟩ none,
        Unselected headerConfig ⟨"."⟩ headerConfig.source.scan p := by
      decide +kernel
    exact hbytes (hrepeats headerConfig ⟨"."⟩ {} _ _ sampleTree ht hscan _ _ hok hok' _
      (by decide +kernel))
  · intro hrepeats
    let first := generate scannedConfig ⟨"."⟩ { second? := some 0 } (.ofSeconds 9 0) sampleTree
    let second := generate scannedConfig ⟨"."⟩ { second? := some 0 } (.ofSeconds 10 0) first.tree
    obtain ⟨hok, hok', hbytes⟩ :
        first.result = .ok ⟨1, 0, scannedConfig.outputPaths ⟨"."⟩ none⟩ ∧
          second.result = .ok ⟨2, 0, scannedConfig.outputPaths ⟨"."⟩ none⟩ ∧
          second.tree.read ⟨"./src/.sources.def"⟩ ≠ first.tree.read ⟨"./src/.sources.def"⟩ := by
      decide +kernel
    exact hbytes (hrepeats scannedConfig ⟨"."⟩ { second? := some 0 } _ _ sampleTree ht (by decide)
      _ _ hok hok' _ (by decide +kernel))

end DefFragments
