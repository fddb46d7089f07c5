import DefFragments.CommandLine.Execute
import DefFragments.Proofs.Fragment.EntryLines
import DefFragments.Proofs.Generation.Content
import DefFragments.Proofs.Generation.Repetition

/-!
# The libraries that are printed

The libraries fragment is the last one to be published, so after a run that generated its file holds
the text of that run, whatever the other fragments are called. An invocation that is asked for the
libraries prints what this file lists, a name on each line, and nothing if any of its steps fails.
-/

namespace DefFragments
open Text FileTree

theorem Effect.andThen_eq_ok_iff {α β : Type} {e : Effect α} {next : FileTree → α → Effect β}
    {b : β} : (e.andThen next).result = .ok b ↔
      ∃ a, e.result = .ok a ∧ (next e.tree a).result = .ok b := by
  unfold Effect.andThen Effect.report
  cases e.result with
  | error f => simp
  | ok a => simp

/-! ### The file of the libraries -/

theorem fromUTF8?_toUTF8 (s : String) : String.fromUTF8? s.toUTF8 = some s :=
  dif_pos s.isValidUTF8

section
variable {c : Config} {base : Path} {o : Options} {t : FileTree} {now : Time} {faults : Faults}

/-- No fragment comes after the libraries, so none takes the place of their text. -/
theorem readText_of_generate {d : Draft} (hd : draft c base o t = .ok d) {summary : Summary}
    (h : (generate c base o now t faults).result = .ok summary) :
    (generate c base o now t faults).tree.readText (c.outputPath base o.outputDir? .libraries) =
      .ok (d.fragments.text .libraries) := by
  obtain ⟨-, hnodes⟩ := generate_of_draft_eq_ok hd h
  obtain ⟨text, hlast, hnode⟩ := hnodes _ (c.mem_outputPaths base o.outputDir? .libraries)
  have hzip : d.fragments.texts.zip (c.outputPaths base o.outputDir?) =
      ([.sources, .constants, .methods, .types].map fun kind =>
        (d.fragments.text kind, c.outputPath base o.outputDir? kind)) ++
        [(d.fragments.text .libraries, c.outputPath base o.outputDir? .libraries)] :=
    rfl
  rw [hzip, Staged.lastText_append_cons (List.forall_mem_nil _)] at hlast
  obtain rfl := Option.some.inj hlast
  have hread := read_eq_ok_iff.2 ⟨_, hnode, rfl⟩
  simp only [readText, hread, bind, Except.bind, fromUTF8?_toUTF8]

theorem exists_draft_of_generated {summary : Summary}
    (h : (ensureFresh c base o now t faults).result = .ok (.generated summary)) :
    ∃ d, draft c base o t = .ok d ∧
      (ensureFresh c base o now t faults).tree.readText (c.outputPath base o.outputDir? .libraries) =
        .ok (d.fragments.text .libraries) := by
  obtain ⟨htree, hgenerate⟩ := generate_of_generated h
  obtain ⟨d, hd, -⟩ := generate_eq_ok hgenerate
  refine ⟨d, hd, ?_⟩
  rw [htree]
  exact readText_of_generate hd hgenerate

end

/-! ### Names without blanks -/

theorem not_of_mem_pieces {p : Char → Bool} {s w : List Char} (h : w ∈ pieces p s) :
    ∀ c ∈ w, p c = false := by
  induction s generalizing w with
  | nil =>
    obtain rfl := List.mem_singleton.1 h
    exact List.forall_mem_nil _
  | cons c s ih =>
    rw [pieces] at h
    split at h
    · rcases List.mem_cons.1 h with rfl | h
      · exact List.forall_mem_nil _
      · exact ih h
    · next hc =>
      cases hs : pieces p s with
      | nil => exact absurd hs (pieces_ne_nil p s)
      | cons first rest =>
        simp only [hs] at h ih
        rcases List.mem_cons.1 h with rfl | h
        · exact List.forall_mem_cons.2 ⟨by simpa using hc, ih (List.mem_cons_self ..)⟩
        · exact ih (List.mem_cons_of_mem _ h)

namespace Library

theorem not_isBlank_of_mem_ofLine {line : List Char} {ws : List (List Char)}
    (h : FragmentLine.ofLine line = .text ws) : ∀ w ∈ ws, ∀ c ∈ w, isBlank c = false := by
  unfold FragmentLine.ofLine at h
  dsimp only at h
  split at h
  · cases h
  · split at h
    · cases h
    · split at h
      · cases h
      · obtain rfl := FragmentLine.text.inj h
        exact fun w hw => not_of_mem_pieces (List.mem_filter.1 hw).1

theorem not_isBlank_of_mem_activeWords {symbol : List Char} {release n : Nat} {active : List Bool}
    {ls ws : List (List Char)} (h : activeWords symbol release n active ls = .ok ws) :
    ∀ w ∈ ws, ∀ c ∈ w, isBlank c = false := by
  fun_induction activeWords symbol release n active ls generalizing ws with
  | case1 n =>
    obtain rfl := Except.ok.inj h
    exact List.forall_mem_nil _
  | case2 n b active => cases h
  | case3 n active line rest guard hline e hvalue => cases h
  | case4 n active line rest guard hline value hvalue ih => exact ih h
  | case5 n line rest hline => cases h
  | case6 n line rest hline b around ih => exact ih h
  | case7 n active line rest directive hline => cases h
  | case8 n active line rest found hline ih =>
    cases hmore : activeWords symbol release (n + 1) active rest with
    | error e =>
      rw [hmore] at h
      cases h
    | ok more =>
      rw [hmore] at h
      obtain rfl := Except.ok.inj h
      intro w hw
      split at hw
      · rcases List.mem_append.1 hw with hw | hw
        · exact not_isBlank_of_mem_ofLine hline w hw
        · exact ih hmore w hw
      · exact ih hmore w hw

theorem resolve_eq_ok {fragment versionSymbol : String} {release : Nat} {names : List String}
    (h : resolve fragment versionSymbol release = .ok names) :
    names.Pairwise BytesLess ∧ ∀ name ∈ names, IsLine name.toList := by
  unfold resolve at h
  cases hwords : activeWords versionSymbol.toList release 1 [] (lines fragment.toList) with
  | error e => simp [hwords, Except.map] at h
  | ok ws =>
    rw [hwords] at h
    obtain rfl := Except.ok.inj h
    refine ⟨(pairwise_nameSet _).imp bytesLess_of_lt, fun name hname => ?_⟩
    obtain ⟨w, hw, rfl⟩ := List.mem_map.1 (mem_nameSet.1 hname)
    have hblank := not_isBlank_of_mem_activeWords hwords w hw
    rw [String.toList_ofList]
    constructor
    · intro hmem
      exact absurd (hblank _ hmem) (by decide)
    · intro hlast
      exact absurd (hblank _ (List.mem_of_getLast? hlast)) (by decide)

end Library

theorem resolveText_eq_ok {t : FileTree} {text versionSymbol : String}
    {source : Library.ReleaseSource} {answer : Option Library.ProgramOutput} {names : List String}
    (h : (resolveText t text versionSymbol source answer).result = .ok names) :
    ∃ release, source.release answer = .ok release ∧
      Library.resolve text versionSymbol release = .ok names := by
  unfold resolveText at h
  cases hrelease : source.release answer with
  | error f => simp [hrelease, Effect.failed] at h
  | ok release =>
    cases hnames : Library.resolve text versionSymbol release with
    | error f => simp [hrelease, hnames, Effect.failed] at h
    | ok names' =>
      simp only [hrelease, hnames, Except.ok.injEq] at h
      exact ⟨release, rfl, h ▸ hnames⟩

theorem libraries_eq_ok {c : Config} {base : Path} {outputDir? : Option Path}
    {source : Library.ReleaseSource} {answer : Option Library.ProgramOutput} {t : FileTree}
    {names : List String} (h : (libraries c base outputDir? source answer t).result = .ok names) :
    names.Pairwise BytesLess ∧ ∀ name ∈ names, IsLine name.toList := by
  unfold libraries resolveFile at h
  cases htext : t.readText (c.outputPath base outputDir? .libraries) with
  | error e => simp [htext, Effect.failed] at h
  | ok text =>
    simp only [htext] at h
    obtain ⟨release, -, hnames⟩ := resolveText_eq_ok h
    exact Library.resolve_eq_ok hnames

/-! ### The command line -/

namespace CommandLine

/-- Every step of an invocation for the libraries succeeds, and these are the libraries. -/
def Lists (a : Arguments) (s : Surroundings) (now : Time) (t : FileTree) (faults : Faults)
    (names : List String) : Prop :=
  let base := a.config.parent?.getD ⟨"."⟩
  let source := match a.release? with
    | some release => Library.ReleaseSource.fixed release
    | none => .kernel Library.releaseOid
  ∃ second c outcome, headerSecond s.epoch? = .ok second ∧ loadForRun t a.config = .ok c ∧
    let fresh := ensureFresh c base ⟨a.verbose, a.force, a.outputDir?, second⟩ now t faults
    fresh.result = .ok outcome ∧
      (libraries c base a.outputDir? source s.kernel fresh.tree).result = .ok names

variable {a : Arguments} {s : Surroundings} {now : Time} {t : FileTree} {faults : Faults}

theorem work_eq_ok_iff (ha : a.libraries = true) {names : List String} :
    (work a s now t faults).result = .ok names ↔ Lists a s now t faults names := by
  unfold work Lists
  cases hsecond : headerSecond s.epoch? with
  | error f => simp [Effect.failed]
  | ok second =>
    cases hload : loadForRun t a.config with
    | error f => simp [Effect.failed]
    | ok c =>
      simp only [Effect.andThen_eq_ok_iff, ha, if_true]
      constructor
      · rintro ⟨outcome, hfresh, hnames⟩
        exact ⟨second, c, outcome, rfl, rfl, hfresh, hnames⟩
      · rintro ⟨second', c', outcome, hsecond', hload', hfresh, hnames⟩
        obtain rfl := Except.ok.inj hsecond'
        obtain rfl := Except.ok.inj hload'
        exact ⟨outcome, hfresh, hnames⟩

theorem runArguments_of_lists (ha : a.libraries = true) {names : List String}
    (h : Lists a s now t faults names) :
    (runArguments a s now t faults).exit = 0 ∧
      (runArguments a s now t faults).stdout = String.join (names.map (· ++ "\n")) := by
  unfold runArguments
  simp only [(work_eq_ok_iff ha).2 h, and_self]

theorem runArguments_of_not_lists (ha : a.libraries = true)
    (h : ¬∃ names, Lists a s now t faults names) :
    (runArguments a s now t faults).exit = 1 ∧ (runArguments a s now t faults).stdout = "" := by
  cases hresult : (work a s now t faults).result with
  | ok names => exact absurd ⟨names, (work_eq_ok_iff ha).1 hresult⟩ h
  | error f =>
    unfold runArguments
    simp only [hresult, and_self]

theorem lines_of_lists {names : List String} (h : Lists a s now t faults names) :
    names.Pairwise BytesLess ∧
      lines (String.join (names.map (· ++ "\n"))).toList = names.map String.toList := by
  obtain ⟨second, c, outcome, -, -, -, hnames⟩ := h
  obtain ⟨hpairwise, hlines⟩ := libraries_eq_ok hnames
  have hall := Entry.lines_unlines_append hlines []
  rw [List.append_nil, show lines [] = [] from rfl, List.append_nil] at hall
  exact ⟨hpairwise, hall⟩

/-- After a run that generated, the libraries are those of the text of that run. An invocation that
is asked for the libraries prints those that are listed after its run, each on a line of its own and
in the order of their bytes. It prints nothing and fails if any of its steps does. -/
theorem prints_generated_libraries :
    (∀ (c : Config) (base : Path) (o : Options) (now : Time) (t : FileTree) (faults : Faults)
        (summary : Summary) (source : Library.ReleaseSource) (answer : Option Library.ProgramOutput),
      (ensureFresh c base o now t faults).result = .ok (.generated summary) →
      let after := (ensureFresh c base o now t faults).tree
      ∃ d, draft c base o t = .ok d ∧
        libraries c base o.outputDir? source answer after =
          resolveText after (d.fragments.text .libraries) c.markers.versionSymbol source answer) ∧
    ∀ (arguments : List String) (a : Arguments) (s : Surroundings) (now : Time) (t : FileTree)
        (faults : Faults),
      parse {} arguments = some (.run a) → a.libraries = true →
      let report := execute arguments s now t faults
      (∀ names, Lists a s now t faults names →
        report.exit = 0 ∧ report.stdout = String.join (names.map (· ++ "\n")) ∧
          lines report.stdout.toList = names.map String.toList ∧ names.Pairwise BytesLess) ∧
      ((¬∃ names, Lists a s now t faults names) → report.exit = 1 ∧ report.stdout = "") := by
  refine ⟨fun c base o now t faults summary source answer hgenerated => ?_,
    fun arguments a s now t faults hparse ha => ?_⟩
  · intro after
    obtain ⟨d, hd, htext⟩ := exists_draft_of_generated hgenerated
    refine ⟨d, hd, ?_⟩
    unfold libraries resolveFile
    rw [htext]
  · intro report
    have hreport : report = runArguments a s now t faults := by
      show execute arguments s now t faults = runArguments a s now t faults
      unfold execute
      rw [hparse]
    rw [hreport]
    refine ⟨fun names hnames => ?_, runArguments_of_not_lists ha⟩
    obtain ⟨hexit, hstdout⟩ := runArguments_of_lists ha hnames
    obtain ⟨hpairwise, hlines⟩ := lines_of_lists hnames
    rw [hstdout]
    exact ⟨hexit, rfl, hlines, hpairwise⟩

/-- The constants are to go where the libraries go. -/
def sharedConfig : Config :=
  { sampleConfig with output := { constants := ⟨".libraries.def"⟩ } }

def sharedTree : FileTree :=
  guardedTree.set ["gendefs.toml"] (.file
    "[source]\ndir = \"src\"\n[output]\nconstants = \".libraries.def\"\n".toUTF8 (.new (.ofSeconds 3 0)))

theorem prints_generated_libraries_of_shared_file :
    (∃ d, draft sharedConfig ⟨""⟩ {} sharedTree = .ok d ∧
      libraries sharedConfig ⟨""⟩ none (.fixed 400000) none
          (ensureFresh sharedConfig ⟨""⟩ {} (.ofSeconds 9 0) sharedTree).tree =
        resolveText (ensureFresh sharedConfig ⟨""⟩ {} (.ofSeconds 9 0) sharedTree).tree
          (d.fragments.text .libraries) "__FreeBSD_version" (.fixed 400000) none) ∧
      (execute ["--libraries", "--osreldate", "400000"] {} (.ofSeconds 9 0) sharedTree).stdout =
        "kvm\nutil\n" := by
  have hload : loadForRun sharedTree ⟨"gendefs.toml"⟩ = .ok sharedConfig := by decide +kernel
  obtain ⟨hgenerated, hnames⟩ :
      (ensureFresh sharedConfig ⟨""⟩ {} (.ofSeconds 9 0) sharedTree).result =
          .ok (.generated ⟨2, 3, sharedConfig.outputPaths ⟨""⟩ none⟩) ∧
        (libraries sharedConfig ⟨""⟩ none (.fixed 400000) none
          (ensureFresh sharedConfig ⟨""⟩ {} (.ofSeconds 9 0) sharedTree).tree).result =
            .ok ["kvm", "util"] := by
    decide +kernel
  obtain ⟨hread, hprint⟩ := prints_generated_libraries
  have harguments : parse {} ["--libraries", "--osreldate", "400000"] =
      some (.run { libraries := true, release? := some 400000 }) := by
    decide +kernel
  have hlists : Lists { libraries := true, release? := some 400000 } {} (.ofSeconds 9 0) sharedTree
      .none ["kvm", "util"] :=
    ⟨none, sharedConfig, _, rfl, hload, hgenerated, hnames⟩
  obtain ⟨-, hstdout, -⟩ := (hprint _ _ {} (.ofSeconds 9 0) sharedTree .none harguments rfl).1 _ hlists
  have hjoin : String.join (["kvm", "util"].map (· ++ "\n")) = "kvm\nutil\n" := by decide
  exact ⟨hread _ _ {} _ _ _ _ _ _ hgenerated, hstdout.trans hjoin⟩

end CommandLine

end DefFragments
