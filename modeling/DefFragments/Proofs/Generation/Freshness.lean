import DefFragments.Generation.Run
import DefFragments.Proofs.Config.Selection
import DefFragments.Proofs.Text.Lines

/-!
# When fragments are fresh

The newest input stands for all of them: an output is older than the newest one exactly if it is
older than some input. So the outputs are fresh when each of them can be opened and is no older than
any input, and otherwise the first one that is not so is the one that is reported. A run that finds
them fresh changes nothing, and every other run is a generation.
-/

namespace DefFragments
open FileTree

/-! ### The newest input -/

theorem latestOf?_eq_none_iff {times : List Time} : Time.latestOf? times = none ↔ times = [] := by
  cases times with
  | nil => simp [Time.latestOf?]
  | cons n times =>
    rw [Time.latestOf?]
    split <;> simp

theorem isBefore_latest (m n u : Time) :
    m.isBefore (n.latest u) = true ↔ m.isBefore n = true ∨ m.isBefore u = true := by
  simp only [Time.latest, Time.isBefore, decide_eq_true_eq]
  split <;> omega

theorem isBefore_latestOf? {times : List Time} {newest : Time}
    (h : Time.latestOf? times = some newest) (m : Time) :
    m.isBefore newest = true ↔ ∃ n ∈ times, m.isBefore n = true := by
  induction times generalizing newest with
  | nil => simp [Time.latestOf?] at h
  | cons n times ih =>
    rw [Time.latestOf?] at h
    cases hrest : Time.latestOf? times with
    | none =>
      obtain rfl : n = newest := by simpa [hrest] using h
      simp [latestOf?_eq_none_iff.1 hrest]
    | some u =>
      obtain rfl : n.latest u = newest := by simpa [hrest] using h
      rw [isBefore_latest, ih hrest, List.exists_mem_cons_iff]

section
variable {t : FileTree} {inputs : List Path}

theorem modifiedTimes_eq_ok (h : ∀ q ∈ inputs, ∃ n, t.modified q = .ok n) :
    ∃ times, modifiedTimes t inputs = .ok times ∧
      ∀ n, n ∈ times ↔ ∃ q ∈ inputs, t.modified q = .ok n := by
  induction inputs with
  | nil => exact ⟨[], rfl, by simp⟩
  | cons q inputs ih =>
    obtain ⟨⟨m, hm⟩, hrest⟩ := List.forall_mem_cons.1 h
    obtain ⟨times, htimes, hmem⟩ := ih hrest
    refine ⟨m :: times, by simp [modifiedTimes, hm, htimes, Except.map], fun n => ?_⟩
    rw [List.mem_cons, List.exists_mem_cons_iff, hmem, hm]
    simp [eq_comm]

/-- What is older than the newest input is older than some input. -/
theorem newestTime_eq_ok (h : ∀ q ∈ inputs, ∃ n, t.modified q = .ok n) :
    ∃ newest, newestTime t inputs = .ok newest ∧ ∀ m : Time,
      (∃ n, newest = some n ∧ m.isBefore n = true) ↔
        ∃ q ∈ inputs, ∃ n, t.modified q = .ok n ∧ m.isBefore n = true := by
  obtain ⟨times, htimes, hmem⟩ := modifiedTimes_eq_ok h
  refine ⟨Time.latestOf? times, by simp [newestTime, htimes, Except.map], fun m => ?_⟩
  constructor
  · rintro ⟨n, hnewest, hlt⟩
    obtain ⟨u, hu, hlt⟩ := (isBefore_latestOf? hnewest m).1 hlt
    obtain ⟨q, hq, hmodified⟩ := (hmem u).1 hu
    exact ⟨q, hq, u, hmodified, hlt⟩
  · rintro ⟨q, hq, n, hmodified, hlt⟩
    have hn := (hmem n).2 ⟨q, hq, hmodified⟩
    cases hnewest : Time.latestOf? times with
    | none =>
      rw [latestOf?_eq_none_iff.1 hnewest] at hn
      cases hn
    | some newest => exact ⟨newest, rfl, (isBefore_latestOf? hnewest m).2 ⟨n, hn, hlt⟩⟩

/-! ### One output -/

/-- A path leads to something that can be opened and was modified at this time. -/
def OpensWith (t : FileTree) (p : Path) (m : Time) : Prop :=
  ∃ n, t.node p = .ok n ∧ n.isReadable = true ∧ n.modified = m

/-- An output can be opened and is no older than any input. -/
def IsCurrent (t : FileTree) (inputs : List Path) (p : Path) : Prop :=
  ∃ m, OpensWith t p m ∧ ∀ q ∈ inputs, ∃ n, t.modified q = .ok n ∧ m.isBefore n = false

def IsStale (t : FileTree) (inputs : List Path) (p : Path) : Log.StaleReason → Prop
  | .missing => ∀ m, ¬OpensWith t p m
  | .outdated => ∃ m, OpensWith t p m ∧ ∃ q ∈ inputs, ∃ n, t.modified q = .ok n ∧ m.isBefore n = true

theorem modified_eq_ok_iff {p : Path} {m : Time} :
    t.modified p = .ok m ↔ ∃ n, t.node p = .ok n ∧ n.modified = m := by
  unfold modified
  cases t.node p <;> simp [Except.map]

theorem OpensWith.modified {p : Path} {m : Time} (h : OpensWith t p m) : t.modified p = .ok m := by
  obtain ⟨n, hn, -, hmodified⟩ := h
  exact modified_eq_ok_iff.2 ⟨n, hn, hmodified⟩

theorem OpensWith.unique {p : Path} {m m' : Time} (h : OpensWith t p m) (h' : OpensWith t p m') :
    m' = m :=
  Except.ok.inj (h'.modified.symm.trans h.modified)

theorem isCurrent_iff_of_opensWith (h : ∀ q ∈ inputs, ∃ n, t.modified q = .ok n) {p : Path}
    {m : Time} (hm : OpensWith t p m) :
    IsCurrent t inputs p ↔ ¬∃ q ∈ inputs, ∃ n, t.modified q = .ok n ∧ m.isBefore n = true := by
  constructor
  · intro ⟨m', hm', hall⟩ ⟨q, hq, n, hn, hlater⟩
    obtain rfl := hm.unique hm'
    obtain ⟨n', hn', hnot⟩ := hall q hq
    obtain rfl : n' = n := Except.ok.inj (hn'.symm.trans hn)
    rw [hnot] at hlater
    cases hlater
  · intro hnone
    refine ⟨m, hm, fun q hq => ?_⟩
    obtain ⟨n, hn⟩ := h q hq
    exact ⟨n, hn, Bool.eq_false_iff.2 fun hlater => hnone ⟨q, hq, n, hn, hlater⟩⟩

theorem staleReason?_of_opensWith {p : Path} {m : Time} (h : OpensWith t p m)
    (newest : Option Time) :
    (staleReason? t newest p = some .outdated ∧ ∃ n, newest = some n ∧ m.isBefore n = true) ∨
      (staleReason? t newest p = none ∧ ¬∃ n, newest = some n ∧ m.isBefore n = true) := by
  obtain ⟨n, hn, hreadable, -⟩ := id h
  simp only [staleReason?, h.modified, openForReading_eq_ok_iff.2 ⟨hn, hreadable⟩]
  cases newest with
  | none => simp
  | some n => by_cases hlt : m.isBefore n = true <;> simp [hlt]

theorem staleReason?_of_not_opensWith {p : Path} (h : ∀ m, ¬OpensWith t p m)
    (newest : Option Time) : staleReason? t newest p = some .missing := by
  unfold staleReason?
  cases hm : t.modified p with
  | error e => rfl
  | ok m =>
    cases ho : t.openForReading p with
    | error e => rfl
    | ok n =>
      obtain ⟨hn, hreadable⟩ := openForReading_eq_ok_iff.1 ho
      obtain ⟨n', hn', hmodified⟩ := modified_eq_ok_iff.1 hm
      obtain rfl := Except.ok.inj (hn'.symm.trans hn)
      exact absurd ⟨_, hn, hreadable, hmodified⟩ (h m)

theorem staleReason?_iff (h : ∀ q ∈ inputs, ∃ n, t.modified q = .ok n) {newest : Option Time}
    (hnewest : newestTime t inputs = .ok newest) (p : Path) :
    (staleReason? t newest p = none ↔ IsCurrent t inputs p) ∧
      ∀ reason, staleReason? t newest p = some reason ↔ IsStale t inputs p reason := by
  obtain ⟨newest', heq, holder⟩ := newestTime_eq_ok h
  obtain rfl : newest' = newest := Except.ok.inj (heq.symm.trans hnewest)
  -- an output that opens is compared with the newest input, which stands for all of them
  by_cases hopens : ∃ m, OpensWith t p m
  · obtain ⟨m, hm⟩ := hopens
    have hmissing : ¬IsStale t inputs p .missing := fun hnone => hnone m hm
    rcases staleReason?_of_opensWith hm newest' with ⟨hreason, hlt⟩ | ⟨hreason, hnot⟩
    · have hold := (holder m).1 hlt
      have hcurrent : ¬IsCurrent t inputs p := fun hcurrent =>
        (isCurrent_iff_of_opensWith h hm).1 hcurrent hold
      refine ⟨by simp [hreason, hcurrent], fun reason => ?_⟩
      cases reason with
      | missing => simp [hreason, hmissing]
      | outdated => exact iff_of_true hreason ⟨m, hm, hold⟩
    · have hyoung := fun hold => hnot ((holder m).2 hold)
      have hcurrent : IsCurrent t inputs p := (isCurrent_iff_of_opensWith h hm).2 hyoung
      have houtdated : ¬IsStale t inputs p .outdated := by
        rintro ⟨m', hm', hold⟩
        obtain rfl := hm.unique hm'
        exact hyoung hold
      refine ⟨iff_of_true hreason hcurrent, fun reason => ?_⟩
      cases reason with
      | missing => simp [hreason, hmissing]
      | outdated => simp [hreason, houtdated]
  · have hnone : ∀ m, ¬OpensWith t p m := fun m hm => hopens ⟨m, hm⟩
    have hreason := staleReason?_of_not_opensWith hnone newest'
    have hcurrent : ¬IsCurrent t inputs p := fun ⟨m, hm, _⟩ => hnone m hm
    refine ⟨by simp [hreason, hcurrent], fun reason => ?_⟩
    cases reason with
    | missing => exact iff_of_true hreason hnone
    | outdated =>
      have houtdated : ¬IsStale t inputs p .outdated := fun ⟨m, hm, _⟩ => hnone m hm
      simp [hreason, houtdated]

/-! ### The verdict -/

theorem against_eq_fresh_iff {newest : Option Time} {outputs : List Path} :
    Staleness.against t newest outputs = .fresh ↔ ∀ p ∈ outputs, staleReason? t newest p = none := by
  induction outputs with
  | nil => simp [Staleness.against]
  | cons p outputs ih =>
    rw [Staleness.against, List.forall_mem_cons]
    cases hp : staleReason? t newest p with
    | none => simpa using ih
    | some reason => simp

/-- The output that is reported is the first one that is stale. -/
theorem against_eq_stale_iff {newest : Option Time} {outputs : List Path} {p : Path}
    {reason : Log.StaleReason} :
    Staleness.against t newest outputs = .stale p reason ↔ ∃ before after,
      outputs = before ++ p :: after ∧ (∀ q ∈ before, staleReason? t newest q = none) ∧
        staleReason? t newest p = some reason := by
  induction outputs with
  | nil => simp [Staleness.against]
  | cons q outputs ih =>
    rw [Staleness.against, Text.exists_split_at_cons]
    simp only [List.forall_mem_cons]
    cases hq : staleReason? t newest q with
    | some reason' =>
      simp only [reduceCtorEq, false_and, and_false, exists_false, or_false]
      constructor
      · intro h
        obtain ⟨rfl, rfl⟩ := Staleness.stale.inj h
        exact ⟨rfl, by simp, hq⟩
      · rintro ⟨rfl, -, hp⟩
        rw [Option.some.inj (hq.symm.trans hp)]
    | none =>
      rw [or_iff_right]
      · simpa using ih
      · rintro ⟨rfl, -, hp⟩
        rw [hq] at hp
        cases hp

theorem check_eq_ok (h : ∀ q ∈ inputs, ∃ n, t.modified q = .ok n) (outputs : List Path) :
    ∃ verdict, Staleness.check t inputs outputs = .ok verdict ∧
      (verdict = .fresh ↔ ∀ p ∈ outputs, IsCurrent t inputs p) ∧
      ∀ p reason, verdict = .stale p reason ↔ ∃ before after, outputs = before ++ p :: after ∧
        (∀ q ∈ before, IsCurrent t inputs q) ∧ IsStale t inputs p reason := by
  obtain ⟨newest, hnewest, -⟩ := newestTime_eq_ok h
  have hreason := staleReason?_iff h hnewest
  refine ⟨Staleness.against t newest outputs, by simp [Staleness.check, hnewest, Except.map], ?_,
    fun p reason => ?_⟩
  · simp only [against_eq_fresh_iff, (hreason _).1]
  · simp only [against_eq_stale_iff, (hreason _).1, (hreason _).2]

end

/-! ### Ensuring freshness -/

section
variable {c : Config} {base : Path} {t : FileTree} {inputs : List Path}

theorem exists_modified (h : c.inputFiles t base = .ok inputs) :
    ∀ q ∈ inputs, ∃ n, t.modified q = .ok n := by
  intro q hq
  obtain ⟨files, hfiles, hmem⟩ := Config.exists_select_of_inputFiles h
  obtain ⟨contents, a, hnode⟩ := Config.exists_file_of_mem_select hfiles ((hmem q).1 hq)
  exact ⟨a.modified, modified_eq_ok_iff.2 ⟨_, hnode, rfl⟩⟩

/-- A run that is not forced stops when all outputs are current, and every other run generates. -/
theorem ensureFresh_cases (h : c.inputFiles t base = .ok inputs) (o : Options) (now : Time)
    (faults : Faults) :
    (o.force = false ∧ (∀ p ∈ c.outputPaths base o.outputDir?, IsCurrent t inputs p) ∧
        (ensureFresh c base o now t faults).tree = t ∧
        (ensureFresh c base o now t faults).result = .ok .upToDate) ∨
      (¬(o.force = false ∧ ∀ p ∈ c.outputPaths base o.outputDir?, IsCurrent t inputs p) ∧
        (ensureFresh c base o now t faults).tree = (generate c base o now t faults).tree ∧
        (ensureFresh c base o now t faults).result =
          (generate c base o now t faults).result.map .generated) := by
  have hgenerated : ∀ events : List Log.Event,
      let e := ((generate c base o now t faults).andThen fun t summary =>
        .done t (Outcome.generated summary)).report events
      e.tree = (generate c base o now t faults).tree ∧
        e.result = (generate c base o now t faults).result.map .generated := by
    intro events
    simp only [Effect.andThen, Effect.report, Effect.done]
    cases (generate c base o now t faults).result with
    | error f => exact ⟨rfl, rfl⟩
    | ok summary => exact ⟨rfl, rfl⟩
  obtain ⟨verdict, hcheck, hfresh, -⟩ :=
    check_eq_ok (exists_modified h) (c.outputPaths base o.outputDir?)
  unfold ensureFresh
  simp only [h, hcheck]
  cases hforce : o.force with
  | true => exact Or.inr ⟨by simp, hgenerated []⟩
  | false =>
    cases verdict with
    | fresh => exact Or.inl ⟨rfl, hfresh.1 rfl, rfl, rfl⟩
    | stale p reason =>
      exact Or.inr ⟨fun hall => Staleness.noConfusion (hfresh.2 hall.2), hgenerated _⟩

theorem ensureFresh_of_error {f : Failure} (h : c.inputFiles t base = .error f) (o : Options)
    (now : Time) (faults : Faults) : ensureFresh c base o now t faults = .failed t f := by
  unfold ensureFresh
  rw [h]

/-- A run fails where a generation fails. -/
theorem ensureFresh_eq_error (h : c.inputFiles t base = .ok inputs) {o : Options} {now : Time}
    {faults : Faults} {f : Failure} (hfail : (ensureFresh c base o now t faults).result = .error f) :
    ¬(o.force = false ∧ ∀ p ∈ c.outputPaths base o.outputDir?, IsCurrent t inputs p) ∧
      (ensureFresh c base o now t faults).tree = (generate c base o now t faults).tree ∧
      (generate c base o now t faults).result = .error f := by
  rcases ensureFresh_cases h o now faults with ⟨-, -, -, hresult⟩ | ⟨hstale, htree, hresult⟩
  · rw [hresult] at hfail
    cases hfail
  · refine ⟨hstale, htree, ?_⟩
    rw [hresult] at hfail
    cases hg : (generate c base o now t faults).result with
    | error f' =>
      rw [hg] at hfail
      cases hfail
      rfl
    | ok summary =>
      rw [hg] at hfail
      cases hfail

theorem map_generated_ne_upToDate (r : Except Failure Summary) :
    r.map Outcome.generated ≠ .ok .upToDate := by
  cases r <;> simp [Except.map]

theorem upToDate_iff (h : c.inputFiles t base = .ok inputs) (o : Options) (now : Time)
    (faults : Faults) :
    (ensureFresh c base o now t faults).result = .ok .upToDate ↔
      o.force = false ∧ ∀ p ∈ c.outputPaths base o.outputDir?, IsCurrent t inputs p := by
  rcases ensureFresh_cases h o now faults with ⟨hforce, hall, -, hresult⟩ | ⟨hnot, -, hresult⟩
  · exact iff_of_true hresult ⟨hforce, hall⟩
  · rw [hresult]
    exact iff_of_false (map_generated_ne_upToDate _) hnot

theorem exists_inputs_of_upToDate {o : Options} {now : Time} {faults : Faults}
    (h : (ensureFresh c base o now t faults).result = .ok .upToDate) :
    ∃ inputs, c.inputFiles t base = .ok inputs := by
  cases hinputs : c.inputFiles t base with
  | error f =>
    rw [ensureFresh_of_error hinputs] at h
    cases h
  | ok inputs => exact ⟨inputs, rfl⟩

/-! ### What a run depends on -/

theorem isCurrent_congr {a b : List Path} (h : ∀ q, q ∈ a ↔ q ∈ b) (p : Path) :
    IsCurrent t a p ↔ IsCurrent t b p := by
  simp only [IsCurrent, h]

theorem isStale_congr {a b : List Path} (h : ∀ q, q ∈ a ↔ q ∈ b) (p : Path)
    (reason : Log.StaleReason) : IsStale t a p reason ↔ IsStale t b p reason := by
  cases reason <;> simp only [IsStale, h]

/-- A run stops, and leaves the tree as it is, exactly when it is not forced and every output can be
opened and is no older than any file that is scanned or whose age counts. Every other run is a
generation of all outputs, and meets the same refusals. The verdict names the first stale output, in
the order of publication. -/
theorem ensureFresh_generates_iff_stale (h : c.inputFiles t base = .ok inputs) (o : Options)
    (now : Time) (faults : Faults) :
    ∃ depends scanned, c.dependFiles t base = .ok depends ∧ c.scanFiles t base = .ok scanned ∧
      ((ensureFresh c base o now t faults).result = .ok .upToDate ↔ o.force = false ∧
        ∀ p ∈ c.outputPaths base o.outputDir?, IsCurrent t (depends ++ scanned) p) ∧
      ((ensureFresh c base o now t faults).result = .ok .upToDate →
        (ensureFresh c base o now t faults).tree = t) ∧
      ((ensureFresh c base o now t faults).result ≠ .ok .upToDate →
        (ensureFresh c base o now t faults).result =
            (generate c base o now t faults).result.map .generated ∧
          (ensureFresh c base o now t faults).tree = (generate c base o now t faults).tree) ∧
      ∀ p reason,
        Staleness.check t inputs (c.outputPaths base o.outputDir?) = .ok (.stale p reason) ↔
          ∃ before kind after, FragmentKind.all = before ++ kind :: after ∧
            p = c.outputPath base o.outputDir? kind ∧
            (∀ k ∈ before, IsCurrent t (depends ++ scanned) (c.outputPath base o.outputDir? k)) ∧
            IsStale t (depends ++ scanned) p reason := by
  obtain ⟨depends, scanned, hdepends, hscanned, hmem⟩ := Config.inputFiles_eq_ok h
  have hsame : ∀ q, q ∈ inputs ↔ q ∈ depends ++ scanned := fun q =>
    (hmem q).trans List.mem_append.symm
  have hiff := upToDate_iff h o now faults
  refine ⟨depends, scanned, hdepends, hscanned, ?_, fun hup => ?_, fun hnot => ?_, fun p reason => ?_⟩
  · simpa only [isCurrent_congr hsame] using hiff
  · rcases ensureFresh_cases h o now faults with ⟨-, -, htree, -⟩ | ⟨hstale, -, -⟩
    · exact htree
    · exact absurd (hiff.1 hup) hstale
  · rcases ensureFresh_cases h o now faults with ⟨-, -, -, hup⟩ | ⟨-, htree, hresult⟩
    · exact absurd hup hnot
    · exact ⟨hresult, htree⟩
  · obtain ⟨verdict, hcheck, -, hstale⟩ :=
      check_eq_ok (exists_modified h) (c.outputPaths base o.outputDir?)
    rw [hcheck, Except.ok.injEq, hstale]
    constructor
    · rintro ⟨before, after, hsplit, hbefore, hp⟩
      obtain ⟨kinds, rest, hall, rfl, hrest⟩ := List.map_eq_append_iff.1 hsplit
      obtain ⟨kind, kinds', rfl, rfl, rfl⟩ := List.map_eq_cons_iff.1 hrest
      refine ⟨kinds, kind, kinds', hall, rfl, fun k hk => ?_, (isStale_congr hsame _ _).1 hp⟩
      exact (isCurrent_congr hsame _).1 (hbefore _ (List.mem_map_of_mem hk))
    · rintro ⟨before, kind, after, hall, rfl, hbefore, hp⟩
      refine ⟨before.map (c.outputPath base o.outputDir?), after.map (c.outputPath base o.outputDir?),
        ?_, fun q hq => ?_, (isStale_congr hsame _ _).2 hp⟩
      · rw [← List.map_cons, ← List.map_append, ← hall]
        rfl
      · obtain ⟨k, hk, rfl⟩ := List.mem_map.1 hq
        exact (isCurrent_congr hsame _).2 (hbefore k hk)

end

def sampleConfig : Config where
  source := { dir := ⟨"src"⟩ }

def sampleTree : FileTree :=
  (FileTree.empty.set ["src"] (.directory (.new .epoch))).set ["a.c", "src"]
    (.file "".toUTF8 (.new (.ofSeconds 5 0)))

/-- Of the outputs, one is as old as the source, one is younger but cannot be opened, one is older and
two are missing. -/
def staleTree : FileTree :=
  ((sampleTree.set [".sources.def", "src"] (.file "".toUTF8 (.new (.ofSeconds 5 0)))).set
    [".const.def", "src"] (.file "".toUTF8 ⟨.ofSeconds 6 0, false⟩)).set
    [".methods.def", "src"] (.file "".toUTF8 (.new (.ofSeconds 4 999999999)))

/-- The output that cannot be opened is named, not the older one behind it, and all outputs are
generated. -/
theorem ensureFresh_generates_of_unreadable :
    sampleConfig.inputFiles staleTree ⟨"."⟩ = .ok [⟨"./src/a.c"⟩] ∧
      staleTree.modified ⟨"./src/.const.def"⟩ = .ok (.ofSeconds 6 0) ∧
      (ensureFresh sampleConfig ⟨"."⟩ {} (.ofSeconds 9 0) staleTree).result ≠ .ok .upToDate ∧
      (ensureFresh sampleConfig ⟨"."⟩ {} (.ofSeconds 9 0) staleTree).tree =
        (generate sampleConfig ⟨"."⟩ {} (.ofSeconds 9 0) staleTree).tree ∧
      Staleness.check staleTree [⟨"./src/a.c"⟩] (sampleConfig.outputPaths ⟨"."⟩ none) =
        .ok (.stale ⟨"./src/.const.def"⟩ .missing) ∧
      ∃ depends scanned, sampleConfig.dependFiles staleTree ⟨"."⟩ = .ok depends ∧
        sampleConfig.scanFiles staleTree ⟨"."⟩ = .ok scanned ∧
        IsStale staleTree (depends ++ scanned) ⟨"./src/.const.def"⟩ .missing := by
  have hinputs : sampleConfig.inputFiles staleTree ⟨"."⟩ = .ok [⟨"./src/a.c"⟩] := by
    decide +kernel
  have hmodified : staleTree.modified ⟨"./src/.const.def"⟩ = .ok (.ofSeconds 6 0) := by
    decide +kernel
  have hstale : (ensureFresh sampleConfig ⟨"."⟩ {} (.ofSeconds 9 0) staleTree).result ≠
      .ok .upToDate := by
    decide +kernel
  have hcheck : Staleness.check staleTree [⟨"./src/a.c"⟩] (sampleConfig.outputPaths ⟨"."⟩ none) =
      .ok (.stale ⟨"./src/.const.def"⟩ .missing) := by
    decide +kernel
  obtain ⟨depends, scanned, hdepends, hscanned, -, -, hgenerates, hreports⟩ :=
    ensureFresh_generates_iff_stale hinputs {} (.ofSeconds 9 0) .none
  obtain ⟨-, -, -, -, -, -, hmissing⟩ := (hreports _ _).1 hcheck
  exact ⟨hinputs, hmodified, hstale, (hgenerates hstale).2, hcheck, depends, scanned, hdepends,
    hscanned, hmissing⟩

end DefFragments
