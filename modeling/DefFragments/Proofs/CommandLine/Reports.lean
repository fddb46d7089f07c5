import DefFragments.CommandLine.Execute
import DefFragments.Proofs.Fragment.Unambiguous
import DefFragments.Proofs.Generation.Freshness
import DefFragments.Proofs.Log.Verbosity

/-!
# What a verbose invocation reports

A verbose run that scans reports every source that it scans and every marker that it finds, in
order, also if one of the scans fails. Whether its log shows them is decided for all of them
together: the log shows all reports of the run or none.
-/

namespace DefFragments
open Text FileTree

/-! ### What a report shows -/

theorem isPrintable_of_isNameChar {c : Char} (h : isNameChar c = true) :
    Log.isPrintable c = true := by
  simp only [isNameChar, Bool.or_eq_true, isNameStart_iff, isDigit_iff] at h
  simp only [Log.isPrintable, Bool.and_eq_true, decide_eq_true_eq]
  omega

theorem IsName.all_isPrintable {s : List Char} (h : IsName s) : s.all Log.isPrintable = true :=
  List.all_eq_true.2 fun c hc => isPrintable_of_isNameChar (h.2 c hc)

theorem Announcement.WellNamed.all_isPrintable {markers : Markers} {a : Announcement}
    (h : a.WellNamed markers) : a.report.toList.all Log.isPrintable = true := by
  cases a with
  | constant availability type name =>
    have htype : type.text.toList.all Log.isPrintable = true := by cases type <;> decide
    simp only [report, String.toList_append, List.all_append, Bool.and_eq_true]
    exact ⟨⟨⟨by decide, htype⟩, by decide⟩, IsName.all_isPrintable h⟩
  | function name convention =>
    have hflags : convention.flags.toList.all Log.isPrintable = true := by
      cases convention <;> decide
    simp only [report, String.toList_append, List.all_append, Bool.and_eq_true]
    exact ⟨⟨⟨by decide, IsName.all_isPrintable h.1⟩, by decide⟩, hflags⟩
  | objectType typeName objectName =>
    simp only [report, String.toList_append, List.all_append, Bool.and_eq_true]
    exact ⟨⟨⟨by decide, IsName.all_isPrintable h.1⟩, by decide⟩, IsName.all_isPrintable h.2⟩
  | library name =>
    simp only [report, String.toList_append, List.all_append, Bool.and_eq_true]
    exact ⟨by decide, IsName.all_isPrintable h⟩

theorem Announces.wellNamed {markers : Markers} {ls : List (List Char)} {entries : List Entry}
    (h : Announces markers ls entries) (hls : ∀ l ∈ ls, '\n' ∉ l) :
    ∀ e ∈ entries, e.announcement.WellNamed markers := by
  induction h with
  | start => exact List.forall_mem_nil _
  | @line before line entries found s _ _ hfound ih =>
    obtain ⟨hbefore, hline⟩ := List.forall_mem_append.1 hls
    refine List.forall_mem_append.2 ⟨ih hbefore, List.forall_mem_map.2 fun a ha => ?_⟩
    exact Marker.wellNamed_of_mem_announcements (hline line (List.mem_singleton_self line)) hfound
      a ha

theorem Scan.wellNamed_of_mem_findings {markers : Markers} {file text : String} :
    ∀ f ∈ (ofText markers file text).findings, f.announcement.WellNamed markers := by
  obtain ⟨before, hbefore, hentries⟩ := (verdict_ofText markers file text).exists_announces
  have hlines : ∀ l ∈ before, '\n' ∉ l := fun l hl => not_mem_of_mem_lines (hbefore.subset hl)
  exact fun f hf => hentries.wellNamed hlines _ (List.mem_map_of_mem hf)

theorem lineWithTarget_scanning (p : Path) : (Log.Event.scanning true p).lineWithTarget =
    "INFO gendefs::scan: scanning " ++ Log.shown p.text := by
  have hplain : Log.shown "scanning " = "scanning " := Log.shown_eq_self (by decide)
  have hmessage : (Log.Event.scanning true p).message = "scanning " ++ p.text := rfl
  rw [Log.Event.lineWithTarget_of_isReport rfl, hmessage, Log.shown_append, hplain,
    ← String.append_assoc]
  rfl

/-- The names that a marker gives are shown as they are. -/
theorem Announcement.WellNamed.lineWithTarget_marker {markers : Markers} {a : Announcement}
    (h : a.WellNamed markers) (file : String) (line : Nat) (guard : String) :
    (Log.Event.marker true file line a guard).lineWithTarget =
      "INFO gendefs::scan:   " ++ a.report := by
  have hplain : Log.shown "  " = "  " := Log.shown_eq_self (by decide)
  have hmessage : (Log.Event.marker true file line a guard).message = "  " ++ a.report := rfl
  rw [Log.Event.lineWithTarget_of_isReport rfl, hmessage, Log.shown_append, hplain,
    Log.shown_eq_self h.all_isPrintable, ← String.append_assoc]
  rfl

/-! ### Sources in the order of their scans -/

/-- A source can be read, and this is what its scan finds. -/
def ReadsAs (t : FileTree) (markers : Markers) (p : Path) (scan : Scan) : Prop :=
  ∃ bytes name, t.read p = .ok bytes ∧ p.fileName? = some name ∧
    scan = Scan.ofText markers name (decodeLossy bytes)

/-- These sources are scanned one after the other: all of them, or those up to the first one that
cannot be read or whose scan fails. -/
inductive ScansInOrder (t : FileTree) (markers : Markers) :
    List Path → List (Path × Scan) → Prop
  | done : ScansInOrder t markers [] []
  | unread {p ps} : (¬∃ scan, ReadsAs t markers p scan) → ScansInOrder t markers (p :: ps) []
  | failed {p ps scan f} : ReadsAs t markers p scan → scan.failure? = some f →
      ScansInOrder t markers (p :: ps) [(p, scan)]
  | scanned {p ps scan rest} : ReadsAs t markers p scan → scan.failure? = none →
      ScansInOrder t markers ps rest → ScansInOrder t markers (p :: ps) ((p, scan) :: rest)

/-- The lines about a scanned source: one that names it, and one for every marker that its scan has
found. -/
def reportLines (source : Path × Scan) : List String :=
  ("INFO gendefs::scan: scanning " ++ Log.shown source.1.text) ::
    source.2.findings.map fun f => "INFO gendefs::scan:   " ++ f.announcement.report

def ReportsAs (events : List Log.Event) (lines : List String) : Prop :=
  (∀ e ∈ events, e.isReport = true) ∧ events.map Log.Event.lineWithTarget = lines

theorem ReportsAs.append {events events' : List Log.Event} {lines lines' : List String}
    (h : ReportsAs events lines) (h' : ReportsAs events' lines') :
    ReportsAs (events ++ events') (lines ++ lines') :=
  ⟨List.forall_mem_append.2 ⟨h.1, h'.1⟩, by rw [List.map_append, h.2, h'.2]⟩

section
variable {t : FileTree} {markers : Markers}

theorem exists_scansInOrder (ps : List Path) : ∃ scanned, ScansInOrder t markers ps scanned := by
  induction ps with
  | nil => exact ⟨[], .done⟩
  | cons p ps ih =>
    by_cases hreads : ∃ scan, ReadsAs t markers p scan
    · obtain ⟨scan, hreads⟩ := hreads
      cases hfailure : scan.failure? with
      | some f => exact ⟨_, .failed hreads hfailure⟩
      | none =>
        obtain ⟨rest, hrest⟩ := ih
        exact ⟨_, .scanned hreads hfailure hrest⟩
    · exact ⟨[], .unread hreads⟩

namespace Fragments

theorem readSource_of_readsAs {f : Fragments} {p : Path} {scan : Scan}
    (h : ReadsAs t f.markers p scan) :
    (f.readSource t true p).result = scan.count ∧
      (f.readSource t true p).fragments.markers = f.markers ∧
      ReportsAs (f.readSource t true p).events (reportLines (p, scan)) := by
  obtain ⟨bytes, name, hread, hname, rfl⟩ := h
  have hmarker : ∀ found ∈ (Scan.ofText f.markers name (decodeLossy bytes)).findings,
      (Log.Event.marker true name found.line found.announcement found.guard).lineWithTarget =
        "INFO gendefs::scan:   " ++ found.announcement.report :=
    fun found hfound => (Scan.wellNamed_of_mem_findings found hfound).lineWithTarget_marker ..
  unfold readSource
  simp only [hread, hname]
  refine ⟨rfl, rfl, List.forall_mem_cons.2 ⟨rfl, List.forall_mem_map.2 fun _ _ => rfl⟩, ?_⟩
  simp only [readText, addSource, Scan.events, List.map_cons, List.map_map, reportLines,
    lineWithTarget_scanning]
  exact congrArg _ (List.map_congr_left hmarker)

theorem readSource_of_not_readsAs {f : Fragments} {p : Path}
    (h : ¬∃ scan, ReadsAs t f.markers p scan) (verbose : Bool) :
    (f.readSource t verbose p).events = [] ∧
      ∃ failure, (f.readSource t verbose p).result = .error failure := by
  unfold readSource
  cases hread : t.read p with
  | error e => exact ⟨rfl, _, rfl⟩
  | ok bytes =>
    cases hname : p.fileName? with
    | none => exact ⟨rfl, _, rfl⟩
    | some name => exact absurd ⟨_, bytes, name, hread, hname, rfl⟩ h

/-- A verbose run reports every source that it scans, and every marker, in order. -/
theorem readSources_reportsAs {ps : List Path} {scanned : List (Path × Scan)} {f : Fragments}
    (h : ScansInOrder t markers ps scanned) (hmarkers : f.markers = markers) :
    ReportsAs (f.readSources t true ps).events (scanned.flatMap reportLines) := by
  induction h generalizing f with
  | done => exact ⟨List.forall_mem_nil _, rfl⟩
  | unread hnot =>
    subst hmarkers
    obtain ⟨hevents, failure, hresult⟩ := readSource_of_not_readsAs hnot true
    simp only [readSources, hresult, hevents]
    exact ⟨List.forall_mem_nil _, rfl⟩
  | @failed p ps scan failure hreads hfailure =>
    subst hmarkers
    obtain ⟨hresult, -, hreports⟩ := readSource_of_readsAs hreads
    have herror : scan.count = .error failure := by simp only [Scan.count, hfailure]
    simpa only [readSources, hresult, herror, List.flatMap_singleton] using hreports
  | @scanned p ps scan rest hreads hfailure _ ih =>
    subst hmarkers
    obtain ⟨hresult, hkept, hreports⟩ := readSource_of_readsAs hreads
    have hok : scan.count = .ok scan.findings.length := by simp only [Scan.count, hfailure]
    simp only [readSources, hresult, hok, List.flatMap_cons]
    exact hreports.append (ih hkept)

end Fragments

end

/-! ### The reports of a run -/

namespace Effect

def reports {α : Type} (e : Effect α) : List Log.Event :=
  e.events.filter Log.Event.isReport

variable {α β : Type} {e : Effect α} {next : FileTree → α → Effect β}

theorem reports_report (events : List Log.Event) :
    (e.report events).reports = events.filter Log.Event.isReport ++ e.reports :=
  List.filter_append ..

theorem reports_andThen (h : ∀ t a, (next t a).reports = []) :
    (e.andThen next).reports = e.reports := by
  unfold andThen
  cases e.result with
  | error f => rfl
  | ok a =>
    dsimp only
    rw [reports_report, h, List.append_nil]
    rfl

end Effect

namespace Staged

theorem filter_isReport_retract (faults : Faults) (paths : List Path) (t : FileTree) :
    (retract faults paths t).2.filter Log.Event.isReport = [] := by
  induction paths generalizing t with
  | nil => rfl
  | cons p paths ih =>
    unfold retract
    split
    · exact ih _
    · exact ih _

theorem reports_replaceAll (faults : Faults) (staged : List Staged) (replaced : List Path)
    (t : FileTree) :
    (replaceAll faults staged replaced t).reports = [] := by
  induction staged generalizing replaced t with
  | nil => rfl
  | cons s rest ih =>
    unfold replaceAll
    split
    · exact filter_isReport_retract faults replaced t
    · rw [Effect.reports_report, ih]
      rfl

end Staged

theorem Fragments.reports_publish (f : Fragments) (now : Time) (paths : List Path)
    (t : FileTree) (faults : Faults) : (f.publish now paths t faults).reports = [] := by
  unfold publish
  split
  · rfl
  · split
    · rfl
    · exact Staged.reports_replaceAll ..

section
variable {c : Config} {base : Path} {o : Options} {now : Time} {t : FileTree} {faults : Faults}

theorem reports_generate_of_ok {inputs sources : List Path} {stamp : String}
    (hinputs : c.inputFiles t base = .ok inputs) (hsources : c.scanFiles t base = .ok sources)
    (hstamp : headerStamp t o.second? inputs = .ok stamp) :
    (generate c base o now t faults).reports =
      ((Fragments.start c.markers stamp).readSources t o.verbose sources).events.filter
        Log.Event.isReport := by
  unfold generate draft
  simp only [hinputs, hsources, hstamp]
  cases hresult : ((Fragments.start c.markers stamp).readSources t o.verbose sources).result with
  | error f => rfl
  | ok markers =>
    dsimp only
    rw [Effect.reports_report, Effect.reports_andThen fun _ _ => rfl, Fragments.reports_publish,
      List.append_nil]

theorem reports_generate_of_stamp_error {inputs : List Path} {f : Failure}
    (hinputs : c.inputFiles t base = .ok inputs)
    (hstamp : headerStamp t o.second? inputs = .error f) :
    (generate c base o now t faults).reports = [] := by
  obtain ⟨-, sources, -, hsources, -⟩ := Config.inputFiles_eq_ok hinputs
  unfold generate draft
  simp only [hinputs, hsources, hstamp]
  rfl

theorem reports_ensureFresh_cases {inputs : List Path} (h : c.inputFiles t base = .ok inputs)
    (o : Options) (now : Time) (faults : Faults) :
    ((o.force = false ∧ ∀ p ∈ c.outputPaths base o.outputDir?, IsCurrent t inputs p) ∧
        (ensureFresh c base o now t faults).reports = []) ∨
      (¬(o.force = false ∧ ∀ p ∈ c.outputPaths base o.outputDir?, IsCurrent t inputs p) ∧
        (ensureFresh c base o now t faults).reports = (generate c base o now t faults).reports) := by
  have hgenerated : ∀ events : List Log.Event, events.filter Log.Event.isReport = [] →
      (((generate c base o now t faults).andThen fun t summary =>
        .done t (Outcome.generated summary)).report events).reports =
          (generate c base o now t faults).reports := by
    intro events hevents
    rw [Effect.reports_report, hevents]
    exact Effect.reports_andThen fun _ _ => rfl
  obtain ⟨verdict, hcheck, hfresh, -⟩ :=
    check_eq_ok (exists_modified h) (c.outputPaths base o.outputDir?)
  unfold ensureFresh
  simp only [h, hcheck]
  cases hforce : o.force with
  | true => exact Or.inr ⟨by simp, hgenerated [] rfl⟩
  | false =>
    cases verdict with
    | fresh => exact Or.inl ⟨⟨rfl, hfresh.1 rfl⟩, rfl⟩
    | stale p reason =>
      exact Or.inr ⟨fun hall => Staleness.noConfusion (hfresh.2 hall.2), hgenerated _ rfl⟩

theorem reports_libraries (outputDir? : Option Path) (source : Library.ReleaseSource)
    (answer : Option Library.ProgramOutput) :
    (libraries c base outputDir? source answer t).reports = [] := by
  unfold libraries resolveFile resolveText
  split
  · rfl
  · split
    · rfl
    · split <;> rfl

end

/-! ### The log of an invocation -/

namespace CommandLine

/-- An invocation comes to scan these files: what it needs before can be had, and it is forced to
generate or some output is not current. -/
structure ComesToScan (a : Arguments) (s : Surroundings) (t : FileTree) (c : Config)
    (sources : List Path) : Prop where
  loaded : loadForRun t a.config = .ok c
  listed : c.scanFiles t (baseOf a.config) = .ok sources
  due : ∃ second inputs stamp, headerSecond s.epoch? = .ok second ∧
    c.inputFiles t (baseOf a.config) = .ok inputs ∧ headerStamp t second inputs = .ok stamp ∧
    ¬(a.force = false ∧
      ∀ p ∈ c.outputPaths (baseOf a.config) a.outputDir?, IsCurrent t inputs p)

section
variable {a : Arguments} {s : Surroundings} {now : Time} {t : FileTree} {c : Config}
  {faults : Faults}

theorem reports_work {second : Option Int} (hsecond : headerSecond s.epoch? = .ok second)
    (hload : loadForRun t a.config = .ok c) :
    let o : Options := ⟨a.verbose, a.force, a.outputDir?, second⟩
    (work a s now t faults).reports = (ensureFresh c (baseOf a.config) o now t faults).reports := by
  unfold work
  simp only [hsecond, hload]
  refine Effect.reports_andThen fun t _ => ?_
  split
  · exact reports_libraries ..
  · rfl

theorem reports_work_of_comesToScan {sources : List Path} (h : ComesToScan a s t c sources)
    (now : Time) (faults : Faults) :
    ∃ stamp, (work a s now t faults).reports =
      ((Fragments.start c.markers stamp).readSources t a.verbose sources).events.filter
        Log.Event.isReport := by
  obtain ⟨hload, hlisted, second, inputs, stamp, hsecond, hinputs, hstamp, hdue⟩ := h
  refine ⟨stamp, ?_⟩
  rw [reports_work hsecond hload]
  rcases reports_ensureFresh_cases hinputs ⟨a.verbose, a.force, a.outputDir?, second⟩ now faults with
    ⟨hcurrent, -⟩ | ⟨-, hreports⟩
  · exact absurd hcurrent hdue
  · rw [hreports]
    exact reports_generate_of_ok hinputs hlisted hstamp

theorem reports_work_of_not_comesToScan (h : ¬∃ c sources, ComesToScan a s t c sources) :
    (work a s now t faults).reports = [] := by
  cases hsecond : headerSecond s.epoch? with
  | error f =>
    unfold work
    rw [hsecond]
    rfl
  | ok second =>
    cases hload : loadForRun t a.config with
    | error f =>
      unfold work
      rw [hsecond, hload]
      rfl
    | ok c =>
      rw [reports_work hsecond hload]
      cases hinputs : c.inputFiles t (baseOf a.config) with
      | error f =>
        rw [ensureFresh_of_error hinputs]
        rfl
      | ok inputs =>
        rcases reports_ensureFresh_cases hinputs ⟨a.verbose, a.force, a.outputDir?, second⟩ now
            faults with ⟨-, hnone⟩ | ⟨hdue, hreports⟩
        · exact hnone
        · rw [hreports]
          cases hstamp : headerStamp t second inputs with
          | error f => exact reports_generate_of_stamp_error hinputs hstamp
          | ok stamp =>
            obtain ⟨-, sources, -, hsources, -⟩ := Config.inputFiles_eq_ok hinputs
            exact absurd ⟨c, sources, hload, hsources, second, inputs, stamp, hsecond, hinputs,
              hstamp, hdue⟩ h

def logLines (a : Arguments) (s : Surroundings) (now : Time) (t : FileTree) (faults : Faults) :
    List String :=
  ((work a s now t faults).events.filter
    (Log.Filter.forInvocation s.logFilter? a.verbose).enables).map Log.Event.lineWithTarget

/-- A line that looks like a report. -/
def isReportLine (line : String) : Bool :=
  Log.Event.reportHead.toList.isPrefixOf line.toList

theorem filter_isReportLine (events : List Log.Event) :
    (events.map Log.Event.lineWithTarget).filter isReportLine =
      (events.filter Log.Event.isReport).map Log.Event.lineWithTarget := by
  have hreport : isReportLine ∘ Log.Event.lineWithTarget = Log.Event.isReport := by
    funext e
    rw [Bool.eq_iff_iff, Log.Event.isReport_iff_prefix]
    exact List.isPrefixOf_iff_prefix
  rw [List.filter_map, hreport]

/-- Of the reports of a verbose run the log shows all or none. -/
theorem filter_logLines (ha : a.verbose = true) (s : Surroundings) (now : Time) (t : FileTree)
    (faults : Faults) :
    ((Log.Filter.given s.logFilter?).ShowsReports →
      (logLines a s now t faults).filter isReportLine =
        (work a s now t faults).reports.map Log.Event.lineWithTarget) ∧
    (¬(Log.Filter.given s.logFilter?).ShowsReports →
      (logLines a s now t faults).filter isReportLine = []) := by
  unfold logLines Effect.reports
  rw [ha, filter_isReportLine, List.filter_filter]
  constructor
  · intro hshows
    refine congrArg _ (List.filter_congr fun e _ => ?_)
    cases he : e.isReport with
    | false => rfl
    | true => exact (Log.Filter.enables_forInvocation_iff _ he).2 hshows
  · intro hnot
    refine List.map_eq_nil_iff.2 (List.filter_eq_nil_iff.2 fun e _ hboth => ?_)
    obtain ⟨he, henables⟩ := Bool.and_eq_true_iff.1 hboth
    exact hnot ((Log.Filter.enables_forInvocation_iff _ he).1 henables)

/-- A text has a line, which a line feed ends and which nothing but a line feed precedes. -/
def HasLine (text line : String) : Prop :=
  ∃ before after : String, text = before ++ line ++ "\n" ++ after ∧
    (before = "" ∨ ∃ front, before = front ++ "\n")

theorem hasLine_of_mem {lines : List String} {line : String} (h : line ∈ lines) (tail : String) :
    HasLine (String.join (lines.map (· ++ "\n")) ++ tail) line := by
  obtain ⟨before, after, rfl⟩ := List.append_of_mem h
  refine ⟨String.join (before.map (· ++ "\n")), String.join (after.map (· ++ "\n")) ++ tail, ?_, ?_⟩
  · simp [String.append_assoc]
  · rcases List.eq_nil_or_concat before with rfl | ⟨front, x, rfl⟩
    · exact Or.inl rfl
    · refine Or.inr ⟨String.join (front.map (· ++ "\n")) ++ x, ?_⟩
      simp [String.append_assoc]

theorem stderr_runArguments (a : Arguments) (s : Surroundings) (now : Time) (t : FileTree)
    (faults : Faults) :
    ∃ tail, (runArguments a s now t faults).stderr =
        String.join ((logLines a s now t faults).map (· ++ "\n")) ++ tail ∧
      (tail = "" ∨ ∃ f, tail = failureReport f) := by
  have hlog : logText (Log.Filter.forInvocation s.logFilter? a.verbose) (work a s now t faults).events =
      String.join ((logLines a s now t faults).map (· ++ "\n")) := by
    unfold logText logLines
    rw [List.map_map]
    rfl
  unfold runArguments
  dsimp only
  rw [hlog]
  cases (work a s now t faults).result with
  | error f => exact ⟨_, rfl, Or.inr ⟨f, rfl⟩⟩
  | ok names => exact ⟨"", String.append_empty.symm, Or.inl rfl⟩

theorem execute_run {arguments : List String} (hparse : parse {} arguments = some (.run a)) :
    execute arguments s now t faults = runArguments a s now t faults := by
  unfold execute
  rw [hparse]

/-- A verbose invocation that comes to scan writes a line for every source that it scans and for
every marker that it finds, in order, if its filter shows reports. If the filter does not show them,
or if nothing is scanned, the log has no such line. -/
theorem verbose_shows_all_or_none {arguments : List String}
    (hparse : parse {} arguments = some (.run a)) (ha : a.verbose = true) (s : Surroundings)
    (now : Time) (t : FileTree) (faults : Faults) :
    let stderr := (execute arguments s now t faults).stderr
    let reported := (logLines a s now t faults).filter isReportLine
    (∃ tail, stderr = String.join ((logLines a s now t faults).map (· ++ "\n")) ++ tail ∧
      (tail = "" ∨ ∃ f, tail = failureReport f)) ∧
    (∀ c sources, ComesToScan a s t c sources →
      (∃ scanned, ScansInOrder t c.markers sources scanned) ∧
      ∀ scanned, ScansInOrder t c.markers sources scanned →
        (Log.Filter.given s.logFilter?).ShowsReports →
          reported = scanned.flatMap reportLines ∧
            ∀ source ∈ scanned, ∀ line ∈ reportLines source, HasLine stderr line) ∧
    (¬(Log.Filter.given s.logFilter?).ShowsReports ∨ (¬∃ c sources, ComesToScan a s t c sources) →
      reported = []) := by
  intro stderr reported
  obtain ⟨hshown, hhidden⟩ := filter_logLines ha s now t faults
  obtain ⟨tail, hstderr, htail⟩ := stderr_runArguments a s now t faults
  rw [← execute_run hparse] at hstderr
  refine ⟨⟨tail, hstderr, htail⟩, fun c sources hscans => ⟨exists_scansInOrder sources, ?_⟩, ?_⟩
  · intro scanned hscanned hshows
    obtain ⟨stamp, hreports⟩ := reports_work_of_comesToScan hscans now faults
    rw [ha] at hreports
    obtain ⟨hall, hlines⟩ :=
      Fragments.readSources_reportsAs (f := Fragments.start c.markers stamp) hscanned rfl
    have hreported : reported = scanned.flatMap reportLines := by
      show (logLines a s now t faults).filter isReportLine = scanned.flatMap reportLines
      rw [hshown hshows, hreports, List.filter_eq_self.2 hall, hlines]
    refine ⟨hreported, fun source hsource line hline => ?_⟩
    have hmem : line ∈ reported := by
      rw [hreported]
      exact List.mem_flatMap.2 ⟨source, hsource, hline⟩
    show HasLine (execute arguments s now t faults).stderr line
    rw [hstderr]
    exact hasLine_of_mem (List.mem_filter.1 hmem).1 tail
  · intro hquiet
    by_cases hshows : (Log.Filter.given s.logFilter?).ShowsReports
    · have hnone := hquiet.resolve_left (not_not_intro hshows)
      show (logLines a s now t faults).filter isReportLine = []
      rw [hshown hshows, reports_work_of_not_comesToScan hnone]
      rfl
    · exact hhidden hshows

end

/-- One source with one marker, and nothing that was generated. -/
def markedTree : FileTree :=
  (sampleTree.set ["a.c", "src"] (.file "EXPCONST(int FOO)\n".toUTF8 (.new (.ofSeconds 5 0)))).set
    ["gendefs.toml"] (.file "[source]\ndir = \"src\"\n".toUTF8 (.new (.ofSeconds 3 0)))

def markedScan : Scan :=
  ⟨[⟨1, .constant .always .int "FOO", ""⟩], none⟩

theorem comesToScan_markedTree (logFilter? : Option String) :
    ComesToScan { verbose := true } { logFilter? := logFilter? } markedTree sampleConfig
        [⟨"src/a.c"⟩] ∧
      ScansInOrder markedTree sampleConfig.markers [⟨"src/a.c"⟩] [(⟨"src/a.c"⟩, markedScan)] := by
  have hmissing :
      ¬IsCurrent markedTree [⟨"src/a.c"⟩] (sampleConfig.outputPath ⟨""⟩ none .sources) := by
    rintro ⟨m, hopens, -⟩
    have hnone : markedTree.modified (sampleConfig.outputPath ⟨""⟩ none .sources) =
        .error .notFound := by
      decide +kernel
    exact absurd (hnone.symm.trans hopens.modified) (by simp)
  have hload : loadForRun markedTree ⟨"gendefs.toml"⟩ = .ok sampleConfig := by decide +kernel
  have hfiles : sampleConfig.inputFiles markedTree ⟨""⟩ = .ok [⟨"src/a.c"⟩] ∧
      sampleConfig.scanFiles markedTree ⟨""⟩ = .ok [⟨"src/a.c"⟩] := by
    decide +kernel
  have hstamp : headerStamp markedTree none [⟨"src/a.c"⟩] = .ok (Calendar.text 5) := by
    decide +kernel
  have hscan : ReadsAs markedTree sampleConfig.markers ⟨"src/a.c"⟩ markedScan :=
    ⟨"EXPCONST(int FOO)\n".toUTF8, "a.c", by decide +kernel, by decide +kernel, by decide +kernel⟩
  refine ⟨⟨hload, hfiles.2, none, _, _, rfl, hfiles.1, hstamp, fun hcurrent => ?_⟩,
    .scanned hscan rfl .done⟩
  exact hmissing (hcurrent.2 _ (List.mem_map_of_mem (by decide)))

theorem verbose_shows_all_or_none_of_quiet_filter :
    parse {} ["--verbose"] = some (.run { verbose := true }) ∧
      (logLines { verbose := true } { logFilter? := some "warn" } (.ofSeconds 9 0) markedTree
        .none).filter isReportLine =
          ["INFO gendefs::scan: scanning src/a.c", "INFO gendefs::scan:   Constant: int FOO"] ∧
      HasLine (execute ["--verbose"] { logFilter? := some "warn" } (.ofSeconds 9 0)
        markedTree).stderr "INFO gendefs::scan:   Constant: int FOO" := by
  have hparse : parse {} ["--verbose"] = some (.run { verbose := true }) := by decide +kernel
  have hshows : (Log.Filter.given (some "warn")).ShowsReports := by decide +kernel
  obtain ⟨hscans, hscanned⟩ := comesToScan_markedTree (some "warn")
  obtain ⟨-, hreports, -⟩ := verbose_shows_all_or_none hparse rfl { logFilter? := some "warn" }
    (.ofSeconds 9 0) markedTree .none
  obtain ⟨hlines, hstderr⟩ := (hreports _ _ hscans).2 _ hscanned hshows
  have hpair : [((⟨"src/a.c"⟩ : Path), markedScan)].flatMap reportLines =
      ["INFO gendefs::scan: scanning src/a.c", "INFO gendefs::scan:   Constant: int FOO"] := by
    decide +kernel
  refine ⟨hparse, hlines.trans hpair, hstderr _ (List.mem_singleton_self _) _ ?_⟩
  decide +kernel

/-- A directive about another program keeps the one for this program away, and a verbose invocation
is silent about its own work. -/
theorem not_forall_verbose_hasLine :
    ¬∀ (arguments : List String) (a : Arguments) (s : Surroundings) (now : Time) (t : FileTree)
        (c : Config) (sources : List Path) (scanned : List (Path × Scan)),
      parse {} arguments = some (.run a) → a.verbose = true → ComesToScan a s t c sources →
      ScansInOrder t c.markers sources scanned →
      ∀ source ∈ scanned, ∀ line ∈ reportLines source,
        HasLine (execute arguments s now t).stderr line := by
  intro hall
  have hparse : parse {} ["--verbose"] = some (.run { verbose := true }) := by decide +kernel
  obtain ⟨hscans, hscanned⟩ := comesToScan_markedTree (some "warn,other=debug")
  have hsilent : (execute ["--verbose"] { logFilter? := some "warn,other=debug" } (.ofSeconds 9 0)
      markedTree).stderr = "" := by
    decide +kernel
  obtain ⟨before, after, htext, -⟩ := hall _ _ _ (.ofSeconds 9 0) _ _ _ _ hparse rfl hscans hscanned
    _ (List.mem_singleton_self _) _ (List.mem_cons_self ..)
  rw [hsilent] at htext
  simpa using congrArg String.toList htext

end CommandLine

end DefFragments
