import DefFragments.Config.Decode
import DefFragments.Config.Selection
import DefFragments.Effect
import DefFragments.Fragment.Publication
import DefFragments.Generation.Staleness
import DefFragments.Library.Release
import DefFragments.Library.Resolution
import DefFragments.Source.Scan
import DefFragments.Text.Lossy
import DefFragments.Time.Calendar

/-!
# Generating fragments

A generation scans every selected source, collects the fragments in memory, and publishes them only
when no scan failed. `ensureFresh` generates only if an output is stale, unless it is forced to.
-/

namespace DefFragments

/-- What an invocation asks for beyond the configuration. -/
structure Options where
  /-- Report every scanned file and every marker. -/
  verbose : Bool := false
  force : Bool := false
  /-- Where the fragments go, instead of the configured directory. -/
  outputDir? : Option Path := none
  /-- The second that headers show, instead of that of the newest input. -/
  second? : Option Int := none
  deriving DecidableEq, Inhabited

structure Summary where
  sources : Nat
  markers : Nat
  outputs : List Path
  deriving DecidableEq

inductive Outcome
  | upToDate
  | generated (summary : Summary)
  deriving DecidableEq

/-! ### Sources -/

/-- What reading a source adds to the fragments, what it reports, and the number of its markers. -/
structure Reading where
  fragments : Fragments
  events : List Log.Event
  result : Except Failure Nat

namespace Scan

def events (verbose : Bool) (file : String) (s : Scan) : List Log.Event :=
  s.findings.map fun f => .marker verbose file f.line f.announcement f.guard

def entries (s : Scan) : List Entry :=
  s.findings.map Finding.entry

end Scan

namespace Fragments

def readText (f : Fragments) (verbose : Bool) (file text : String) : Reading :=
  let scan := Scan.ofText f.markers file text
  ⟨f.addEntries scan.entries, scan.events verbose file, scan.count⟩

def readSource (f : Fragments) (t : FileTree) (verbose : Bool) (p : Path) : Reading :=
  match t.read p with
  | .error e => ⟨f, [], .error (.during (.readingSource p) (.file e))⟩
  | .ok bytes =>
    match p.fileName? with
    | none => ⟨f, [], .error (.ofCause (.noFileName p))⟩
    | some name =>
      let reading := (f.addSource name).readText verbose name (Text.decodeLossy bytes)
      { reading with events := .scanning verbose p :: reading.events }

def readSources (f : Fragments) (t : FileTree) (verbose : Bool) : List Path → Reading
  | [] => ⟨f, [], .ok 0⟩
  | p :: ps =>
    let first := f.readSource t verbose p
    match first.result with
    | .error _ => first
    | .ok n =>
      let rest := first.fragments.readSources t verbose ps
      ⟨rest.fragments, first.events ++ rest.events, rest.result.map (n + ·)⟩

end Fragments

/-! ### Generation -/

/-- The text of the time that headers show: the given second, or else that of the newest input, or
else the epoch. A given second that no date can show is a failure. A file time that no date can show
would end the program here; that is not modelled. -/
def headerStamp (t : FileTree) (second? : Option Int) (inputs : List Path) :
    Except Failure String :=
  match second? with
  | some second =>
    match Calendar.text? second with
    | none => .error (.ofCause (.timeOutOfRange second))
    | some text => .ok text
  | none => (newestTime t inputs).map fun newest => Calendar.text (newest.getD .epoch).seconds

/-- What a generation will publish, before anything is written. -/
structure Draft where
  fragments : Fragments
  events : List Log.Event
  /-- The number of sources and of markers. -/
  counts : Nat × Nat

/-- Collect the fragments of all selected sources. A failure comes with the events before it. -/
def draft (c : Config) (base : Path) (o : Options) (t : FileTree) :
    Except (Failure × List Log.Event) Draft :=
  match c.inputFiles t base with
  | .error f => .error (f, [])
  | .ok inputs =>
    match c.scanFiles t base with
    | .error f => .error (f, [])
    | .ok sources =>
      match headerStamp t o.second? inputs with
      | .error f => .error (f, [])
      | .ok stamp =>
        let reading := (Fragments.start c.markers stamp).readSources t o.verbose sources
        match reading.result with
        | .error f => .error (f, reading.events)
        | .ok markers => .ok ⟨reading.fragments, reading.events, (sources.length, markers)⟩

def reportedDir (outputs : List Path) : Path :=
  match outputs with
  | [] => ⟨"."⟩
  | p :: _ => p.parent?.getD ⟨"."⟩

def generate (c : Config) (base : Path) (o : Options) (now : Time) (t : FileTree)
    (faults : Faults := .none) : Effect Summary :=
  match draft c base o t with
  | .error (f, events) => ⟨t, events, .error f⟩
  | .ok d =>
    let outputs := c.outputPaths base o.outputDir?
    let published := d.fragments.publish now outputs t faults
    (published.andThen fun t _ =>
      ⟨t, [.wrote d.counts.1 d.counts.2 (reportedDir outputs)],
        .ok ⟨d.counts.1, d.counts.2, outputs⟩⟩).report d.events

/-- Generate the fragments if one of them is stale, or if the options force it. -/
def ensureFresh (c : Config) (base : Path) (o : Options) (now : Time) (t : FileTree)
    (faults : Faults := .none) : Effect Outcome :=
  let generated (events : List Log.Event) : Effect Outcome :=
    ((generate c base o now t faults).andThen fun t summary => .done t (.generated summary)).report events
  match c.inputFiles t base with
  | .error f => .failed t f
  | .ok inputs =>
    if o.force then generated []
    else
      let outputs := c.outputPaths base o.outputDir?
      match Staleness.check t inputs outputs with
      | .error f => .failed t f
      | .ok .fresh => ⟨t, [.upToDate outputs.length], .ok .upToDate⟩
      | .ok (.stale output reason) =>
        generated [.stale output reason, .generating output reason]

def baseOf (config : Path) : Path :=
  config.parent?.getD ⟨"."⟩

def loadForRun (t : FileTree) (config : Path) : Except Failure Config :=
  match Config.load t config with
  | .error f => .error (f.within (.loadingConfig config))
  | .ok c => .ok c

def run (config : Path) (o : Options) (now : Time) (t : FileTree) (faults : Faults := .none) :
    Effect Outcome :=
  match loadForRun t config with
  | .error f => .failed t f
  | .ok c => ensureFresh c (baseOf config) o now t faults

/-! ### Libraries -/

def resolveText (t : FileTree) (text versionSymbol : String) (source : Library.ReleaseSource)
    (answer : Option Library.ProgramOutput) : Effect (List String) :=
  match source.release answer with
  | .error f => .failed t f
  | .ok release =>
    match Library.resolve text versionSymbol release with
    | .error f => .failed t f
    | .ok names => ⟨t, [.resolved release names.length], .ok names⟩

def resolveFile (t : FileTree) (p : Path) (versionSymbol : String) (source : Library.ReleaseSource)
    (answer : Option Library.ProgramOutput) : Effect (List String) :=
  match t.readText p with
  | .error e => .failed t (.during (.readingFragment p) (.file e))
  | .ok text => resolveText t text versionSymbol source answer

def libraries (c : Config) (base : Path) (outputDir? : Option Path)
    (source : Library.ReleaseSource) (answer : Option Library.ProgramOutput) (t : FileTree) :
    Effect (List String) :=
  resolveFile t (c.outputPath base outputDir? .libraries) c.markers.versionSymbol source answer

end DefFragments
