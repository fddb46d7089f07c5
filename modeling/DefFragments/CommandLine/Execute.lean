import DefFragments.CommandLine.Arguments
import DefFragments.Generation.Run
import DefFragments.Log.Filter

/-!
# Executing a command line

What a whole invocation prints and leaves behind. Events and the report of a failure go to standard
error, the libraries to standard output, and only when everything has succeeded.
-/

namespace DefFragments.CommandLine

structure Surroundings where
  /-- The variable with the second that headers show. -/
  epoch? : Option String := none
  logFilter? : Option String := none
  /-- What the program that knows the release answers; it may be missing. -/
  kernel : Option Library.ProgramOutput := none

structure Report where
  tree : FileTree
  exit : Nat
  stdout : String
  stderr : String

def usage : String :=
  "Usage: gendefs [OPTIONS] [CONFIG]\n"

def helpText : String :=
  usage
    ++ "\nArguments:\n"
    ++ "  [CONFIG]  Path to the configuration file [default: gendefs.toml]\n"
    ++ "\nOptions:\n"
    ++ "  -v, --verbose                  Print every scanned file and recognized marker\n"
    ++ "  -f, --force                    Regenerate even if the fragments are up to date\n"
    ++ "  -o, --output-dir <OUTPUT_DIR>  Output directory (overrides config)\n"
    ++ "      --libraries                Print the libraries to link against, one per line\n"
    ++ "      --osreldate <OSRELDATE>    OS release to evaluate library guards against\n"
    ++ "  -h, --help                     Print help\n"
    ++ "  -V, --version                  Print version\n"

def versionText : String := "gendefs 0.1.0\n"

def indented (first others text : String) : String :=
  first ++ String.ofList (text.toList.flatMap fun c =>
    if c = '\n' then '\n' :: others.toList else [c])

/-- The causes of a failure below its outermost message, each on lines of its own. Several causes
are numbered. -/
def causeLines (causes : List String) : String :=
  match causes with
  | [cause] => "\n" ++ indented "    " "    " cause
  | causes =>
    String.join (causes.zipIdx.map fun c =>
      "\n" ++ indented (Calendar.padded ' ' 5 c.2 ++ ": ") "       " c.1)

def failureReport (f : Failure) : String :=
  match f.messages with
  | [] => "Error: \n"
  | [message] => "Error: " ++ message ++ "\n"
  | message :: causes => "Error: " ++ message ++ "\n\nCaused by:" ++ causeLines causes ++ "\n"

def logText (filter : Log.Filter) (events : List Log.Event) : String :=
  String.join ((events.filter filter.enables).map fun e => e.lineWithTarget ++ "\n")

/-- The second that headers show, if the variable for it is set. -/
def headerSecond (epoch? : Option String) : Except Failure (Option Int) :=
  match epoch? with
  | none => .ok none
  | some value =>
    match Text.readSigned (Text.trim value.toList) with
    | .error e => .error (.during (.epochVariable value) (.number e))
    | .ok second => .ok (some second)

def work (a : Arguments) (s : Surroundings) (now : Time) (t : FileTree)
    (faults : Faults := .none) : Effect (List String) :=
  match headerSecond s.epoch? with
  | .error f => .failed t f
  | .ok second =>
    match loadForRun t a.config with
    | .error f => .failed t f
    | .ok c =>
      let base := baseOf a.config
      let options : Options := ⟨a.verbose, a.force, a.outputDir?, second⟩
      (ensureFresh c base options now t faults).andThen fun t _ =>
        if a.libraries then
          let source := match a.release? with
            | some release => .fixed release
            | none => .kernel Library.releaseOid
          libraries c base a.outputDir? source s.kernel t
        else .done t []

def runArguments (a : Arguments) (s : Surroundings) (now : Time) (t : FileTree)
    (faults : Faults := .none) : Report :=
  let filter := Log.Filter.forInvocation s.logFilter? a.verbose
  let done := work a s now t faults
  let log := logText filter done.events
  match done.result with
  | .error f => ⟨done.tree, 1, "", log ++ failureReport f⟩
  | .ok names => ⟨done.tree, 0, String.join (names.map (· ++ "\n")), log⟩

/-- Execute a command line. Arguments that are not understood end the invocation with code 2. -/
def execute (arguments : List String) (s : Surroundings) (now : Time) (t : FileTree)
    (faults : Faults := .none) : Report :=
  match parse {} arguments with
  | none => ⟨t, 2, "", usage⟩
  | some .help => ⟨t, 0, helpText, ""⟩
  | some .version => ⟨t, 0, versionText, ""⟩
  | some (.run a) => runArguments a s now t faults

end DefFragments.CommandLine
