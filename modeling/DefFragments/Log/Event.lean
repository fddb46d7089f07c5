import DefFragments.Announcement
import DefFragments.FileTree.Error
import DefFragments.Path
import DefFragments.Text.Quoted

/-!
# Log events

What a run reports while it works. An event has a level, the part of the program that reports it, a
message and named values.
-/

namespace DefFragments.Log

/-- How much an event matters, the most important first. -/
inductive Level
  | error
  | warn
  | info
  | debug
  | trace
  deriving DecidableEq, Inhabited

namespace Level

def rank : Level → Nat
  | .error => 1
  | .warn => 2
  | .info => 3
  | .debug => 4
  | .trace => 5

def name : Level → String
  | .error => "ERROR"
  | .warn => "WARN"
  | .info => "INFO"
  | .debug => "DEBUG"
  | .trace => "TRACE"

end Level

inductive StaleReason
  | missing
  | outdated
  deriving DecidableEq, Inhabited

def StaleReason.name : StaleReason → String
  | .missing => "Missing"
  | .outdated => "Outdated"

inductive Event
  | upToDate (outputs : Nat)
  | stale (output : Path) (reason : StaleReason)
  /-- Generation begins, since an output is stale. -/
  | generating (output : Path) (reason : StaleReason)
  /-- A source is scanned; `verbose` runs tell so. -/
  | scanning (verbose : Bool) (source : Path)
  | marker (verbose : Bool) (file : String) (line : Nat) (announcement : Announcement)
      (guard : String)
  | published (path : Path)
  /-- A fragment that had taken its place could not be removed. -/
  | leftBehind (path : Path) (e : FileError)
  | wrote (sources markers : Nat) (dir : Path)
  | resolved (release count : Nat)
  deriving DecidableEq

namespace Event

def level : Event → Level
  | .upToDate _ => .debug
  | .stale _ _ => .debug
  | .generating _ _ => .info
  | .scanning verbose _ => if verbose then .info else .debug
  | .marker verbose _ _ _ _ => if verbose then .info else .trace
  | .published _ => .debug
  | .leftBehind _ _ => .warn
  | .wrote _ _ _ => .info
  | .resolved _ _ => .debug

def target : Event → String
  | .upToDate _ => "gendefs"
  | .stale _ _ => "gendefs::stale"
  | .generating _ _ => "gendefs"
  | .scanning _ _ => "gendefs::scan"
  | .marker _ _ _ _ _ => "gendefs::scan"
  | .published _ => "gendefs::emit"
  | .leftBehind _ _ => "gendefs::emit"
  | .wrote _ _ _ => "gendefs"
  | .resolved _ _ => "gendefs::libdeps"

def message : Event → String
  | .upToDate _ => "fragments are up to date"
  | .stale _ _ => "output is stale"
  | .generating _ _ => "generating definition files"
  | .scanning verbose source =>
    if verbose then "scanning " ++ source.text else "scanning source"
  | .marker verbose _ _ announcement _ =>
    if verbose then "  " ++ announcement.report else "marker"
  | .published _ => "published fragment"
  | .leftBehind _ _ => "failed to remove partial output"
  | .wrote _ _ _ => "wrote definition files"
  | .resolved _ _ => "resolved libraries"

def fields : Event → List (String × String)
  | .upToDate outputs => [("outputs", toString outputs)]
  | .stale output reason => [("output", output.text), ("reason", reason.name)]
  | .generating output reason => [("output", output.text), ("reason", reason.name)]
  | .scanning verbose source => if verbose then [] else [("path", source.text)]
  | .marker verbose file line announcement guard =>
    if verbose then []
    else [("file", Text.quoted file), ("line", toString line), ("annotation", announcement.report),
      ("guard", guard)]
  | .published path => [("path", path.text)]
  | .leftBehind path e => [("path", path.text), ("err", e.message)]
  | .wrote sources markers dir =>
    [("sources", toString sources), ("markers", toString markers), ("dir", dir.text)]
  | .resolved release count => [("version", toString release), ("count", toString count)]

/-- A character of a message as a log shows it: one that could steer a terminal is written by its
code point. -/
def messageChar (c : Char) : List Char :=
  let n := c.toNat
  if n = 0x7 ∨ n = 0x8 ∨ n = 0xC ∨ n = 0x1B ∨ n = 0x7F then
    '\\' :: 'x' :: (if n < 0x10 then ['0'] else []) ++ Text.hexDigits n
  else if 0x80 ≤ n ∧ n ≤ 0x9F then "\\u\x7b".toList ++ Text.hexDigits n ++ ['\x7d']
  else [c]

def content (e : Event) : String :=
  " ".intercalate (String.ofList (e.message.toList.flatMap messageChar)
    :: e.fields.map fun f => f.1 ++ "=" ++ f.2)

/-- The line of an event in a log that does not show where events come from. -/
def line (e : Event) : String :=
  e.level.name ++ " " ++ e.content

def lineWithTarget (e : Event) : String :=
  e.level.name ++ " " ++ e.target ++ ": " ++ e.content

end Event

end DefFragments.Log
