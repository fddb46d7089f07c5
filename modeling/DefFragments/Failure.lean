import DefFragments.Conditional.Stack
import DefFragments.FileTree.Error
import DefFragments.Library.Guard
import DefFragments.Marker.Error
import DefFragments.Path
import DefFragments.Text.Number
import DefFragments.Text.Quoted

/-!
# Failures

A failed run reports one cause and the circumstances around it, the outermost first. The wording of
every circumstance is here; each kind of cause words itself.
-/

namespace DefFragments

inductive Circumstance
  | sourceLine (file : String) (line : Nat)
  | marker (file : String) (line : Nat)
  | endOfSource (file : String)
  | fragment
  | fragmentLine (line : Nat)
  | readingSource (path : Path)
  | readingFragment (path : Path)
  | readingDirectory (path : Path)
  | readingTime (path : Path)
  | creatingDirectory (path : Path)
  | staging (dir : Path)
  | writingStaged (path : Path)
  | flushingStaged (path : Path)
  | replacing (path : Path)
  | loadingConfig (path : Path)
  | askingKernel (oid : String)
  | kernelAnswer (oid answer : String)
  | epochVariable (value : String)
  deriving DecidableEq

def Circumstance.message : Circumstance → String
  | .sourceLine file line => file ++ ":" ++ toString line
  | .marker file line => file ++ ":" ++ toString line ++ ": unsupported marker"
  | .endOfSource file => file ++ ": end of file"
  | .fragment => "libraries fragment"
  | .fragmentLine line => "libraries fragment line " ++ toString line
  | .readingSource path => "reading source " ++ path.text
  | .readingFragment path => "reading libraries fragment " ++ path.text
  | .readingDirectory path => "reading source directory " ++ path.text
  | .readingTime path => "reading modification time of " ++ path.text
  | .creatingDirectory path => "creating output directory " ++ path.text
  | .staging dir => "staging output in " ++ dir.text
  | .writingStaged path => "writing staged " ++ path.text
  | .flushingStaged path => "flushing staged " ++ path.text
  | .replacing path => "replacing " ++ path.text
  | .loadingConfig path => "loading config from " ++ path.text
  | .askingKernel oid => "running sysctl -n " ++ oid
  | .kernelAnswer oid answer => "sysctl " ++ oid ++ " returned non-numeric " ++ Text.quoted answer
  | .epochVariable value => "invalid SOURCE_DATE_EPOCH " ++ Text.quoted value

inductive Cause
  | marker (e : MarkerError)
  | nesting (e : Conditional.NestingError)
  | guard (e : Library.GuardError)
  | file (e : FileError)
  | number (e : Text.NumberError)
  | unreadableConfig (path : Path) (e : FileError)
  | malformedConfig (path : Path)
  | timeOutOfRange (second : Int)
  /-- The program that knows the release reports an error. -/
  | kernelRefusal (oid report : String)
  /-- Another number of output paths than there are fragments. -/
  | outputCount (expected count : Nat)
  /-- A source path whose last component is no name. -/
  | noFileName (path : Path)
  deriving DecidableEq

def Cause.message : Cause → String
  | .marker e => e.message
  | .nesting e => e.message
  | .guard e => e.message
  | .file e => e.message
  | .number e => e.message
  | .unreadableConfig path e => "failed to read config file " ++ path.text ++ ": " ++ e.message
  | .malformedConfig path => "failed to parse config file " ++ path.text
  | .timeOutOfRange second => "timestamp " ++ toString second ++ " is out of range"
  | .kernelRefusal oid report => "sysctl -n " ++ oid ++ " failed: " ++ report
  | .outputCount expected count =>
    "expected " ++ toString expected ++ " output paths, got " ++ toString count
  | .noFileName path => "source path " ++ path.text ++ " has no usable file name"

/-- A cause with the circumstances around it, the outermost first. -/
structure Failure where
  circumstances : List Circumstance
  cause : Cause
  deriving DecidableEq

namespace Failure

def during (c : Circumstance) (cause : Cause) : Failure := ⟨[c], cause⟩

def ofCause (cause : Cause) : Failure := ⟨[], cause⟩

def within (c : Circumstance) (f : Failure) : Failure := ⟨c :: f.circumstances, f.cause⟩

def messages (f : Failure) : List String :=
  f.circumstances.map Circumstance.message ++ [f.cause.message]

def summary (f : Failure) : String :=
  ": ".intercalate f.messages

end Failure

end DefFragments
