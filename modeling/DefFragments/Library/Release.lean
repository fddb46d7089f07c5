import DefFragments.Failure
import DefFragments.Text.Lossy

/-!
# The release of the operating system

Library guards compare the release of the operating system. It is known beforehand, or the program
`sysctl` is asked for it.
-/

namespace DefFragments.Library

open Text

structure ProgramOutput where
  succeeded : Bool
  stdout : ByteArray
  stderr : ByteArray

/-- Where the release comes from. -/
inductive ReleaseSource
  | fixed (release : Nat)
  /-- The kernel is asked for the value with this name. -/
  | kernel (oid : String)
  deriving DecidableEq

/-- The name under which the kernel knows its release. -/
def releaseOid : String := "kern.osreldate"

/-- What the program leaves when it is asked for the value of a name. It cannot be asked where there
is no such program, or for a name that no argument can hold. -/
def ask (oid : String) (answer : Option ProgramOutput) : Except FileError ProgramOutput :=
  if '\x00' ∈ oid.toList then .error .nulInArgument
  else
    match answer with
    | none => .error .notFound
    | some output => .ok output

def kernelRelease (oid : String) (answer : Option ProgramOutput) : Except Failure Nat :=
  match ask oid answer with
  | .error e => .error (.during (.askingKernel oid) (.file e))
  | .ok output =>
    if !output.succeeded then
      .error (.ofCause (.kernelRefusal oid (trimString (decodeLossy output.stderr))))
    else
      let text := trimString (decodeLossy output.stdout)
      match readUnsigned text.toList with
      | .error e => .error (.during (.kernelAnswer oid text) (.number e))
      | .ok release => .ok release

def ReleaseSource.release (source : ReleaseSource) (answer : Option ProgramOutput) :
    Except Failure Nat :=
  match source with
  | .fixed release => .ok release
  | .kernel oid => kernelRelease oid answer

end DefFragments.Library
