import DefFragments.CommandLine.Execute
import DefFragments.FileTree.Difference
import DefFragments.FileTree.Listing

/-!
# The program

The outer layer: it reads files into a file tree, executes the command line on the tree, writes the
difference back, and prints the report.

The files are those below the working directory, which is the root of the tree. Their listing comes on
standard input, as `find . -printf '%T@ %y %P\n'` writes it. The release of the operating system is not
asked for, so the libraries need it on the command line.
-/

namespace DefFragments.Program

/-- Add a line of a listing, and what is in the file that it names, to a tree. -/
def addListed (t : FileTree) (line : String) : IO FileTree := do
  match Listed.ofLine? line.toList with
  | none => return t
  | some l =>
    if l.isDirectory then
      return t.set l.location (l.node none)
    let contents? ← try some <$> IO.FS.readBinFile l.path.text catch _ => pure none
    return t.set l.location (l.node contents?)

partial def readLines (input : IO.FS.Stream) (lines : List String) : IO (List String) := do
  let line ← input.getLine
  if line = "" then return lines.reverse
  else readLines input ((line.dropEndWhile (· == '\n')).toString :: lines)

def stagedName (path : Path) : String :=
  path.text ++ ".tmp"

/-- Carry out a difference. New contents are staged before any file takes its place. This is not the
publication that the tree has been through, but its outcome: a step that fails here is not taken back. -/
def carryOut (d : Difference) : IO Unit := do
  for path in d.newDirectories do
    IO.FS.createDirAll path.text
  for (path, contents) in d.written do
    IO.FS.writeBinFile (stagedName path) contents
  for (path, _) in d.written do
    IO.FS.rename (stagedName path) path.text
  for path in d.removed do
    IO.FS.removeFile path.text

end DefFragments.Program

open DefFragments DefFragments.Program

/-- Execute the command line. The time of the run is not looked at: new files get theirs from the
operating system. -/
def main (arguments : List String) : IO UInt32 := do
  let listing ← readLines (← IO.getStdin) []
  let before ← listing.foldlM addListed FileTree.empty
  let surroundings : CommandLine.Surroundings :=
    { epoch? := ← IO.getEnv "SOURCE_DATE_EPOCH", logFilter? := ← IO.getEnv "RUST_LOG" }
  let report := CommandLine.execute arguments surroundings .epoch before
  carryOut (.between before report.tree)
  IO.eprint report.stderr
  IO.print report.stdout
  return UInt32.ofNat report.exit
