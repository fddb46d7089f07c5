import DefFragments.Path
import DefFragments.Text.Number

/-!
# Command line arguments

Flags and options come in a long form, and some in a short one; short flags may be joined. The value
of an option follows an equals sign, directly, or as the next argument if that does not look like an
option. After two hyphens every argument is a configuration path. Nothing may be given twice.
-/

namespace DefFragments.CommandLine

open Text

structure Arguments where
  config? : Option Path := none
  verbose : Bool := false
  force : Bool := false
  libraries : Bool := false
  outputDir? : Option Path := none
  release? : Option Nat := none
  deriving DecidableEq, Inhabited

inductive Request
  | run (a : Arguments)
  | help
  | version
  deriving DecidableEq

def defaultConfig : Path := ⟨"gendefs.toml"⟩

def Arguments.config (a : Arguments) : Path :=
  a.config?.getD defaultConfig

namespace Arguments

def setConfig (a : Arguments) (value : String) : Option Arguments :=
  if a.config?.isSome ∨ value = "" then none else some { a with config? := some ⟨value⟩ }

def setFlag (raised : Bool) (a : Arguments) : Option Arguments :=
  if raised then none else some a

def setOutputDir (a : Arguments) (value : String) : Option Arguments :=
  if a.outputDir?.isSome ∨ value = "" then none else some { a with outputDir? := some ⟨value⟩ }

def setRelease (a : Arguments) (value : String) : Option Arguments :=
  match a.release?, readUnsigned value.toList with
  | none, .ok n => some { a with release? := some n }
  | _, _ => none

/-- The arguments fit together: a release is for the libraries only. -/
def finish (a : Arguments) : Option Request :=
  if a.release?.isSome ∧ !a.libraries then none else some (.run a)

end Arguments

/-- How to go on after an argument. -/
inductive Step
  | next (a : Arguments)
  /-- With the next argument as the output directory. -/
  | outputDir (a : Arguments)
  /-- With the next argument as the release. -/
  | release (a : Arguments)
  | stop (r : Request)

/-- Read an argument of joined short flags, after its hyphen. -/
def shortStep (a : Arguments) : List Char → Option Step
  | [] => some (.next a)
  | c :: rest =>
    if c = 'v' then
      match Arguments.setFlag a.verbose { a with verbose := true } with
      | none => none
      | some a => shortStep a rest
    else if c = 'f' then
      match Arguments.setFlag a.force { a with force := true } with
      | none => none
      | some a => shortStep a rest
    else if c = 'h' then some (.stop .help)
    else if c = 'V' then some (.stop .version)
    else if c = 'o' then
      if rest = [] then some (.outputDir a)
      else (a.setOutputDir (String.ofList ((stripPrefix? ['='] rest).getD rest))).map .next
    else none

/-- Read a long argument, after its two hyphens: its name, and its value after an equals sign. -/
def longStep (a : Arguments) (name : String) (value? : Option String) : Option Step :=
  match value? with
  | none =>
    if name = "verbose" then
      (Arguments.setFlag a.verbose { a with verbose := true }).map .next
    else if name = "force" then
      (Arguments.setFlag a.force { a with force := true }).map .next
    else if name = "libraries" then
      (Arguments.setFlag a.libraries { a with libraries := true }).map .next
    else if name = "help" then some (.stop .help)
    else if name = "version" then some (.stop .version)
    else if name = "output-dir" then some (.outputDir a)
    else if name = "osreldate" then some (.release a)
    else none
  | some value =>
    if name = "output-dir" then (a.setOutputDir value).map .next
    else if name = "osreldate" then (a.setRelease value).map .next
    else none

def looksLikeOption (argument : String) : Bool :=
  argument.toList.head? == some '-' && argument != "-"

def step (a : Arguments) (argument : String) : Option Step :=
  match stripPrefix? ['-', '-'] argument.toList with
  | some long =>
    let name := long.takeWhile (· != '=')
    longStep a (String.ofList name)
      ((stripPrefix? ['='] (long.dropWhile (· != '='))).map String.ofList)
  | none =>
    if looksLikeOption argument then shortStep a (argument.toList.drop 1)
    else (a.setConfig argument).map .next

def operands (a : Arguments) : List String → Option Request
  | [] => a.finish
  | argument :: rest =>
    match a.setConfig argument with
    | none => none
    | some a => operands a rest

def parse (a : Arguments) : List String → Option Request
  | [] => a.finish
  | argument :: rest =>
    if argument = "--" then operands a rest
    else
      match step a argument, rest with
      | none, _ => none
      | some (.stop r), _ => some r
      | some (.next a), rest => parse a rest
      | some (.outputDir a), value :: rest =>
        if looksLikeOption value then none
        else
          match a.setOutputDir value with
          | none => none
          | some a => parse a rest
      | some (.release a), value :: rest =>
        if looksLikeOption value then none
        else
          match a.setRelease value with
          | none => none
          | some a => parse a rest
      | some (.outputDir _), [] => none
      | some (.release _), [] => none

end DefFragments.CommandLine
