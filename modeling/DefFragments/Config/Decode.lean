import DefFragments.Config.Basic
import DefFragments.Failure
import DefFragments.FileTree.Walk
import DefFragments.Toml.Document

/-!
# Reading a configuration

A configuration is a TOML document with the tables `source`, `output` and `markers`. Only the source
directory has no default. Keys that mean nothing here are ignored, but their numbers must fit.

A table of a configuration may also be written as an array of its values in order, where trailing
ones may be missing and surplus ones are not looked at, and a moment counts as a table without known
keys.
-/

namespace DefFragments.Config

open Toml

/-- The values for these keys, in this order, if a value can stand for a table. -/
def fields? (keys : List String) : Value → Option (List (Option Value))
  | .table _ entries =>
    if entriesFit (entries.filter fun e => !keys.contains e.1) then
      some (keys.map fun key => entries.lookup key)
    else none
  | .array _ items =>
    let present := (items.take keys.length).map some
    some (present ++ List.replicate (keys.length - present.length) none)
  | .moment => some (keys.map fun _ => none)
  | _ => none

def text? : Value → Option String
  | .string s => some s
  | _ => none

def texts? : Value → Option (List String)
  | .array _ items => items.mapM text?
  | _ => none

def orDefault {α : Type} (read : Value → Option α) (default : α) : Option Value → Option α
  | none => some default
  | some v => read v

def pathOr (default : Path) : Option Value → Option Path :=
  orDefault (fun v => (text? v).map Path.mk) default

def source? (v : Value) : Option SourceConfig := do
  let defaults : SourceConfig := { dir := ⟨""⟩ }
  match ← fields? ["dir", "scan", "depends", "exclude"] v with
  | [some dir, scan, depends, exclude] =>
    some {
      dir := ⟨← text? dir⟩
      scan := ← orDefault texts? defaults.scan scan
      depends := ← orDefault texts? defaults.depends depends
      exclude := ← orDefault texts? defaults.exclude exclude }
  | _ => none

def output? (v : Value) : Option OutputConfig := do
  let defaults : OutputConfig := {}
  match ← fields? ["dir", "sources", "constants", "methods", "types", "libraries"] v with
  | [dir, sources, constants, methods, types, libraries] =>
    some {
      dir? := ← orDefault (fun v => (text? v).map fun s => some ⟨s⟩) none dir
      sources := ← pathOr defaults.sources sources
      constants := ← pathOr defaults.constants constants
      methods := ← pathOr defaults.methods methods
      types := ← pathOr defaults.types types
      libraries := ← pathOr defaults.libraries libraries }
  | _ => none

def markers? (v : Value) : Option Markers := do
  let defaults : Markers := {}
  match ← fields? ["function_prefix", "version_symbol"] v with
  | [functionPrefix, versionSymbol] =>
    some {
      functionPrefix := ← orDefault text? defaults.functionPrefix functionPrefix
      versionSymbol := ← orDefault text? defaults.versionSymbol versionSymbol }
  | _ => none

def ofTable? (t : Table) : Option Config := do
  match ← fields? ["source", "output", "markers"] (.table .header t) with
  | [some source, output, markers] =>
    some {
      source := ← source? source
      output := ← orDefault output? {} output
      markers := ← orDefault markers? {} markers }
  | _ => none

def ofText? (text : String) : Option Config :=
  (Toml.ofText? text).bind ofTable?

def load (t : FileTree) (p : Path) : Except Failure Config :=
  match t.readText p with
  | .error e => .error (.ofCause (.unreadableConfig p e))
  | .ok text =>
    match ofText? text with
    | none => .error (.ofCause (.malformedConfig p))
    | some c => .ok c

end DefFragments.Config
