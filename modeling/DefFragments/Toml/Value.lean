/-!
# TOML values and tables

A table remembers how it came into being, since that decides who may still add to it. Numbers,
booleans and moments in time are only ever checked, so no more is kept of them than the check needs.
-/

namespace DefFragments.Toml

/-- How a table came into being. -/
inductive Origin
  /-- It has a header of its own, or an element of an array of tables is it. -/
  | header
  /-- The header of a table inside it mentions it. -/
  | implicit
  /-- A dotted key goes through it. -/
  | dotted
  | inlined
  deriving DecidableEq, Inhabited

inductive Value
  | string (text : String)
  /-- A number; the flag tells whether it fits a number type of 128 or 64 bits. -/
  | number (fits : Bool)
  | boolean
  | moment
  /-- An array; the flag tells whether headers add tables to it. -/
  | array (ofTables : Bool) (items : List Value)
  | table (origin : Origin) (entries : List (String × Value))
  deriving Inhabited

abbrev Table := List (String × Value)

mutual

/-- Every number inside a value fits a number type. -/
def Value.fits : Value → Bool
  | .number fits => fits
  | .array _ items => itemsFit items
  | .table _ entries => entriesFit entries
  | _ => true

def itemsFit : List Value → Bool
  | [] => true
  | v :: vs => v.fits && itemsFit vs

def entriesFit : List (String × Value) → Bool
  | [] => true
  | (_, v) :: es => v.fits && entriesFit es

end

namespace Table

/-- The table with another value for a key that it has. -/
def replace (key : String) (value : Value) (t : Table) : Table :=
  t.map fun e => if e.1 = key then (key, value) else e

/-- Add an entry for a key, reached through the tables of a dotted key. A dotted key goes through
tables that no header defines, and each of them counts as defined by dotted keys from then on. In an
array of tables the way goes through the last one, but a dotted key does not end there. -/
def insertDotted (key : String) (value : Value) : List String → Table → Option Table
  | [], t => if (t.lookup key).isSome then none else some (t ++ [(key, value)])
  | step :: steps, t =>
    match t.lookup step with
    | none => do
      let inner ← insertDotted key value steps []
      some (t ++ [(step, .table .dotted inner)])
    | some (.table origin entries) =>
      if origin = .implicit ∨ origin = .dotted then do
        let inner ← insertDotted key value steps entries
        some (replace step (.table .dotted inner) t)
      else none
    | some (.array true items) =>
      match items.getLast? with
      | some (.table origin entries) =>
        if steps = [] then none
        else do
          let inner ← insertDotted key value steps entries
          some (replace step (.array true (items.dropLast ++ [.table origin inner])) t)
      | _ => none
    | some _ => none

/-- Change the table that a header's path leads to. Tables on the way that are missing come into
being; in an array of tables the way goes through the last one. -/
def modifyAt (change : Table → Option Table) : List String → Table → Option Table
  | [], t => change t
  | step :: steps, t =>
    match t.lookup step with
    | none => do
      let inner ← modifyAt change steps []
      some (t ++ [(step, .table .implicit inner)])
    | some (.table .inlined _) => none
    | some (.table origin entries) => do
      let inner ← modifyAt change steps entries
      some (replace step (.table origin inner) t)
    | some (.array true items) =>
      match items.getLast? with
      | some (.table origin entries) => do
        let inner ← modifyAt change steps entries
        some (replace step (.array true (items.dropLast ++ [.table origin inner])) t)
      | _ => none
    | some _ => none

/-- Define a table by its header. Only a table that other headers mention may be there already. -/
def define (key : String) (t : Table) : Option Table :=
  match t.lookup key with
  | none => some (t ++ [(key, .table .header [])])
  | some (.table .implicit entries) => some (replace key (.table .header entries) t)
  | some _ => none

def append (key : String) (t : Table) : Option Table :=
  match t.lookup key with
  | none => some (t ++ [(key, .array true [.table .header []])])
  | some (.array true items) => some (replace key (.array true (items ++ [.table .header []])) t)
  | some _ => none

end Table

end DefFragments.Toml
