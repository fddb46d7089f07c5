import DefFragments.Log.Directive

/-!
# Log filters

A filter is a list of directives, separated by commas. Of the directives that match an event the
most specific one decides.
-/

namespace DefFragments.Log

open Text

structure Filter where
  directives : List Directive
  deriving DecidableEq

namespace Filter

def programDirective (level : Level) : Directive :=
  { target? := some "gendefs", threshold := some level }

def standard : Filter := ⟨[programDirective .info]⟩

/-- Read a filter. A text without directives means errors only, and one directive that cannot be
read spoils the filter. -/
def ofText? (text : String) : Option Filter :=
  let parts := (pieces (· == ',') text.toList).filter (· ≠ [])
  if parts = [] then some ⟨[{ threshold := some .error }]⟩
  else (parts.mapM Directive.ofText?).map Filter.mk

def mostVerbose (f : Filter) : Nat :=
  f.directives.foldr (fun d n => max d.reach n) 0

/-- The directive that decides about an event: the most specific one that matches, and of equally
specific ones the last. -/
def deciding? (e : Event) : List Directive → Option Directive
  | [] => none
  | d :: ds =>
    match deciding? e ds with
    | none => if d.isMatch e then some d else none
    | some best => if d.isMatch e && !best.atLeast d then some d else some best

def enables (f : Filter) (e : Event) : Bool :=
  match deciding? e f.directives with
  | none => false
  | some d => e.level.rank ≤ Threshold.rank d.threshold

/-- The filter of an invocation. A verbose invocation wants to see informative events: unless some
directive lets them through already, a directive for this program is added. -/
def forInvocation (text? : Option String) (verbose : Bool) : Filter :=
  let f := (text?.bind ofText?).getD standard
  if verbose && f.mostVerbose < Level.info.rank then
    ⟨f.directives ++ [programDirective .info]⟩
  else f

end Filter

end DefFragments.Log
