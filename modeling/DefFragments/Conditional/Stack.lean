import DefFragments.Conditional.Directive

/-!
# The stack of open conditional blocks

Reading a source line by line, the stack holds one frame for every block that is still open. A frame
of a tracked block knows its condition and how often an alternative has negated it; its guard is the
text that fragments repeat. The combined guard is the conjunction of all tracked guards.
-/

namespace DefFragments.Conditional

inductive NestingError
  | unbalanced
  | unterminated (count : Nat)
  deriving DecidableEq

def NestingError.message : NestingError → String
  | .unbalanced => "conditional directive without matching `#if`"
  | .unterminated count => toString count ++ " conditional block(s) still open at end of file"

inductive Frame
  | untracked
  /-- A block with its condition, negated so many times. -/
  | tracked (condition : String) (negations : Nat)
  deriving DecidableEq, Inhabited

def negate (condition : String) : Nat → String
  | 0 => condition
  | n + 1 => "!(" ++ negate condition n ++ ")"

namespace Frame

/-- The frame of a block with this guard; the empty guard is that of an untracked block. -/
def ofGuard (guard : String) : Frame :=
  if guard = "" then .untracked else .tracked guard 0

def guard? : Frame → Option String
  | .untracked => none
  | .tracked condition negations => some (negate condition negations)

def guard (f : Frame) : String :=
  f.guard?.getD ""

def flip : Frame → Frame
  | .untracked => .untracked
  | .tracked condition negations => .tracked condition (negations + 1)

end Frame

structure Stack where
  frames : List Frame
  deriving DecidableEq, Inhabited

namespace Stack

def empty : Stack := ⟨[]⟩

def depth (s : Stack) : Nat := s.frames.length

def push (guard : String) (s : Stack) : Stack :=
  ⟨Frame.ofGuard guard :: s.frames⟩

def pop (s : Stack) : Except NestingError Frame × Stack :=
  match s.frames with
  | [] => (.error .unbalanced, s)
  | f :: fs => (.ok f, ⟨fs⟩)

def modifyTop (f : Frame → Frame) (s : Stack) : Except NestingError Unit × Stack :=
  match s.frames with
  | [] => (.error .unbalanced, s)
  | top :: fs => (.ok (), ⟨f top :: fs⟩)

/-- Apply the directive of a line. Reading may go on with the stack that a failure leaves. -/
def update (symbol line : List Char) (s : Stack) : Except NestingError Unit × Stack :=
  match classify line with
  | .opening => (.ok (), s.push (String.ofList ((guard? symbol line).getD [])))
  | .closing =>
    match s.pop with
    | (popped, s) => (popped.map fun _ => (), s)
  | .alternative => s.modifyTop Frame.flip
  | .conditionalAlternative => s.modifyTop fun _ => .untracked
  | .none => (.ok (), s)

def guards (s : Stack) : List String :=
  s.frames.reverse.filterMap Frame.guard?

/-- The conjunction of all tracked guards, empty if no block is tracked. -/
def combinedGuard (s : Stack) : String :=
  " && ".intercalate s.guards

def finish (s : Stack) : Except NestingError Unit :=
  if s.frames = [] then .ok () else .error (.unterminated s.depth)

end Stack

end DefFragments.Conditional
