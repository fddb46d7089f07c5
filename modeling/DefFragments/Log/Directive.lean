import DefFragments.Log.Event
import DefFragments.Log.Pattern
import DefFragments.Text.Alphanumeric
import DefFragments.Text.Blank
import DefFragments.Text.Number
import DefFragments.Text.Slice

/-!
# Directives of a log filter

A directive gives a level to the events of the targets that begin with its text, or to all events;
it may be limited to events with a named value, or to events inside a span, of which this program
has none.
-/

namespace DefFragments.Log

open Text

/-- The level of a directive: how much is let through at most. `none` lets nothing through. -/
abbrev Threshold := Option Level

namespace Threshold

/-- The place of a threshold: nothing is below every level. -/
def rank (t : Threshold) : Nat :=
  match t with
  | none => 0
  | some level => level.rank

def named : List (String × Threshold) :=
  [("off", none), ("error", some .error), ("warn", some .warn), ("info", some .info),
    ("debug", some .debug), ("trace", some .trace)]

/-- The threshold that a text names, by its name in any case or by its rank. -/
def ofText? (s : List Char) : Option Threshold :=
  match readUnsigned s with
  | .ok n => (named.map Prod.snd)[n]?
  | .error _ => named.lookup (String.ofList (s.map Char.toLower))

end Threshold

structure FieldCondition where
  name : String
  /-- The directive asks for a certain value, too. -/
  hasValue : Bool
  deriving DecidableEq

structure Directive where
  target? : Option String := none
  span? : Option String := none
  field? : Option FieldCondition := none
  threshold : Threshold
  deriving DecidableEq

namespace Directive

/-- The level after an equals sign; nothing after it means everything. -/
def levelAfter? (s : List Char) : Option Threshold :=
  if s = [] then some (some .trace) else Threshold.ofText? s

def levelAt? (whole : List Char) (start : Nat) : Option Threshold :=
  (dropBytes? start whole).bind levelAfter?

def closing? (d : Directive) (whole : List Char) (start : Nat) (s : List Char) :
    Option Directive :=
  match s with
  | [] => some d
  | '=' :: _ => (levelAt? whole (start + 1)).map fun t => { d with threshold := t }
  | _ => none

/-- The condition on a named value that a text between braces states. A value is a number, a truth
value or a pattern; both truth values are patterns, too. -/
def fieldCondition? (s : List Char) : Option FieldCondition :=
  match pieces (· == '=') s with
  | [] => none
  | [name] => if name = [] then none else some ⟨String.ofList name, false⟩
  | name :: value :: _ =>
    if isNumber value || Pattern.isPattern value then some ⟨String.ofList name, true⟩ else none

def endsSpan (c : Char) : Bool :=
  c == ']' || c == '\x7b'

/-- Read a directive after its opening bracket, which ends at the byte position `start`. -/
def bracketed? (target? : Option String) (whole : List Char) (start : Nat) (s : List Char) :
    Option Directive := do
  let stop := start + byteCount (s.takeWhile (!endsSpan ·))
  let span ← slice? start stop whole
  match s.dropWhile (!endsSpan ·) with
  | ']' :: s =>
    closing? { target? := target?, span? := some (String.ofList span), threshold := some .trace }
      whole (stop + 1) s
  | '\x7b' :: s =>
    let last := stop + 1 + byteCount (s.takeWhile (· != '\x7d'))
    let field ← fieldCondition? (← slice? (stop + 1) last whole)
    let s ← stripPrefix? ['\x7d', ']'] (s.dropWhile (· != '\x7d'))
    let span? := if span = [] then none else some (String.ofList span)
    closing? { target? := target?, span? := span?, field? := some field, threshold := some .trace }
      whole (last + 2) s
  | _ => none

def beginsTarget (c : Char) : Bool :=
  isAlphanumeric c || c == '-' || c == ':' || c == '_'

def endsTarget (c : Char) : Bool :=
  c == '=' || c == '['

def ofWord (s : List Char) : Directive :=
  match Threshold.ofText? s with
  | some t => { threshold := t }
  | none => { target? := some (String.ofList s), threshold := some .trace }

/-- Read a directive. Its form is that of the text between the blanks around it, but its parts are
cut from the text with the blanks, at the same positions. So a blank behind a level spoils it, and
blanks in front move every part. -/
def ofText? (whole : List Char) : Option Directive :=
  match trim whole with
  | [] => none
  | c :: s =>
    if c = '[' then bracketed? none whole 1 s
    else if !beginsTarget c then none
    else
      let stop := byteCount ((c :: s).takeWhile (!endsTarget ·))
      match (c :: s).dropWhile (!endsTarget ·) with
      | [] => some (ofWord whole)
      | d :: s => do
        let target ← slice? 0 stop whole
        if d = '[' then bracketed? (some (String.ofList target)) whole (stop + 1) s
        else
          (levelAt? whole (stop + 1)).map fun t =>
            { target? := some (String.ofList target), threshold := t }

/-- The directive can let an event through: it asks for no span and no value. -/
def isForEvents (d : Directive) : Bool :=
  d.span?.isNone && d.field?.all fun f => !f.hasValue

/-- An event has a named value; the message counts as one. -/
def hasField (e : Event) (name : String) : Bool :=
  name == "message" || (e.fields.map Prod.fst).contains name

def isMatch (d : Directive) (e : Event) : Bool :=
  d.isForEvents
    && d.target?.all (fun t => startsWith t.toList e.target.toList)
    && d.field?.all (fun f => hasField e f.name)

/-- The place of the level up to which a directive may let events through. A condition on a certain
value counts as the most verbose level. -/
def reach (d : Directive) : Nat :=
  if d.field?.any FieldCondition.hasValue then Level.trace.rank else d.threshold.rank

def specificity (d : Directive) : Nat × Option String :=
  ((d.target?.map fun t => t.length + 1).getD 0, d.field?.map FieldCondition.name)

def atLeast (d e : Directive) : Bool :=
  let (m, f) := d.specificity
  let (n, g) := e.specificity
  n < m || (m == n && match f, g with
    | _, none => true
    | none, some _ => false
    | some f, some g => g ≤ f)

end Directive

end DefFragments.Log
