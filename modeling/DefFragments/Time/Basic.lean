/-!
# Points in time

A point in time is a whole number of nanoseconds since the beginning of 1970, so times before it and
fractions of a second need no special treatment in a comparison.
-/

namespace DefFragments

/-- A point in time, in nanoseconds since the epoch. -/
structure Time where
  nanoseconds : Int
  deriving DecidableEq, Inhabited

namespace Time

def perSecond : Int := 1000000000

def ofSeconds (seconds nanoseconds : Int) : Time :=
  ⟨seconds * perSecond + nanoseconds⟩

def epoch : Time := ofSeconds 0 0

/-- The last full second up to a time. -/
def seconds (t : Time) : Int :=
  t.nanoseconds / perSecond

def subsecond (t : Time) : Int :=
  t.nanoseconds % perSecond

def isBefore (t u : Time) : Bool :=
  t.nanoseconds < u.nanoseconds

def latest (t u : Time) : Time :=
  if t.isBefore u then u else t

def latestOf? : List Time → Option Time
  | [] => none
  | t :: ts =>
    match latestOf? ts with
    | none => some t
    | some u => some (t.latest u)

theorem seconds_ofSeconds (s : Int) : (ofSeconds s 0).seconds = s := by
  simp only [seconds, ofSeconds, perSecond]
  omega

theorem subsecond_nonneg (t : Time) : 0 ≤ t.subsecond := by
  simp only [subsecond, perSecond]
  omega

theorem ofSeconds_seconds (t : Time) : ofSeconds t.seconds t.subsecond = t := by
  cases t
  simp only [ofSeconds, seconds, subsecond, perSecond, Time.mk.injEq]
  omega

end Time

end DefFragments
