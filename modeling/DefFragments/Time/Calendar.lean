import DefFragments.Time.Basic

/-!
# Calendar dates

The date and the time of day of a second, in the proleptic Gregorian calendar and without a time
zone offset, and the text that the header of a fragment shows.

Days are counted from the first of March of the year 0, since then the leap day is the last day of
its year: a year is then a number of whole days and months have fixed places in it.
-/

namespace DefFragments.Calendar

structure Date where
  year : Int
  month : Nat
  day : Nat
  deriving DecidableEq, Inhabited

/-- The days from the first of March of the year 0 to the epoch. -/
def epochDay : Int := 719468

/-- The days of four hundred years. -/
def eraDays : Int := 146097

/-- The year within an era of four hundred years that a day of the era lies in. Every fourth year
has a day more, except the last of each century but the fourth. -/
def yearOfEra (day : Nat) : Nat :=
  (day - day / 1460 + day / 36524 - day / 146096) / 365

def dateOfDay (day : Int) : Date :=
  let shifted := day + epochDay
  let era := shifted / eraDays
  let dayOfEra := (shifted % eraDays).toNat
  let year := yearOfEra dayOfEra
  let dayOfYear := dayOfEra - (365 * year + year / 4 - year / 100)
  let monthFromMarch := (5 * dayOfYear + 2) / 153
  let dayOfMonth := dayOfYear - (153 * monthFromMarch + 2) / 5 + 1
  let month := if monthFromMarch < 10 then monthFromMarch + 3 else monthFromMarch - 9
  let january := if month ≤ 2 then 1 else 0
  ⟨era * 400 + year + january, month, dayOfMonth⟩

/-- The names of the days of the week. The epoch was a Thursday. -/
def weekdays : List String :=
  ["Thu", "Fri", "Sat", "Sun", "Mon", "Tue", "Wed"]

def months : List String :=
  ["Jan", "Feb", "Mar", "Apr", "May", "Jun", "Jul", "Aug", "Sep", "Oct", "Nov", "Dec"]

def daySeconds : Int := 86400

/-- A number with leading fill characters up to a width. -/
def padded (fill : Char) (width n : Nat) : String :=
  let digits := Nat.toDigits 10 n
  String.ofList (List.replicate (width - digits.length) fill ++ digits)

/-- A year has four digits at least; one before the year 0 or after 9999 has a sign. -/
def yearText (year : Int) : String :=
  if year < 0 then "-" ++ padded '0' 4 year.natAbs
  else if 9999 < year then "+" ++ padded '0' 4 year.natAbs
  else padded '0' 4 year.natAbs

/-- The first second of the range of dates that a header can show. -/
def firstSecond : Int := -8334601228800

/-- The last second of the range of dates that a header can show. -/
def lastSecond : Int := 8210266876799

/-- A second as a header shows it, such as `Sun Mar  6 12:00:00 2005`. -/
def text (second : Int) : String :=
  let day := second / daySeconds
  let ofDay := (second % daySeconds).toNat
  let date := dateOfDay day
  weekdays.getD (day % 7).toNat "" ++ " " ++ months.getD (date.month - 1) "" ++ " "
    ++ padded ' ' 2 date.day ++ " " ++ padded '0' 2 (ofDay / 3600) ++ ":"
    ++ padded '0' 2 (ofDay / 60 % 60) ++ ":" ++ padded '0' 2 (ofDay % 60) ++ " "
    ++ yearText date.year

/-- A second as a header shows it, if it is in range. -/
def text? (second : Int) : Option String :=
  if firstSecond ≤ second ∧ second ≤ lastSecond then some (text second) else none

example : text 1110110400 = "Sun Mar  6 12:00:00 2005" := by cbv

example : text 0 = "Thu Jan  1 00:00:00 1970" := by cbv

end DefFragments.Calendar
