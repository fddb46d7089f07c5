import DefFragments.Text.Affix
import DefFragments.Text.Number
import DefFragments.Toml.Value

/-!
# TOML numbers, booleans and moments

The values that are written without quotes and brackets. Each is a run of characters that is checked
as a whole. A number is kept only as far as it fits: an integer fits if 128 bits can hold it, and a
decimal fraction fits if it is not rounded to infinity.
-/

namespace DefFragments.Toml

open Text

def digitIn? (base : Nat) (c : Char) : Option Nat :=
  (hexValue? c).filter (· < base)

/-- The values of a run of digits in which single low lines may separate digits. -/
def digitRun? (base : Nat) : List Char → Option (List Nat)
  | [] => none
  | c :: s => do
    let d ← digitIn? base c
    match s with
    | [] => some [d]
    | '_' :: s => (digitRun? base s).map (d :: ·)
    | s => (digitRun? base s).map (d :: ·)

def valueIn (base : Nat) (digits : List Nat) : Nat :=
  digits.foldl (fun n d => base * n + d) 0

/-- The digits of a decimal integer, which has no leading zeros. -/
def decimalDigits? (s : List Char) : Option (List Nat) :=
  match s with
  | ['0'] => some [0]
  | '0' :: _ => none
  | s => digitRun? 10 s

/-- An integer fits 128 bits, signed or unsigned. -/
def integerFits (negative : Bool) (n : Nat) : Bool :=
  if negative then n ≤ 0x80000000000000000000000000000000
  else n < 0x100000000000000000000000000000000

def basedInteger? (s : List Char) : Option Value :=
  match s with
  | '0' :: 'x' :: s => (digitRun? 16 s).map fun ds => .number (integerFits false (valueIn 16 ds))
  | '0' :: 'o' :: s => (digitRun? 8 s).map fun ds => .number (integerFits false (valueIn 8 ds))
  | '0' :: 'b' :: s => (digitRun? 2 s).map fun ds => .number (integerFits false (valueIn 2 ds))
  | _ => none

def integer? (s : List Char) : Option Value :=
  let (negative, s) := signed s
  (decimalDigits? s).map fun ds => .number (integerFits negative (valueIn 10 ds))

/-- The least number that is rounded to infinity: half a unit beyond the greatest of 53 bits. -/
def infinityBound : Nat := Nat.pow 2 1024 - Nat.pow 2 970

/-- The number `mantissa · 10 ^ exponent` is not rounded to infinity. Its order of magnitude
decides, unless it is close to the bound. -/
def fractionFits (mantissa : Nat) (exponent : Int) : Bool :=
  let magnitude := (Nat.toDigits 10 mantissa).length + exponent
  if mantissa = 0 then true
  else if magnitude < 300 then true
  else if 320 < magnitude then false
  else if 0 ≤ exponent then mantissa * Nat.pow 10 exponent.toNat < infinityBound
  else mantissa < infinityBound * Nat.pow 10 (-exponent).toNat

def exponent? (s : List Char) : Option Int :=
  match s with
  | [] => some 0
  | c :: s =>
    if c = 'e' ∨ c = 'E' then
      let (negative, s) := signed s
      (digitRun? 10 s).map fun ds =>
        if negative then -(valueIn 10 ds : Int) else (valueIn 10 ds : Int)
    else none

def isDigitOrLine (c : Char) : Bool :=
  isDigit c || c == '_'

/-- A decimal fraction: it has a fractional part, an exponent or both. -/
def fraction? (s : List Char) : Option Value := do
  let (_, s) := signed s
  let whole ← decimalDigits? (s.takeWhile isDigitOrLine)
  match s.dropWhile isDigitOrLine with
  | '.' :: rest =>
    let places ← digitRun? 10 (rest.takeWhile isDigitOrLine)
    let exponent ← exponent? (rest.dropWhile isDigitOrLine)
    some (.number (fractionFits (valueIn 10 (whole ++ places)) (exponent - places.length)))
  | [] => none
  | rest =>
    let exponent ← exponent? rest
    some (.number (fractionFits (valueIn 10 whole) exponent))

def special? (s : List Char) : Option Value :=
  let s := (signed s).2
  if s = "inf".toList ∨ s = "nan".toList then some (.number true) else none

/-! ### Moments -/

def twoDigits? (s : List Char) : Option (Nat × List Char) :=
  match s with
  | a :: b :: s =>
    if isDigit a && isDigit b then some (10 * digitValue a + digitValue b, s) else none
  | _ => none

def daysIn (year month : Nat) : Nat :=
  if month = 2 then
    if year % 4 = 0 ∧ (year % 100 ≠ 0 ∨ year % 400 = 0) then 29 else 28
  else if month = 4 ∨ month = 6 ∨ month = 9 ∨ month = 11 then 30
  else 31

def afterDate? (s : List Char) : Option (List Char) := do
  let (century, s) ← twoDigits? s
  let (year, s) ← twoDigits? s
  let s ← stripPrefix? ['-'] s
  let (month, s) ← twoDigits? s
  let s ← stripPrefix? ['-'] s
  let (day, s) ← twoDigits? s
  if 1 ≤ month ∧ month ≤ 12 ∧ 1 ≤ day ∧ day ≤ daysIn (100 * century + year) month then some s
  else none

def afterSubsecond? (s : List Char) : Option (List Char) :=
  match s with
  | '.' :: s => if (s.takeWhile isDigit) = [] then none else some (s.dropWhile isDigit)
  | s => some s

/-- What follows the time of day at the front of a text. Seconds may be left out. -/
def afterTime? (s : List Char) : Option (List Char) := do
  let (hour, s) ← twoDigits? s
  let s ← stripPrefix? [':'] s
  let (minute, s) ← twoDigits? s
  if 23 < hour ∨ 59 < minute then none
  else
    match s with
    | ':' :: s =>
      let (second, s) ← twoDigits? s
      if 60 < second then none else afterSubsecond? s
    | s => some s

/-- A text is an offset from universal time, or empty. -/
def isOffset (s : List Char) : Bool :=
  match s with
  | [] => true
  | ['Z'] => true
  | ['z'] => true
  | c :: s =>
    (c == '+' || c == '-') &&
      match afterTime? s with
      | some rest => s.length == 5 && rest == []
      | none => false

def moment? (s : List Char) : Option Value :=
  match afterDate? s with
  | some [] => some .moment
  | some (c :: s) =>
    if c = 'T' ∨ c = 't' ∨ c = ' ' then
      match afterTime? s with
      | some rest => if isOffset rest then some .moment else none
      | none => none
    else none
  | none => if afterTime? s = some [] then some .moment else none

/-! ### Bare values -/

def isBareChar (c : Char) : Bool :=
  isNameChar c || c == '+' || c == '-' || c == '.' || c == ':'

/-- The bare value at the front of a text, and what follows it. A blank between a date and a time of
day belongs to the value. -/
def bareText (s : List Char) : List Char × List Char :=
  let first := s.takeWhile isBareChar
  let rest := s.dropWhile isBareChar
  match afterDate? first, rest with
  | some [], ' ' :: c :: more =>
    if isDigit c then
      (first ++ ' ' :: (c :: more).takeWhile isBareChar, (c :: more).dropWhile isBareChar)
    else (first, rest)
  | _, _ => (first, rest)

def ofBare? (s : List Char) : Option Value :=
  if s = "true".toList ∨ s = "false".toList then some .boolean
  else (integer? s).or ((basedInteger? s).or ((fraction? s).or ((special? s).or (moment? s))))

end DefFragments.Toml
