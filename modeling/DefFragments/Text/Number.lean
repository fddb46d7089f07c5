import DefFragments.Text.Affix

/-!
# Numbers in text

Reading a decimal number into a fixed width. A sign `+` and leading zeros are allowed; a sign `-`
only where negative numbers are. The number must fit: the widths are 64 bits, unsigned for releases
and revisions, signed for times. Beside it stand the parts that other kinds of number share, and the
test for a decimal fraction.
-/

namespace DefFragments.Text

inductive NumberError
  | empty
  | invalidDigit
  | tooLarge
  | tooSmall
  deriving DecidableEq

def NumberError.message : NumberError → String
  | .empty => "cannot parse integer from empty string"
  | .invalidDigit => "invalid digit found in string"
  | .tooLarge => "number too large to fit in target type"
  | .tooSmall => "number too small to fit in target type"

def digitValue (c : Char) : Nat :=
  c.toNat - '0'.toNat

def hexValue? (c : Char) : Option Nat :=
  if isDigit c then some (c.toNat - '0'.toNat)
  else if 'a' ≤ c && c ≤ 'f' then some (c.toNat - 'a'.toNat + 10)
  else if 'A' ≤ c && c ≤ 'F' then some (c.toNat - 'A'.toNat + 10)
  else none

/-- The value of a run of decimal digits, the most significant first. -/
def decimalValue (digits : List Char) : Nat :=
  digits.foldl (fun n c => 10 * n + digitValue c) 0

/-- One more than the largest unsigned 64-bit number. -/
def unsignedBound : Nat := 18446744073709551616

/-- One more than the largest signed 64-bit number. -/
def signedBound : Nat := 9223372036854775808

/-- The value of a nonempty run of digits below `bound`. Digits are read from the left, and the
first fault wins: digits that already make the number too large hide a bad character after them. -/
def boundedValue (bound : Nat) (overflow : NumberError) : Nat → List Char → Except NumberError Nat
  | n, [] => .ok n
  | n, c :: s =>
    if isDigit c then
      let next := 10 * n + digitValue c
      if next < bound then boundedValue bound overflow next s else .error overflow
    else .error .invalidDigit

def readUnsigned (s : List Char) : Except NumberError Nat :=
  match s with
  | [] => .error .empty
  | '+' :: [] => .error .invalidDigit
  | '+' :: digits => boundedValue unsignedBound .tooLarge 0 digits
  | digits => boundedValue unsignedBound .tooLarge 0 digits

def readSigned (s : List Char) : Except NumberError Int :=
  match s with
  | [] => .error .empty
  | '+' :: [] => .error .invalidDigit
  | '-' :: [] => .error .invalidDigit
  | '+' :: digits => (boundedValue signedBound .tooLarge 0 digits).map Int.ofNat
  | '-' :: digits => (boundedValue (signedBound + 1) .tooSmall 0 digits).map fun n => -Int.ofNat n
  | digits => (boundedValue signedBound .tooLarge 0 digits).map Int.ofNat

/-! ### Decimal fractions -/

/-- The sign at the front of a text, `true` for a minus, and what follows it. -/
def signed (s : List Char) : Bool × List Char :=
  match s with
  | '-' :: s => (true, s)
  | '+' :: s => (false, s)
  | s => (false, s)

/-- The exponent of a decimal fraction, or nothing. -/
def isExponent (s : List Char) : Bool :=
  match s with
  | [] => true
  | c :: s =>
    let digits := (signed s).2
    (c == 'e' || c == 'E') && !digits.isEmpty && digits.all isDigit

/-- A decimal fraction: digits with or without a point, a digit on one side of it at least, then
perhaps an exponent. -/
def isFraction (s : List Char) : Bool :=
  let whole := s.takeWhile isDigit
  match s.dropWhile isDigit with
  | '.' :: s =>
    !(whole.isEmpty && (s.takeWhile isDigit).isEmpty) && isExponent (s.dropWhile isDigit)
  | s => !whole.isEmpty && isExponent s

/-- A number with or without a sign: a decimal fraction, infinity, or the value that is none. -/
def isNumber (s : List Char) : Bool :=
  let s := (signed s).2
  ["inf", "infinity", "nan"].contains (String.ofList (s.map Char.toLower)) || isFraction s

end DefFragments.Text
